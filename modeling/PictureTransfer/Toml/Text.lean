import PictureTransfer.Hex

/-!
# Text in a settings file

A text stands between quotation marks, where a backslash opens an escape, or
between apostrophes, where every character stands for itself; either mark may
be written three times, and the text may then run over several lines.  Inside
such a text one or two marks in a row are characters of the text, and a text
may end in up to two of them before the three that close it.

`write` picks the plainest form that a text has: without escapes wherever it
can be.  Control characters other than the tab stand in escapes alone.
-/

namespace PictureTransfer.Toml

/-- What reads the start of some characters and leaves the rest. -/
abbrev Parser (α : Type) := List Char → Option (α × List Char)

/-- A space or a tab. -/
def isBlank (c : Char) : Bool := c = ' ' || c = '\t'

/-- A character that may stand on a line: no control character but the tab. -/
def isPlain (c : Char) : Bool := c = '\t' || (0x20 ≤ c.toNat && c.toNat ≠ 0x7F)

namespace Text

/-- Puts a character in front of the text that was read. -/
def behind (c : Char) : Option (List Char × List Char) → Option (List Char × List Char) :=
  Option.map fun (text, rest) => (c :: text, rest)

/-- The character of a one-letter escape. -/
def shortEscape? : Char → Option Char
  | 'b' => some '\x08'
  | 't' => some '\t'
  | 'n' => some '\n'
  | 'f' => some '\x0c'
  | 'r' => some '\r'
  | '"' => some '"'
  | '\\' => some '\\'
  | _ => none

/-- The character whose number hexadecimal digits give. -/
def scalar? (digits : List Char) : Option Char := do
  let values ← digits.mapM Hex.valueOf?
  let n := values.foldl (fun sum value => 16 * sum + value) 0
  if n.isValidChar then some (Char.ofNat n) else none

/-- The rest of a text on one line, after its opening quotation mark. -/
def basic : Parser (List Char)
  | [] => none
  | '"' :: rest => some ([], rest)
  | '\\' :: 'u' :: a :: b :: c :: d :: rest =>
      match scalar? [a, b, c, d] with
      | some char => behind char (basic rest)
      | none => none
  | '\\' :: 'U' :: a :: b :: c :: d :: e :: f :: g :: h :: rest =>
      match scalar? [a, b, c, d, e, f, g, h] with
      | some char => behind char (basic rest)
      | none => none
  | '\\' :: escape :: rest =>
      match shortEscape? escape with
      | some char => behind char (basic rest)
      | none => none
  | char :: rest => if isPlain char && char ≠ '\\' then behind char (basic rest) else none

/-- The rest of a text without escapes on one line, after its opening
apostrophe. -/
def literal : Parser (List Char)
  | [] => none
  | '\'' :: rest => some ([], rest)
  | char :: rest => if isPlain char then behind char (literal rest) else none

/-- True where a line ends, blanks aside. -/
def endsLine (rest : List Char) : Bool :=
  match rest.dropWhile isBlank with
  | '\n' :: _ => true
  | '\r' :: '\n' :: _ => true
  | _ => false

/-- The rest of a text over several lines.  A backslash at the end of a line
takes the line's end with it and all blanks and line ends after it, which are
passed over while `trimming`. -/
def multiBasic (trimming : Bool) : Parser (List Char)
  | [] => none
  | '"' :: '"' :: '"' :: '"' :: '"' :: rest => some (['"', '"'], rest)
  | '"' :: '"' :: '"' :: '"' :: rest => some (['"'], rest)
  | '"' :: '"' :: '"' :: rest => some ([], rest)
  | '\r' :: '\n' :: rest =>
      if trimming then multiBasic true rest else behind '\n' (multiBasic false rest)
  | '\\' :: 'u' :: a :: b :: c :: d :: rest =>
      match scalar? [a, b, c, d] with
      | some char => behind char (multiBasic false rest)
      | none => none
  | '\\' :: 'U' :: a :: b :: c :: d :: e :: f :: g :: h :: rest =>
      match scalar? [a, b, c, d, e, f, g, h] with
      | some char => behind char (multiBasic false rest)
      | none => none
  | '\\' :: escape :: rest =>
      match shortEscape? escape with
      | some char => behind char (multiBasic false rest)
      | none => if endsLine (escape :: rest) then multiBasic true (escape :: rest) else none
  | char :: rest =>
      if trimming && (isBlank char || char = '\n') then multiBasic true rest
      else if char = '\n' || (isPlain char && char ≠ '\\') then
        behind char (multiBasic false rest)
      else none

/-- The rest of a text without escapes over several lines. -/
def multiLiteral : Parser (List Char)
  | [] => none
  | '\'' :: '\'' :: '\'' :: '\'' :: '\'' :: rest => some (['\'', '\''], rest)
  | '\'' :: '\'' :: '\'' :: '\'' :: rest => some (['\''], rest)
  | '\'' :: '\'' :: '\'' :: rest => some ([], rest)
  | '\r' :: '\n' :: rest => behind '\n' (multiLiteral rest)
  | char :: rest =>
      if char = '\n' || isPlain char then behind char (multiLiteral rest) else none

/-- A line end right behind the opening marks is not part of a text. -/
def withoutFirstLineEnd : List Char → List Char
  | '\n' :: rest => rest
  | '\r' :: '\n' :: rest => rest
  | rest => rest

/-- A text on one line, in either form. -/
def oneLine : Parser (List Char)
  | '"' :: rest => basic rest
  | '\'' :: rest => literal rest
  | _ => none

/-- A text in any form. -/
def read : Parser (List Char)
  | '"' :: '"' :: '"' :: rest => multiBasic false (withoutFirstLineEnd rest)
  | '\'' :: '\'' :: '\'' :: rest => multiLiteral (withoutFirstLineEnd rest)
  | rest => oneLine rest

/-- The length of the longest run of a character, after `run` of it. -/
def longestRun (mark : Char) (run : Nat) : List Char → Nat
  | [] => run
  | c :: rest =>
      if c = mark then longestRun mark (run + 1) rest
      else max run (longestRun mark 0 rest)

/-- A control character that needs an escape. -/
def isControl (c : Char) : Bool := !isPlain c && c ≠ '\n'

/-- A character with an escape if it needs one: quotation marks, backslashes,
control characters and the tab do, and line ends unless they may stand. -/
def escape (lines : Bool) (c : Char) : List Char :=
  match c with
  | '"' => ['\\', '"']
  | '\x08' => ['\\', 'b']
  | '\t' => ['\\', 't']
  | '\n' => if lines then ['\n'] else ['\\', 'n']
  | '\x0c' => ['\\', 'f']
  | '\r' => ['\\', 'r']
  | '\\' => ['\\', '\\']
  | _ => if isPlain c then [c] else '\\' :: 'u' :: Hex.upperDigits 4 c.toNat

/-- The text with its escapes, but for the first `most` quotation marks in a
row.  `run` marks have just gone before. -/
def escaped (most : Nat) (lines : Bool) (run : Nat) : List Char → List Char
  | [] => []
  | c :: rest =>
      if c = '"' ∧ run < most then c :: escaped most lines (run + 1) rest
      else escape lines c ++ escaped most lines 0 rest

/-- The text between marks of its own, over several lines if it has several. -/
def framed (mark : Char) (several : Bool) (body : List Char) : List Char :=
  let marks := List.replicate 3 mark
  marks ++ (if several then ['\n'] else []) ++ body ++ marks

/-- The plainest form of a text. -/
def write (text : List Char) : List Char :=
  let several := text.contains '\n'
  let controls := text.any isControl
  let backslash := text.contains '\\'
  let quotes := longestRun '"' 0 text
  let apostrophes := longestRun '\'' 0 text
  if !controls && !backslash && quotes = 0 && !several then
    '"' :: escaped 0 false 0 text ++ ['"']
  else if !controls && apostrophes = 0 && !several then '\'' :: text ++ ['\'']
  else if !controls && !backslash && quotes ≤ 2 then
    framed '"' several (escaped 2 true 0 text)
  else if !controls && apostrophes ≤ 2 then framed '\'' several text
  else if several then framed '"' true (escaped 2 true 0 text)
  else '"' :: escaped 0 false 0 text ++ ['"']

end Text

end PictureTransfer.Toml
