import PictureTransfer.LittleEndian
import PictureTransfer.Numeral

/-!
# Hosts

A host is written as a number or as a name.  A short number has up to four
parts, the last of which fills the bytes that are left.  A long one has eight
words, one run of zeros among them may be left out, the last two may be written
as four bytes, and a zone may follow.  All else is a name, which somebody has
to know.
-/

namespace PictureTransfer

/-- What a connection is made to. -/
inductive Host where
  | short (value : Nat)
  /-- Eight words and the number of a zone, or zero. -/
  | long (words : List Nat) (zone : Nat)
  | name (text : List Char)
  deriving DecidableEq, Repr

namespace Host

/-- The parts of a text between the places where a character stands. -/
def parts (mark : Char) : List Char → List (List Char)
  | [] => [[]]
  | c :: cs =>
      if c = mark then [] :: parts mark cs
      else
        match parts mark cs with
        | [] => [[c]]
        | p :: ps => (c :: p) :: ps

/-! ## Short numbers -/

/-- A part of a short number: hexadecimal behind `0x`, octal behind another
zero, decimal otherwise. -/
def part? : List Char → Option Nat
  | ['0'] => some 0
  | '0' :: 'x' :: ds | '0' :: 'X' :: ds => Numeral.digits? 16 ds
  | '0' :: ds => Numeral.digits? 8 ds
  | ds => Numeral.digits? 10 ds

/-- The number of some bytes that parts stand for: each but the last is one
byte, and the last is as many as are left. -/
def fill? : Nat → List Nat → Option Nat
  | width + 1, [last] => Numeral.below (LittleEndian.span (width + 1)) last
  | width + 1, part :: more =>
      if part < 256 then (fill? width more).map (part * LittleEndian.span width + ·) else none
  | _, _ => none

/-- The value of a short number. -/
def short? (text : List Char) : Option Nat := ((parts '.' text).mapM part?).bind (fill? 4)

/-! ## Long numbers -/

/-- A word: up to four hexadecimal digits. -/
def word? (ds : List Char) : Option Nat :=
  if ds.length ≤ 4 then Numeral.digits? 16 ds else none

/-- A byte in decimal, without zeros in front. -/
def byte? (ds : List Char) : Option Nat :=
  if ds.head? = some '0' ∧ ds ≠ ['0'] then none
  else (Numeral.digits? 10 ds).bind (Numeral.below 256)

/-- Two words written as four bytes. -/
def dotted? (ds : List Char) : Option (List Nat) :=
  match (parts '.' ds).mapM byte? with
  | some [a, b, c, d] => some [256 * a + b, 256 * c + d]
  | _ => none

/-- Words, of which the last two may be written as four bytes. -/
def run? : List (List Char) → Option (List Nat)
  | [] => some []
  | [ds] => ((word? ds).map fun w => [w]) <|> dotted? ds
  | ds :: more => do return (← word? ds) :: (← run? more)

/-- The parts between colons; no text has none. -/
def pieces (text : List Char) : List (List Char) := if text = [] then [] else parts ':' text

/-- The text in front of the first double colon and the text behind it. -/
def gap? : List Char → Option (List Char × List Char)
  | [] => none
  | ':' :: ':' :: back => some ([], back)
  | c :: cs => (gap? cs).map fun (front, back) => (c :: front, back)

/-- The eight words of a long number. -/
def words? (text : List Char) : Option (List Nat) :=
  match gap? text with
  | none => do
      let words ← run? (pieces text)
      if words.length = 8 then some words else none
  | some (front, back) => do
      let high ← (pieces front).mapM word?
      let low ← run? (pieces back)
      if high.length + low.length < 8 then
        some (high ++ List.replicate (8 - (high.length + low.length)) 0 ++ low)
      else none

/-- True for the numbers of a single machine on one link. -/
def isLinkLocal (words : List Nat) : Bool := words.headD 0 / 64 = 1018

/-- True for the numbers of many machines at once. -/
def isMulticast (words : List Nat) : Bool := words.headD 0 / 256 = 255

/-- True for short numbers in the shape of long ones. -/
def isMapped (words : List Nat) : Bool := words.take 6 = [0, 0, 0, 0, 0, 65535]

/-- The number of a zone. -/
def zone? (ds : List Char) : Option Nat :=
  (Numeral.digits? 10 ds).bind (Numeral.below UInt32.size)

/-- The number of a zone that may go by its name, which is only known for
numbers that mean nothing beyond one link. -/
def namedZone? (words : List Nat) (ds : List Char) : Option Nat :=
  let onLink := isLinkLocal words || (isMulticast words && words.headD 0 % 16 = 2)
  if onLink && ds = ['l', 'o'] then some 1 else zone? ds

/-- A long number, and behind a percent sign its zone. -/
def long? (zone? : List Nat → List Char → Option Nat) (text : List Char) : Option Host := do
  let words ← words? (text.takeWhile (· ≠ '%'))
  match text.dropWhile (· ≠ '%') with
  | [] => return .long words 0
  | _ :: ds => return .long words (← zone? words ds)

/-! ## Names -/

/-- True for the characters of names that may be asked for. -/
def isNameChar (c : Char) : Bool := c.isAlphanum || c = '-' || c = '_'

/-- True for names that may be asked for: labels of up to 63 characters with a
point between, no more than 253 in all, no hyphen in front, and perhaps one
more point behind.  The root is a point alone. -/
def isAskable (text : List Char) : Bool :=
  let bare := if text.getLast? = some '.' then text.dropLast else text
  text = ['.'] ||
    ((parts '.' bare).all (fun l => !l.isEmpty && l.length ≤ 63 && l.all isNameChar) &&
      bare.length ≤ 253 && text.head? ≠ some '-')

/-- True for the names by which a machine knows itself. -/
def isOwnName (text : List Char) : Bool :=
  text = ['*'] || text.map Char.toLower = "localhost".toList

/-! ## Text -/

/-- What stands between square brackets, if all does. -/
def bracketed? : List Char → Option (List Char)
  | '[' :: cs => if cs.getLast? = some ']' then some cs.dropLast else none
  | _ => none

/-- The host that a text writes.  A long number may stand in brackets, where
zones have no names. -/
def ofText (text : List Char) : Host :=
  let number :=
    match bracketed? text with
    | some inner => long? (fun _ => zone?) inner
    | none => ((short? text).map short) <|> long? namedZone? text
  number.getD (name text)

end Host

end PictureTransfer
