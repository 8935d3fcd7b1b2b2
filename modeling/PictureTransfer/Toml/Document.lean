import PictureTransfer.Toml.Value

/-!
# Settings files

A settings file is a run of lines: settings, headers of tables, blank lines,
and remarks behind a number sign.  Settings go into the table whose header
came last.  Arrays and tables that are written as values may hold values
again, down to a fixed depth.

Reading a file gives its entries or nothing: no setting of a file that breaks
a rule is used.
-/

namespace PictureTransfer.Toml

namespace Document

/-- Passes over blanks. -/
def skipBlanks (text : List Char) : List Char := text.dropWhile isBlank

/-- Passes over the rest of a line, which may hold nothing but a remark. -/
def endLine (text : List Char) : Option (List Char) :=
  let text := skipBlanks text
  let text := match text with
    | '#' :: rest => rest.dropWhile isPlain
    | rest => rest
  match text with
  | [] => some []
  | '\n' :: rest => some rest
  | '\r' :: '\n' :: rest => some rest
  | _ => none

/-- A character of a key without marks. -/
def isKeyChar (c : Char) : Bool := c.isAlphanum || c = '_' || c = '-'

/-- One part of a key. -/
def keyPart : Parser String := fun text =>
  match text with
  | '"' :: _ | '\'' :: _ => (Text.oneLine text).map fun (key, rest) => (String.ofList key, rest)
  | _ =>
      let key := text.takeWhile isKeyChar
      if key.isEmpty then none else some (String.ofList key, text.dropWhile isKeyChar)

/-- The greatest count of parts of a key, and the depth that values stay
below. -/
def depthLimit : Nat := 80

/-- The parts of a key, with blanks around each, in at most `room` parts. -/
def keyParts : Nat → Parser (List String)
  | 0, _ => none
  | room + 1, text => do
      let (part, text) ← keyPart (skipBlanks text)
      match skipBlanks text with
      | '.' :: text => do
          let (parts, text) ← keyParts room text
          pure (part :: parts, text)
      | text => pure ([part], text)

/-- A key: the path before its last part, and that part. -/
def key : Parser (List String × String) := fun text => do
  let (parts, text) ← keyParts (depthLimit - 1) text
  let last ← parts.getLast?
  pure ((parts.dropLast, last), text)

/-- Passes over blanks, line ends and remarks, line by line.  There are no
more lines than characters. -/
def skipLines : Nat → List Char → Option (List Char)
  | 0, text => some text
  | room + 1, text =>
      match skipBlanks text with
      | '#' :: rest =>
          match rest.dropWhile isPlain with
          | '\n' :: rest | '\r' :: '\n' :: rest => skipLines room rest
          | _ => none
      | '\n' :: rest => skipLines room rest
      | '\r' :: '\n' :: rest => skipLines room rest
      | '\r' :: _ => none
      | rest => some rest

/-- Passes over whatever may stand between the items of an array. -/
def skipBetween (text : List Char) : Option (List Char) := skipLines (text.length + 1) text

/-- The items of an array after its opening bracket, through the closing
one. -/
def items (item : Parser Value) : Nat → Parser (List Value)
  | 0, _ => none
  | room + 1, text => do
      match ← skipBetween text with
      | ']' :: text => pure ([], text)
      | text => do
          let (first, text) ← item text
          match ← skipBetween text with
          | ']' :: text => pure ([first], text)
          | ',' :: text => do
              let (more, text) ← items item room text
              pure (first :: more, text)
          | _ => none

/-- A key, an equals sign and a value. -/
def setting (item : Parser Value) : Parser ((List String × String) × Value) := fun text => do
  let (name, text) ← key text
  match text with
  | '=' :: text => do
      let (value, text) ← item (skipBlanks text)
      pure ((name, value), text)
  | _ => none

/-- The settings of a table that is written as a value, through its closing
brace, added to those before. -/
def fields (item : Parser Value) : Nat → Entries → Parser Entries
  | 0, _, _ => none
  | room + 1, entries, text => do
      let (((path, name), value), text) ← setting item text
      let entries ← entries.insert path name value
      match skipBlanks text with
      | '}' :: text => pure (entries, text)
      | ',' :: text => fields item room entries text
      | _ => none

/-- A number, a date or a time. -/
def number : Parser Value := fun text =>
  match Moment.read text with
  | some ((), rest) => some (.moment, rest)
  | none =>
      match Number.float text with
      | some ((), rest) => some (.float, rest)
      | none => (Number.integer text).map fun (n, rest) => (.integer n, rest)

/-- A value with at most `depth` levels of arrays and tables. -/
def value (depth : Nat) : Parser Value
  | '"' :: rest =>
      (Text.read ('"' :: rest)).map fun (content, rest) => (.text (String.ofList content), rest)
  | '\'' :: rest =>
      (Text.read ('\'' :: rest)).map fun (content, rest) => (.text (String.ofList content), rest)
  | 't' :: 'r' :: 'u' :: 'e' :: rest => some (.boolean true, rest)
  | 'f' :: 'a' :: 'l' :: 's' :: 'e' :: rest => some (.boolean false, rest)
  | '[' :: rest =>
      match depth with
      | 0 => none
      | depth + 1 =>
          (items (value depth) (rest.length + 1) rest).map fun (found, rest) =>
            (.array found, rest)
  | '{' :: rest =>
      match depth with
      | 0 => none
      | depth + 1 =>
          match skipBlanks rest with
          | '}' :: rest => some (.record [], rest)
          | rest =>
              (fields (value depth) (rest.length + 1) [] rest).map fun (found, rest) =>
                (.record found, rest)
  | text => number text

/-- What has been read of a file: its entries, and the table that settings go
into. -/
structure Progress where
  entries : Entries := []
  current : List String := []

/-- Adds a setting to the table whose header came last. -/
def Progress.put (progress : Progress) (path : List String) (name : String) (value : Value) :
    Option Progress := do
  let entries ← progress.entries.descend .passed
    (fun _ inner => inner.insert path name value) .header progress.current
  pure { progress with entries := entries }

/-- Opens the table of a header. -/
def Progress.enter (progress : Progress) (repeated : Bool) (path : List String)
    (name : String) : Option Progress := do
  let entries ←
    if repeated then progress.entries.openNext path name
    else progress.entries.openTable path name
  pure ⟨entries, path ++ [name]⟩

/-- One line of a file that is neither blank nor a remark alone: a header or a
setting.  A setting may take up several lines. -/
def statement (progress : Progress) : Parser Progress
  | '[' :: '[' :: text => do
      match ← key text with
      | ((path, name), ']' :: ']' :: text) =>
          pure (← progress.enter true path name, ← endLine text)
      | _ => none
  | '[' :: text => do
      match ← key text with
      | ((path, name), ']' :: text) =>
          pure (← progress.enter false path name, ← endLine text)
      | _ => none
  | text => do
      let (((path, name), found), text) ← setting (value (depthLimit - 1)) text
      let text ← endLine text
      pure (← progress.put path name found, text)

/-- Reads line by line.  There are no more lines than characters. -/
def lines : Nat → Progress → List Char → Option Progress
  | 0, _, _ => none
  | room + 1, progress, text =>
      match skipBlanks text with
      | [] => some progress
      | '#' :: rest => do lines room progress (← endLine ('#' :: rest))
      | '\n' :: rest => lines room progress rest
      | '\r' :: '\n' :: rest => lines room progress rest
      | text => do
          let (progress, text) ← statement progress text
          lines room progress text

/-- The characters of a file without the mark of its encoding. -/
def withoutMark : List Char → List Char
  | '\ufeff' :: text => text
  | text => text

/-- The entries of a file. -/
def read (text : List Char) : Option Entries :=
  (lines (text.length + 1) {} (withoutMark text)).map Progress.entries

end Document

end PictureTransfer.Toml
