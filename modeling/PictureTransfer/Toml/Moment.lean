import PictureTransfer.Toml.Number

/-!
# Dates and times in a settings file

A date, a time of day, or both, and then perhaps the distance from universal
time.  Dates are those of the calendar; a minute may have a leap second.
-/

namespace PictureTransfer.Toml.Moment

/-- A decimal digit. -/
def isDigit (c : Char) : Bool := Numeral.isDigit 10 c

/-- Just `count` digits that make up a number between two bounds. -/
def field (count least greatest : Nat) : Parser Nat := fun text =>
  let ds := text.take count
  let n := Numeral.valueOf 10 ds
  if ds.length = count ∧ ds.all isDigit ∧ least ≤ n ∧ n ≤ greatest then
    some (n, text.drop count)
  else none

/-- One given character. -/
def mark (c : Char) : Parser Unit
  | d :: rest => if c = d then some ((), rest) else none
  | [] => none

/-- The count of days in a month. -/
def daysIn (year month : Nat) : Nat :=
  if month = 2 then
    if year % 4 = 0 ∧ (year % 100 ≠ 0 ∨ year % 400 = 0) then 29 else 28
  else if month ∈ [4, 6, 9, 11] then 30 else 31

/-- A date. -/
def date : Parser Unit := fun text => do
  let (year, text) ← field 4 0 9999 text
  let ((), text) ← mark '-' text
  let (month, text) ← field 2 1 12 text
  let ((), text) ← mark '-' text
  let (_, text) ← field 2 1 (daysIn year month) text
  pure ((), text)

/-- Parts of a second behind a point, if there are any. -/
def secondParts : Parser Unit
  | '.' :: rest =>
      if (rest.takeWhile isDigit).isEmpty then none
      else some ((), rest.dropWhile isDigit)
  | rest => some ((), rest)

/-- A time of day. -/
def time : Parser Unit := fun text => do
  let (_, text) ← field 2 0 23 text
  let ((), text) ← mark ':' text
  let (_, text) ← field 2 0 59 text
  let ((), text) ← mark ':' text
  let (_, text) ← field 2 0 60 text
  secondParts text

/-- The distance from universal time, if there is one. -/
def offset : Parser Unit
  | 'Z' :: rest | 'z' :: rest => some ((), rest)
  | '+' :: rest | '-' :: rest => do
      let (_, rest) ← field 2 0 23 rest
      let ((), rest) ← mark ':' rest
      let (_, rest) ← field 2 0 59 rest
      pure ((), rest)
  | rest => some ((), rest)

/-- The time behind a date, if there is one. -/
def timeAfterDate : Parser Unit := fun text =>
  match text with
  | 'T' :: rest | 't' :: rest | ' ' :: rest =>
      match time rest with
      | some ((), rest) => offset rest
      | none => some ((), text)
  | _ => some ((), text)

/-- A date or a time or both. -/
def read : Parser Unit := fun text =>
  match date text with
  | some ((), rest) => timeAfterDate rest
  | none => time text

end PictureTransfer.Toml.Moment
