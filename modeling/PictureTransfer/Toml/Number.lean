import PictureTransfer.Numeral
import PictureTransfer.Toml.Text

/-!
# Numbers in a settings file

Integers are decimal, or hexadecimal, octal or binary behind `0x`, `0o` and
`0b`; single underscores may stand between digits, and no needless zero before
them.  They lie between -2^63 and 2^63 - 1.  A number with a fraction or an
exponent is a float; one too great for a double is refused.

* `integer_range` — an integer that was read lies in its range.
-/

namespace PictureTransfer.Toml.Number

/-- Digits that continue a number, with single underscores between them. -/
def moreDigits (isDigit : Char → Bool) : Parser (List Char)
  | '_' :: c :: rest =>
      if isDigit c then (moreDigits isDigit rest).map fun (ds, rest) => (c :: ds, rest)
      else none
  | c :: rest =>
      if isDigit c then (moreDigits isDigit rest).map fun (ds, rest) => (c :: ds, rest)
      else some ([], c :: rest)
  | [] => some ([], [])

/-- One digit at least. -/
def digits (isDigit : Char → Bool) : Parser (List Char)
  | c :: rest =>
      if isDigit c then (moreDigits isDigit rest).map fun (ds, rest) => (c :: ds, rest)
      else none
  | [] => none

/-- The digits of a decimal number, without a needless zero in front. -/
def decimalDigits : Parser (List Char)
  | '0' :: rest => some (['0'], rest)
  | rest => digits (Numeral.isDigit 10) rest

/-- A number without a sign behind the mark of its base. -/
def marked (base : Nat) : Parser Int := fun text => do
  let (ds, rest) ← digits (Numeral.isDigit base) text
  pure ((Numeral.valueOf base ds : Nat), rest)

/-- A decimal number without a sign. -/
def decimal : Parser Nat := fun text => do
  let (ds, rest) ← decimalDigits text
  pure (Numeral.valueOf 10 ds, rest)

/-- An integer of whatever size. -/
def unbounded : Parser Int
  | '0' :: 'x' :: rest => marked 16 rest
  | '0' :: 'o' :: rest => marked 8 rest
  | '0' :: 'b' :: rest => marked 2 rest
  | '+' :: rest => (decimal rest).map fun (n, rest) => ((n : Int), rest)
  | '-' :: rest => (decimal rest).map fun (n, rest) => (-(n : Int), rest)
  | rest => (decimal rest).map fun (n, rest) => ((n : Int), rest)

/-- The least integer that is too great to be written. -/
def bound : Int := 0x8000000000000000

/-- The integers that can be written. -/
def inRange (n : Int) : Bool := -bound ≤ n && n < bound

/-- An integer. -/
def integer : Parser Int := fun text =>
  match unbounded text with
  | some (n, rest) => if inRange n then some (n, rest) else none
  | none => none

theorem integer_range {text rest : List Char} {n : Int} (h : integer text = some (n, rest)) :
    -bound ≤ n ∧ n < bound := by
  unfold integer at h
  split at h
  · split at h
    · rename_i hrange
      simp only [Option.some.injEq, Prod.mk.injEq] at h
      rw [← h.1]
      simpa [inRange] using hrange
    · simp at h
  · simp at h

/-- A sign and what is behind it. -/
def sign : List Char → Bool × List Char
  | '-' :: rest => (true, rest)
  | '+' :: rest => (false, rest)
  | rest => (false, rest)

/-- An exponent, if there is one; none is zero. -/
def exponent : Parser (Option Int)
  | 'e' :: rest | 'E' :: rest => do
      let (negative, rest) := sign rest
      let (ds, rest) ← digits (Numeral.isDigit 10) rest
      let n : Int := Numeral.valueOf 10 ds
      pure (some (if negative then -n else n), rest)
  | rest => some (none, rest)

/-- A fraction, if there is one. -/
def fraction : Parser (Option (List Char))
  | '.' :: rest => do
      let (ds, rest) ← digits (Numeral.isDigit 10) rest
      pure (some ds, rest)
  | rest => some (none, rest)

/-- The least number that rounds to no double. -/
def firstTooGreat : Nat := Nat.pow 2 1024 - Nat.pow 2 970

/-- True when the decimal number `mantissa * 10 ^ power` is no double.  Only
numbers of 309 places need more than a count of the places. -/
def isTooGreat (mantissa : Nat) (power : Int) : Bool :=
  let places : Int := (Nat.toDigits 10 mantissa).length + power
  if mantissa = 0 || places ≤ 308 then false
  else if 310 ≤ places then true
  else if 0 ≤ power then firstTooGreat ≤ mantissa * Nat.pow 10 power.toNat
  else firstTooGreat * Nat.pow 10 (-power).toNat ≤ mantissa

/-- The words for what is no number or no finite one. -/
def special : Parser Unit
  | 'i' :: 'n' :: 'f' :: rest => some ((), rest)
  | 'n' :: 'a' :: 'n' :: rest => some ((), rest)
  | _ => none

/-- A number with a fraction or an exponent. -/
def floating : Parser Unit := fun text => do
  let (negative, text) := sign text
  let (whole, text) ← decimalDigits text
  let (fraction, text) ← fraction text
  let (exponent, text) ← exponent text
  if fraction.isNone && exponent.isNone then none
  else
    let places := fraction.getD []
    let power := exponent.getD 0 - places.length
    if !negative && isTooGreat (Numeral.valueOf 10 (whole ++ places)) power then none
    else some ((), text)

/-- A float, in digits or in a word. -/
def float : Parser Unit := fun text =>
  (floating text).orElse fun () => special (sign text).2

end PictureTransfer.Toml.Number
