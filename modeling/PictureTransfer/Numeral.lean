import PictureTransfer.Hex

/-!
# Numbers in text

How numbers are read where people write them: digits and perhaps a sign in
front, with nothing around or between.  A plus sign is always welcome, a minus
sign only where negative numbers are; `-0` is a negative number here.

* `digits?_isSome_iff` — what counts as digits.
-/

namespace PictureTransfer.Numeral

/-- True for digits below a base up to sixteen. -/
def isDigit (base : Nat) (c : Char) : Bool :=
  match Hex.valueOf? c with
  | some value => value < base
  | none => false

/-- The number that digits write in a base. -/
def valueOf (base : Nat) (ds : List Char) : Nat :=
  ds.foldl (fun sum d => base * sum + (Hex.valueOf? d).getD 0) 0

/-- The number that a text of digits alone writes. -/
def digits? (base : Nat) (ds : List Char) : Option Nat :=
  if !ds.isEmpty && ds.all (isDigit base) then some (valueOf base ds) else none

theorem digits?_isSome_iff (base : Nat) (ds : List Char) :
    (digits? base ds).isSome ↔ ds ≠ [] ∧ ∀ d ∈ ds, isDigit base d = true := by
  unfold digits?
  split <;> simp_all

/-- A number with a plus sign or none. -/
def natural? (base : Nat) : List Char → Option Nat
  | '+' :: ds => digits? base ds
  | ds => digits? base ds

/-- A decimal number with a sign or none. -/
def integer? : List Char → Option Int
  | '-' :: ds => (digits? 10 ds).map fun n => -(n : Int)
  | ds => (natural? 10 ds).map fun n => (n : Int)

/-- A number below a limit. -/
def below (limit : Nat) (n : Nat) : Option Nat := if n < limit then some n else none

end PictureTransfer.Numeral
