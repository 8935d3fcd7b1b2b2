import PictureTransfer.LittleEndian

/-!
# Hexadecimal text

Codes and identifiers are shown with a fixed count of upper-case digits, byte
strings with two lower-case digits a byte.  `valueOf?` reads one digit of
either case.
-/

namespace PictureTransfer.Hex

/-- The lower-case digit with the given value; values from 16 up have none and
show as the digit of their remainder. -/
def lowerDigit (n : Nat) : Char :=
  let d := n % 16
  if d < 10 then Char.ofNat (48 + d) else Char.ofNat (87 + d)

/-- The upper-case digit with the given value, modulo 16. -/
def upperDigit (n : Nat) : Char :=
  let d := n % 16
  if d < 10 then Char.ofNat (48 + d) else Char.ofNat (55 + d)

/-- The `width` low-order upper-case digits of `n`, most significant first. -/
def upperDigits : Nat → Nat → List Char
  | 0, _ => []
  | width + 1, n => upperDigits width (n / 16) ++ [upperDigit n]

/-- `n` with `width` upper-case digits behind `0x`. -/
def upper (width n : Nat) : String := "0x" ++ String.ofList (upperDigits width n)

/-- Two lower-case digits for each byte. -/
def lowerDigits (bytes : Bytes) : List Char :=
  bytes.flatMap fun b => [lowerDigit (b.toNat / 16), lowerDigit b.toNat]

/-- A byte string as lower-case text. -/
def lower (bytes : Bytes) : String := String.ofList (lowerDigits bytes)

/-- The value of a hexadecimal digit of either case. -/
def valueOf? (c : Char) : Option Nat :=
  let n := c.toNat
  if 48 ≤ n ∧ n ≤ 57 then some (n - 48)
  else if 97 ≤ n ∧ n ≤ 102 then some (n - 87)
  else if 65 ≤ n ∧ n ≤ 70 then some (n - 55)
  else none

/-- The byte string that pairs of digits write out, if they do. -/
def bytesOf? : List Char → Option Bytes
  | [] => some []
  | a :: b :: rest => do
      let high ← valueOf? a
      let low ← valueOf? b
      let bytes ← bytesOf? rest
      pure (UInt8.ofNat (16 * high + low) :: bytes)
  | [_] => none

@[simp] theorem length_upperDigits (width n : Nat) :
    (upperDigits width n).length = width := by
  induction width generalizing n with
  | zero => rfl
  | succ width ih => simp [upperDigits, ih]

@[simp] theorem length_lowerDigits (bytes : Bytes) :
    (lowerDigits bytes).length = 2 * bytes.length := by
  induction bytes with
  | nil => rfl
  | cons b bs ih =>
      simp only [lowerDigits, List.flatMap_cons, List.length_append, List.length_cons,
        List.length_nil] at ih ⊢
      omega

end PictureTransfer.Hex
