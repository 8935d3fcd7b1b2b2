/-!
# Little-endian numbers

Every number on the wire is a fixed count of bytes, least significant first.
This file writes a natural number into a given count of bytes and reads a
byte string back:

* `length_encode` — exactly the count asked for is written;
* `decode_encode` — reading back what was written gives the number modulo the
  count of values of its width, hence the number itself when it fits;
* `encode_decode` — writing back what was read gives the same bytes.
-/

namespace PictureTransfer

/-- A string of bytes. -/
abbrev Bytes := List UInt8

namespace LittleEndian

/-- The `width` low-order bytes of `n`, least significant first. -/
def encode : Nat → Nat → Bytes
  | 0, _ => []
  | width + 1, n => UInt8.ofNat n :: encode width (n / 256)

/-- The number with the given bytes, least significant first. -/
def decode : Bytes → Nat
  | [] => 0
  | b :: bs => b.toNat + 256 * decode bs

/-- The count of values that fit into `width` bytes. -/
def span : Nat → Nat
  | 0 => 1
  | width + 1 => 256 * span width

theorem span_pos (width : Nat) : 0 < span width := by
  induction width with
  | zero => exact Nat.one_pos
  | succ width ih => exact Nat.mul_pos (by decide) ih

theorem span_mono {width width' : Nat} (h : width ≤ width') : span width ≤ span width' := by
  induction h with
  | refl => exact Nat.le_refl _
  | @step n _ ih =>
      have := span_pos n
      rw [span]
      omega

@[simp] theorem length_encode (width n : Nat) : (encode width n).length = width := by
  induction width generalizing n with
  | zero => rfl
  | succ width ih => simp [encode, ih]

/-- A byte string stays below the count of values of its length. -/
theorem decode_lt (bs : Bytes) : decode bs < span bs.length := by
  induction bs with
  | nil => exact Nat.one_pos
  | cons b bs ih =>
      have hb : b.toNat < 256 := b.toNat_lt
      simp only [decode, List.length_cons, span]
      omega

/-- Reading back what was written gives the number, reduced to the width. -/
theorem decode_encode (width n : Nat) : decode (encode width n) = n % span width := by
  induction width generalizing n with
  | zero => simp [encode, decode, span, Nat.mod_one]
  | succ width ih =>
      have hlow : (UInt8.ofNat n).toNat = n % 256 := by simp
      rw [encode, decode, ih, hlow, span, Nat.mod_mul]

/-- A number that fits its width reads back as itself. -/
theorem decode_encode_of_lt {width n : Nat} (h : n < span width) :
    decode (encode width n) = n := by
  rw [decode_encode, Nat.mod_eq_of_lt h]

/-- Writing back what was read gives the same bytes. -/
theorem encode_decode (bs : Bytes) : encode bs.length (decode bs) = bs := by
  induction bs with
  | nil => rfl
  | cons b bs ih =>
      have hb : b.toNat < 256 := b.toNat_lt
      have hlow : UInt8.ofNat (b.toNat + 256 * decode bs) = b := by
        apply UInt8.toNat_inj.mp
        simp
      have hhigh : (b.toNat + 256 * decode bs) / 256 = decode bs := by omega
      simp only [decode, List.length_cons, encode, hlow, hhigh, ih]

end LittleEndian

end PictureTransfer
