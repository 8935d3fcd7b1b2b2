import PictureTransfer.Wire.Decoder

/-!
# Integer types

Ten integer types, of 1, 2, 4, 8 or 16 bytes, signed or not.  A value carries
the proof that it lies in the range of its type; on the wire it is its
two's-complement form, least significant byte first.

* `length_toBytes` — a value takes exactly the width of its type;
* `ofNat` — every byte string of that width is a value.
-/

namespace PictureTransfer

/-- Sizes of an integer on the wire. -/
inductive Width where
  | one | two | four | eight | sixteen
  deriving DecidableEq, Repr

/-- The count of bytes. -/
def Width.bytes : Width → Nat
  | one => 1
  | two => 2
  | four => 4
  | eight => 8
  | sixteen => 16

/-- An integer type: a size, with or without a sign. -/
structure IntType where
  signed : Bool
  width : Width
  deriving DecidableEq, Repr

namespace IntType

/-- The ten types, by size. -/
def all : List IntType :=
  [Width.one, .two, .four, .eight, .sixteen].flatMap fun w => [⟨true, w⟩, ⟨false, w⟩]

def uint8 : IntType := ⟨false, .one⟩
def uint16 : IntType := ⟨false, .two⟩
def uint32 : IntType := ⟨false, .four⟩
def uint64 : IntType := ⟨false, .eight⟩
def uint128 : IntType := ⟨false, .sixteen⟩
def int128 : IntType := ⟨true, .sixteen⟩

/-- The count of bytes that a value takes. -/
def bytes (t : IntType) : Nat := t.width.bytes

/-- The name of the type, such as `UINT32`. -/
def name (t : IntType) : String :=
  (if t.signed then "INT" else "UINT") ++ toString (8 * t.bytes)

/-- The type of a given name. -/
def ofName? (name : String) : Option IntType := all.find? (·.name = name)

/-- The count of values of the type. -/
def modulus (t : IntType) : Nat := LittleEndian.span t.bytes

/-- The least value. -/
def least (t : IntType) : Int := if t.signed then -((t.modulus / 2 : Nat) : Int) else 0

/-- The greatest value. -/
def greatest (t : IntType) : Int :=
  (if t.signed then (t.modulus / 2 : Nat) else t.modulus : Nat) - 1

theorem modulus_pos (t : IntType) : 0 < t.modulus := LittleEndian.span_pos _

theorem two_dvd_modulus (t : IntType) : 2 ∣ t.modulus := by
  obtain ⟨signed, width⟩ := t
  cases signed <;> cases width <;> decide

end IntType

/-- A value of an integer type. -/
structure WireInt (t : IntType) where
  value : Int
  least_le : t.least ≤ value
  le_greatest : value ≤ t.greatest
  deriving DecidableEq

namespace WireInt

variable {t : IntType}

@[ext] theorem ext {a b : WireInt t} (h : a.value = b.value) : a = b := by
  cases a
  cases b
  simp_all

/-- The value, if it lies in the range of the type. -/
def ofInt (t : IntType) (value : Int) : Except WireError (WireInt t) :=
  if h : t.least ≤ value ∧ value ≤ t.greatest then .ok ⟨value, h.1, h.2⟩
  else .error (.outOfRange t.name value)

/-- The value of a signed number of 128 bits, if it lies in the range of the type. -/
def ofInt128 (t : IntType) (number : WireInt .int128) : Except WireError (WireInt t) :=
  ofInt t number.value

/-- The value of an unsigned number of 128 bits, if it lies in the range of the type. -/
def ofUInt128 (t : IntType) (number : WireInt .uint128) : Except WireError (WireInt t) :=
  ofInt t number.value

/-- The value that `n` stands for in two's complement, modulo the count of
values. -/
def ofNat (t : IntType) (n : Nat) : WireInt t where
  value := if t.signed then Int.bmod n t.modulus else ((n % t.modulus : Nat) : Int)
  least_le := by
    have hm := t.modulus_pos
    have hd := t.two_dvd_modulus
    have hb := Int.le_bmod (x := (n : Int)) hm
    unfold IntType.least
    split <;> omega
  le_greatest := by
    have hm := t.modulus_pos
    have hd := t.two_dvd_modulus
    have hb := Int.bmod_lt (x := (n : Int)) hm
    have hn := Nat.mod_lt n hm
    unfold IntType.greatest
    split <;> omega

/-- The natural number that the bytes of a value write out. -/
def toNat (v : WireInt t) : Nat := (v.value % t.modulus).toNat

/-- The bytes of a value. -/
def toBytes (v : WireInt t) : Bytes := LittleEndian.encode t.bytes v.toNat

@[simp] theorem length_toBytes (v : WireInt t) : v.toBytes.length = t.bytes := by
  simp [toBytes]

/-- The unsigned value with the same bits. -/
def unsigned (v : WireInt t) : WireInt ⟨false, t.width⟩ := ofNat _ v.toNat

/-- Writes a value to whatever takes bytes, all of them at once.  A signed value is
written as the unsigned one with the same bits. -/
def writeTo {m : Type → Type} (put : Bytes → m Unit) (v : WireInt t) : m Unit :=
  put (LittleEndian.encode t.bytes v.unsigned.value.toNat)

/-- Reads a value off a source. -/
def decoder (t : IntType) : Decoder (WireInt t) := ofNat t <$> Decoder.natural t.bytes t.name

/-- The value of a byte string of just the right length. -/
def ofBytes (t : IntType) (bytes : Bytes) : Except WireError (WireInt t) :=
  if bytes.length = t.bytes then .ok (ofNat t (LittleEndian.decode bytes))
  else .error (.wrongLength t.name t.bytes bytes.length)

/-- Zero, which every type has. -/
def zero (t : IntType) : WireInt t := ofNat t 0

/-- The least value of the type. -/
def minimum (t : IntType) : WireInt t where
  value := t.least
  least_le := Int.le_refl _
  le_greatest := by
    have hm := t.modulus_pos
    have hd := t.two_dvd_modulus
    unfold IntType.least IntType.greatest
    split <;> omega

/-- The greatest value of the type. -/
def maximum (t : IntType) : WireInt t where
  value := t.greatest
  least_le := by
    have hm := t.modulus_pos
    have hd := t.two_dvd_modulus
    unfold IntType.least IntType.greatest
    split <;> omega
  le_greatest := Int.le_refl _

/-- The order of the numbers. -/
def compare (a b : WireInt t) : Ordering := Ord.compare a.value b.value

/-- The value in decimal. -/
def text (v : WireInt t) : String := toString v.value

/-- The value behind the name of its type. -/
def shown (v : WireInt t) : String := t.name ++ "(" ++ v.text ++ ")"

end WireInt

end PictureTransfer
