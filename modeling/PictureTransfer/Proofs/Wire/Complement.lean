import PictureTransfer.Proofs.Wire.Counting

/-!
# Integers as bytes

A value of an integer type is the number it is, whatever it was made from: of the numbers of 128
bits, with a sign or without, just those in the range of the type are taken, and taken as they
are.  Its bytes are those of its two's complement, least significant first, and any bytes of the
right count are the bytes of one value.  Values are compared as numbers, which for every type
but one is not how their bytes compare.

* `WireInt.Complement` — the bytes of the two's complement, told byte by byte, and
  `WireInt.complement_iff` — they are the bytes that are written;
* `WireInt.ofBytes_ok_iff` — a buffer is a value just if it holds the bytes of that value;
* `WireInt.decoder_behind` — a stream gives what a buffer of its first bytes gives;
* `WireInt.integers_as_bytes` — all of this for each of the ten types.
-/

namespace PictureTransfer

namespace LittleEndian

theorem span_add (width more : Nat) : span (width + more) = span width * span more := by
  induction width with
  | zero => rw [Nat.zero_add, span, Nat.one_mul]
  | succ width ih => rw [Nat.succ_add, span, ih, span, Nat.mul_assoc]

theorem span_dvd {width width' : Nat} (h : width ≤ width') : span width ∣ span width' := by
  obtain ⟨more, rfl⟩ := Nat.exists_eq_add_of_le h
  exact ⟨span more, span_add width more⟩

/-- One byte of a number. -/
theorem getElem?_encode {width i : Nat} (n : Nat) (h : i < width) :
    (encode width n)[i]? = some (UInt8.ofNat (n / span i)) := by
  induction width generalizing n i with
  | zero => omega
  | succ width ih =>
      cases i with
      | zero => rw [encode, List.getElem?_cons_zero, span, Nat.div_one]
      | succ i =>
          rw [encode, List.getElem?_cons_succ, ih _ (by omega), span, Nat.div_div_eq_div_mul]

end LittleEndian

open LittleEndian (span)

/-- A remainder keeps the digits below its modulus. -/
theorem emod_ediv_emod {s m : Nat} (hs : 0 < s) (h : s * 256 ∣ m) (n : Int) :
    n % m / s % 256 = n / s % 256 := by
  obtain ⟨k, rfl⟩ := h
  have hwhole : n = n % ↑(s * 256 * k) + s * (256 * (k * (n / ↑(s * 256 * k)))) := by
    have hsplit := Int.emod_add_mul_ediv n ↑(s * 256 * k)
    rw [Int.natCast_mul, Int.natCast_mul] at hsplit ⊢
    simp only [Int.mul_assoc] at hsplit ⊢
    exact hsplit.symm
  have hne : (s : Int) ≠ 0 := by omega
  calc n % ↑(s * 256 * k) / s % 256
      = (n % ↑(s * 256 * k) / s + 256 * (k * (n / ↑(s * 256 * k)))) % 256 :=
        (Int.add_mul_emod_self_left ..).symm
    _ = (n % ↑(s * 256 * k) + s * (256 * (k * (n / ↑(s * 256 * k))))) / s % 256 := by
        rw [Int.add_mul_ediv_left _ _ hne]
    _ = n / s % 256 := by rw [← hwhole]

namespace WireInt

variable {t : IntType}

/-- The bytes of the two's complement of a value, least significant first: as many as the type
has, and each the digit of its place in base 256, counted from below for a negative value. -/
structure Complement (v : WireInt t) (bytes : Bytes) : Prop where
  length : bytes.length = t.bytes
  byte : ∀ i byte, bytes[i]? = some byte → (byte.toNat : Int) = v.value / span i % 256

theorem complement_toBytes (v : WireInt t) : v.Complement v.toBytes where
  length := v.length_toBytes
  byte i byte h := by
    have hi : i < t.bytes := by
      rw [← v.length_toBytes]
      exact (List.getElem?_eq_some_iff.mp h).1
    have hpos := LittleEndian.span_pos i
    have hdvd : span i * 256 ∣ t.modulus := by
      rw [Nat.mul_comm]
      exact LittleEndian.span_dvd hi
    have hnonneg := Int.emod_nonneg v.value (by have := t.modulus_pos; omega : (t.modulus : Int) ≠ 0)
    rw [toBytes, LittleEndian.getElem?_encode _ hi, Option.some.injEq] at h
    subst h
    rw [← emod_ediv_emod hpos hdvd, UInt8.toNat_ofNat', Int.natCast_emod, Int.natCast_ediv, toNat,
      Int.toNat_of_nonneg hnonneg]
    rfl

/-- **The bytes of the two's complement** are those that are written. -/
theorem complement_iff {v : WireInt t} {bytes : Bytes} : v.Complement bytes ↔ bytes = v.toBytes := by
  constructor
  · intro h
    have hown := v.complement_toBytes
    apply List.ext_getElem (h.length.trans hown.length.symm)
    intro i hi hi'
    have hbyte := h.byte i _ (List.getElem?_eq_getElem hi)
    have hsame := hown.byte i _ (List.getElem?_eq_getElem hi')
    exact UInt8.toNat_inj.mp (Int.ofNat_inj.mp (hbyte.trans hsame.symm))
  · intro h
    subst h
    exact v.complement_toBytes

theorem ofInt_ok_iff {n : Int} {v : WireInt t} : ofInt t n = .ok v ↔ v.value = n := by
  unfold ofInt
  constructor
  · intro h
    split at h
    · obtain rfl := Except.ok.inj h
      rfl
    · simp at h
  · intro h
    subst h
    rw [dif_pos ⟨v.least_le, v.le_greatest⟩]

/-- A check of numbers that takes just those in the range of a type, and takes them as they
are. -/
structure Checks (t : IntType) {u : IntType} (check : WireInt u → Except WireError (WireInt t)) :
    Prop where
  takes : ∀ n, (∃ v, check n = .ok v) ↔ t.least ≤ n.value ∧ n.value ≤ t.greatest
  value : ∀ n v, check n = .ok v → v.value = n.value
  refuses : ∀ n e, check n = .error e → e = .outOfRange t.name n.value

/-- The range of the type decides, whichever the type of the number. -/
theorem checks_ofInt (t u : IntType) : Checks t fun n : WireInt u => ofInt t n.value where
  takes n := by
    constructor
    · intro h
      obtain ⟨v, hv⟩ := h
      rw [← ofInt_ok_iff.mp hv]
      exact ⟨v.least_le, v.le_greatest⟩
    · intro h
      exact ⟨⟨n.value, h.1, h.2⟩, ofInt_ok_iff.mpr rfl⟩
  value n v h := ofInt_ok_iff.mp h
  refuses n e h := by
    unfold ofInt at h
    split at h
    · simp at h
    · exact (Except.error.inj h).symm

/-- What goes out are the bytes of the value, though by way of the unsigned one. -/
theorem writeTo_eq {m : Type → Type} (put : Bytes → m Unit) (v : WireInt t) :
    v.writeTo put = put v.toBytes := by
  have hbelow : v.toNat % (⟨false, t.width⟩ : IntType).modulus = v.toNat :=
    Nat.mod_eq_of_lt v.toNat_lt
  have hunsigned : v.unsigned.value.toNat = v.toNat := by
    simp only [unsigned, ofNat, Bool.false_eq_true, if_false, hbelow, Int.toNat_natCast]
  rw [writeTo, hunsigned, toBytes]

/-- **A buffer is a value** just if it holds the bytes of that value. -/
theorem ofBytes_ok_iff {v : WireInt t} {bytes : Bytes} :
    ofBytes t bytes = .ok v ↔ bytes = v.toBytes := by
  unfold ofBytes
  constructor
  · intro h
    split at h
    · next hlength =>
      obtain rfl := Except.ok.inj h
      have hbelow : LittleEndian.decode bytes < t.modulus := by
        rw [IntType.modulus, ← hlength]
        exact LittleEndian.decode_lt bytes
      rw [toBytes, toNat_ofNat hbelow, ← hlength, LittleEndian.encode_decode]
    · simp at h
  · intro h
    subst h
    rw [if_pos v.length_toBytes, toBytes, LittleEndian.decode_encode_of_lt v.toNat_lt, ofNat_toNat]

/-- Bytes of the right count, and no others, are those of a value. -/
theorem exists_toBytes_iff {bytes : Bytes} :
    (∃ v : WireInt t, bytes = v.toBytes) ↔ bytes.length = t.bytes := by
  constructor
  · intro h
    obtain ⟨v, rfl⟩ := h
    exact v.length_toBytes
  · intro h
    exact ⟨ofNat t (LittleEndian.decode bytes), ofBytes_ok_iff.mp (if_pos h)⟩

/-- **A stream gives** what a buffer of its first bytes gives, and leaves the others. -/
theorem decoder_behind {s : Source} {bytes rest : Bytes} (hqueued : s.queued = bytes ++ rest)
    (hlength : bytes.length = t.bytes) :
    ∃ v, ofBytes t bytes = .ok v ∧ decoder t s = .ok v { s with queued := rest } := by
  obtain ⟨v, hv⟩ := exists_toBytes_iff.mpr hlength
  exact ⟨v, ofBytes_ok_iff.mpr hv, (reads_decoder t _ _ _).mpr ⟨bytes, rest, hv, hqueued, rfl⟩⟩

/-- Values are compared as the numbers that they are. -/
theorem compare_iff (a b : WireInt t) :
    (a.compare b = .lt ↔ a.value < b.value) ∧ (a.compare b = .gt ↔ b.value < a.value) ∧
      (a.compare b = .eq ↔ a = b) :=
  ⟨Int.compare_eq_lt, Int.compare_eq_gt, Int.compare_eq_eq.trans WireInt.ext_iff.symm⟩

/-- **Their bytes compare otherwise**, except for bytes themselves: a negative value goes behind
zero, and a value whose first byte is zero in front of any other. -/
theorem exists_misordered (h : t ≠ .uint8) :
    ∃ a b : WireInt t, a.compare b = .lt ∧ List.Lex (· < ·) b.toBytes a.toBytes := by
  obtain ⟨signed, width⟩ := t
  cases signed with
  | true => exact ⟨minimum _, zero _, by cases width <;> decide +kernel⟩
  | false =>
      refine ⟨ofNat _ 1, ofNat _ 256, ?_⟩
      cases width with
      | one => exact absurd rfl h
      | _ => decide +kernel

/-- **Integers as bytes**, for each of the ten types.  Of the numbers of 128 bits, with a sign or
without, just those in the range of the type are values of it, and a number that is one of both
kinds is the same value.  The bytes of a value are those of its two's complement, least
significant first, and the same are written to whatever takes them.  A buffer is a value just if
it is as long as the type is wide, and then it holds the bytes of that value and of no other; of
a stream the first bytes give the same value, and what stands behind them is left.  Values
compare as numbers and are equal as numbers, whereas bytes may compare the other way round. -/
theorem integers_as_bytes (t : IntType) :
    Checks t (ofInt128 t) ∧ Checks t (ofUInt128 t) ∧
    (∀ n m, n.value = m.value → ofInt128 t n = ofUInt128 t m) ∧
    (∀ (v : WireInt t) (bytes : Bytes), v.Complement bytes ↔ bytes = v.toBytes) ∧
    (∀ (m : Type → Type) (put : Bytes → m Unit) (v : WireInt t), v.writeTo put = put v.toBytes) ∧
    (∀ bytes, (∃ v, ofBytes t bytes = .ok v) ↔ bytes.length = t.bytes) ∧
    (∀ v bytes, ofBytes t bytes = .ok v ↔ bytes = v.toBytes) ∧
    (∀ (s : Source) (bytes rest : Bytes), s.queued = bytes ++ rest → bytes.length = t.bytes →
      ∃ v, ofBytes t bytes = .ok v ∧ decoder t s = .ok v { s with queued := rest }) ∧
    (∀ a b : WireInt t, (a.compare b = .lt ↔ a.value < b.value) ∧
      (a.compare b = .gt ↔ b.value < a.value) ∧ (a.compare b = .eq ↔ a = b) ∧
      (a = b ↔ a.value = b.value)) ∧
    (t ≠ .uint8 →
      ∃ a b : WireInt t, a.compare b = .lt ∧ List.Lex (· < ·) b.toBytes a.toBytes) := by
  refine ⟨checks_ofInt t _, checks_ofInt t _, ?same, fun _ _ => complement_iff,
    fun _ put v => v.writeTo_eq put, ?width, fun _ _ => ofBytes_ok_iff, ?stream, ?order,
    exists_misordered⟩
  case same =>
    intro n m h
    rw [ofInt128, ofUInt128, h]
  case width =>
    intro bytes
    simp only [ofBytes_ok_iff]
    exact exists_toBytes_iff
  case stream =>
    intro s bytes rest hqueued hlength
    exact decoder_behind hqueued hlength
  case order =>
    intro a b
    obtain ⟨hlt, hgt, heq⟩ := compare_iff a b
    exact ⟨hlt, hgt, heq, WireInt.ext_iff⟩

end WireInt

end PictureTransfer
