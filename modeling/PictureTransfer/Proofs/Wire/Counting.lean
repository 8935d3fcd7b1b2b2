import PictureTransfer.Proofs.Wire.Spelling
import PictureTransfer.Wire.Sequence

/-!
# Integers and arrays on the wire

A value of an integer type and the number that its bytes write out determine each
other, so an integer is read just where its own bytes stand, whatever its width and
sign.  An array is read just where its count field and its elements stand, and since
the count is read from four bytes no array that is read has too many of them.

* `WireInt.ofNat_toNat`, `WireInt.toNat_ofNat` — two's complement loses nothing;
* `WireInt.reads_decoder` — an integer is spelt by its own bytes;
* `Sequence.reads_decoder` — so is a counted sequence, element by element;
* `WireArray.reads_decoder` — and an array.
-/

namespace PictureTransfer

namespace WireInt

variable {t : IntType}

/-- The number of a value lies below the count of values of its type. -/
theorem toNat_lt (v : WireInt t) : v.toNat < t.modulus := by
  have hpos := t.modulus_pos
  have hmod := Int.emod_lt_of_pos v.value (by omega : (0 : Int) < t.modulus)
  unfold toNat
  omega

/-- **Two's complement**: a value is the one that its number stands for. -/
theorem ofNat_toNat (v : WireInt t) : ofNat t v.toNat = v := by
  apply WireInt.ext
  have hpos := t.modulus_pos
  have hdvd := t.two_dvd_modulus
  have hleast := v.least_le
  have hgreatest := v.le_greatest
  have hnonneg := Int.emod_nonneg v.value (by omega : (t.modulus : Int) ≠ 0)
  have hnumber : ((v.value % t.modulus).toNat : Int) = v.value % t.modulus :=
    Int.toNat_of_nonneg hnonneg
  unfold IntType.least at hleast
  unfold IntType.greatest at hgreatest
  simp only [ofNat, toNat]
  cases hsigned : t.signed with
  | true =>
      simp only [hsigned, if_true] at hleast hgreatest ⊢
      rw [hnumber, Int.emod_bmod]
      exact Int.bmod_eq_of_le (by omega) (by omega)
  | false =>
      simp only [hsigned, Bool.false_eq_true, if_false] at hleast hgreatest ⊢
      rw [Int.natCast_emod, hnumber, Int.emod_emod]
      exact Int.emod_eq_of_lt hleast (by omega)

/-- A number below the count of values is that of the value it stands for. -/
theorem toNat_ofNat {n : Nat} (h : n < t.modulus) : (ofNat t n).toNat = n := by
  have hsame : (n : Int) % t.modulus = n := Int.emod_eq_of_lt (by omega) (by omega)
  simp only [ofNat, toNat]
  cases t.signed with
  | true =>
      simp only [if_true]
      rw [Int.bmod_emod, hsame, Int.toNat_natCast]
  | false =>
      simp only [Bool.false_eq_true, if_false]
      rw [Nat.mod_eq_of_lt h, hsame, Int.toNat_natCast]

/-- **An integer is read** just where its own bytes stand. -/
theorem reads_decoder (t : IntType) : (decoder t).Reads fun v bytes => bytes = v.toBytes := by
  refine ((Decoder.reads_natural t.bytes t.name).map (ofNat t)).congr fun v bytes => ?_
  constructor
  · intro hspelt
    obtain ⟨n, rfl, hlt, rfl⟩ := hspelt
    rw [toBytes, toNat_ofNat hlt]
  · intro hspelt
    subst hspelt
    exact ⟨v.toNat, ofNat_toNat v, toNat_lt v, rfl⟩

end WireInt

namespace Sequence

variable {α : Type} {element : Decoder α} {spelt : α → Bytes}

/-- Elements one behind the other, as many as are asked for. -/
theorem reads_repeated (h : element.Reads fun x bytes => bytes = spelt x) (n : Nat) :
    (repeated element n).Reads fun xs bytes => xs.length = n ∧ bytes = xs.flatMap spelt := by
  induction n with
  | zero =>
      refine (Decoder.reads_pure []).congr fun xs bytes => ?_
      constructor
      · intro hspelt
        obtain ⟨rfl, rfl⟩ := hspelt
        exact ⟨rfl, rfl⟩
      · intro hspelt
        obtain ⟨hlength, rfl⟩ := hspelt
        obtain rfl := List.eq_nil_of_length_eq_zero hlength
        exact ⟨rfl, rfl⟩
  | succ n ih =>
      refine (h.bind fun x => ih.bind fun xs => Decoder.reads_pure (x :: xs)).congr
        fun xs bytes => ?_
      constructor
      · intro hspelt
        obtain ⟨x, _, _, rfl, ⟨others, _, _, ⟨hlength, rfl⟩, ⟨rfl, rfl⟩, rfl⟩, rfl⟩ := hspelt
        exact ⟨congrArg (· + 1) hlength, by simp⟩
      · intro hspelt
        obtain ⟨hlength, rfl⟩ := hspelt
        obtain ⟨x, others, rfl⟩ := List.exists_cons_of_length_eq_add_one hlength
        refine ⟨x, _, _, rfl, ⟨others, _, [], ⟨?_, rfl⟩, ⟨rfl, rfl⟩, rfl⟩, ?_⟩
        · exact Nat.succ.inj hlength
        · simp

/-- **A counted sequence is read** just where its count and its elements stand. -/
theorem reads_decoder (h : element.Reads fun x bytes => bytes = spelt x) :
    (decoder element).Reads fun xs bytes =>
      xs.length < LittleEndian.span 4 ∧ bytes = encode spelt xs := by
  refine ((Decoder.reads_natural 4 "array count").bind fun n => reads_repeated h n).congr
    fun xs bytes => ?_
  constructor
  · intro hspelt
    obtain ⟨_, _, _, ⟨hlt, rfl⟩, ⟨rfl, rfl⟩, rfl⟩ := hspelt
    exact ⟨hlt, rfl⟩
  · intro hspelt
    obtain ⟨hlt, rfl⟩ := hspelt
    exact ⟨xs.length, _, _, ⟨hlt, rfl⟩, ⟨rfl, rfl⟩, rfl⟩

end Sequence

namespace WireArray

variable {t : IntType}

theorem ofItems_ok_iff {items : List (WireInt t)} {a : WireArray t} :
    ofItems items = .ok a ↔ a.items = items := by
  unfold ofItems
  constructor
  · intro h
    split at h
    · obtain rfl := Except.ok.inj h
      rfl
    · simp at h
  · intro h
    subst h
    exact dif_pos a.fits

/-- The array of values that are not too many takes no bytes of its own. -/
theorem reads_ofItems (items : List (WireInt t)) :
    Decoder.Reads (match ofItems items with
      | .ok a => pure a
      | .error e => throw e)
      fun a bytes => a.items = items ∧ bytes = [] := by
  cases hitems : ofItems items with
  | ok found =>
      refine (Decoder.reads_pure found).congr fun a bytes => ?_
      rw [← ofItems_ok_iff.mp hitems, WireArray.ext_iff]
  | error e =>
      intro s s' a
      constructor
      · intro h
        exact absurd h throw_ne_ok
      · intro hspelt
        obtain ⟨_, _, ⟨hsame, _⟩, _⟩ := hspelt
        simp [ofItems_ok_iff.mpr hsame] at hitems

/-- **An array is read** just where its own bytes stand. -/
theorem reads_decoder (t : IntType) : (decoder t).Reads fun a bytes => bytes = a.toBytes := by
  refine ((Sequence.reads_decoder (WireInt.reads_decoder t)).bind reads_ofItems).congr
    fun a bytes => ?_
  constructor
  · intro hspelt
    obtain ⟨items, _, _, ⟨_, rfl⟩, ⟨rfl, rfl⟩, rfl⟩ := hspelt
    exact List.append_nil _
  · intro hspelt
    subst hspelt
    exact ⟨a.items, _, [], ⟨a.fits, rfl⟩, ⟨rfl, rfl⟩, (List.append_nil _).symm⟩

end WireArray

end PictureTransfer
