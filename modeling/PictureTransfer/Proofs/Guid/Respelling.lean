import Mathlib.Data.List.Forall2
import PictureTransfer.Proofs.Guid.Grammar

/-!
# The spellings of an identifier

The text of an identifier shows its bytes in lower case, with dashes between groups of them.
Whoever writes it down may write any of its letters in upper case, leave dashes out and put
others in, also between the two digits of one byte (`Respelt`): it is read as the same
identifier, and but for texts with signs nothing else is.

* `Hex.isDigit_iff_lowerDigit` — the digit for a value is the one that is shown, in either case;
* `respelt_iff` — dashes aside, spellings go letter by letter;
* `forall₂_lowerDigits_iff` — the spellings of digits are what writes their bytes, signs aside;
* `shows_text` — where digits and dashes stand in the text of an identifier;
* `respelt_read_back` — which texts are read as an identifier, and how its own text looks.
-/

namespace PictureTransfer

namespace Hex

/-- Digits are shown in lower case. -/
theorem lowerDigit_spec (n : Nat) : "0123456789abcdef".toList[n % 16]? = some (lowerDigit n) := by
  have table : ∀ v : Fin 16, "0123456789abcdef".toList[v.val]? = some (lowerDigit v.val) := by
    decide
  have same : lowerDigit n = lowerDigit (n % 16) := by simp [lowerDigit]
  rw [same]
  exact table ⟨n % 16, Nat.mod_lt _ (by decide)⟩

/-- The digit for a value is the one that is shown, in lower or in upper case. -/
theorem isDigit_iff_lowerDigit (c : Char) (n : Nat) :
    IsDigit c (n % 16) ↔ c = lowerDigit n ∨ c = (lowerDigit n).toUpper := by
  have table : ∀ v : Fin 16, "0123456789ABCDEF".toList[v.val]? =
      "0123456789abcdef".toList[v.val]?.map Char.toUpper := by decide
  have upper := table ⟨n % 16, Nat.mod_lt _ (by decide)⟩
  simp only [lowerDigit_spec, Option.map_some] at upper
  rw [IsDigit, lowerDigit_spec, upper, Option.some.injEq, Option.some.injEq, eq_comm,
    @eq_comm _ _ c]

theorem lowerDigit_ne_dash (n : Nat) : lowerDigit n ≠ '-' := by
  intro dash
  have digit := List.mem_of_getElem? (lowerDigit_spec n)
  rw [dash] at digit
  exact absurd digit (by decide)

/-- None of the digits of bytes is a dash. -/
theorem ne_dash_of_mem_lowerDigits {c : Char} {bytes : Bytes} (h : c ∈ lowerDigits bytes) :
    c ≠ '-' := by
  simp only [lowerDigits, List.mem_flatMap, List.mem_cons, List.not_mem_nil, or_false] at h
  obtain ⟨byte, -, rfl | rfl⟩ := h
  · exact lowerDigit_ne_dash _
  · exact lowerDigit_ne_dash _

theorem lowerDigits_append (bytes more : Bytes) :
    lowerDigits (bytes ++ more) = lowerDigits bytes ++ lowerDigits more := List.flatMap_append

/-- The digits of the byte at a place stand at twice the place, the high one first. -/
theorem getElem?_lowerDigits {bytes : Bytes} {i : Nat} {byte : UInt8}
    (h : bytes[i]? = some byte) :
    (lowerDigits bytes)[2 * i]? = "0123456789abcdef".toList[byte.toNat / 16]? ∧
      (lowerDigits bytes)[2 * i + 1]? = "0123456789abcdef".toList[byte.toNat % 16]? := by
  induction bytes generalizing i with
  | nil => simp at h
  | cons first rest ih =>
      cases i with
      | zero =>
          obtain rfl : first = byte := by simpa using h
          have high := lowerDigit_spec (first.toNat / 16)
          have small : first.toNat / 16 % 16 = first.toNat / 16 := by
            have := first.toNat_lt
            omega
          rw [small] at high
          exact ⟨high.symm, (lowerDigit_spec first.toNat).symm⟩
      | succ i => exact ih (by simpa using h)

end Hex

namespace Guid

/-- The second letter is the first, or the first in upper case. -/
def SameLetter (c d : Char) : Prop := d = c ∨ d = c.toUpper

/-- What a text may be respelt as: any letter may be written in upper case, any dash left out,
and any number of dashes put in anywhere. -/
inductive Respelt : List Char → List Char → Prop
  | nil : Respelt [] []
  | letter {c d : Char} {cs ds : List Char} :
      SameLetter c d → Respelt cs ds → Respelt (c :: cs) (d :: ds)
  | leftOut {cs ds : List Char} : Respelt cs ds → Respelt ('-' :: cs) ds
  | putIn {cs ds : List Char} : Respelt cs ds → Respelt cs ('-' :: ds)

theorem toUpper_eq_dash_iff (c : Char) : c.toUpper = '-' ↔ c = '-' := by
  unfold Char.toUpper
  split
  · rename_i lower
    obtain ⟨least, greatest⟩ := lower
    constructor
    · intro dash
      have number := congrArg UInt32.toNat (congrArg Char.val dash)
      rw [UInt32.le_iff_toNat_le] at least greatest
      simp [UInt32.toNat_add] at number least greatest
      omega
    · rintro rfl
      exact absurd least (by decide)
  · rfl

theorem SameLetter.dash_iff {c d : Char} (h : SameLetter c d) : c = '-' ↔ d = '-' := by
  rcases h with rfl | rfl
  · rfl
  · rw [toUpper_eq_dash_iff]

/-- The letters of a text, dashes aside. -/
abbrev letters (cs : List Char) : List Char := cs.filter (· ≠ '-')

theorem letters_dash (cs : List Char) : letters ('-' :: cs) = letters cs := rfl

theorem letters_append (cs ds : List Char) : letters (cs ++ ds) = letters cs ++ letters ds :=
  List.filter_append ..

theorem letters_cons {c : Char} (h : c ≠ '-') (cs : List Char) :
    letters (c :: cs) = c :: letters cs := by simp [letters, h]

/-- **Dashes aside, spellings go letter by letter.** -/
theorem respelt_iff (cs ds : List Char) :
    Respelt cs ds ↔ List.Forall₂ SameLetter (letters cs) (letters ds) := by
  constructor
  · intro h
    induction h with
    | nil => exact .nil
    | leftOut _ ih => exact ih
    | putIn _ ih => exact ih
    | @letter c d cs ds same _ ih =>
        by_cases dash : c = '-'
        · obtain rfl := same.dash_iff.mp dash
          subst dash
          exact ih
        · rw [letters_cons dash, letters_cons (mt same.dash_iff.mpr dash)]
          exact .cons same ih
  · intro h
    -- By induction on both texts: a dash in front of either is passed over.
    induction cs generalizing ds with
    | nil =>
        induction ds with
        | nil => exact .nil
        | cons d ds ih =>
            by_cases dash : d = '-'
            · subst dash
              exact .putIn (ih h)
            · rw [letters_cons dash] at h
              cases h
    | cons c cs ihc =>
        by_cases dash : c = '-'
        · subst dash
          exact .leftOut (ihc ds h)
        rw [letters_cons dash] at h
        induction ds with
        | nil => cases h
        | cons d ds ihd =>
            by_cases dash' : d = '-'
            · subst dash'
              exact .putIn (ihd h)
            · rw [letters_cons dash'] at h
              cases h with
              | cons same rest => exact .letter same (ihc ds rest)

/-- Without a sign, two characters write the byte whose two digits they are. -/
theorem pair_unsigned_iff (a b : Char) (byte : UInt8) :
    Pair a b byte ∧ a ≠ '+' ↔
      Hex.IsDigit a (byte.toNat / 16) ∧ Hex.IsDigit b (byte.toNat % 16) := by
  constructor
  · rintro ⟨pair, unsigned⟩
    cases pair with
    | signed => exact absurd rfl unsigned
    | @digits _ _ high low first second =>
        have := first.lt
        have := second.lt
        have value : (UInt8.ofNat (16 * high + low)).toNat = 16 * high + low := by
          rw [UInt8.toNat_ofNat', Nat.mod_eq_of_lt (by omega)]
        have quotient : (16 * high + low) / 16 = high := by omega
        have remainder : (16 * high + low) % 16 = low := by omega
        rw [value, quotient, remainder]
        exact ⟨first, second⟩
  · rintro ⟨first, second⟩
    have pair := Pair.digits first second
    rw [Nat.div_add_mod, UInt8.ofNat_toNat] at pair
    refine ⟨pair, ?_⟩
    rintro rfl
    exact Hex.not_isDigit_plus _ first

/-- The spellings of the two digits of a byte. -/
theorem sameLetter_lowerDigits_iff (a b : Char) (byte : UInt8) :
    SameLetter (Hex.lowerDigit (byte.toNat / 16)) a ∧ SameLetter (Hex.lowerDigit byte.toNat) b ↔
      Pair a b byte ∧ a ≠ '+' := by
  have high := Hex.isDigit_iff_lowerDigit a (byte.toNat / 16)
  have small : byte.toNat / 16 % 16 = byte.toNat / 16 := by
    have := byte.toNat_lt
    omega
  rw [small] at high
  rw [pair_unsigned_iff, high, Hex.isDigit_iff_lowerDigit b]
  rfl

/-- The spellings of the digits of bytes are what writes these bytes, but for signs. -/
theorem forall₂_lowerDigits_iff (bytes : Bytes) (cs : List Char) :
    List.Forall₂ SameLetter (Hex.lowerDigits bytes) cs ↔ Writes cs bytes ∧ '+' ∉ cs := by
  induction bytes generalizing cs with
  | nil =>
      constructor
      · intro h
        cases h
        exact ⟨.nil, List.not_mem_nil⟩
      · rintro ⟨writes, -⟩
        cases writes
        exact .nil
  | cons byte bytes ih =>
      constructor
      · rintro (_ | @⟨_, a, _, _, high, _ | @⟨_, b, _, rest, low, others⟩⟩)
        obtain ⟨writes, unsigned⟩ := (ih rest).mp others
        obtain ⟨pair, first⟩ := (sameLetter_lowerDigits_iff a b byte).mp ⟨high, low⟩
        obtain ⟨value, digit⟩ := pair.second_digit
        have second : '+' ≠ b := by
          rintro rfl
          exact Hex.not_isDigit_plus value digit
        exact ⟨.cons pair writes, by simp [Ne.symm first, second, unsigned]⟩
      · rintro ⟨_ | @⟨a, b, _, rest, _, pair, writes⟩, unsigned⟩
        simp only [List.mem_cons, not_or] at unsigned
        obtain ⟨first, -, unsigned⟩ := unsigned
        obtain ⟨high, low⟩ :=
          (sameLetter_lowerDigits_iff a b byte).mpr ⟨pair, Ne.symm first⟩
        exact .cons high (.cons low ((ih rest).mpr ⟨writes, unsigned⟩))

/-- A text shows bytes when it has 36 characters, dashes behind the digits of the fourth, the
sixth, the eighth and the tenth byte, and besides them two digits in lower case for each byte. -/
structure Shows (text : List Char) (bytes : Bytes) : Prop where
  length : text.length = 36
  dashes : ∀ i, text[i]? = some '-' ↔ i ∈ [8, 13, 18, 23]
  digits : ∀ i byte, bytes[i]? = some byte →
    (letters text)[2 * i]? = "0123456789abcdef".toList[byte.toNat / 16]? ∧
      (letters text)[2 * i + 1]? = "0123456789abcdef".toList[byte.toNat % 16]?

/-- Where the dashes stand behind characters that are none. -/
theorem getElem?_dash_iff {cs : List Char} (h : '-' ∉ cs) (rest : List Char) (i : Nat) :
    (cs ++ '-' :: rest)[i]? = some '-' ↔
      i = cs.length ∨ cs.length < i ∧ rest[i - cs.length - 1]? = some '-' := by
  rcases Nat.lt_trichotomy i cs.length with before | rfl | behind
  · rw [List.getElem?_append_left before]
    refine iff_of_false (fun dash => h (List.mem_of_getElem? dash)) ?_
    omega
  · simp
  · obtain ⟨k, rfl⟩ : ∃ k, i = cs.length + 1 + k := ⟨i - cs.length - 1, by omega⟩
    have front : cs.length + 1 + k - cs.length = k + 1 := by omega
    rw [List.getElem?_append_right (by omega), front, List.getElem?_cons_succ,
      Nat.add_sub_cancel]
    have : cs.length + 1 + k ≠ cs.length := by omega
    have : cs.length < cs.length + 1 + k := by omega
    simp [*]

/-- Some of the bytes of an identifier, from a place on. -/
def group (guid : Guid) (start count : Nat) : Bytes := (guid.bytes.drop start).take count

/-- The digits of a group. -/
def shownGroup (guid : Guid) (start count : Nat) : List Char :=
  Hex.lowerDigits (guid.group start count)

theorem dash_not_mem_shownGroup (guid : Guid) (start count : Nat) :
    '-' ∉ guid.shownGroup start count := fun dash => Hex.ne_dash_of_mem_lowerDigits dash rfl

theorem length_shownGroup (guid : Guid) {start count : Nat} (h : start + count ≤ 16) :
    (guid.shownGroup start count).length = 2 * count := by
  rw [shownGroup, Hex.length_lowerDigits, group, List.length_take, List.length_drop,
    guid.length_eq]
  omega

theorem letters_shownGroup (guid : Guid) (start count : Nat) :
    letters (guid.shownGroup start count) = guid.shownGroup start count :=
  List.filter_eq_self.mpr fun _ member => by simpa using Hex.ne_dash_of_mem_lowerDigits member

theorem toList_text (guid : Guid) :
    guid.text.toList = guid.shownGroup 0 4 ++ '-' :: (guid.shownGroup 4 2 ++
      '-' :: (guid.shownGroup 6 2 ++ '-' :: (guid.shownGroup 8 2 ++
        '-' :: guid.shownGroup 10 6))) := by
  simp only [text, String.toList_ofList, List.append_assoc, List.cons_append, shownGroup, group]

/-- An identifier is made of its groups. -/
theorem bytes_eq_groups (guid : Guid) :
    guid.bytes = guid.group 0 4 ++ (guid.group 4 2 ++ (guid.group 6 2 ++ (guid.group 8 2 ++
      guid.group 10 6))) := by
  have front (start count : Nat) : guid.bytes.drop start =
      guid.group start count ++ guid.bytes.drop (start + count) := by
    rw [group, ← List.drop_drop, List.take_append_drop]
  have last : guid.bytes.drop 16 = [] := List.drop_eq_nil_of_le (Nat.le_of_eq guid.length_eq)
  calc guid.bytes = guid.bytes.drop 0 := rfl
    _ = guid.group 0 4 ++ guid.bytes.drop 4 := front 0 4
    _ = guid.group 0 4 ++ (guid.group 4 2 ++ guid.bytes.drop 6) := by rw [front 4 2]
    _ = guid.group 0 4 ++ (guid.group 4 2 ++ (guid.group 6 2 ++ guid.bytes.drop 8)) := by
        rw [front 6 2]
    _ = guid.group 0 4 ++ (guid.group 4 2 ++ (guid.group 6 2 ++ (guid.group 8 2 ++
          guid.bytes.drop 10))) := by rw [front 8 2]
    _ = _ := by rw [front 10 6, last, List.append_nil]

/-- Dashes aside, the text of an identifier has its digits. -/
theorem letters_text (guid : Guid) : letters guid.text.toList = Hex.lowerDigits guid.bytes := by
  conv_rhs => rw [bytes_eq_groups]
  simp only [toList_text, letters_append, letters_dash, letters_shownGroup,
    Hex.lowerDigits_append]
  rfl

/-- **The text of an identifier shows it.** -/
theorem shows_text (guid : Guid) : Shows guid.text.toList guid.bytes where
  length := by
    simp only [toList_text, List.length_append, List.length_cons, length_shownGroup,
      Nat.reduceAdd, Nat.reduceMul, Nat.reduceLeDiff]
  dashes i := by
    have last (k : Nat) : (guid.shownGroup 10 6)[k]? ≠ some '-' := fun dash =>
      guid.dash_not_mem_shownGroup 10 6 (List.mem_of_getElem? dash)
    rw [toList_text]
    simp only [getElem?_dash_iff (guid.dash_not_mem_shownGroup _ _), length_shownGroup, last,
      Nat.reduceAdd, Nat.reduceMul, Nat.reduceLeDiff, List.mem_cons, List.not_mem_nil,
      and_false, or_false, Nat.sub_sub]
    omega
  digits i byte there := by
    rw [letters_text]
    exact Hex.getElem?_lowerDigits there

/-- **What is written for an identifier is read as it.** -/
theorem ofText?_text (guid : Guid) : ofText? guid.text = some guid := by
  have same : List.Forall₂ SameLetter (Hex.lowerDigits guid.bytes) (written guid.text) := by
    rw [← letters_text]
    exact List.forall₂_same.mpr fun _ _ => .inl rfl
  rw [ofText?_eq_some_iff]
  exact ((forall₂_lowerDigits_iff _ _).mp same).1

/-- An identifier is read from the spellings of its text, wherever their dashes stand and in
whatever case each of their letters is, and besides them only from texts with a sign.  Its own
text shows its bytes. -/
theorem respelt_read_back (guid : Guid) :
    (∀ text : String, Respelt guid.text.toList text.toList ↔
      ofText? text = some guid ∧ '+' ∉ text.toList) ∧
    Shows guid.text.toList guid.bytes := by
  refine ⟨fun text => ?_, guid.shows_text⟩
  have sign : '+' ∉ written text ↔ '+' ∉ text.toList := by simp [written]
  rw [respelt_iff, letters_text, forall₂_lowerDigits_iff, ofText?_eq_some_iff, ← sign]
  rfl

end Guid

end PictureTransfer
