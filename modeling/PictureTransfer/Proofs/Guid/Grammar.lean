import PictureTransfer.Guid

/-!
# The texts that write an identifier

An identifier is read from the UTF-8 bytes of a text: dashes go, what is left
has to be 32 bytes, and each two of them are taken for a text of their own and
read as a number in base sixteen.  This file says what that comes to in
characters: `Writes`, pair of characters by pair of characters.  Characters of
more than one byte never take part, though their bytes may be torn apart
between pairs.

A number may have a plus sign in front, and so may each pair: `Pair.signed` is
the one thing besides two digits that writes a byte.

* `Utf8.fromUTF8?_eq_some_iff`, `Utf8.encode_inj` — bytes are read as the one
  text that has them;
* `Hex.valueOf?_eq_some_iff`, `Numeral.natural?_two_iff` — what one digit and
  what two characters stand for;
* `byteOf?_eq_some_iff`, `bytesOf?_eq_some_iff`, `ofText?_eq_some_iff` — what a
  pair, a row of pairs and a text write;
* `writes_iff` — the same by the place in the text;
* `read_in_pairs` — which texts are read, and as what.
-/

namespace PictureTransfer

/-! ## Characters and their bytes -/

namespace Utf8

/-- The bytes of characters in UTF-8. -/
abbrev encode (cs : List Char) : Bytes := cs.flatMap String.utf8EncodeChar

theorem toUTF8_eq (text : String) : text.toUTF8.data.toList = encode text.toList := by
  rw [String.toUTF8_eq_toByteArray, ← String.utf8Encode_toList]
  exact List.toList_data_toByteArray

theorem encode_inj {cs ds : List Char} (h : encode cs = encode ds) : cs = ds := by
  have arrays : (String.ofList cs).toByteArray = (String.ofList ds).toByteArray := by
    rw [String.toByteArray_ofList, String.toByteArray_ofList]
    exact congrArg List.toByteArray h
  have texts : String.ofList cs = String.ofList ds := String.toByteArray_inj.mp arrays
  simpa using congrArg String.toList texts

theorem encodeChar_of_ascii {c : Char} (h : c.toNat < 128) :
    String.utf8EncodeChar c = [UInt8.ofNat c.toNat] := by
  have small : c.val.toNat ≤ 127 := by
    have : c.val.toNat = c.toNat := rfl
    omega
  simp only [String.utf8EncodeChar, small, if_true]
  rfl

theorem encode_of_ascii {cs : List Char} (h : ∀ c ∈ cs, c.toNat < 128) :
    encode cs = cs.map fun c => UInt8.ofNat c.toNat := by
  induction cs with
  | nil => rfl
  | cons c cs ih =>
      simp only [encode, List.flatMap_cons, List.map_cons,
        encodeChar_of_ascii (h c (List.mem_cons_self ..)), List.cons_append, List.nil_append]
      rw [← ih fun d member => h d (List.mem_cons_of_mem c member)]

/-- A character beyond ASCII has no byte within it. -/
theorem encodeChar_of_not_ascii {c : Char} (h : 128 ≤ c.toNat) :
    ∀ byte ∈ String.utf8EncodeChar c, 128 ≤ byte.toNat := by
  have same : c.val.toNat = c.toNat := rfl
  have large : ¬ c.val.toNat ≤ 127 := by omega
  intro byte member
  simp only [String.utf8EncodeChar, large, if_false] at member
  split at member
  · simp only [List.mem_cons, List.not_mem_nil, or_false] at member
    rcases member with rfl | rfl <;> simp only [UInt8.toNat_ofNat'] <;> omega
  · split at member
    · simp only [List.mem_cons, List.not_mem_nil, or_false] at member
      rcases member with rfl | rfl | rfl <;> simp only [UInt8.toNat_ofNat'] <;> omega
    · simp only [List.mem_cons, List.not_mem_nil, or_false] at member
      rcases member with rfl | rfl | rfl | rfl <;> simp only [UInt8.toNat_ofNat'] <;> omega

/-- Bytes are read as the text whose bytes they are. -/
theorem fromUTF8?_eq_some_iff (bytes : Bytes) (text : String) :
    String.fromUTF8? ⟨bytes.toArray⟩ = some text ↔ encode text.toList = bytes := by
  rw [← toUTF8_eq]
  constructor
  · intro h
    unfold String.fromUTF8? at h
    split at h
    · obtain rfl := Option.some.inj h
      rfl
    · cases h
  · rintro rfl
    simp only [String.fromUTF8?, String.toUTF8_eq_toByteArray, Array.toArray_toList,
      dif_pos text.isValidUTF8]
    rfl

end Utf8

/-! ## Digits -/

namespace Hex

/-- `c` is the digit for a value, in lower or in upper case. -/
def IsDigit (c : Char) (value : Nat) : Prop :=
  "0123456789abcdef".toList[value]? = some c ∨ "0123456789ABCDEF".toList[value]? = some c

instance (c : Char) (value : Nat) : Decidable (IsDigit c value) :=
  inferInstanceAs (Decidable (_ ∨ _))

theorem IsDigit.lt {c : Char} {value : Nat} (h : IsDigit c value) : value < 16 := by
  rcases h with h | h
  · exact (List.getElem?_eq_some_iff.mp h).1
  · exact (List.getElem?_eq_some_iff.mp h).1

theorem ascii_of_valueOf? {c : Char} {value : Nat} (h : valueOf? c = some value) :
    c.toNat < 128 := by
  simp only [valueOf?] at h
  grind

theorem valueOf?_eq_some_iff (c : Char) (value : Nat) :
    valueOf? c = some value ↔ IsDigit c value := by
  constructor
  · intro read
    have table : ∀ n : Fin 128, ∀ v ∈ valueOf? (Char.ofNat n), IsDigit (Char.ofNat n) v := by
      decide +kernel
    have digit := table ⟨c.toNat, ascii_of_valueOf? read⟩
    simp only [Char.ofNat_toNat] at digit
    exact digit value read
  · intro digit
    have table : ∀ v : Fin 16, "0123456789abcdef".toList[v.val]?.bind valueOf? = some v.val ∧
        "0123456789ABCDEF".toList[v.val]?.bind valueOf? = some v.val := by decide +kernel
    obtain ⟨lower, upper⟩ := table ⟨value, digit.lt⟩
    rcases digit with h | h
    · simpa only [h, Option.bind_some] using lower
    · simpa only [h, Option.bind_some] using upper

theorem IsDigit.ascii {c : Char} {value : Nat} (h : IsDigit c value) : c.toNat < 128 :=
  ascii_of_valueOf? ((valueOf?_eq_some_iff c value).mpr h)

theorem not_isDigit_plus (value : Nat) : ¬ IsDigit '+' value := by
  rw [← valueOf?_eq_some_iff]
  simp [valueOf?]

end Hex

namespace Numeral

theorem isDigit_sixteen_iff (c : Char) : isDigit 16 c = true ↔ ∃ value, Hex.IsDigit c value := by
  have within (value : Nat) (h : Hex.valueOf? c = some value) : value < 16 :=
    ((Hex.valueOf?_eq_some_iff c value).mp h).lt
  unfold isDigit
  simp only [← Hex.valueOf?_eq_some_iff]
  cases digit : Hex.valueOf? c with
  | none => simp
  | some value => simpa using within value digit

theorem digits?_eq_some_iff (ds : List Char) (value : Nat) :
    digits? 16 ds = some value ↔
      ds ≠ [] ∧ (∀ d ∈ ds, ∃ v, Hex.IsDigit d v) ∧ value = valueOf 16 ds := by
  have some_iff := digits?_isSome_iff 16 ds
  simp only [isDigit_sixteen_iff] at some_iff
  rw [← and_assoc, ← some_iff, digits?]
  split <;> simp [eq_comm]

/-- A number in base sixteen is written in ASCII. -/
theorem ascii_of_natural? {cs : List Char} {value : Nat} (h : natural? 16 cs = some value) :
    ∀ c ∈ cs, c.toNat < 128 := by
  have digits {ds : List Char} (h : digits? 16 ds = some value) : ∀ d ∈ ds, d.toNat < 128 := by
    intro d member
    obtain ⟨v, digit⟩ := ((digits?_eq_some_iff ds value).mp h).2.1 d member
    exact digit.ascii
  unfold natural? at h
  split at h
  · rintro c (_ | ⟨_, member⟩)
    · decide
    · exact digits h c member
  · exact digits h

theorem digits?_one_iff (a : Char) (value : Nat) :
    digits? 16 [a] = some value ↔ Hex.IsDigit a value := by
  rw [digits?_eq_some_iff, ← Hex.valueOf?_eq_some_iff]
  simp only [← Hex.valueOf?_eq_some_iff, List.mem_singleton, forall_eq, valueOf, List.foldl_cons,
    List.foldl_nil]
  cases Hex.valueOf? a <;> simp [eq_comm]

theorem digits?_two_iff (a b : Char) (value : Nat) :
    digits? 16 [a, b] = some value ↔
      ∃ high low, Hex.IsDigit a high ∧ Hex.IsDigit b low ∧ value = 16 * high + low := by
  rw [digits?_eq_some_iff]
  simp only [← Hex.valueOf?_eq_some_iff, List.mem_cons, List.not_mem_nil, or_false,
    forall_eq_or_imp, forall_eq, valueOf, List.foldl_cons, List.foldl_nil]
  cases Hex.valueOf? a <;> cases Hex.valueOf? b <;> simp

/-- Two characters make a number as two digits, or as a sign and one digit. -/
theorem natural?_two_iff (a b : Char) (value : Nat) :
    natural? 16 [a, b] = some value ↔
      (∃ high low, Hex.IsDigit a high ∧ Hex.IsDigit b low ∧ value = 16 * high + low) ∨
        a = '+' ∧ Hex.IsDigit b value := by
  by_cases sign : a = '+'
  · subst sign
    simp [natural?, digits?_one_iff, Hex.not_isDigit_plus]
  · have unsigned : natural? 16 [a, b] = digits? 16 [a, b] := by
      unfold natural?
      split <;> simp_all
    simp [unsigned, digits?_two_iff, sign]

end Numeral

/-! ## Pairs of characters -/

namespace Guid

/-- Two characters and the byte that they write. -/
inductive Pair : Char → Char → UInt8 → Prop
  | digits {a b : Char} {high low : Nat} :
      Hex.IsDigit a high → Hex.IsDigit b low → Pair a b (UInt8.ofNat (16 * high + low))
  | signed {b : Char} {low : Nat} : Hex.IsDigit b low → Pair '+' b (UInt8.ofNat low)

theorem Pair.ascii {a b : Char} {byte : UInt8} (h : Pair a b byte) :
    a.toNat < 128 ∧ b.toNat < 128 := by
  cases h with
  | digits high low => exact ⟨high.ascii, low.ascii⟩
  | signed low => exact ⟨by decide, low.ascii⟩

theorem Pair.first_digit {a b : Char} {byte : UInt8} (h : Pair a b byte) (unsigned : a ≠ '+') :
    ∃ high, Hex.IsDigit a high := by
  cases h with
  | digits high low => exact ⟨_, high⟩
  | signed low => exact absurd rfl unsigned

theorem Pair.second_digit {a b : Char} {byte : UInt8} (h : Pair a b byte) :
    ∃ low, Hex.IsDigit b low := by
  cases h with
  | digits high low => exact ⟨_, low⟩
  | signed low => exact ⟨_, low⟩

/-- The pairs are the numbers in base sixteen of two characters. -/
theorem pair_iff (a b : Char) (byte : UInt8) :
    Pair a b byte ↔
      ∃ value, Numeral.natural? 16 [a, b] = some value ∧ value < 256 ∧ UInt8.ofNat value = byte := by
  constructor
  · rintro (⟨first, second⟩ | second)
    · have := first.lt
      have := second.lt
      exact ⟨_, (Numeral.natural?_two_iff ..).mpr (.inl ⟨_, _, first, second, rfl⟩),
        by omega, rfl⟩
    · have := second.lt
      exact ⟨_, (Numeral.natural?_two_iff ..).mpr (.inr ⟨rfl, second⟩), by omega, rfl⟩
  · rintro ⟨value, number, -, rfl⟩
    obtain ⟨high, low, first, second, rfl⟩ | ⟨rfl, second⟩ :=
      (Numeral.natural?_two_iff a b value).mp number
    · exact .digits first second
    · exact .signed second

/-- Two bytes write what the two characters write that they are. -/
theorem byteOf?_eq_some_iff (x y byte : UInt8) :
    byteOf? x y = some byte ↔ ∃ a b, Pair a b byte ∧ Utf8.encode [a, b] = [x, y] := by
  have fromUTF8? (text : String) :
      String.fromUTF8? ⟨#[x, y]⟩ = some text ↔ Utf8.encode text.toList = [x, y] :=
    Utf8.fromUTF8?_eq_some_iff [x, y] text
  simp only [byteOf?, Option.bind_eq_bind, Option.bind_eq_some_iff, fromUTF8?,
    Option.map_eq_map, Option.map_eq_some_iff, Numeral.below, Option.ite_none_right_eq_some,
    Option.some.injEq, pair_iff]
  constructor
  · rintro ⟨text, bytes, value, number, _, ⟨small, rfl⟩, made⟩
    -- All that a number holds is ASCII, so its two bytes are two characters.
    have mapped := Utf8.encode_of_ascii (Numeral.ascii_of_natural? number)
    have two : text.toList.length = 2 := by
      have := congrArg List.length (mapped.symm.trans bytes)
      simpa using this
    obtain ⟨a, b, spelt⟩ : ∃ a b, text.toList = [a, b] := by
      match text.toList, two with
      | [a, b], _ => exact ⟨a, b, rfl⟩
    exact ⟨a, b, ⟨value, spelt ▸ number, small, made⟩, spelt ▸ bytes⟩
  · rintro ⟨a, b, ⟨value, number, small, made⟩, bytes⟩
    refine ⟨String.ofList [a, b], ?_, value, ?_, value, ⟨small, rfl⟩, made⟩
    · rwa [String.toList_ofList]
    · rwa [String.toList_ofList]

/-! ## Texts -/

/-- Characters and the bytes that they write, two for each. -/
inductive Writes : List Char → Bytes → Prop
  | nil : Writes [] []
  | cons {a b : Char} {byte : UInt8} {cs : List Char} {bytes : Bytes} :
      Pair a b byte → Writes cs bytes → Writes (a :: b :: cs) (byte :: bytes)

theorem Writes.length {cs : List Char} {bytes : Bytes} (h : Writes cs bytes) :
    cs.length = 2 * bytes.length := by
  induction h with
  | nil => rfl
  | cons _ _ ih => simp only [List.length_cons, ih]; omega

theorem Writes.ascii {cs : List Char} {bytes : Bytes} (h : Writes cs bytes) :
    ∀ c ∈ cs, c.toNat < 128 := by
  induction h with
  | nil => simp
  | cons pair _ ih => simpa [pair.ascii] using ih

/-- The characters of a text that count. -/
def written (text : String) : List Char := text.toList.filter (· ≠ '-')

/-- The dash is a byte of its own, and no byte of another character. -/
theorem encodeChar_undashed (c : Char) :
    (String.utf8EncodeChar c).filter (· ≠ 0x2D) =
      if c ≠ '-' then String.utf8EncodeChar c else [] := by
  by_cases ascii : c.toNat < 128
  · rw [Utf8.encodeChar_of_ascii ascii]
    by_cases dash : c = '-'
    · subst dash
      rfl
    · have other : UInt8.ofNat c.toNat ≠ 0x2D := by
        intro same
        have : c.toNat = '-'.toNat := by
          have := congrArg UInt8.toNat same
          rw [UInt8.toNat_ofNat', Nat.mod_eq_of_lt (by omega)] at this
          exact this
        exact dash (Char.toNat_inj.mp this)
      simp [dash, other]
  · have dash : c ≠ '-' := by
      rintro rfl
      exact ascii (by decide)
    rw [if_pos dash, List.filter_eq_self]
    intro byte member
    have := Utf8.encodeChar_of_not_ascii (Nat.le_of_not_lt ascii) byte member
    have : byte ≠ 0x2D := by
      rintro rfl
      exact absurd this (by decide)
    simpa using this

theorem undashed_eq (text : String) : undashed text = Utf8.encode (written text) := by
  rw [undashed, Utf8.toUTF8_eq, written, Utf8.encode, List.filter_flatMap]
  simp only [encodeChar_undashed]
  induction text.toList with
  | nil => rfl
  | cons c cs ih =>
      rw [List.flatMap_cons, ih]
      by_cases dash : c = '-'
      · simp [dash]
      · simp [dash]

theorem bytesOf?_eq_some_iff (read bytes : Bytes) :
    bytesOf? read = some bytes ↔ ∃ cs, Writes cs bytes ∧ Utf8.encode cs = read := by
  constructor
  · intro h
    induction read using bytesOf?.induct generalizing bytes with
    | case1 =>
        obtain rfl := Option.some.inj h
        exact ⟨[], .nil, rfl⟩
    | case2 x y rest ih =>
        simp only [bytesOf?, Option.bind_eq_bind, Option.bind_eq_some_iff, Option.pure_def,
          Option.some.injEq] at h
        obtain ⟨byte, first, others, later, rfl⟩ := h
        obtain ⟨a, b, pair, front⟩ := (byteOf?_eq_some_iff x y byte).mp first
        obtain ⟨cs, writes, back⟩ := ih others later
        refine ⟨a :: b :: cs, .cons pair writes, ?_⟩
        calc Utf8.encode ([a, b] ++ cs)
            = Utf8.encode [a, b] ++ Utf8.encode cs := List.flatMap_append
          _ = x :: y :: rest := by rw [front, back]; rfl
    | case3 x => cases h
  · rintro ⟨cs, writes, rfl⟩
    induction writes with
    | nil => rfl
    | @cons a b byte cs bytes pair writes ih =>
        have first : byteOf? (UInt8.ofNat a.toNat) (UInt8.ofNat b.toNat) = some byte :=
          (byteOf?_eq_some_iff _ _ byte).mpr
            ⟨a, b, pair, Utf8.encode_of_ascii (by simpa using pair.ascii)⟩
        rw [Utf8.encode, List.flatMap_cons, List.flatMap_cons,
          Utf8.encodeChar_of_ascii pair.ascii.1, Utf8.encodeChar_of_ascii pair.ascii.2]
        simp only [List.cons_append, List.nil_append, bytesOf?, first, ih, Option.bind_eq_bind,
          Option.bind_some, Option.pure_def]

theorem ofText?_eq_some_iff (text : String) (guid : Guid) :
    ofText? text = some guid ↔ Writes (written text) guid.bytes := by
  have made (bytes : Bytes) : ofBytes? bytes = some guid ↔ bytes = guid.bytes := by
    rw [ofBytes?, Option.dite_none_right_eq_some]
    constructor
    · rintro ⟨_, h⟩
      rw [← Option.some.inj h]
    · rintro rfl
      exact ⟨guid.length_eq, rfl⟩
  simp only [ofText?, Option.ite_none_right_eq_some, Option.bind_eq_bind, Option.bind_eq_some_iff,
    made, bytesOf?_eq_some_iff, exists_eq_right, undashed_eq]
  constructor
  · rintro ⟨-, cs, writes, same⟩
    rwa [← Utf8.encode_inj same]
  · intro writes
    refine ⟨?_, written text, writes, rfl⟩
    rw [Utf8.encode_of_ascii writes.ascii, List.length_map, writes.length, guid.length_eq]

/-- The byte at a place is written by the two characters at twice the place. -/
def ByteAt (cs : List Char) (i : Nat) (byte : UInt8) : Prop :=
  ∃ a b, cs[2 * i]? = some a ∧ cs[2 * i + 1]? = some b ∧ Pair a b byte

theorem writes_iff (cs : List Char) (bytes : Bytes) :
    Writes cs bytes ↔
      cs.length = 2 * bytes.length ∧ ∀ i byte, bytes[i]? = some byte → ByteAt cs i byte := by
  constructor
  · intro writes
    refine ⟨writes.length, ?_⟩
    induction writes with
    | nil => simp
    | @cons a b byte cs bytes pair _ ih =>
        intro i other there
        cases i with
        | zero =>
            obtain rfl : byte = other := by simpa using there
            exact ⟨a, b, rfl, rfl, pair⟩
        | succ i => exact ih i other there
  · rintro ⟨length, at_⟩
    induction bytes generalizing cs with
    | nil =>
        obtain rfl : cs = [] := List.eq_nil_of_length_eq_zero length
        exact .nil
    | cons byte bytes ih =>
        match cs, length with
        | a :: b :: cs, length =>
            obtain ⟨c, d, first, second, pair⟩ := at_ 0 byte rfl
            obtain rfl : a = c := by simpa using first
            obtain rfl : b = d := by simpa using second
            refine .cons pair (ih cs ?_ fun i other there => at_ (i + 1) other there)
            simp only [List.length_cons] at length
            omega

theorem exists_writes {cs : List Char} {n : Nat} (length : cs.length = 2 * n)
    (each : ∀ i < n, ∃ byte, ByteAt cs i byte) : ∃ bytes, Writes cs bytes := by
  obtain ⟨byteAt, is⟩ := Classical.axiomOfChoice fun i : Fin n => each i.val i.isLt
  refine ⟨List.ofFn byteAt, (writes_iff cs _).mpr ⟨by simpa using length, ?_⟩⟩
  intro i byte there
  obtain ⟨within, rfl⟩ := List.getElem?_eq_some_iff.mp there
  simpa using is ⟨i, by simpa using within⟩

theorem isSome_iff (text : String) :
    (ofText? text).isSome ↔
      (written text).length = 32 ∧ ∀ i < 16, ∃ byte, ByteAt (written text) i byte := by
  rw [Option.isSome_iff_exists]
  simp only [ofText?_eq_some_iff]
  constructor
  · rintro ⟨guid, writes⟩
    obtain ⟨length, at_⟩ := (writes_iff _ _).mp writes
    rw [guid.length_eq] at length
    refine ⟨length, fun i small => ?_⟩
    have within : i < guid.bytes.length := by rwa [guid.length_eq]
    exact ⟨guid.bytes[i], at_ i _ (List.getElem?_eq_getElem within)⟩
  · rintro ⟨length, each⟩
    obtain ⟨bytes, writes⟩ := exists_writes length each
    have sixteen : bytes.length = 16 := by
      have := writes.length
      omega
    exact ⟨⟨bytes, sixteen⟩, writes⟩

/-- Without a sign only digits are left to write anything. -/
theorem Writes.digits {cs : List Char} {bytes : Bytes} (h : Writes cs bytes) (unsigned : '+' ∉ cs) :
    ∀ c ∈ cs, ∃ value, Hex.IsDigit c value := by
  induction h with
  | nil => simp
  | @cons a b byte cs bytes pair _ ih =>
      simp only [List.mem_cons, not_or] at unsigned
      obtain ⟨first, _, later⟩ := unsigned
      rintro c (_ | ⟨_, _ | ⟨_, member⟩⟩)
      · exact pair.first_digit (Ne.symm first)
      · exact pair.second_digit
      · exact ih later c member

/-- Digits write a byte wherever two of them stand. -/
theorem byteAt_of_digits {cs : List Char} (digits : ∀ c ∈ cs, ∃ value, Hex.IsDigit c value)
    {i : Nat} (within : 2 * i + 1 < cs.length) : ∃ byte, ByteAt cs i byte := by
  have here : 2 * i < cs.length := by omega
  obtain ⟨high, first⟩ := digits cs[2 * i] (List.getElem_mem here)
  obtain ⟨low, second⟩ := digits cs[2 * i + 1] (List.getElem_mem within)
  exact ⟨_, _, _, List.getElem?_eq_getElem here, List.getElem?_eq_getElem within,
    .digits first second⟩

/-- Dashes aside, a text is read exactly when it has 32 characters and each two
of them write a byte: two hexadecimal digits of either case, or a plus sign and
one.  The identifier has these bytes in this order.  Where there is no plus
sign, the texts that are read are those of 32 hexadecimal digits. -/
theorem read_in_pairs (text : String) :
    ((ofText? text).isSome ↔
      (written text).length = 32 ∧ ∀ i < 16, ∃ byte, ByteAt (written text) i byte) ∧
    (∀ guid, ofText? text = some guid ↔
      (written text).length = 32 ∧
        ∀ i byte, guid.bytes[i]? = some byte → ByteAt (written text) i byte) ∧
    ((ofText? text).isSome ∧ '+' ∉ written text ↔
      (written text).length = 32 ∧ ∀ c ∈ written text, ∃ value, Hex.IsDigit c value) := by
  refine ⟨isSome_iff text, fun guid => ?_, ?_, ?_⟩
  · rw [ofText?_eq_some_iff, writes_iff, guid.length_eq]
  · rintro ⟨read, unsigned⟩
    obtain ⟨guid, read⟩ := Option.isSome_iff_exists.mp read
    have writes := (ofText?_eq_some_iff text guid).mp read
    refine ⟨?_, writes.digits unsigned⟩
    rw [writes.length, guid.length_eq]
  · rintro ⟨length, digits⟩
    refine ⟨(isSome_iff text).mpr ⟨length, fun i small => ?_⟩, fun sign => ?_⟩
    · exact byteAt_of_digits digits (by omega)
    · obtain ⟨value, digit⟩ := digits '+' sign
      exact Hex.not_isDigit_plus value digit

/-- A sign in the place of a digit: 32 characters, not all of them digits, are
read as fifteen bytes of zero and one of fifteen. -/
theorem sign_among_digits :
    (∃ c ∈ written "000000000000000000000000000000+f", ∀ value, ¬ Hex.IsDigit c value) ∧
      ofText? "000000000000000000000000000000+f" =
        some ⟨List.replicate 15 0 ++ [0x0F], rfl⟩ := by
  refine ⟨⟨ '+', by decide +kernel, Hex.not_isDigit_plus⟩, ?_⟩
  decide +kernel

end Guid

end PictureTransfer
