import PictureTransfer.Proofs.Wire.Spelling
import PictureTransfer.Wire.Text

/-!
# Texts and their units

A text has one form in UTF-16 units, and units that spell a text are the form of
just that text.  On the wire a text ends at its first zero unit, so what is read
never holds the character of number zero, and reading takes exactly the bytes that
the text is written in.

* `Utf16.decode_append` — the units of a character are read back as the character,
  whatever follows them;
* `Utf16.decode_eq_some_iff` — decoding inverts encoding, and nothing else reads;
* `Text.reads_units`, `Text.reads_decoder` — so a string is read just where its own
  bytes stand.
-/

namespace PictureTransfer

namespace Utf16

/-- The number of a character, from the number that names it. -/
theorem toNat_ofNat {n : Nat} (h : n.isValidChar) : (Char.ofNat n).toNat = n := by
  rw [Char.ofNat, dif_pos h]
  rfl

/-- The number of a character is that of no surrogate. -/
theorem not_surrogate (c : Char) : isHigh c.toNat = false ∧ isLow c.toNat = false := by
  have hvalid : c.toNat < 0xD800 ∨ (0xDFFF < c.toNat ∧ c.toNat < 0x110000) := c.valid
  simp only [isHigh, isLow, Bool.and_eq_false_iff, decide_eq_false_iff_not]
  omega

/-- A unit that is no surrogate is read on its own. -/
theorem decode_single {u : Nat} (hhigh : isHigh u = false) (hlow : isLow u = false)
    (units : List Nat) : decode (u :: units) = (decode units).map (Char.ofNat u :: ·) := by
  cases units with
  | nil => simp [decode, hhigh, hlow]
  | cons v rest => simp [decode, hhigh, hlow]

theorem decode_pair {u v : Nat} (hhigh : isHigh u = true) (hlow : isLow v = true)
    (units : List Nat) :
    decode (u :: v :: units) = (decode units).map (paired u v :: ·) := by
  simp [decode, hhigh, hlow]

/-- **The units of one character** are read back as the character, whatever follows
them. -/
theorem decode_append (c : Char) (units : List Nat) :
    decode (unitsOf c ++ units) = (decode units).map (c :: ·) := by
  have hvalid : c.toNat < 0xD800 ∨ (0xDFFF < c.toNat ∧ c.toNat < 0x110000) := c.valid
  by_cases hsmall : c.toNat < 0x10000
  · obtain ⟨hhigh, hlow⟩ := not_surrogate c
    rw [unitsOf, if_pos hsmall, List.singleton_append, decode_single hhigh hlow,
      Char.ofNat_toNat]
  · -- The two units carry the upper and the lower ten bits of what is above the first plane.
    have hhigh : isHigh (0xD800 + (c.toNat - 0x10000) / 0x400) = true := by
      simp only [isHigh, Bool.and_eq_true, decide_eq_true_eq]
      omega
    have hlow : isLow (0xDC00 + (c.toNat - 0x10000) % 0x400) = true := by
      simp only [isLow, Bool.and_eq_true, decide_eq_true_eq]
      omega
    have hback : 0x10000 + (0xD800 + (c.toNat - 0x10000) / 0x400 - 0xD800) * 0x400 +
        (0xDC00 + (c.toNat - 0x10000) % 0x400 - 0xDC00) = c.toNat := by omega
    rw [unitsOf, if_neg hsmall, List.cons_append, List.singleton_append,
      decode_pair hhigh hlow, paired, hback, Char.ofNat_toNat]

theorem decode_encode (text : List Char) : decode (encode text) = some text := by
  induction text with
  | nil => rfl
  | cons c text ih =>
      have hcons : encode (c :: text) = unitsOf c ++ encode text := List.flatMap_cons
      rw [hcons, decode_append, ih]
      rfl

/-- A unit that is no surrogate is the form of its character. -/
theorem unitsOf_single {u : Nat} (hsize : u < 0x10000) (hhigh : isHigh u = false)
    (hlow : isLow u = false) : unitsOf (Char.ofNat u) = [u] := by
  have hvalid : u.isValidChar := by
    simp only [isHigh, isLow, Bool.and_eq_false_iff, decide_eq_false_iff_not] at hhigh hlow
    simp only [Nat.isValidChar]
    omega
  rw [unitsOf, toNat_ofNat hvalid, if_pos hsize]

/-- A surrogate pair is the form of the character that it stands for. -/
theorem unitsOf_paired {u v : Nat} (hhigh : isHigh u = true) (hlow : isLow v = true) :
    unitsOf (paired u v) = [u, v] := by
  simp only [isHigh, isLow, Bool.and_eq_true, decide_eq_true_eq] at hhigh hlow
  have hvalid : (0x10000 + (u - 0xD800) * 0x400 + (v - 0xDC00)).isValidChar := by
    simp only [Nat.isValidChar]
    omega
  have hfirst : 0xD800 + (0x10000 + (u - 0xD800) * 0x400 + (v - 0xDC00) - 0x10000) / 0x400 = u := by
    omega
  have hsecond :
      0xDC00 + (0x10000 + (u - 0xD800) * 0x400 + (v - 0xDC00) - 0x10000) % 0x400 = v := by omega
  rw [unitsOf, paired, toNat_ofNat hvalid, if_neg (by omega), hfirst, hsecond]

/-- Units that spell a text are the form of that text. -/
theorem encode_of_decode {units : List Nat} {text : List Char} (hsize : ∀ u ∈ units, u < 0x10000)
    (h : decode units = some text) : encode text = units := by
  fun_induction decode units generalizing text with
  | case1 =>
      obtain rfl := Option.some.inj h
      rfl
  | case2 => simp at h
  | case3 u hsurrogate =>
      obtain ⟨hhigh, hlow⟩ : isHigh u = false ∧ isLow u = false := by simpa using hsurrogate
      obtain rfl := Option.some.inj h
      have hu := unitsOf_single (hsize u List.mem_cons_self) hhigh hlow
      simp [encode, hu]
  | case4 u v rest hhigh hlow ih =>
      obtain ⟨text, hrest, rfl⟩ := Option.map_eq_some_iff.mp h
      have hthere := ih (fun w hw => hsize w (List.mem_cons_of_mem _ (List.mem_cons_of_mem _ hw)))
        hrest
      simp only [encode] at hthere
      simp [encode, unitsOf_paired hhigh hlow, hthere]
  | case5 => simp at h
  | case6 => simp at h
  | case7 u v rest hhigh hlow ih =>
      obtain ⟨text, hrest, rfl⟩ := Option.map_eq_some_iff.mp h
      have hu := unitsOf_single (hsize u List.mem_cons_self) (by simpa using hhigh)
        (by simpa using hlow)
      have hthere := ih (fun w hw => hsize w (List.mem_cons_of_mem _ hw)) hrest
      simp only [encode] at hthere
      simp [encode, hu, hthere]

/-- **Decoding inverts encoding**, and nothing else is decoded. -/
theorem decode_eq_some_iff {units : List Nat} {text : List Char}
    (hsize : ∀ u ∈ units, u < 0x10000) : decode units = some text ↔ encode text = units := by
  constructor
  · intro h
    exact encode_of_decode hsize h
  · intro h
    subst h
    exact decode_encode text

theorem unitsOf_lt {c : Char} {u : Nat} (h : u ∈ unitsOf c) : u < 0x10000 := by
  have hvalid : c.toNat < 0xD800 ∨ (0xDFFF < c.toNat ∧ c.toNat < 0x110000) := c.valid
  unfold unitsOf at h
  split at h
  · rw [List.mem_singleton.mp h]
    assumption
  · simp only [List.mem_cons, List.not_mem_nil, or_false] at h
    omega

theorem encode_lt {text : List Char} {u : Nat} (h : u ∈ encode text) : u < 0x10000 := by
  obtain ⟨c, _, hu⟩ := List.mem_flatMap.mp h
  exact unitsOf_lt hu

/-- Only the character of number zero has a unit zero. -/
theorem zero_mem_encode_iff {text : List Char} : 0 ∈ encode text ↔ '\x00' ∈ text := by
  have hunits : ∀ c : Char, 0 ∈ unitsOf c ↔ c = '\x00' := by
    intro c
    have hzero : c = '\x00' ↔ c.toNat = 0 := Char.toNat_inj.symm
    rw [hzero]
    unfold unitsOf
    split
    · rw [List.mem_singleton]
      exact eq_comm
    · simp only [List.mem_cons, List.not_mem_nil, or_false]
      omega
  simp only [encode, List.mem_flatMap, hunits]
  constructor
  · intro h
    obtain ⟨c, hc, rfl⟩ := h
    exact hc
  · intro h
    exact ⟨_, h, rfl⟩

end Utf16

namespace Text

theorem unitBytes_cons (u : Nat) (us : List Nat) :
    unitBytes (u :: us) = LittleEndian.encode 2 u ++ unitBytes us := List.flatMap_cons

/-- What is read as units was there, with the zero behind it. -/
theorem units_ok {s s' : Source} {us : List Nat} (h : units s = .ok us s') :
    (∀ u ∈ us, u ≠ 0 ∧ u < LittleEndian.span 2) ∧
      ∃ rest, s.queued = unitBytes (us ++ [0]) ++ rest ∧ s' = { s with queued := rest } := by
  have hunit := Decoder.reads_natural 2 "string"
  fun_induction units s generalizing us with
  | case1 => simp at h
  | case2 s middle hzero =>
      obtain ⟨rfl, rfl⟩ := EStateM.Result.ok.inj h
      obtain ⟨bytes, rest, ⟨_, rfl⟩, hqueued, rfl⟩ := (hunit _ _ _).mp hzero
      exact ⟨by simp, rest, hqueued, rfl⟩
  | case3 => simp at h
  | case4 s u middle hfirst hne us last hrest ih =>
      obtain ⟨rfl, rfl⟩ := EStateM.Result.ok.inj h
      obtain ⟨bytes, behind, ⟨hlt, rfl⟩, hqueued, rfl⟩ := (hunit _ _ _).mp hfirst
      obtain ⟨hus, rest, hbehind, rfl⟩ := ih hrest
      refine ⟨List.forall_mem_cons.mpr ⟨⟨hne, hlt⟩, hus⟩, rest, ?_, rfl⟩
      rw [List.cons_append, unitBytes_cons, List.append_assoc, ← hbehind]
      exact hqueued

/-- Units that are there, with a zero behind them, are read. -/
theorem units_of_queued {s : Source} {us : List Nat} {rest : Bytes}
    (hus : ∀ u ∈ us, u ≠ 0 ∧ u < LittleEndian.span 2)
    (hqueued : s.queued = unitBytes (us ++ [0]) ++ rest) :
    units s = .ok us { s with queued := rest } := by
  have hunit := Decoder.reads_natural 2 "string"
  induction us generalizing s with
  | nil =>
      have hzero := (hunit s { s with queued := rest } 0).mpr
        ⟨LittleEndian.encode 2 0, rest, ⟨by decide, rfl⟩, hqueued, rfl⟩
      unfold units
      split
      · simp_all
      · simp_all
  | cons u us ih =>
      obtain ⟨⟨hne, hlt⟩, hothers⟩ := List.forall_mem_cons.mp hus
      rw [List.cons_append, unitBytes_cons, List.append_assoc] at hqueued
      have hfirst := (hunit s { s with queued := unitBytes (us ++ [0]) ++ rest } u).mpr
        ⟨_, _, ⟨hlt, rfl⟩, hqueued, rfl⟩
      have hthere := @ih { s with queued := unitBytes (us ++ [0]) ++ rest } hothers rfl
      unfold units
      split
      · simp_all
      · simp_all

/-- **Units are read** up to the first that is zero, and that one too. -/
theorem reads_units : Decoder.Reads units fun us bytes =>
    (∀ u ∈ us, u ≠ 0 ∧ u < LittleEndian.span 2) ∧ bytes = unitBytes (us ++ [0]) := by
  intro s s' us
  constructor
  · intro h
    obtain ⟨hus, rest, hqueued, hs'⟩ := units_ok h
    exact ⟨_, rest, ⟨hus, rfl⟩, hqueued, hs'⟩
  · intro hspelt
    obtain ⟨_, rest, ⟨hus, rfl⟩, hqueued, rfl⟩ := hspelt
    exact units_of_queued hus hqueued

/-- The text that units spell takes no bytes of its own. -/
theorem reads_ofUnits (us : List Nat) :
    Decoder.Reads (match ofUnits us with
      | .ok text => pure text
      | .error e => throw e)
      fun text bytes => Utf16.decode us = some text.toList ∧ bytes = [] := by
  cases hdecode : Utf16.decode us with
  | none =>
      intro s s' text
      simp only [ofUnits, hdecode]
      constructor
      · intro h
        exact absurd h throw_ne_ok
      · intro hspelt
        obtain ⟨_, _, ⟨hnone, _⟩, _⟩ := hspelt
        simp at hnone
  | some found =>
      simp only [ofUnits, hdecode]
      refine (Decoder.reads_pure (String.ofList found)).congr fun text bytes => ?_
      rw [Option.some_inj, ← String.toList_inj, String.toList_ofList, eq_comm]

/-- **A string is read** just where its own bytes stand, if it holds no character of
number zero. -/
theorem reads_decoder : decoder.Reads fun text bytes =>
    '\x00' ∉ text.toList ∧ bytes = encode text := by
  refine (reads_units.bind reads_ofUnits).congr fun text bytes => ?_
  constructor
  · intro hspelt
    obtain ⟨us, _, _, ⟨hus, rfl⟩, ⟨hdecode, rfl⟩, rfl⟩ := hspelt
    obtain rfl := (Utf16.decode_eq_some_iff fun u hu => (hus u hu).2).mp hdecode
    refine ⟨?_, List.append_nil _⟩
    intro hzero
    exact (hus 0 (Utf16.zero_mem_encode_iff.mpr hzero)).1 rfl
  · intro hspelt
    obtain ⟨hzero, rfl⟩ := hspelt
    refine ⟨Utf16.encode text.toList, _, [], ⟨?_, rfl⟩, ⟨Utf16.decode_encode _, rfl⟩,
      (List.append_nil _).symm⟩
    intro u hu
    refine ⟨?_, Utf16.encode_lt hu⟩
    intro hu0
    subst hu0
    exact hzero (Utf16.zero_mem_encode_iff.mp hu)

end Text

end PictureTransfer
