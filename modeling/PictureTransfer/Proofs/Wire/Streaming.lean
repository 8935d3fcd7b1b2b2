import PictureTransfer.Proofs.Wire.Lettering

/-!
# Strings on a stream

What reading a string comes to, over every source.  The bytes that are there make up units, two
each from the first one on; a zero byte that ends one unit and a zero byte that begins the next
make none.  The string is spelt by the units in front of the first that is zero.  If these spell
a text, it is read, and its bytes are those that reading it took.  If they do not, because a
surrogate stands alone, reading fails behind the zero unit.  If no unit is zero, it fails at the
end of the source.

* `Utf16.wellFormed_iff` — units spell a text just if each surrogate is part of a pair;
* `Text.queued_eq` — the bytes through the first zero unit;
* `Text.decoder_eq` — what reading comes to in the three cases, and `Text.decoder_ok_iff`,
  `Text.decoder_invalid_iff`, `Text.decoder_end_iff` one by one;
* `Text.read_back_cut` — a text that holds the character of number zero is read up to there;
* `Text.strings_on_streams` — all of this in one.
-/

namespace PictureTransfer

namespace Utf16

/-- Units in which each surrogate is part of a pair. -/
inductive WellFormed : List Nat → Prop
  | nil : WellFormed []
  | single {u : Nat} {units : List Nat} (hhigh : isHigh u = false) (hlow : isLow u = false)
      (behind : WellFormed units) : WellFormed (u :: units)
  | pair {u v : Nat} {units : List Nat} (hhigh : isHigh u = true) (hlow : isLow v = true)
      (behind : WellFormed units) : WellFormed (u :: v :: units)

variable {units : List Nat}

theorem decode_of_wellFormed (h : WellFormed units) : ∃ text, decode units = some text := by
  induction h with
  | nil => exact ⟨[], rfl⟩
  | single hhigh hlow _ ih =>
      obtain ⟨text, htext⟩ := ih
      exact ⟨_, by rw [decode_single hhigh hlow, htext, Option.map_some]⟩
  | pair hhigh hlow _ ih =>
      obtain ⟨text, htext⟩ := ih
      exact ⟨_, by rw [decode_pair hhigh hlow, htext, Option.map_some]⟩

theorem wellFormed_of_decode {text : List Char} (h : decode units = some text) :
    WellFormed units := by
  fun_induction decode units generalizing text with
  | case1 => exact .nil
  | case2 => simp at h
  | case3 u hsurrogate =>
      obtain ⟨hhigh, hlow⟩ : isHigh u = false ∧ isLow u = false := by simpa using hsurrogate
      exact .single hhigh hlow .nil
  | case4 u v rest hhigh hlow ih =>
      obtain ⟨others, hrest, -⟩ := Option.map_eq_some_iff.mp h
      exact .pair hhigh hlow (ih hrest)
  | case5 => simp at h
  | case6 => simp at h
  | case7 u v rest hhigh hlow ih =>
      obtain ⟨others, hrest, -⟩ := Option.map_eq_some_iff.mp h
      exact .single (by simpa using hhigh) (by simpa using hlow) (ih hrest)

/-- **Units spell a text** just if they are well-formed. -/
theorem wellFormed_iff : WellFormed units ↔ ∃ text, decode units = some text := by
  constructor
  · intro h
    exact decode_of_wellFormed h
  · intro h
    obtain ⟨text, htext⟩ := h
    exact wellFormed_of_decode htext

instance (units : List Nat) : Decidable (WellFormed units) :=
  decidable_of_iff ((decode units).isSome = true)
    (Option.isSome_iff_exists.trans wellFormed_iff.symm)

-- The two halves of a pair are no pair the other way round.
example : WellFormed [0xD83D, 0xDE00] ∧ ¬ WellFormed [0xDE00, 0xD83D] := by decide

end Utf16

section Front

variable {α : Type} [DecidableEq α] {a : α} {front : List α}

theorem takeWhile_ne_append (h : a ∉ front) (after : List α) :
    (front ++ a :: after).takeWhile (· ≠ a) = front := by
  rw [List.takeWhile_append_of_pos (by grind)]
  simp

theorem takeWhile_ne_self (h : a ∉ front) : front.takeWhile (· ≠ a) = front := by
  have hall := @List.takeWhile_append_of_pos α (· ≠ a) front [] (by grind)
  rwa [List.takeWhile_nil, List.append_nil] at hall

end Front

namespace Text

/-- The units in front of the first zero unit of a byte string, or all units if none is zero. -/
def spelling (bytes : Bytes) : List Nat := (unitsOfBytes bytes).takeWhile (· ≠ 0)

/-- The source behind the first zero unit. -/
def behind (s : Source) : Source :=
  { s with queued := s.queued.drop (((spelling s.queued).length + 1) * 2) }

theorem unitBytes_append (us vs : List Nat) :
    unitBytes (us ++ vs) = unitBytes us ++ unitBytes vs := List.flatMap_append

/-- The bytes of the units of a byte string stand at its front. -/
theorem unitBytes_unitsOfBytes (bytes : Bytes) :
    (∀ u ∈ unitsOfBytes bytes, u < LittleEndian.span 2) ∧
      ∃ odd, bytes = unitBytes (unitsOfBytes bytes) ++ odd := by
  fun_induction unitsOfBytes bytes with
  | case1 low high rest ih =>
      obtain ⟨hbelow, odd, hrest⟩ := ih
      refine ⟨List.forall_mem_cons.mpr ⟨LittleEndian.decode_lt [low, high], hbelow⟩, odd, ?_⟩
      have hunit : LittleEndian.encode 2 (LittleEndian.decode [low, high]) = [low, high] :=
        LittleEndian.encode_decode [low, high]
      rw [unitBytes_cons, hunit, List.append_assoc, ← hrest]
      rfl
  | case2 bytes _ => exact ⟨by simp, bytes, rfl⟩

/-- **The bytes through the first zero unit** are those of the units in front of it, none of
which is zero, and of the zero. -/
theorem queued_eq {s : Source} (h : 0 ∈ unitsOfBytes s.queued) :
    (∀ u ∈ spelling s.queued, u ≠ 0 ∧ u < LittleEndian.span 2) ∧
      s.queued = unitBytes (spelling s.queued ++ [0]) ++ (behind s).queued := by
  obtain ⟨hbelow, odd, hbytes⟩ := unitBytes_unitsOfBytes s.queued
  obtain ⟨front, after, hsplit, hzero⟩ := List.eq_append_cons_of_mem h
  have hspelling : spelling s.queued = front := by
    rw [spelling, hsplit, takeWhile_ne_append hzero]
  have hqueued : s.queued = unitBytes (front ++ [0]) ++ (unitBytes after ++ odd) := by
    rw [← List.append_assoc, ← unitBytes_append, List.append_assoc, List.singleton_append,
      ← hsplit, ← hbytes]
  have hbehind : (behind s).queued = unitBytes after ++ odd := by
    have hlength : (unitBytes (front ++ [0])).length = (front.length + 1) * 2 := by
      simp [length_unitBytes]
    have hdrop : (behind s).queued = s.queued.drop ((front.length + 1) * 2) := by
      rw [behind, hspelling]
    rw [hdrop, hqueued, List.drop_left' hlength]
  rw [hspelling, hbehind]
  refine ⟨?_, hqueued⟩
  intro u hu
  refine ⟨?_, hbelow u (hsplit ▸ List.mem_append_left _ hu)⟩
  intro hu0
  exact hzero (hu0 ▸ hu)

/-- Units are read up to the first that is zero. -/
theorem units_of_zero {s : Source} (h : 0 ∈ unitsOfBytes s.queued) :
    units s = .ok (spelling s.queued) (behind s) := by
  obtain ⟨hunits, hqueued⟩ := queued_eq h
  exact units_of_queued hunits hqueued

theorem unitsOfBytes_encode_append {u : Nat} (h : u < LittleEndian.span 2) (rest : Bytes) :
    unitsOfBytes (LittleEndian.encode 2 u ++ rest) = u :: unitsOfBytes rest := by
  have hunit := LittleEndian.decode_encode_of_lt h
  simp only [LittleEndian.encode] at hunit ⊢
  simp only [List.cons_append, List.nil_append, unitsOfBytes, hunit]

/-- Where no unit is zero, units are read to the end of the source. -/
theorem units_of_no_zero {s : Source} (h : 0 ∉ unitsOfBytes s.queued) :
    units s = .error (Decoder.shortfall "string" s) { s with queued := [], fault := none } := by
  have hunit := Decoder.reads_natural 2 "string"
  fun_induction units s with
  | case1 s e left hfirst =>
      rw [Decoder.natural_eq] at hfirst
      split at hfirst
      · simp at hfirst
      · obtain ⟨rfl, rfl⟩ := EStateM.Result.error.inj hfirst
        rfl
  | case2 s middle hfirst =>
      obtain ⟨_, rest, ⟨hlt, rfl⟩, hqueued, rfl⟩ := (hunit _ _ _).mp hfirst
      rw [hqueued, unitsOfBytes_encode_append hlt] at h
      exact absurd List.mem_cons_self h
  | case3 s u middle hfirst hne e last hrest ih =>
      obtain ⟨_, rest, ⟨hlt, rfl⟩, hqueued, rfl⟩ := (hunit _ _ _).mp hfirst
      rw [hqueued, unitsOfBytes_encode_append hlt] at h
      rw [← hrest]
      exact ih fun hzero => h (List.mem_cons_of_mem _ hzero)
  | case4 s u middle hfirst hne us last hrest ih =>
      obtain ⟨_, rest, ⟨hlt, rfl⟩, hqueued, rfl⟩ := (hunit _ _ _).mp hfirst
      rw [hqueued, unitsOfBytes_encode_append hlt] at h
      have hnone := ih fun hzero => h (List.mem_cons_of_mem _ hzero)
      simp [hrest] at hnone

/-- **What reading a string comes to.** -/
theorem decoder_eq (s : Source) :
    decoder s =
      if 0 ∈ unitsOfBytes s.queued then
        match Utf16.decode (spelling s.queued) with
        | some text => .ok (String.ofList text) (behind s)
        | none => .error .invalidUtf16 (behind s)
      else .error (Decoder.shortfall "string" s) { s with queued := [], fault := none } := by
  split
  · next hzero =>
    rw [decoder, bind_of_ok (units_of_zero hzero), ofUnits]
    cases hdecode : Utf16.decode (spelling s.queued) with
    | some text => rfl
    | none => rfl
  · next hzero => rw [decoder, bind_of_error (units_of_no_zero hzero)]

variable {s s' : Source} {text : String}

/-- **A string is read** where a unit is zero and those in front of it are well-formed. -/
theorem decoder_ok_iff : (∃ text s', decoder s = .ok text s') ↔
    0 ∈ unitsOfBytes s.queued ∧ Utf16.WellFormed (spelling s.queued) := by
  rw [decoder_eq, Utf16.wellFormed_iff]
  by_cases hzero : 0 ∈ unitsOfBytes s.queued
  · rw [if_pos hzero]
    cases Utf16.decode (spelling s.queued) with
    | some text => simp [hzero]
    | none => simp
  · simp [hzero]

/-- What was read of a source is the bytes of the string, through the first zero unit. -/
theorem decoder_took (h : decoder s = .ok text s') :
    s' = behind s ∧ s.queued = encode text ++ s'.queued := by
  rw [decoder_eq] at h
  split at h
  · next hzero =>
    obtain ⟨hunits, hqueued⟩ := queued_eq hzero
    split at h
    · next found hdecode =>
      obtain ⟨rfl, rfl⟩ := EStateM.Result.ok.inj h
      have hencode : Utf16.encode found = spelling s.queued :=
        Utf16.encode_of_decode (fun u hu => (hunits u hu).2) hdecode
      refine ⟨rfl, ?_⟩
      rw [encode, String.toList_ofList, hencode]
      exact hqueued
    · simp at h
  · simp at h

/-- The end of a source, or its failure, is no fault of a string. -/
theorem shortfall_ne_invalid (what : String) (s : Source) :
    Decoder.shortfall what s ≠ .invalidUtf16 := by
  unfold Decoder.shortfall
  cases s.pending with
  | none => simp
  | some fault =>
      simp only [WireError.ofFault]
      split
      · simp
      · simp

/-- **A lone surrogate** in front of the first zero unit, and nothing else, makes a string
invalid.  It is read through that unit. -/
theorem decoder_invalid_iff : decoder s = .error .invalidUtf16 s' ↔
    0 ∈ unitsOfBytes s.queued ∧ ¬ Utf16.WellFormed (spelling s.queued) ∧ s' = behind s := by
  rw [decoder_eq, Utf16.wellFormed_iff]
  by_cases hzero : 0 ∈ unitsOfBytes s.queued
  · rw [if_pos hzero]
    cases Utf16.decode (spelling s.queued) with
    | some text => simp
    | none => simp [hzero, eq_comm]
  · simp [hzero, shortfall_ne_invalid]

/-- **The end of a source** that does not fail is met where no unit is zero. -/
theorem decoder_end_iff (hpending : s.pending = none) :
    (∃ s', decoder s = .error (.endOfStream "string") s') ↔ 0 ∉ unitsOfBytes s.queued := by
  have hshort : Decoder.shortfall "string" s = .endOfStream "string" := by
    rw [Decoder.shortfall, hpending]
  rw [decoder_eq, hshort]
  by_cases hzero : 0 ∈ unitsOfBytes s.queued
  · rw [if_pos hzero]
    cases Utf16.decode (spelling s.queued) with
    | some text => simp [hzero]
    | none => simp [hzero]
  · simp [hzero]

/-- The bytes of texts, as those of units. -/
theorem spelt_iff {bytes : Bytes} :
    (∃ text : String, '\x00' ∉ text.toList ∧ bytes = encode text) ↔
      ∃ units, (∀ u ∈ units, u ≠ 0 ∧ u < LittleEndian.span 2) ∧ Utf16.WellFormed units ∧
        bytes = unitBytes (units ++ [0]) := by
  constructor
  · intro h
    obtain ⟨text, hplain, rfl⟩ := h
    refine ⟨Utf16.encode text.toList, ?_, ?_, rfl⟩
    · intro u hu
      refine ⟨?_, Utf16.encode_lt hu⟩
      rintro rfl
      exact hplain (Utf16.zero_mem_encode_iff.mp hu)
    · exact Utf16.wellFormed_of_decode (Utf16.decode_encode text.toList)
  · intro h
    obtain ⟨units, hunits, hwell, rfl⟩ := h
    obtain ⟨text, hdecode⟩ := Utf16.decode_of_wellFormed hwell
    have hencode := Utf16.encode_of_decode (fun u hu => (hunits u hu).2) hdecode
    refine ⟨String.ofList text, ?_, ?_⟩
    · rw [String.toList_ofList]
      intro hzero
      rw [← Utf16.zero_mem_encode_iff, hencode] at hzero
      exact (hunits 0 hzero).1 rfl
    · rw [encode, String.toList_ofList, hencode]

/-- The part of a text in front of its first character of number zero. -/
def cut (text : String) : String := String.ofList (text.toList.takeWhile (· ≠ '\x00'))

theorem cut_plain (text : String) : '\x00' ∉ (cut text).toList := by
  rw [cut, String.toList_ofList]
  have hall := @List.all_takeWhile Char (· ≠ '\x00') text.toList
  grind

theorem cut_of_plain (h : '\x00' ∉ text.toList) : cut text = text := by
  rw [cut, takeWhile_ne_self h, String.ofList_toList]

/-- The bytes of a text that holds the character of number zero are those of two texts: the part
in front of it and what stands behind it. -/
theorem encode_of_zero (h : '\x00' ∈ text.toList) :
    ∃ others, encode text = encode (cut text) ++ encode others := by
  obtain ⟨front, after, hsplit, hfront⟩ := List.eq_append_cons_of_mem h
  have hcut : (cut text).toList = front := by
    rw [cut, String.toList_ofList, hsplit, takeWhile_ne_append hfront]
  have hunits : Utf16.encode text.toList = Utf16.encode front ++ 0 :: Utf16.encode after := by
    rw [hsplit, Utf16.encode, List.flatMap_append, List.flatMap_cons]
    rfl
  refine ⟨String.ofList after, ?_⟩
  rw [encode, encode, encode, hcut, hunits, String.toList_ofList, ← unitBytes_append]
  simp

/-- The bytes of the part stand at the front of those of the text. -/
theorem encode_cut (text : String) : ∃ after, encode text = encode (cut text) ++ after := by
  by_cases hzero : '\x00' ∈ text.toList
  · obtain ⟨others, hothers⟩ := encode_of_zero hzero
    exact ⟨encode others, hothers⟩
  · rw [cut_of_plain hzero]
    exact ⟨[], (List.append_nil _).symm⟩

/-- **A text is read back** up to its first character of number zero. -/
theorem read_back_cut {rest : Bytes} (h : s.queued = encode text ++ rest) :
    ∃ after, s.queued = encode (cut text) ++ after ∧
      decoder s = .ok (cut text) { s with queued := after } ∧
      ('\x00' ∉ text.toList → cut text = text ∧ after = rest) := by
  obtain ⟨others, hothers⟩ := encode_cut text
  have hqueued : s.queued = encode (cut text) ++ (others ++ rest) := by
    rw [h, hothers, List.append_assoc]
  refine ⟨others ++ rest, hqueued, ?_, ?_⟩
  · exact (reads_decoder _ _ _).mpr ⟨_, _, ⟨cut_plain text, rfl⟩, hqueued, rfl⟩
  · intro hplain
    rw [cut_of_plain hplain] at hothers ⊢
    obtain rfl : others = [] := List.self_eq_append_right.mp hothers
    exact ⟨rfl, rfl⟩

/-- **Strings on a stream.**  Of the bytes of a text with anything behind them, the part in
front of its first character of number zero is read, that is all of it if there is none, and
what stands behind the zero unit is left; the length of a text is that of its bytes.  Whatever
the bytes of a source are, a string is read just if one of their units is zero and those in front
of the first such are well-formed, and its bytes are then those that were taken.  If they are
not well-formed, reading fails as invalid behind the zero unit, and for no other reason; and the
end of the source is met just if no unit is zero. -/
theorem strings_on_streams (s : Source) :
    (∀ text rest, s.queued = encode text ++ rest →
      ∃ after, s.queued = encode (cut text) ++ after ∧
        decoder s = .ok (cut text) { s with queued := after } ∧
        ('\x00' ∉ text.toList → cut text = text ∧ after = rest)) ∧
    (∀ text, encodedLength text = (encode text).length) ∧
    ((∃ text s', decoder s = .ok text s') ↔
      0 ∈ unitsOfBytes s.queued ∧ Utf16.WellFormed (spelling s.queued)) ∧
    (∀ text s', decoder s = .ok text s' → s' = behind s ∧ s.queued = encode text ++ s'.queued) ∧
    (∀ s', decoder s = .error .invalidUtf16 s' ↔
      0 ∈ unitsOfBytes s.queued ∧ ¬ Utf16.WellFormed (spelling s.queued) ∧ s' = behind s) ∧
    (s.pending = none → ((∃ s', decoder s = .error (.endOfStream "string") s') ↔
      0 ∉ unitsOfBytes s.queued)) := by
  refine ⟨?back, ?length, decoder_ok_iff, ?took, ?invalid, decoder_end_iff⟩
  case back =>
    intro text rest h
    exact read_back_cut h
  case length =>
    intro text
    exact (length_encode text).symm
  case took =>
    intro text s' h
    exact decoder_took h
  case invalid =>
    intro s'
    exact decoder_invalid_iff

end Text

end PictureTransfer
