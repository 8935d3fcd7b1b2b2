import PictureTransfer.Proofs.Wire.Counting

/-!
# How far an array reaches

The count in front of an array says how many bytes the array takes, and it is taken at its word,
however few bytes there are.  So the bytes that are there decide what reading comes to: where the
array is there as a whole, just its bytes are taken, and where it is not, the element that runs
out takes what is left and meets the end of the source, or its failure.

* `Decoder.Draws` — a read of a fixed width, and `Sequence.draws_repeated` — as many in a row;
* `Sequence.decoder_whole`, `Sequence.decoder_short` — the count and what it asks for;
* `WireArray.arrays_on_streams` — arrays of every type over every source.
-/

namespace PictureTransfer

namespace Decoder

variable {α β : Type} {decoder : Decoder α} {width : Nat} {what : String}

/-- The decoder takes a fixed count of bytes.  Where they are not all there, it takes those that
are, and the failure behind them. -/
structure Draws (decoder : Decoder α) (width : Nat) (what : String) : Prop where
  whole : ∀ {s : Source}, width ≤ s.queued.length →
    ∃ a, decoder s = .ok a { s with queued := s.queued.drop width }
  short : ∀ {s : Source}, s.queued.length < width →
    decoder s = .error (shortfall what s) { s with queued := [], fault := none }

theorem draws_natural (width : Nat) (what : String) : (natural width what).Draws width what where
  whole {s} h := ⟨_, by rw [natural_eq, if_pos h]⟩
  short {s} h := by
    have hshort : ¬ width ≤ s.queued.length := by omega
    rw [natural_eq, if_neg hshort]

theorem Draws.map (h : decoder.Draws width what) (f : α → β) : (f <$> decoder).Draws width what where
  whole {s} hwhole := by
    obtain ⟨a, ha⟩ := h.whole hwhole
    exact ⟨f a, map_ok_iff.mpr ⟨a, ha, rfl⟩⟩
  short {s} hshort := map_error_iff.mpr (h.short hshort)

end Decoder

namespace Sequence

variable {α : Type} {element : Decoder α} {width : Nat} {what : String}

/-- **Elements in a row** take their widths together.  The one that runs out meets the end. -/
theorem draws_repeated (h : element.Draws width what) (n : Nat) :
    (repeated element n).Draws (n * width) what := by
  induction n with
  | zero =>
      constructor
      · intro s _
        exact ⟨[], by simp [repeated, pure, EStateM.pure]⟩
      · intro s hshort
        omega
  | succ n ih =>
      have hwidth : (n + 1) * width = width + n * width := by
        rw [Nat.succ_mul, Nat.add_comm]
      constructor
      · intro s hwhole
        obtain ⟨x, hfirst⟩ := h.whole (by omega : width ≤ s.queued.length)
        have hothers : n * width ≤ (s.queued.drop width).length := by
          rw [List.length_drop]
          omega
        obtain ⟨xs, hrest⟩ := ih.whole (s := { s with queued := s.queued.drop width }) hothers
        refine ⟨x :: xs, ?_⟩
        rw [repeated, bind_of_ok hfirst, bind_of_ok hrest, List.drop_drop, ← hwidth]
        rfl
      · intro s hshort
        by_cases hfirst : width ≤ s.queued.length
        · obtain ⟨x, hfirst⟩ := h.whole hfirst
          have hothers : (s.queued.drop width).length < n * width := by
            rw [List.length_drop]
            omega
          have hrest := ih.short (s := { s with queued := s.queued.drop width }) hothers
          rw [repeated, bind_of_ok hfirst, bind_of_error hrest]
          rfl
        · rw [repeated, bind_of_error (h.short (by omega))]

/-- The count of elements that the first four bytes declare. -/
def declared (bytes : Bytes) : Nat := LittleEndian.decode (bytes.take 4)

/-- The count of bytes of the sequence that begins there, its elements of a width each. -/
def extent (width : Nat) (bytes : Bytes) : Nat := 4 + declared bytes * width

/-- What a reader lacks where the sequence is not there as a whole. -/
def lacking (what : String) (bytes : Bytes) : String :=
  if bytes.length < 4 then "array count" else what

variable {s : Source}

/-- The count is read and the elements are next. -/
theorem decoder_counted (h : 4 ≤ s.queued.length) :
    decoder element s =
      repeated element (declared s.queued) { s with queued := s.queued.drop 4 } := by
  have hcount : Decoder.natural 4 "array count" s =
      .ok (declared s.queued) { s with queued := s.queued.drop 4 } := by
    rw [Decoder.natural_eq, if_pos h, declared]
  rw [decoder, bind_of_ok hcount]

/-- A sequence that is there as a whole is taken, and nothing else. -/
theorem decoder_whole (h : element.Draws width what)
    (hwhole : extent width s.queued ≤ s.queued.length) :
    ∃ xs, decoder element s =
      .ok xs { s with queued := s.queued.drop (extent width s.queued) } := by
  unfold extent at hwhole ⊢
  have hothers : declared s.queued * width ≤ (s.queued.drop 4).length := by
    rw [List.length_drop]
    omega
  obtain ⟨xs, hxs⟩ :=
    (draws_repeated h (declared s.queued)).whole (s := { s with queued := s.queued.drop 4 }) hothers
  refine ⟨xs, ?_⟩
  rw [decoder_counted (by omega), hxs, List.drop_drop]

/-- A sequence that is not costs every byte there is, whatever its count declares. -/
theorem decoder_short (h : element.Draws width what)
    (hshort : s.queued.length < extent width s.queued) :
    decoder element s = .error (Decoder.shortfall (lacking what s.queued) s)
      { s with queued := [], fault := none } := by
  unfold extent at hshort
  by_cases hcount : s.queued.length < 4
  · rw [decoder, bind_of_error ((Decoder.draws_natural 4 "array count").short hcount), lacking,
      if_pos hcount]
  · have hothers : (s.queued.drop 4).length < declared s.queued * width := by
      rw [List.length_drop]
      omega
    have hrest := (draws_repeated h (declared s.queued)).short
      (s := { s with queued := s.queued.drop 4 }) hothers
    rw [decoder_counted (by omega), hrest, lacking, if_neg hcount]
    rfl

end Sequence

namespace WireInt

theorem draws_decoder (t : IntType) : (decoder t).Draws t.bytes t.name :=
  (Decoder.draws_natural t.bytes t.name).map (ofNat t)

end WireInt

namespace WireArray

open Sequence (declared extent lacking)

variable {t : IntType} {s s' : Source} {a : WireArray t}

/-- **The array at the front** is read, and what stands behind it is left. -/
theorem decoder_ok_iff :
    decoder t s = .ok a s' ↔ ∃ rest, s.queued = a.toBytes ++ rest ∧ s' = { s with queued := rest } := by
  rw [reads_decoder t s s' a]
  constructor
  · intro h
    obtain ⟨_, rest, rfl, hqueued, hs'⟩ := h
    exact ⟨rest, hqueued, hs'⟩
  · intro h
    obtain ⟨rest, hqueued, hs'⟩ := h
    exact ⟨_, rest, rfl, hqueued, hs'⟩

/-- An array declares its own length, whatever follows it. -/
theorem declared_toBytes (a : WireArray t) (rest : Bytes) :
    declared (a.toBytes ++ rest) = a.items.length := by
  have htake : (a.toBytes ++ rest).take 4 = LittleEndian.encode 4 a.items.length := by
    rw [toBytes, Sequence.encode, List.append_assoc,
      List.take_left' (LittleEndian.length_encode ..)]
  rw [declared, htake, LittleEndian.decode_encode_of_lt a.fits]

theorem extent_toBytes (a : WireArray t) (rest : Bytes) :
    extent t.bytes (a.toBytes ++ rest) = a.toBytes.length := by
  rw [extent, declared_toBytes, length_toBytes, encodedLength]

/-- What was read is the array that the count declared, and its bytes are those it took. -/
theorem decoder_took (h : decoder t s = .ok a s') :
    a.items.length = declared s.queued ∧
      s' = { s with queued := s.queued.drop (extent t.bytes s.queued) } ∧
      a.toBytes = s.queued.take (extent t.bytes s.queued) := by
  obtain ⟨rest, hqueued, rfl⟩ := decoder_ok_iff.mp h
  rw [hqueued, declared_toBytes, extent_toBytes, List.drop_left, List.take_left]
  exact ⟨rfl, rfl, rfl⟩

/-- An array that is there as a whole is read. -/
theorem decoder_of_whole (h : extent t.bytes s.queued ≤ s.queued.length) :
    ∃ a s', decoder t s = .ok a s' := by
  obtain ⟨items, hitems⟩ := Sequence.decoder_whole (WireInt.draws_decoder t) h
  obtain ⟨_, _, ⟨hfits, -⟩, -, -⟩ :=
    (Sequence.reads_decoder (WireInt.reads_decoder t) _ _ _).mp hitems
  refine ⟨⟨items, hfits⟩, { s with queued := s.queued.drop (extent t.bytes s.queued) }, ?_⟩
  rw [decoder, bind_of_ok hitems, ofItems, dif_pos hfits]
  rfl

/-- An array that is not there as a whole costs every byte there is. -/
theorem decoder_of_short (h : s.queued.length < extent t.bytes s.queued) :
    decoder t s = .error (Decoder.shortfall (lacking t.name s.queued) s)
      { s with queued := [], fault := none } := by
  rw [decoder, bind_of_error (Sequence.decoder_short (WireInt.draws_decoder t) h)]

/-- Reading fails just where the array is not there as a whole. -/
theorem decoder_error {e : WireError} (h : decoder t s = .error e s') :
    e = Decoder.shortfall (lacking t.name s.queued) s ∧
      s' = { s with queued := [], fault := none } := by
  by_cases hwhole : extent t.bytes s.queued ≤ s.queued.length
  · obtain ⟨a, last, ha⟩ := decoder_of_whole hwhole
    simp [ha] at h
  · rw [decoder_of_short (by omega)] at h
    obtain ⟨rfl, rfl⟩ := EStateM.Result.error.inj h
    exact ⟨rfl, rfl⟩

theorem ofBytes_ok_iff {bytes : Bytes} :
    ofBytes t bytes = .ok a ↔ ∃ rest, bytes = a.toBytes ++ rest := by
  have hofBytes : ofBytes t bytes = .ok a ↔ ∃ s', decoder t (.ofBytes bytes) = .ok a s' := by
    rw [ofBytes]
    cases decoder t (.ofBytes bytes) with
    | ok found left => simp
    | error e left => simp
  rw [hofBytes]
  constructor
  · intro h
    obtain ⟨s', hs'⟩ := h
    obtain ⟨rest, hqueued, -⟩ := decoder_ok_iff.mp hs'
    exact ⟨rest, hqueued⟩
  · intro h
    obtain ⟨rest, rfl⟩ := h
    exact ⟨_, decoder_ok_iff.mpr ⟨rest, rfl, rfl⟩⟩

/-- **Arrays on a stream**, of every integer type.  An array is read just where its count and all
the elements that it declares are there.  Reading takes these bytes and nothing else, they are
those of the array, and in a buffer the bytes behind them do not count.  Where they are not all
there, whatever the count declares, reading takes every byte there is and fails with the failure
of the source if there is one, or with its end.  The bytes of an array with anything behind them
are read back, and that is left; its length is that of its bytes. -/
theorem arrays_on_streams (t : IntType) (s : Source) :
    ((∃ a s', decoder t s = .ok a s') ↔
      4 ≤ s.queued.length ∧ extent t.bytes s.queued ≤ s.queued.length) ∧
    (∀ a s', decoder t s = .ok a s' →
      a.items.length = declared s.queued ∧
      s' = { s with queued := s.queued.drop (extent t.bytes s.queued) } ∧
      a.toBytes = s.queued.take (extent t.bytes s.queued)) ∧
    (∀ a, ofBytes t s.queued = .ok a ↔ ∃ rest, s.queued = a.toBytes ++ rest) ∧
    (∀ e s', decoder t s = .error e s' →
      s' = { s with queued := [], fault := none } ∧
      (∀ fault, s.fault = some fault → fault.kind = .other → e = .io fault) ∧
      ((∀ fault, s.fault = some fault → fault.kind ≠ .other) →
        e = .endOfStream (lacking t.name s.queued))) ∧
    (∀ a rest, s.queued = a.toBytes ++ rest → decoder t s = .ok a { s with queued := rest }) ∧
    (∀ a : WireArray t, a.encodedLength = a.toBytes.length) := by
  refine ⟨?succeeds, ?took, ?buffer, ?fails, ?back, ?length⟩
  case succeeds =>
    constructor
    · intro h
      obtain ⟨a, s', ha⟩ := h
      obtain ⟨rest, hqueued, -⟩ := decoder_ok_iff.mp ha
      rw [hqueued, extent_toBytes, List.length_append, length_toBytes, encodedLength]
      omega
    · intro h
      exact decoder_of_whole h.2
  case took =>
    intro a s' h
    exact decoder_took h
  case buffer =>
    intro a
    exact ofBytes_ok_iff
  case fails =>
    intro e s' h
    obtain ⟨rfl, rfl⟩ := decoder_error h
    refine ⟨rfl, ?_, ?_⟩
    · intro fault hfault hkind
      exact Decoder.shortfall_of_fault _ hfault hkind
    · intro hend
      exact Decoder.shortfall_of_end _ hend
  case back =>
    intro a rest h
    exact decoder_ok_iff.mpr ⟨rest, h, rfl⟩
  case length =>
    intro a
    exact (length_toBytes a).symm

end WireArray

end PictureTransfer
