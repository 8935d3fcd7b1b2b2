import PictureTransfer.Proofs.Wire.Streaming

/-!
# Strings that fill a buffer

A string in a buffer of its own has to fill it, so the buffer is searched as a whole: it is of
even length, and its last unit and no other is zero.  A reader of the same bytes stops behind the
first unit that is zero.  The two meet where that unit is the last and no odd byte stands behind
it: `Text.Filled`.

* `Text.filled_iff` — the buffer is filled just if the reader leaves nothing behind the zero;
* `Text.ofBytes_of_filled`, `Text.decoder_of_filled` — the same units decide both ways;
* `Text.ofBytes_eq_iff` — what these come to for one they come to for the other;
* `Text.buffers_agree_with_streams` — so both give the same text, or the same lone surrogate,
  and what else the buffer is refused for its length alone decides.
-/

namespace PictureTransfer.Text

/-- The first zero unit of a byte string ends it. -/
def Filled (bytes : Bytes) : Prop :=
  bytes.length % 2 = 0 ∧ (spelling bytes).length + 1 = (unitsOfBytes bytes).length

theorem length_unitsOfBytes (bytes : Bytes) : (unitsOfBytes bytes).length = bytes.length / 2 := by
  fun_induction unitsOfBytes bytes with
  | case1 low high rest ih =>
      simp only [List.length_cons, ih]
      omega
  | case2 bytes hshort =>
      rcases bytes with _ | ⟨low, _ | ⟨high, rest⟩⟩
      · simp
      · simp
      · exact absurd rfl (hshort low high rest)

/-- A unit is zero just if the units in front of the first such are not all there are. -/
theorem zero_mem_iff (bytes : Bytes) :
    0 ∈ unitsOfBytes bytes ↔ (spelling bytes).length < (unitsOfBytes bytes).length := by
  unfold spelling
  constructor
  · intro h
    obtain ⟨front, after, hsplit, hfront⟩ := List.eq_append_cons_of_mem h
    have htaken : (unitsOfBytes bytes).takeWhile (· ≠ 0) = front := by
      rw [hsplit, takeWhile_ne_append hfront]
    rw [htaken, hsplit, List.length_append, List.length_cons]
    omega
  · intro h
    by_cases hzero : 0 ∈ unitsOfBytes bytes
    · exact hzero
    · rw [takeWhile_ne_self hzero] at h
      omega

/-- **A buffer is filled** just if its first zero unit has nothing behind it. -/
theorem filled_iff (s : Source) :
    Filled s.queued ↔ 0 ∈ unitsOfBytes s.queued ∧ behind s = { s with queued := [] } := by
  have hunits := length_unitsOfBytes s.queued
  have hbehind : behind s = { s with queued := [] } ↔
      s.queued.length ≤ ((spelling s.queued).length + 1) * 2 := by
    simp [behind, List.drop_eq_nil_iff]
  rw [hbehind, zero_mem_iff, Filled]
  omega

theorem ofBytes_of_filled {bytes : Bytes} (h : Filled bytes) :
    ofBytes bytes = ofUnits (spelling bytes) := by
  obtain ⟨heven, hlast⟩ := h
  have hfits : ¬ bytes.length % 2 ≠ 0 := by omega
  rw [ofBytes, if_neg hfits]
  exact if_pos hlast

/-- A buffer that is not filled is refused, for its length if that is odd. -/
theorem ofBytes_of_not_filled {bytes : Bytes} (h : ¬ Filled bytes) :
    ofBytes bytes = .error (if bytes.length % 2 = 1 then
      .wrongLength "string" (bytes.length + 1) bytes.length else .missingTerminator) := by
  by_cases hodd : bytes.length % 2 = 1
  · have hlength : bytes.length % 2 ≠ 0 := by omega
    rw [ofBytes, if_pos hlength, if_pos hodd]
  · have hlength : ¬ bytes.length % 2 ≠ 0 := by omega
    have hlast : ¬ (spelling bytes).length + 1 = (unitsOfBytes bytes).length := by
      intro hlast
      exact h ⟨by omega, hlast⟩
    rw [ofBytes, if_neg hlength, if_neg hodd]
    exact if_neg hlast

variable {s : Source} {verdict : Except WireError String}

/-- The end of a reader that leaves nothing. -/
def spent (s : Source) : Except WireError String → EStateM.Result WireError Source String
  | .ok text => .ok text { s with queued := [] }
  | .error e => .error e { s with queued := [] }

theorem spent_inj {others : Except WireError String} :
    spent s verdict = spent s others ↔ verdict = others := by
  cases verdict with
  | ok text => cases others <;> simp [spent]
  | error e => cases others <;> simp [spent]

/-- What units can come to: they spell a text, or a surrogate stands alone. -/
inductive Spells : Except WireError String → Prop
  | text (text : String) : Spells (.ok text)
  | invalid : Spells (.error .invalidUtf16)

theorem spells_ofUnits (units : List Nat) : Spells (ofUnits units) := by
  unfold ofUnits
  cases Utf16.decode units with
  | some text => exact .text (String.ofList text)
  | none => exact .invalid

/-- A reader of a filled buffer leaves nothing, whatever the units spell. -/
theorem decoder_of_filled (h : Filled s.queued) :
    decoder s = spent s (ofUnits (spelling s.queued)) := by
  obtain ⟨hzero, hbehind⟩ := (filled_iff s).mp h
  rw [decoder, bind_of_ok (units_of_zero hzero), hbehind]
  cases ofUnits (spelling s.queued) with
  | ok text => rfl
  | error e => rfl

/-- Where a reader has come to a zero unit and leaves nothing, the buffer is filled. -/
theorem filled_of_spent (hverdict : Spells verdict) (h : decoder s = spent s verdict) :
    Filled s.queued := by
  apply (filled_iff s).mpr
  cases hverdict with
  | text text =>
      obtain ⟨hbehind, -⟩ := decoder_took h
      obtain ⟨hzero, -⟩ := decoder_ok_iff.mp ⟨text, _, h⟩
      exact ⟨hzero, hbehind.symm⟩
  | invalid =>
      obtain ⟨hzero, -, hbehind⟩ := decoder_invalid_iff.mp h
      exact ⟨hzero, hbehind.symm⟩

/-- **The buffer comes to what its units spell** just if its reader does and leaves nothing. -/
theorem ofBytes_eq_iff (hverdict : Spells verdict) :
    ofBytes s.queued = verdict ↔ decoder s = spent s verdict := by
  by_cases hfilled : Filled s.queued
  · rw [ofBytes_of_filled hfilled, decoder_of_filled hfilled, spent_inj]
  · constructor
    · intro h
      rw [ofBytes_of_not_filled hfilled] at h
      subst h
      split at hverdict
      · cases hverdict
      · cases hverdict
    · intro h
      exact absurd (filled_of_spent hverdict h) hfilled

/-- **Buffers and streams agree** on every byte string, however a source hands it over.  The
buffer gives a text just if reading its bytes gives that text and leaves nothing, and it is
invalid just if reading them is and leaves nothing.  In all other cases it is refused: for its
length just if that is odd, and for want of a final terminator just if it is even. -/
theorem buffers_agree_with_streams (s : Source) :
    (∀ text, ofBytes s.queued = .ok text ↔ decoder s = .ok text { s with queued := [] }) ∧
    (ofBytes s.queued = .error .invalidUtf16 ↔
      decoder s = .error .invalidUtf16 { s with queued := [] }) ∧
    ((∀ text, decoder s ≠ .ok text { s with queued := [] }) →
      decoder s ≠ .error .invalidUtf16 { s with queued := [] } →
      (ofBytes s.queued =
          .error (.wrongLength "string" (s.queued.length + 1) s.queued.length) ↔
        s.queued.length % 2 = 1) ∧
      (ofBytes s.queued = .error .missingTerminator ↔ s.queued.length % 2 = 0)) := by
  refine ⟨?text, ofBytes_eq_iff .invalid, ?refused⟩
  case text =>
    intro text
    exact ofBytes_eq_iff (.text text)
  case refused =>
    intro hnone hvalid
    have hunfilled : ¬ Filled s.queued := by
      intro hfilled
      have hread := decoder_of_filled hfilled
      have hspells := spells_ofUnits (spelling s.queued)
      generalize ofUnits (spelling s.queued) = verdict at hread hspells
      cases hspells with
      | text text => exact hnone text hread
      | invalid => exact hvalid hread
    rw [ofBytes_of_not_filled hunfilled]
    by_cases hodd : s.queued.length % 2 = 1
    · simp [hodd]
    · have heven : s.queued.length % 2 = 0 := by omega
      simp [heven]

-- Behind a zero unit inside, another unit is one too many and an odd byte is half of one.
example : ofBytes [65, 0, 0, 0, 66, 0] = .error .missingTerminator ∧
    ofBytes [65, 0, 0, 0, 66] = .error (.wrongLength "string" 6 5) := ⟨by rfl, by rfl⟩

end PictureTransfer.Text
