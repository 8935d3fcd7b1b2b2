import PictureTransfer.Proofs.Wire.Streaming

/-!
# More bytes behind those that were read

A decoder that has read a value, or has found the bytes to spell none, comes to the same when
more bytes stand behind.  Only where it runs out of bytes might more of them change that.  A
decoder of this kind is steady, and so is one steady decoder behind another; a value of which the
last bytes are missing is then told by the end of the source and by nothing else.

* `Decoder.Steady.of_reads` — a decoder that fails for want of bytes only;
* `Decoder.Steady.bind` — one steady decoder behind another;
* `Decoder.Steady.cut_off` — less than the bytes of a value.
-/

namespace PictureTransfer

/-- The source with more bytes behind its own. -/
def Source.followed (s : Source) (more : Bytes) : Source := { s with queued := s.queued ++ more }

namespace Decoder

variable {α β : Type}

/-- What the decoder comes to it comes to with more bytes behind as well, unless it ran out of
bytes. -/
structure Steady (decoder : Decoder α) : Prop where
  ok : ∀ {s s' : Source} {a : α}, decoder s = .ok a s' →
    (∃ rest, s' = { s with queued := rest }) ∧
      ∀ more, decoder (s.followed more) = .ok a (s'.followed more)
  error : ∀ {s s' : Source} {e : WireError}, decoder s = .error e s' →
    (∃ what, e = shortfall what s) ∨ ∀ more, ∃ last, decoder (s.followed more) = .error e last

/-- A decoder that reads what spells its values is steady if it fails for want of bytes only. -/
theorem Steady.of_reads {decoder : Decoder α} {spells : α → Bytes → Prop}
    (hreads : decoder.Reads spells)
    (hshort : ∀ {s s' e}, decoder s = .error e s' → ∃ what, e = shortfall what s) :
    decoder.Steady where
  ok {s s' a} h := by
    obtain ⟨bytes, rest, hspelt, hqueued, rfl⟩ := (hreads _ _ _).mp h
    refine ⟨⟨rest, rfl⟩, ?_⟩
    intro more
    apply (hreads _ _ _).mpr
    refine ⟨bytes, rest ++ more, hspelt, ?_, rfl⟩
    rw [Source.followed, hqueued, List.append_assoc]
  error h := .inl (hshort h)

theorem steady_pure (a : α) : (pure a : Decoder α).Steady :=
  .of_reads (reads_pure a) fun h => by simp [pure, EStateM.pure] at h

theorem steady_throw (e : WireError) : (throw e : Decoder α).Steady where
  ok h := absurd h throw_ne_ok
  error {s s' e'} h := by
    obtain ⟨rfl, rfl⟩ := throw_error_iff.mp h
    exact .inr fun more => ⟨s.followed more, rfl⟩

theorem steady_natural (width : Nat) (what : String) : (natural width what).Steady := by
  refine .of_reads (reads_natural width what) ?_
  intro s s' e h
  rw [natural_eq] at h
  split at h
  · simp at h
  · obtain ⟨rfl, -⟩ := EStateM.Result.error.inj h
    exact ⟨what, rfl⟩

/-- **One steady decoder behind another.** -/
theorem Steady.bind {first : Decoder α} {next : α → Decoder β} (hfirst : first.Steady)
    (hnext : ∀ a, (next a).Steady) : (first >>= next).Steady where
  ok {s s' b} h := by
    obtain ⟨a, middle, hs, hb⟩ := bind_ok_iff.mp h
    obtain ⟨⟨left, rfl⟩, hfollowed⟩ := hfirst.ok hs
    obtain ⟨⟨rest, rfl⟩, hbehind⟩ := (hnext a).ok hb
    refine ⟨⟨rest, rfl⟩, ?_⟩
    intro more
    rw [bind_of_ok (hfollowed more)]
    exact hbehind more
  error {s s' e} h := by
    rcases bind_error_iff.mp h with hs | ⟨a, middle, hs, he⟩
    · rcases hfirst.error hs with hshort | hfails
      · exact .inl hshort
      · right
        intro more
        obtain ⟨last, hlast⟩ := hfails more
        exact ⟨last, bind_of_error hlast next⟩
    · obtain ⟨⟨left, rfl⟩, hfollowed⟩ := hfirst.ok hs
      rcases (hnext a).error he with ⟨what, rfl⟩ | hfails
      · -- What was read in front leaves the failure of the source where it is.
        exact .inl ⟨what, rfl⟩
      · right
        intro more
        obtain ⟨last, hlast⟩ := hfails more
        exact ⟨last, by rw [bind_of_ok (hfollowed more), hlast]⟩

/-- **Less than the bytes of a value** come to the end of the source. -/
theorem Steady.cut_off {decoder : Decoder α} (h : decoder.Steady) {bytes cut : Bytes} {a : α}
    (hwhole : decoder (.ofBytes bytes) = .ok a (.ofBytes [])) (hcut : cut <+: bytes)
    (hne : cut ≠ bytes) :
    ∃ what s, decoder (.ofBytes cut) = .error (.endOfStream what) s := by
  obtain ⟨more, rfl⟩ := hcut
  cases hread : decoder (.ofBytes cut) with
  | ok b s =>
      -- The same value would be read of all the bytes, and the missing ones be left.
      obtain ⟨⟨rest, rfl⟩, hfollowed⟩ := h.ok hread
      have hsame := (hfollowed more).symm.trans hwhole
      simp only [EStateM.Result.ok.injEq, Source.followed, Source.ofBytes, Source.mk.injEq,
        List.append_eq_nil_iff] at hsame
      obtain rfl : more = [] := hsame.2.1.2
      exact absurd (List.append_nil cut).symm hne
  | error e s =>
      rcases h.error hread with ⟨what, rfl⟩ | hfails
      · exact ⟨what, s, rfl⟩
      · obtain ⟨last, hlast⟩ := hfails more
        have hsame := hlast.symm.trans hwhole
        simp at hsame

end Decoder

theorem Text.steady_units : Decoder.Steady units := by
  refine .of_reads reads_units ?_
  intro s s' e h
  by_cases hzero : 0 ∈ unitsOfBytes s.queued
  · simp [units_of_zero hzero] at h
  · rw [units_of_no_zero hzero] at h
    obtain ⟨rfl, -⟩ := EStateM.Result.error.inj h
    exact ⟨"string", rfl⟩

end PictureTransfer
