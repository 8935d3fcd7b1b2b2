import PictureTransfer.Proofs.Outcome
import PictureTransfer.Wire.Decoder

/-!
# What decoders read

A decoder that reads a value takes some bytes off the front of its source and
leaves the rest of it as it is.  Which bytes it takes for which value is a
relation between the two, and says all that there is to say about what the
decoder accepts: `Decoder.Reads`.

* `Decoder.reads_natural` and its cases for the fixed widths — a number is
  spelt by its little-endian bytes and by no others;
* `Decoder.Reads.bind` — one decoder after the other reads one spelling behind
  the other;
* `Decoder.shortfall_of_fault`, `Decoder.shortfall_of_end` — where the bytes run out,
  it is told whether the source failed or ended.
-/

namespace PictureTransfer

namespace Decoder

variable {α β : Type}

/-- A source that fails is told by its failure. -/
theorem shortfall_of_fault {s : Source} {fault : Fault} (what : String)
    (h : s.fault = some fault) (hkind : fault.kind = .other) : shortfall what s = .io fault := by
  simp [shortfall, Source.pending, h, WireError.ofFault, hkind]

/-- A source that merely ends, however it is told, is told by what was read for. -/
theorem shortfall_of_end {s : Source} (what : String)
    (h : ∀ fault, s.fault = some fault → fault.kind ≠ .other) :
    shortfall what s = .endOfStream what := by
  cases hfault : s.fault with
  | none => simp [shortfall, Source.pending, hfault]
  | some fault =>
      have hkind := h fault hfault
      cases hwhich : fault.kind with
      | interrupted => simp [shortfall, Source.pending, hfault, hwhich]
      | unexpectedEnd => simp [shortfall, Source.pending, hfault, hwhich, WireError.ofFault]
      | other => exact absurd hwhich hkind

/-- The decoder reads just the bytes that spell a value, whatever follows. -/
def Reads (decoder : Decoder α) (spells : α → Bytes → Prop) : Prop :=
  ∀ (s s' : Source) (a : α), decoder s = .ok a s' ↔
    ∃ bytes rest, spells a bytes ∧ s.queued = bytes ++ rest ∧ s' = { s with queued := rest }

/-- A relation that allots the same bytes does as well. -/
theorem Reads.congr {decoder : Decoder α} {spells spells' : α → Bytes → Prop}
    (h : decoder.Reads spells) (heq : ∀ a bytes, spells a bytes ↔ spells' a bytes) :
    decoder.Reads spells' := by
  have hsame : spells = spells' := funext fun a => funext fun bytes => propext (heq a bytes)
  exact hsame ▸ h

/-- Giving a value takes no bytes. -/
theorem reads_pure (a : α) :
    (pure a : Decoder α).Reads fun b bytes => b = a ∧ bytes = [] := by
  intro s s' b
  rw [pure_ok_iff]
  constructor
  · intro hspelt
    obtain ⟨rfl, rfl⟩ := hspelt
    exact ⟨[], s'.queued, ⟨rfl, rfl⟩, rfl, rfl⟩
  · intro hspelt
    obtain ⟨bytes, rest, ⟨rfl, rfl⟩, hqueued, rfl⟩ := hspelt
    have hrest : rest = s.queued := by simpa using hqueued.symm
    subst hrest
    exact ⟨rfl, rfl⟩

/-- One decoder after the other. -/
theorem Reads.bind {first : Decoder α} {next : α → Decoder β} {spells : α → Bytes → Prop}
    {spellsNext : α → β → Bytes → Prop} (hfirst : first.Reads spells)
    (hnext : ∀ a, (next a).Reads (spellsNext a)) :
    (first >>= next).Reads fun b bytes =>
      ∃ a front back, spells a front ∧ spellsNext a b back ∧ bytes = front ++ back := by
  intro s s' b
  rw [bind_ok_iff]
  constructor
  · intro hspelt
    obtain ⟨a, middle, hs, hb⟩ := hspelt
    obtain ⟨front, rest, hfront, hqueued, rfl⟩ := (hfirst _ _ _).mp hs
    obtain ⟨back, rest', hback, hrest, rfl⟩ := (hnext a _ _ _).mp hb
    refine ⟨front ++ back, rest', ⟨a, front, back, hfront, hback, rfl⟩, ?_, rfl⟩
    rw [hqueued, List.append_assoc]
    exact congrArg (front ++ ·) hrest
  · intro hspelt
    obtain ⟨bytes, rest, ⟨a, front, back, hfront, hback, rfl⟩, hqueued, rfl⟩ := hspelt
    refine ⟨a, { s with queued := back ++ rest }, (hfirst _ _ _).mpr ?_, (hnext a _ _ _).mpr ?_⟩
    · exact ⟨front, back ++ rest, hfront, by rw [hqueued, List.append_assoc], rfl⟩
    · exact ⟨back, rest, hback, rfl, rfl⟩

/-- A function of what is read. -/
theorem Reads.map {decoder : Decoder α} {spells : α → Bytes → Prop} (h : decoder.Reads spells)
    (f : α → β) :
    (f <$> decoder).Reads fun b bytes => ∃ a, f a = b ∧ spells a bytes := by
  intro s s' b
  rw [map_ok_iff]
  constructor
  · intro hspelt
    obtain ⟨a, hs, rfl⟩ := hspelt
    obtain ⟨bytes, rest, hspells, hqueued, hs'⟩ := (h _ _ _).mp hs
    exact ⟨bytes, rest, ⟨a, rfl, hspells⟩, hqueued, hs'⟩
  · intro hspelt
    obtain ⟨bytes, rest, ⟨a, rfl, hspells⟩, hqueued, rfl⟩ := hspelt
    exact ⟨a, (h _ _ _).mpr ⟨bytes, rest, hspells, hqueued, rfl⟩, rfl⟩

/-- A byte string of a length is spelt by itself. -/
theorem reads_exactly (n : Nat) (what : String) :
    (exactly n what).Reads fun a bytes => a.length = n ∧ bytes = a := by
  intro s s' a
  rw [exactly_eq]
  constructor
  · intro h
    split at h
    · rename_i hle
      obtain ⟨rfl, rfl⟩ := EStateM.Result.ok.inj h
      exact ⟨_, s.queued.drop n, ⟨by simp [hle], rfl⟩, (List.take_append_drop ..).symm, rfl⟩
    · simp at h
  · intro hspelt
    obtain ⟨bytes, rest, ⟨hlength, rfl⟩, hqueued, rfl⟩ := hspelt
    have hle : n ≤ s.queued.length := by simp [hqueued, ← hlength]
    rw [if_pos hle, hqueued, List.take_left' hlength, List.drop_left' hlength]

/-- Any bytes are passed over, as many as are asked for. -/
theorem reads_skip (n : Nat) : (skip n).Reads fun _ bytes => bytes.length = n := by
  intro s s' u
  unfold skip
  constructor
  · intro h
    split at h
    · simp at h
    · rename_i henough
      obtain ⟨_, rfl⟩ := EStateM.Result.ok.inj h
      have htaken : (s.queued.take n).length = n := by
        rw [List.length_take]
        omega
      exact ⟨s.queued.take n, s.queued.drop n, htaken, (List.take_append_drop ..).symm, rfl⟩
  · intro hspelt
    obtain ⟨bytes, rest, hlength, hqueued, rfl⟩ := hspelt
    have henough : ¬ s.queued.length < n := by
      rw [hqueued, List.length_append]
      omega
    rw [if_neg henough, hqueued, List.drop_left' hlength]

/-- A number of a width is spelt by its little-endian bytes. -/
theorem reads_natural (width : Nat) (what : String) :
    (natural width what).Reads fun n bytes =>
      n < LittleEndian.span width ∧ bytes = LittleEndian.encode width n := by
  intro s s' n
  rw [natural_eq]
  constructor
  · intro h
    split at h
    · rename_i hle
      simp only [EStateM.Result.ok.injEq] at h
      obtain ⟨rfl, rfl⟩ := h
      have hlen : (s.queued.take width).length = width := by simp [hle]
      have hlt := LittleEndian.decode_lt (s.queued.take width)
      have hback := LittleEndian.encode_decode (s.queued.take width)
      rw [hlen] at hlt hback
      exact ⟨s.queued.take width, s.queued.drop width, ⟨hlt, hback.symm⟩,
        (List.take_append_drop ..).symm, rfl⟩
    · simp at h
  · intro hspelt
    obtain ⟨bytes, rest, ⟨hlt, rfl⟩, hqueued, rfl⟩ := hspelt
    have hle : width ≤ s.queued.length := by simp [hqueued]
    have htake : s.queued.take width = LittleEndian.encode width n := by
      rw [hqueued, List.take_left' (LittleEndian.length_encode ..)]
    have hdrop : s.queued.drop width = rest := by
      rw [hqueued, List.drop_left' (LittleEndian.length_encode ..)]
    rw [if_pos hle, htake, hdrop, LittleEndian.decode_encode_of_lt hlt]

theorem reads_uint16 : uint16.Reads fun n bytes => bytes = encodeUInt16 n := by
  refine ((reads_natural 2 "UINT16").map UInt16.ofNat).congr fun n bytes => ?_
  constructor
  · intro hspelt
    obtain ⟨m, rfl, hm, rfl⟩ := hspelt
    have hback : (UInt16.ofNat m).toNat = m := UInt16.toNat_ofNat_of_lt' hm
    rw [encodeUInt16, hback]
  · intro hspelt
    subst hspelt
    exact ⟨n.toNat, UInt16.ofNat_toNat, n.toNat_lt, rfl⟩

theorem reads_uint32 : uint32.Reads fun n bytes => bytes = encodeUInt32 n := by
  refine ((reads_natural 4 "UINT32").map UInt32.ofNat).congr fun n bytes => ?_
  constructor
  · intro hspelt
    obtain ⟨m, rfl, hm, rfl⟩ := hspelt
    have hback : (UInt32.ofNat m).toNat = m := UInt32.toNat_ofNat_of_lt' hm
    rw [encodeUInt32, hback]
  · intro hspelt
    subst hspelt
    exact ⟨n.toNat, UInt32.ofNat_toNat, n.toNat_lt, rfl⟩

theorem reads_uint64 : uint64.Reads fun n bytes => bytes = encodeUInt64 n := by
  refine ((reads_natural 8 "UINT64").map UInt64.ofNat).congr fun n bytes => ?_
  constructor
  · intro hspelt
    obtain ⟨m, rfl, hm, rfl⟩ := hspelt
    have hback : (UInt64.ofNat m).toNat = m := UInt64.toNat_ofNat_of_lt' hm
    rw [encodeUInt64, hback]
  · intro hspelt
    subst hspelt
    exact ⟨n.toNat, UInt64.ofNat_toNat, n.toNat_lt, rfl⟩

end Decoder

end PictureTransfer
