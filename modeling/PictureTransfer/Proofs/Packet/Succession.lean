import PictureTransfer.Proofs.Link.Writing
import PictureTransfer.Proofs.Outcome
import PictureTransfer.Proofs.Packet.Frame

/-!
# Packets one behind the other

Packets that were written one behind the other are read back one by one, and what follows
them is left for whoever reads next.  It makes no difference how many bytes each read hands
over.  A packet of which less than all has come by the end of the source is not read.

* `Packet.readRow_ok_iff` — reading packets in a row takes just the bytes that they are
  written in;
* `Packet.cut_of_strictPrefix` — less than a packet holds no frame;
* `Packet.written_read_back` — what is written of packets is what is read of them.
-/

namespace PictureTransfer

namespace Packet

/-- Reads a count of packets, one behind the other. -/
def readRow : Nat → EStateM Error Source (List Packet)
  | 0 => pure []
  | count + 1 => do
      let p ← read
      let others ← readRow count
      pure (p :: others)

variable {s s' : Source} {p : Packet} {packets : List Packet}

/-- **A row of packets is read** just when their bytes stand at the front of the source, one
behind the other, and what stands behind them is left. -/
theorem readRow_ok_iff {count : Nat} :
    readRow count s = .ok packets s' ↔
      packets.length = count ∧ (∀ p ∈ packets, p.Fits) ∧
        ∃ rest, s.queued = packets.flatMap toBytes ++ rest ∧ s' = { s with queued := rest } := by
  induction count generalizing s s' packets with
  | zero =>
      rw [readRow, pure_ok_iff]
      constructor
      · intro h
        obtain ⟨rfl, rfl⟩ := h
        exact ⟨rfl, by simp, s'.queued, rfl, rfl⟩
      · intro hrow
        obtain ⟨hlength, _, rest, hqueued, rfl⟩ := hrow
        obtain rfl := List.eq_nil_of_length_eq_zero hlength
        obtain rfl : s.queued = rest := hqueued
        exact ⟨rfl, rfl⟩
  | succ count ih =>
      simp only [readRow, bind_ok_iff, read_ok_iff, ih, pure_ok_iff]
      constructor
      · intro h
        obtain ⟨p, _, ⟨hfits, behind, hqueued, rfl⟩, others, _,
          ⟨hlength, hothers, rest, hbehind, rfl⟩, rfl, rfl⟩ := h
        refine ⟨congrArg (· + 1) hlength, List.forall_mem_cons.mpr ⟨hfits, hothers⟩, rest, ?_, rfl⟩
        calc s.queued = p.toBytes ++ behind := hqueued
          _ = p.toBytes ++ (others.flatMap toBytes ++ rest) := congrArg _ hbehind
          _ = (p :: others).flatMap toBytes ++ rest := by
            rw [List.flatMap_cons, List.append_assoc]
      · intro hrow
        obtain ⟨hlength, hall, rest, hqueued, rfl⟩ := hrow
        obtain ⟨p, others, rfl⟩ := List.exists_cons_of_length_eq_add_one hlength
        obtain ⟨hfits, hothers⟩ := List.forall_mem_cons.mp hall
        rw [List.flatMap_cons, List.append_assoc] at hqueued
        exact ⟨p, _, ⟨hfits, _, hqueued, rfl⟩, others, _,
          ⟨Nat.succ.inj hlength, hothers, rest, rfl, rfl⟩, rfl, rfl⟩

/-- **Less than a packet** holds no frame, nor a header with a length that no packet has. -/
theorem cut_of_strictPrefix (hfits : p.Fits) {part : Bytes} (hpart : part <+: p.toBytes)
    (hne : part ≠ p.toBytes) : Frame.first? part = none ∧ ¬ Frame.Broken part := by
  have hshort : part.length < p.wireLength := by
    rw [← p.length_toBytes]
    exact Nat.lt_of_le_of_ne hpart.length_le fun hlength => hne (hpart.eq_of_length hlength)
  -- A header that is there is that of the packet.
  have hheader : 8 ≤ part.length → announced part = p.wireLength := by
    intro height
    obtain ⟨rest, hrest⟩ := hpart
    have hannounced := (announced_toBytes_append hfits []).1
    rwa [List.append_nil, ← hrest, announced_append (by omega)] at hannounced
  have hwire : p.wireLength = 8 + p.payload.length := rfl
  refine ⟨Frame.first?_eq_none_iff.mpr fun hframe => ?_, fun hbroken => ?_⟩
  · have := hheader (Nat.le_trans hframe.1 hframe.2)
    omega
  · have := hheader hbroken.1
    have := hbroken.2
    omega

/-- Of a front part of a packet, that packet is read or none. -/
theorem read_of_prefix {q : Packet} {part : Bytes} (hfits : p.Fits)
    (hpart : part <+: p.toBytes) (h : read (.ofBytes part) = .ok q s') :
    q = p ∧ s' = .ofBytes [] := by
  by_cases hwhole : part = p.toBytes
  · have hread : read (.ofBytes part) = .ok p (.ofBytes []) :=
      read_ok_iff.mpr ⟨hfits, [], by rw [hwhole, List.append_nil]; rfl, rfl⟩
    rw [hread] at h
    obtain ⟨rfl, rfl⟩ := EStateM.Result.ok.inj h
    exact ⟨rfl, rfl⟩
  · obtain ⟨hfirst, hbroken⟩ := cut_of_strictPrefix hfits hpart hwhole
    obtain ⟨e, hread, -⟩ := read_of_cut (s := .ofBytes part) hfirst hbroken
    simp [hread] at h

/-- **What is written of packets is what is read of them.**  Packets that fit their headers
are read back from their bytes, one behind the other, whatever follows and however the source
hands it over.  A packet that is sent on a line that takes it puts just those bytes there, as
many as the packet is long; and of less than these no packet is read from a source that ends
behind them, but its end is met. -/
theorem written_read_back (hfits : ∀ p ∈ packets, p.Fits) (trailing : Bytes) :
    (∀ s : Source, s.queued = packets.flatMap toBytes ++ trailing →
      readRow packets.length s = .ok packets { s with queued := trailing }) ∧
      ∀ p ∈ packets,
        p.toBytes.length = p.wireLength ∧
        (∀ line : Line, line.Takes p.writes →
          ∃ line', Line.send p line = .ok () line' ∧ line'.sent = line.sent ++ p.toBytes) ∧
        ∀ s : Source, s.queued <+: p.toBytes → s.queued ≠ p.toBytes → s.fault = none →
          ∃ e, read s = .error e (exhausted s) ∧ e.isEndOfStream = true := by
  refine ⟨fun s hqueued => readRow_ok_iff.mpr ⟨rfl, hfits, trailing, hqueued, rfl⟩, ?_⟩
  intro p hp
  refine ⟨p.length_toBytes, fun line htakes => ?_, fun s hpart hne hfault => ?_⟩
  · exact ⟨line.posted p, Line.send_ok_iff.mpr ⟨hfits p hp, htakes, rfl⟩, Line.posted_sent p line⟩
  · obtain ⟨hfirst, hbroken⟩ := cut_of_strictPrefix (hfits p hp) hpart hne
    obtain ⟨e, hread, _, hend⟩ := read_of_cut hfirst hbroken
    exact ⟨e, hread, hend hfault⟩

/-- A probe and a piece of data, handed over at most three bytes at a time and once a single
one, with one more behind them and a failure to come. -/
theorem written_read_back_piecemeal :
    let packets := [Body.toPacket .probeRequest (), Body.toPacket .data ⟨7, [1, 2, 3]⟩]
    let source : Source :=
      { queued := packets.flatMap toBytes ++ [42]
        fault := some ⟨.other, "connection reset"⟩
        limit := some ⟨3, by decide⟩
        pauses := [20, 12] }
    (∀ p ∈ packets, p.Fits) ∧
      readRow 2 source = .ok packets { source with queued := [42] } ∧
      (∃ line', Line.send (Body.toPacket .data ⟨7, [1, 2, 3]⟩) .fresh = .ok () line' ∧
        line'.sent = [15, 0, 0, 0, 10, 0, 0, 0, 7, 0, 0, 0, 1, 2, 3]) ∧
      ∃ e, read (.ofBytes [15, 0, 0, 0, 10, 0, 0, 0, 7, 0]) =
        .error e (.ofBytes []) ∧ e.isEndOfStream = true := by
  intro packets source
  have hfits : ∀ p ∈ packets, p.Fits := by decide
  obtain ⟨hrow, hpackets⟩ := written_read_back hfits [42]
  obtain ⟨_, hsend, hcut⟩ := hpackets (Body.toPacket .data ⟨7, [1, 2, 3]⟩) (by decide)
  exact ⟨hfits, hrow source rfl, hsend .fresh (Line.Clear.takes ⟨rfl, rfl⟩ _),
    hcut (.ofBytes [15, 0, 0, 0, 10, 0, 0, 0, 7, 0]) (by decide) (by decide) rfl⟩

end Packet

end PictureTransfer
