import PictureTransfer.Proofs.Packet.Framing

/-!
# The frames of a stream

Packets are told apart by the lengths in their headers, before anything else about them
is looked at.  A frame is a header with a length that a packet can have, and as many bytes
as it announces, whatever they mean.  Every stream is made up of frames, and of a rest
with no frame at its front: a frame that is not all there yet, or a header with a length
that no packet has (`Frame.Broken`).

* `Frame.split_eq_iff` — a stream is made up so in one way only;
* `Frame.split_append` — what follows a stream goes behind its rest, so it does not matter
  where a stream is cut;
* `Packet.read_frame`, `Packet.read_of_broken`, `Packet.read_of_cut` — what it costs to read a
  frame, and what to read where there is none;
* `Line.receive_frame`, `Line.receive_rest` — a line is received frame by frame, and what
  is not framed ends the reception for good.
-/

namespace PictureTransfer

namespace Packet

theorem announced_take {n : Nat} (h : 4 ≤ n) (bytes : Bytes) :
    announced (bytes.take n) = announced bytes := by
  rw [announced, announced, List.take_take, Nat.min_eq_left h]

theorem announced_append {bytes : Bytes} (h : 4 ≤ bytes.length) (more : Bytes) :
    announced (bytes ++ more) = announced bytes := by
  rw [announced, announced, List.take_append_of_le_length h]

end Packet

/-- A header with a length that a packet can have, and all the bytes that it announces. -/
@[ext] structure Frame where
  bytes : Bytes
  least : 8 ≤ bytes.length
  announced : Packet.announced bytes = bytes.length
  deriving DecidableEq

namespace Frame

/-- The bytes of frames, one behind the other. -/
def join (frames : List Frame) : Bytes := frames.flatMap Frame.bytes

/-- The first frame of a stream and what is behind it, if all of the frame is there. -/
def first? (stream : Bytes) : Option (Frame × Bytes) :=
  if h : 8 ≤ Packet.announced stream ∧ Packet.announced stream ≤ stream.length then
    some (
      { bytes := stream.take (Packet.announced stream)
        least := by rw [List.length_take]; omega
        announced := by rw [Packet.announced_take (by omega), List.length_take]; omega },
      stream.drop (Packet.announced stream))
  else none

theorem first?_eq_some_iff {stream rest : Bytes} {frame : Frame} :
    first? stream = some (frame, rest) ↔ stream = frame.bytes ++ rest := by
  unfold first?
  constructor
  · intro h
    split at h
    · obtain ⟨rfl, rfl⟩ := Prod.mk.inj (Option.some.inj h)
      exact (List.take_append_drop ..).symm
    · simp at h
  · intro hstream
    subst hstream
    have hleast := frame.least
    have hannounced : Packet.announced (frame.bytes ++ rest) = frame.bytes.length := by
      rw [Packet.announced_append (by omega), frame.announced]
    rw [dif_pos (by rw [hannounced, List.length_append]; omega)]
    simp only [hannounced, Option.some.injEq, Prod.mk.injEq, List.drop_left, and_true]
    exact Frame.ext List.take_left

/-- The first frame takes as many bytes as its header announces. -/
theorem first?_of_announced {stream : Bytes} (hheader : 8 ≤ Packet.announced stream)
    (hthere : Packet.announced stream ≤ stream.length) :
    ∃ frame, frame.bytes = stream.take (Packet.announced stream) ∧
      first? stream = some (frame, stream.drop (Packet.announced stream)) :=
  ⟨_, rfl, dif_pos ⟨hheader, hthere⟩⟩

theorem first?_eq_none_iff {stream : Bytes} :
    first? stream = none ↔
      ¬ (8 ≤ Packet.announced stream ∧ Packet.announced stream ≤ stream.length) := by
  unfold first?
  split <;> simp_all

/-- The frames that a stream begins with, as many as there are, and its rest. -/
def split (stream : Bytes) : List Frame × Bytes :=
  match _h : first? stream with
  | none => ([], stream)
  | some (frame, rest) => (frame :: (split rest).1, (split rest).2)
termination_by stream.length
decreasing_by
  all_goals
    have hstream := first?_eq_some_iff.mp _h
    have hleast := frame.least
    rw [hstream, List.length_append]
    omega

/-- The frames that a stream begins with. -/
abbrev frames (stream : Bytes) : List Frame := (split stream).1

/-- What stands behind the frames of a stream. -/
abbrev rest (stream : Bytes) : Bytes := (split stream).2

theorem split_of_none {stream : Bytes} (h : first? stream = none) :
    split stream = ([], stream) := by
  rw [split]
  split
  · rfl
  · rename_i hsome
    simp [h] at hsome

theorem split_of_some {stream last : Bytes} {frame : Frame}
    (h : first? stream = some (frame, last)) :
    split stream = (frame :: frames last, rest last) := by
  rw [split]
  split
  · rename_i hnone
    simp [h] at hnone
  · rename_i hsome
    obtain ⟨rfl, rfl⟩ := Prod.mk.inj (Option.some.inj (hsome.symm.trans h))
    rfl

theorem first?_rest (stream : Bytes) : first? (rest stream) = none := by
  fun_induction split stream with
  | case1 stream hnone => rwa [rest, split_of_none hnone]
  | case2 stream frame last hsome ih => rwa [rest, split_of_some hsome]

/-- Nothing of a stream is lost. -/
theorem join_frames_append_rest (stream : Bytes) : join (frames stream) ++ rest stream = stream := by
  fun_induction split stream with
  | case1 stream hnone => rw [frames, rest, split_of_none hnone]; rfl
  | case2 stream frame last hsome ih =>
      rw [frames, rest, split_of_some hsome]
      calc join (frame :: frames last) ++ rest last
          = frame.bytes ++ (join (frames last) ++ rest last) := List.append_assoc ..
        _ = frame.bytes ++ last := by rw [ih]
        _ = stream := (first?_eq_some_iff.mp hsome).symm

/-- Frames in front of a stream are its first. -/
theorem split_join_append (given : List Frame) (stream : Bytes) :
    split (join given ++ stream) = (given ++ frames stream, rest stream) := by
  induction given with
  | nil => rfl
  | cons frame given ih =>
      have hfirst : first? (join (frame :: given) ++ stream) =
          some (frame, join given ++ stream) :=
        first?_eq_some_iff.mpr (List.append_assoc ..)
      rw [split_of_some hfirst]
      simp only [frames, rest, ih, List.cons_append]

/-- **A stream is made up in one way** of frames and of a rest that begins with none. -/
theorem split_eq_iff {stream last : Bytes} {given : List Frame} :
    split stream = (given, last) ↔ stream = join given ++ last ∧ first? last = none := by
  constructor
  · intro h
    have hframes : frames stream = given := congrArg Prod.fst h
    have hrest : rest stream = last := congrArg Prod.snd h
    refine ⟨?_, ?_⟩
    · rw [← hframes, ← hrest, join_frames_append_rest]
    · rw [← hrest, first?_rest]
  · intro h
    obtain ⟨rfl, hnone⟩ := h
    rw [split_join_append, frames, rest, split_of_none hnone, List.append_nil]

/-- **Where a stream is cut does not matter.**  What follows goes behind the rest. -/
theorem split_append (stream more : Bytes) :
    split (stream ++ more) =
      (frames stream ++ frames (rest stream ++ more), rest (rest stream ++ more)) := by
  have hstream : stream ++ more = join (frames stream) ++ (rest stream ++ more) := by
    rw [← List.append_assoc, join_frames_append_rest]
  rw [hstream, split_join_append]

theorem frames_append (stream more : Bytes) :
    frames (stream ++ more) = frames stream ++ frames (rest stream ++ more) := by
  rw [frames, split_append]

theorem rest_append (stream more : Bytes) : rest (stream ++ more) = rest (rest stream ++ more) := by
  rw [rest, split_append]

/-- A header with a length that no packet has. -/
def Broken (stream : Bytes) : Prop := 8 ≤ stream.length ∧ Packet.announced stream < 8

instance (stream : Bytes) : Decidable (Broken stream) := inferInstanceAs (Decidable (_ ∧ _))

theorem Broken.first? {stream : Bytes} (h : Broken stream) : Frame.first? stream = none :=
  dif_neg fun hframe => Nat.not_le_of_lt h.2 hframe.1

/-- No further bytes mend it. -/
theorem Broken.append {stream : Bytes} (h : Broken stream) (more : Bytes) :
    Broken (stream ++ more) := by
  obtain ⟨hlength, hannounced⟩ := h
  refine ⟨?_, ?_⟩
  · rw [List.length_append]
    omega
  · rwa [Packet.announced_append (by omega)]

/-- Behind a header that no packet has there are no frames. -/
theorem frames_append_of_broken {stream : Bytes} (h : Broken (rest stream)) (more : Bytes) :
    frames (stream ++ more) = frames stream ∧ rest (stream ++ more) = rest stream ++ more := by
  have hnothing := split_of_none (h.append more).first?
  rw [frames_append, rest_append]
  exact ⟨by simp only [frames, hnothing, List.append_nil], congrArg Prod.snd hnothing⟩

/-- A reader finds something to do just when there is a frame, or never will be. -/
theorem isComplete_iff {stream : Bytes} :
    Packet.isComplete stream = true ↔ Broken stream ∨ (first? stream).isSome := by
  simp only [Packet.isComplete, Bool.and_eq_true, Bool.or_eq_true, decide_eq_true_eq, Broken,
    first?]
  simp only [Packet.headerLength]
  split
  · simp only [Option.isSome_some, or_true, iff_true]
    omega
  · simp only [Option.isSome_none, Bool.false_eq_true, or_false]
    omega

theorem isComplete_eq_false_iff {stream : Bytes} :
    Packet.isComplete stream = false ↔ first? stream = none ∧ ¬ Broken stream := by
  rw [← Bool.not_eq_true, isComplete_iff, not_or, and_comm, Option.not_isSome_iff_eq_none]

/-- The packet of a frame, if its kind is known. -/
def packet (frame : Frame) : Except Violation Packet :=
  match PacketKind.ofCode? (Packet.announcedKind frame.bytes) with
  | some kind => .ok ⟨kind, frame.bytes.drop 8⟩
  | none => .error (.unknownKind (Packet.announcedKind frame.bytes))

theorem packet_ok_iff {frame : Frame} {p : Packet} :
    frame.packet = .ok p ↔ frame.bytes = p.toBytes := by
  unfold packet
  constructor
  · intro h
    split at h
    · rename_i kind hkind
      have hbytes := Packet.toBytes_of_announced (by rw [frame.announced]; exact frame.least)
        (Nat.le_of_eq frame.announced) (PacketKind.ofCode?_eq_some_iff.mp hkind)
      rw [frame.announced, List.take_length,
        List.take_of_length_le (Nat.le_of_eq (List.length_drop ..))] at hbytes
      rw [← hbytes, ← Except.ok.inj h]
    · simp at h
  · intro hbytes
    have hfits : p.Fits := by
      have hlt := Packet.announced_lt frame.bytes
      rwa [frame.announced, hbytes, Packet.length_toBytes] at hlt
    obtain ⟨-, hkind⟩ := Packet.announced_toBytes_append hfits []
    rw [List.append_nil, ← hbytes] at hkind
    have hpayload : frame.bytes.drop 8 = p.payload := by
      rw [hbytes, Packet.toBytes]
      exact List.drop_left' p.length_header
    rw [hkind, PacketKind.ofCode?_code]
    simp only [hpayload]

end Frame

namespace Packet

/-- **A frame is read in full**, whether or not its kind is known. -/
theorem read_frame {s : Source} {frame : Frame} {last : Bytes}
    (h : s.queued = frame.bytes ++ last) :
    read s =
      match frame.packet with
      | .ok p => .ok p { s with queued := last }
      | .error v => .error (.violation v) { s with queued := last } := by
  have hleast := frame.least
  have hannounced : announced s.queued = frame.bytes.length := by
    rw [h, announced_append (by omega), frame.announced]
  have hkind : announcedKind s.queued = announcedKind frame.bytes := by
    rw [announcedKind, h, List.take_append_of_le_length hleast, announcedKind]
  have hlength : s.queued.length = frame.bytes.length + last.length := by
    rw [h, List.length_append]
  have hpast : past frame.bytes.length s = { s with queued := last } := by
    rw [past, h, List.drop_left]
  have hpayload : (s.queued.drop 8).take (frame.bytes.length - 8) = frame.bytes.drop 8 := by
    rw [h, List.drop_append_of_le_length hleast]
    exact List.take_left' (List.length_drop ..)
  simp only [read_eq, hannounced, hkind, hpast, hpayload]
  rw [if_neg (by omega), if_neg (by omega), if_neg (by omega), Frame.packet]
  cases PacketKind.ofCode? (announcedKind frame.bytes) with
  | some kind => rfl
  | none => rfl

/-- A length that no packet has costs the header. -/
theorem read_of_broken {s : Source} (h : Frame.Broken s.queued) :
    read s = .error (.violation (.invalidLength (announced s.queued))) (past 8 s) := by
  rw [read_eq, if_neg (Nat.not_lt.mpr h.1), if_pos h.2]

/-- A frame that is not all there costs everything that is.  Where nothing else happens to
the source, its end is all there is to say. -/
theorem read_of_cut {s : Source} (h : Frame.first? s.queued = none)
    (hbroken : ¬ Frame.Broken s.queued) :
    ∃ e, read s = .error e (exhausted s) ∧ e.isFatal = true ∧
      (s.fault = none → e.isEndOfStream = true) := by
  have hpending : s.fault = none → s.pending = none := fun hfault => by
    rw [Source.pending, hfault]
  rw [read_eq]
  by_cases hlength : s.queued.length < 8
  · rw [if_pos hlength]
    refine ⟨_, rfl, ?_, fun hfault => by rw [headerShortfall, hpending hfault]; rfl⟩
    unfold headerShortfall
    split
    · split <;> rfl
    · rfl
  · rw [if_neg hlength]
    have hheader : ¬ announced s.queued < 8 := fun hshort =>
      hbroken ⟨Nat.le_of_not_lt hlength, hshort⟩
    have hthere : s.queued.length < announced s.queued :=
      Nat.lt_of_not_le fun hthere =>
        Frame.first?_eq_none_iff.mp h ⟨Nat.le_of_not_lt hheader, hthere⟩
    rw [if_neg hheader, if_pos hthere]
    refine ⟨_, rfl, ?_, fun hfault => by rw [payloadShortfall, hpending hfault]; rfl⟩
    unfold payloadShortfall
    split <;> rfl

/-- What is not framed cannot be read, and nothing can be read after it. -/
theorem read_of_first?_none {s : Source} (h : Frame.first? s.queued = none) :
    ∃ e s', read s = .error e s' ∧ e.isFatal = true := by
  by_cases hbroken : Frame.Broken s.queued
  · exact ⟨_, _, read_of_broken hbroken, rfl⟩
  · obtain ⟨e, hread, hfatal, _⟩ := read_of_cut h hbroken
    exact ⟨e, _, hread, hfatal⟩

end Packet

namespace Line

/-- **A line is received frame by frame**, whether or not the kind is known. -/
theorem receive_frame {line : Line} {frame : Frame} {last : Bytes}
    (h : line.incoming.queued = frame.bytes ++ last) :
    receive line =
      match frame.packet with
      | .ok p => .ok p { line with incoming.queued := last }
      | .error v => .error (.violation v) { line with incoming.queued := last } := by
  rw [receive, Packet.read_frame h]
  cases frame.packet with
  | ok p => rfl
  | error v => rfl

/-- What is not framed ends the reception for good. -/
theorem receive_rest {line : Line} (h : Frame.first? line.incoming.queued = none) :
    ∃ e source, receive line = .error e { line with incoming := source } ∧ e.isFatal = true := by
  obtain ⟨e, source, hread, hfatal⟩ := Packet.read_of_first?_none h
  exact ⟨e, source, by rw [receive, hread], hfatal⟩

end Line

end PictureTransfer
