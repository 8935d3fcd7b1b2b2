import PictureTransfer.Event.Channel
import PictureTransfer.Proofs.Link.Writing
import PictureTransfer.Proofs.Packet.Fault
import PictureTransfer.Proofs.Packet.Frame
import PictureTransfer.Proofs.Packet.Payload

/-!
# What a frame means on the event connection

A frame on the event connection is the packet of an event, a probe, or a fault of that
frame alone.  An event and a fault are one task each, and a probe is answered by one
packet and is no task.

* `Frame.report_event_iff`, `Frame.report_probe_iff`, `Frame.report_error` — which frames
  are which, told by their bytes;
* `EventChannel.receive_frame` — dealing with one frame;
* `Line.passed` — the line behind some frames, with the probes among them answered.
-/

namespace PictureTransfer

/-- The answer to a probe. -/
def probeAnswer : Packet := Body.toPacket .probeResponse ()

theorem probeAnswer_fits : probeAnswer.Fits := by decide

theorem probeAnswer_writes : probeAnswer.writes = 1 := rfl

namespace Packet

/-- What a packet says on the event connection: an event, or nothing if it is a probe. -/
def report (p : Packet) : Except Violation (Option EventNotice) :=
  match p.kind with
  | .event => some <$> Body.decode .event p.payload
  | .probeRequest => (fun _ => none) <$> Body.decode .probeRequest p.payload
  | other => .error (.unexpectedPacket .event other)

theorem report_event_iff {p : Packet} {notice : EventNotice} :
    p.report = .ok (some notice) ↔ p = Body.toPacket .event notice := by
  obtain ⟨kind, payload⟩ := p
  cases kind with
  | event =>
      constructor
      · intro h
        obtain ⟨found, hdecode, hsame⟩ := except_map_ok_iff.mp h
        obtain rfl := Option.some.inj hsame
        exact congrArg _ (Body.decode_event_ok_iff.mp hdecode)
      · intro h
        exact except_map_ok_iff.mpr
          ⟨notice, Body.decode_event_ok_iff.mpr (congrArg Packet.payload h), rfl⟩
  | probeRequest => simp [report, except_map_ok_iff, Body.toPacket]
  | _ => simp [report, Body.toPacket]

theorem report_probe_iff {p : Packet} :
    p.report = .ok none ↔ p = Body.toPacket .probeRequest () := by
  obtain ⟨kind, payload⟩ := p
  cases kind with
  | event => simp [report, except_map_ok_iff, Body.toPacket]
  | probeRequest =>
      constructor
      · intro h
        obtain ⟨_, hdecode, _⟩ := except_map_ok_iff.mp h
        exact congrArg _ (Body.decode_probeRequest_ok_iff.mp hdecode)
      · intro h
        exact except_map_ok_iff.mpr
          ⟨(), Body.decode_probeRequest_ok_iff.mpr (congrArg Packet.payload h), rfl⟩
  | _ => simp [report, Body.toPacket]

theorem report_error {p : Packet} {v : Violation} (h : p.report = .error v) :
    v.breaksFraming = false := by
  have hdecode : ∀ kind : PacketKind, Body.decode kind p.payload = .error v →
      v.breaksFraming = false := fun kind hdecode =>
    (Violation.isOfPacket_of_isOfPayload ((Body.failsInPayload_decode kind _).error hdecode)).2
  unfold report at h
  split at h
  · exact hdecode .event (except_map_error_iff.mp h)
  · exact hdecode .probeRequest (except_map_error_iff.mp h)
  · obtain rfl := Except.error.inj h
    rfl

end Packet

namespace Frame

/-- What a frame says on the event connection. -/
def report (frame : Frame) : Except Violation (Option EventNotice) :=
  frame.packet >>= Packet.report

/-- True of a well-formed probe. -/
def isProbe (frame : Frame) : Bool := frame.bytes = (Body.toPacket .probeRequest ()).toBytes

/-- The task that a frame becomes in a session. -/
def task? (sessionId : UInt32) (frame : Frame) : Option Task :=
  match frame.report with
  | .ok (some notice) => some (.event (notice.stamp sessionId))
  | .ok none => none
  | .error v => some (.failure (.violation v))

/-- **The events** are the packets of events. -/
theorem report_event_iff {frame : Frame} {notice : EventNotice} :
    frame.report = .ok (some notice) ↔ frame.bytes = (Body.toPacket .event notice).toBytes := by
  simp only [report, except_bind_ok_iff, packet_ok_iff, Packet.report_event_iff,
    exists_eq_right]

/-- **The probes** are the packets that ask for an answer, with nothing else in them. -/
theorem report_probe_iff {frame : Frame} : frame.report = .ok none ↔ frame.isProbe = true := by
  simp only [report, except_bind_ok_iff, packet_ok_iff, Packet.report_probe_iff,
    exists_eq_right, isProbe, decide_eq_true_eq]

theorem packet_error {frame : Frame} {v : Violation} (h : frame.packet = .error v) :
    v.breaksFraming = false := by
  unfold packet at h
  split at h
  · simp at h
  · obtain rfl := Except.error.inj h
    rfl

/-- **Any other frame** is a fault, behind which the frames can still be told apart. -/
theorem report_error {frame : Frame} {v : Violation} (h : frame.report = .error v) :
    v.breaksFraming = false := by
  rcases except_bind_error_iff.mp h with hpacket | ⟨p, _, hreport⟩
  · exact packet_error hpacket
  · exact Packet.report_error hreport

/-- What is sent back for a frame. -/
def reply (frame : Frame) : Bytes := if frame.isProbe then probeAnswer.toBytes else []

/-- What a frame comes to in a session: the task that it is, if it is one, and what is sent
back. -/
inductive Meaning (sessionId : UInt32) (frame : Frame) : Option Task → Bytes → Prop where
  /-- The packet of an event is that event. -/
  | event (notice : EventNotice) (h : frame.bytes = (Body.toPacket .event notice).toBytes) :
      Meaning sessionId frame (some (.event (notice.stamp sessionId))) []
  /-- A probe is answered. -/
  | probe (h : frame.bytes = (Body.toPacket .probeRequest ()).toBytes) :
      Meaning sessionId frame none probeAnswer.toBytes
  /-- Anything else is one error, and none of the connection. -/
  | fault (v : Violation)
      (hevent : ∀ notice, frame.bytes ≠ (Body.toPacket .event notice).toBytes)
      (hprobe : frame.bytes ≠ (Body.toPacket .probeRequest ()).toBytes)
      (hv : v.breaksFraming = false) :
      Meaning sessionId frame (some (.failure (.violation v))) []

/-- **What each frame comes to.** -/
theorem meaning (sessionId : UInt32) (frame : Frame) :
    frame.Meaning sessionId (frame.task? sessionId) frame.reply := by
  have hreply : frame.report ≠ .ok none → frame.reply = [] := fun h =>
    if_neg fun hprobe => h (report_probe_iff.mpr hprobe)
  unfold task?
  cases hreport : frame.report with
  | error v =>
      simp only [hreply (by simp [hreport])]
      refine .fault v (fun notice hbytes => ?_) (fun hbytes => ?_) (report_error hreport)
      · simp [report_event_iff.mpr hbytes] at hreport
      · simp [report_probe_iff.mpr (decide_eq_true hbytes)] at hreport
  | ok news =>
      cases news with
      | some notice =>
          simp only [hreply (by simp [hreport])]
          exact .event notice (report_event_iff.mp hreport)
      | none =>
          have hprobe := report_probe_iff.mp hreport
          simp only [reply, if_pos hprobe]
          exact .probe (of_decide_eq_true hprobe)

/-- **An event that is passed on** is one of the frames, with all that the frame says. -/
theorem event_of_task? {frame : Frame} {id : UInt32} {event : Event}
    (h : frame.task? id = some (.event event)) : ∃ notice : EventNotice,
      frame.bytes = (Body.toPacket .event notice).toBytes ∧ event = notice.stamp id := by
  have hmeaning := frame.meaning id
  rw [h] at hmeaning
  generalize frame.reply = reply at hmeaning
  cases hmeaning with
  | event notice hbytes => exact ⟨notice, hbytes, rfl⟩

/-- The count of probes among frames. -/
def probes (given : List Frame) : Nat := given.countP isProbe

theorem probes_append (given more : List Frame) :
    probes (given ++ more) = probes given + probes more := List.countP_append

theorem probes_cons (frame : Frame) (given : List Frame) :
    probes (frame :: given) = probes [frame] + probes given := probes_append [frame] given

theorem probes_of_isProbe {frame : Frame} (h : frame.isProbe = true) : probes [frame] = 1 := by
  simp [probes, h]

end Frame

namespace Line

/-- The line once the frame that was taken off it is answered, if it is a probe. -/
def answered (line : Line) (frame : Frame) : Line :=
  if frame.isProbe then line.posted probeAnswer else line

/-- The line behind frames, with their probes answered. -/
def passed (given : List Frame) (last : Bytes) (line : Line) : Line :=
  { given.foldl answered line with incoming.queued := last }

theorem answered_incoming (line : Line) (frame : Frame) :
    (line.answered frame).incoming = line.incoming := by
  unfold answered
  split
  · exact posted_incoming ..
  · rfl

theorem answered_closed (line : Line) (frame : Frame) :
    (line.answered frame).closed = line.closed := by
  unfold answered
  split
  · exact posted_closed ..
  · rfl

theorem answered_sent (line : Line) (frame : Frame) :
    (line.answered frame).sent = line.sent ++ frame.reply := by
  unfold answered Frame.reply
  split
  · exact posted_sent ..
  · exact (List.append_nil _).symm

/-- What is unread has no part in an answer. -/
theorem answered_queued (line : Line) (frame : Frame) (queued : Bytes) :
    answered { line with incoming.queued := queued } frame =
      { line.answered frame with incoming.queued := queued } := by
  unfold answered posted
  split
  · split
    · rfl
    · rfl
  · rfl

theorem passed_nil (last : Bytes) (line : Line) :
    line.passed [] last = { line with incoming.queued := last } := rfl

theorem passed_of_report {frame : Frame} (h : frame.report ≠ .ok none) (last : Bytes)
    (line : Line) : line.passed [frame] last = { line with incoming.queued := last } := by
  have hprobe : frame.isProbe = false := by
    rwa [← Bool.not_eq_true, ← Frame.report_probe_iff]
  simp [passed, answered, hprobe]

theorem passed_cons (frame : Frame) (given : List Frame) (last : Bytes) (line : Line) :
    line.passed (frame :: given) last = (line.answered frame).passed given last := rfl

theorem passed_queued (given : List Frame) (last : Bytes) (line : Line) (queued : Bytes) :
    passed given last { line with incoming.queued := queued } = line.passed given last := by
  induction given generalizing line with
  | nil => rfl
  | cons frame given ih => rw [passed_cons, answered_queued, ih, passed_cons]

/-- Reading frames, and answering probes, leaves the rest of the line alone. -/
theorem passed_incoming (given : List Frame) (last : Bytes) (line : Line) :
    (line.passed given last).incoming = { line.incoming with queued := last } := by
  induction given generalizing line with
  | nil => rfl
  | cons frame given ih => rw [passed_cons, ih, answered_incoming]

theorem passed_closed (given : List Frame) (last : Bytes) (line : Line) :
    (line.passed given last).closed = line.closed := by
  induction given generalizing line with
  | nil => rfl
  | cons frame given ih => rw [passed_cons, ih, answered_closed]

theorem passed_sent (given : List Frame) (last : Bytes) (line : Line) :
    (line.passed given last).sent = line.sent ++ given.flatMap Frame.reply := by
  induction given generalizing line with
  | nil => exact (List.append_nil _).symm
  | cons frame given ih =>
      rw [passed_cons, ih, answered_sent, List.append_assoc, List.flatMap_cons]

theorem takes_answered_iff {line : Line} {frame : Frame} {n : Nat}
    (h : line.Takes (Frame.probes [frame])) :
    (line.answered frame).Takes n ↔ line.Takes (n + Frame.probes [frame]) := by
  unfold answered
  cases hprobe : frame.isProbe with
  | true =>
      rw [Frame.probes_of_isProbe hprobe, ← probeAnswer_writes] at h ⊢
      exact takes_posted_iff h
  | false => simp [Frame.probes, hprobe]

/-- Each probe that was answered has used up a write. -/
theorem takes_passed_iff {given : List Frame} {line : Line} (h : line.Takes (Frame.probes given))
    (last : Bytes) {n : Nat} :
    (line.passed given last).Takes n ↔ line.Takes (n + Frame.probes given) := by
  induction given generalizing line with
  | nil => exact takes_incoming
  | cons frame given ih =>
      rw [Frame.probes_cons] at h ⊢
      have hone := h.mono (Nat.le_add_right ..)
      rw [Nat.add_comm] at h
      rw [passed_cons, ih ((takes_answered_iff hone).mpr h), takes_answered_iff hone,
        Nat.add_assoc, Nat.add_comm (Frame.probes given)]

/-- Frames behind frames. -/
theorem passed_passed (given more : List Frame) (middle last : Bytes) (line : Line) :
    (line.passed given middle).passed more last = line.passed (given ++ more) last := by
  induction given generalizing line with
  | nil => rw [passed_nil, passed_queued, List.nil_append]
  | cons frame given ih => rw [passed_cons, ih, List.cons_append, passed_cons]

end Line

namespace EventChannel

/-- **Dealing with one frame.** -/
theorem receive_frame {line : Line} {frame : Frame} {last : Bytes}
    (h : line.incoming.queued = frame.bytes ++ last) (sessionId : UInt32) :
    receive sessionId line =
      match frame.report with
      | .ok (some notice) =>
          .ok (some (notice.stamp sessionId)) { line with incoming.queued := last }
      | .ok none =>
          match Line.send probeAnswer { line with incoming.queued := last } with
          | .ok () line => .ok none line
          | .error e line => .error e line
      | .error v => .error (.violation v) { line with incoming.queued := last } := by
  rw [receive, Line.receive_frame h, Frame.report]
  cases frame.packet with
  | error v => rfl
  | ok p =>
      obtain ⟨kind, payload⟩ := p
      simp only [bind, Except.bind]
      cases kind with
      | event =>
          simp only [Packet.report]
          cases Body.decode .event payload with
          | ok notice => rfl
          | error v => rfl
      | probeRequest =>
          simp only [Packet.report]
          cases Body.decode .probeRequest payload with
          | ok u => rfl
          | error v => rfl
      | _ => rfl

/-- What is not framed is not dealt with, and nothing is after it. -/
theorem receive_rest {line : Line} (h : Frame.first? line.incoming.queued = none)
    (sessionId : UInt32) :
    ∃ e source, receive sessionId line = .error e { line with incoming := source } ∧
      e.isFatal = true := by
  obtain ⟨e, source, hreceive, hfatal⟩ := Line.receive_rest h
  exact ⟨e, source, by rw [receive, hreceive], hfatal⟩

/-- A length that no packet has is told as such. -/
theorem receive_broken {line : Line} (h : Frame.Broken line.incoming.queued)
    (sessionId : UInt32) :
    ∃ source, receive sessionId line =
      .error (.violation (.invalidLength (Packet.announced line.incoming.queued)))
        { line with incoming := source } :=
  ⟨_, by rw [receive, Line.receive, Packet.read_of_broken h]⟩

end EventChannel

end PictureTransfer
