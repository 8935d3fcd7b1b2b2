import PictureTransfer.Proofs.Event.Hearing
import PictureTransfer.Proofs.Link.Use

/-!
# How far the reader gets

The reader of the event connection takes one frame after the other.  It waits behind the
last, unless the line breaks off there or before: the responder shut it down, a transfer
fails, what follows is not framed, or a probe cannot be answered (`Line.BreaksOff`).
Then it tells so, as the last thing it does, and ends.

* `readOn_frame`, `readOn_frames` — one frame, and any number of them by induction;
* `readOn_framed`, `readOn_broken` — all that is there, while nothing fails;
* `readOn_through` — what is told of the frames that are there, whatever becomes of the line;
* `readOn_told` — what is told is not fatal, but for the last thing if the reader ends;
* `readOn_ended_iff` — the reader ends just where the line breaks off.
-/

namespace PictureTransfer

/-- True of the news that the connection can deliver no further packets. -/
def Notice.isFatal : Notice → Bool
  | .error cause => cause.isFatal
  | _ => false

/-- True of a task that ends the stream of events. -/
def Task.isFatal (task : Task) : Bool := task.notice.isFatal

theorem Event.notice_ok_nonfatal {event : Event} {notice : Notice}
    (h : event.notice = .ok notice) : notice.isFatal = false := by
  unfold Event.notice at h
  split at h <;> first
    | obtain ⟨_, _, rfl⟩ := except_map_ok_iff.mp h
      rfl
    | obtain rfl := Except.ok.inj h
      rfl

/-- An event never ends the stream, not even one that lacks a parameter. -/
theorem Task.event_nonfatal (event : Event) : (Task.event event).isFatal = false := by
  unfold isFatal
  cases h : event.notice with
  | ok notice =>
      simp only [Task.notice, h]
      exact Event.notice_ok_nonfatal h
  | error v =>
      simp only [Task.notice, h]
      exact Event.notice_error_nonfatal h

namespace Frame

/-- What is told of the end of the frames: only a length that no packet has. -/
def unframed (last : Bytes) : List Task :=
  if Broken last then [.failure (.violation (.invalidLength (Packet.announced last)))] else []

/-- The tasks that a stream becomes in a session. -/
def tasks (sessionId : UInt32) (stream : Bytes) : List Task :=
  (frames stream).filterMap (task? sessionId) ++ unframed (rest stream)

/-- The answers to the probes in a stream. -/
def replies (stream : Bytes) : Bytes := (frames stream).flatMap reply

variable {stream : Bytes}

theorem tasks_append (h : ¬ Broken (rest stream)) (sessionId : UInt32) (more : Bytes) :
    tasks sessionId (stream ++ more) =
      tasks sessionId stream ++ tasks sessionId (rest stream ++ more) := by
  have hnothing : unframed (rest stream) = [] := if_neg h
  rw [tasks, tasks, tasks, frames_append, rest_append, hnothing, List.filterMap_append,
    List.append_nil, List.append_assoc]

theorem replies_append (stream more : Bytes) :
    replies (stream ++ more) = replies stream ++ replies (rest stream ++ more) := by
  rw [replies, frames_append, List.flatMap_append, replies, replies]

/-- Behind a header that no packet has nothing counts. -/
theorem tasks_append_of_broken (h : Broken (rest stream)) (sessionId : UInt32) (more : Bytes) :
    tasks sessionId (stream ++ more) = tasks sessionId stream := by
  have hfour : 4 ≤ (rest stream).length := Nat.le_trans (by decide) h.1
  have hsame : unframed (rest stream ++ more) = unframed (rest stream) := by
    rw [unframed, unframed, if_pos h, if_pos (h.append more), Packet.announced_append hfour]
  rw [tasks, (frames_append_of_broken h more).1, (frames_append_of_broken h more).2, hsame, tasks]

theorem replies_append_of_broken (h : Broken (rest stream)) (more : Bytes) :
    replies (stream ++ more) = replies stream := by
  rw [replies, (frames_append_of_broken h more).1, replies]

/-- How far a reader gets through frames: to their end, or up to a probe that it cannot
answer. -/
inductive Through (front : List Frame) : List Frame → Prop where
  | whole : Through front front
  | upTo (probe : Frame) (rest : List Frame) (h : probe.isProbe = true) :
      Through front (front ++ probe :: rest)

theorem Through.cons {front given : List Frame} (frame : Frame) (h : Through front given) :
    Through (frame :: front) (frame :: given) := by
  cases h with
  | whole => exact .whole
  | upTo probe rest h => exact .upTo probe rest h

theorem Through.subset {front given : List Frame} (h : Through front given) : front ⊆ given := by
  cases h with
  | whole => exact List.Subset.refl front
  | upTo probe rest => exact List.subset_append_left front _

end Frame

namespace Line

/-- The line takes the answers to all the probes that are there. -/
def Responsive (line : Line) : Prop :=
  line.Takes (Frame.probes (Frame.frames line.incoming.queued))

/-- The line once all the frames that are there are read, and the probes among them
answered. -/
def drained (line : Line) : Line :=
  line.passed (Frame.frames line.incoming.queued) (Frame.rest line.incoming.queued)

/-- Reading on, the end of the line comes into sight. -/
inductive BreaksOff (line : Line) : Prop where
  /-- The responder has shut the line down. -/
  | ended (h : line.closed = true)
  /-- A transfer fails behind the bytes that are there. -/
  | failed (h : line.incoming.pending ≠ none)
  /-- The frames end with a length that no packet has. -/
  | broken (h : Frame.Broken (Frame.rest line.incoming.queued))
  /-- One of the probes among the frames cannot be answered. -/
  | unanswered (h : ¬ line.Responsive)

theorem drained_incoming (line : Line) :
    line.drained.incoming = { line.incoming with queued := Frame.rest line.incoming.queued } :=
  passed_incoming ..

/-- No frame is left on it. -/
theorem drained_first? (line : Line) : Frame.first? line.drained.incoming.queued = none := by
  rw [drained_incoming]
  exact Frame.first?_rest _

theorem drained_closed (line : Line) : line.drained.closed = line.closed := passed_closed ..

theorem drained_sent (line : Line) :
    line.drained.sent = line.sent ++ Frame.replies line.incoming.queued := passed_sent ..

end Line

namespace EventChannel

variable {sessionId : UInt32} {closing : Bool} {line line' : Line} {e : Error}

theorem readOn_waits (h : waits line = true) :
    readOn sessionId closing line = ⟨[], line, false⟩ := by
  rw [readOn, if_pos h]

theorem readOn_event {event : Event} (hwaits : waits line = false)
    (h : receive sessionId line = .ok (some event) line') :
    readOn sessionId closing line = (readOn sessionId closing line').after (.event event) := by
  rw [readOn, if_neg (by simp [hwaits])]
  split <;> simp_all

theorem readOn_answer (hwaits : waits line = false) (h : receive sessionId line = .ok none line') :
    readOn sessionId closing line = readOn sessionId closing line' := by
  rw [readOn, if_neg (by simp [hwaits])]
  split <;> simp_all

theorem readOn_fault (hwaits : waits line = false) (h : receive sessionId line = .error e line')
    (he : e.isFatal = false) :
    readOn sessionId false line = (readOn sessionId false line').after (.failure e) := by
  rw [readOn, if_neg (by simp [hwaits])]
  split <;> simp_all

theorem readOn_end (hwaits : waits line = false) (h : receive sessionId line = .error e line')
    (he : e.isFatal = true) : readOn sessionId false line = ⟨[.failure e], line', true⟩ := by
  rw [readOn, if_neg (by simp [hwaits])]
  split <;> simp_all

/-- Once the connection was given up, its end is no news. -/
theorem readOn_closing (hwaits : waits line = false)
    (h : receive sessionId line = .error e line') :
    readOn sessionId true line = ⟨[], line', true⟩ := by
  rw [readOn, if_neg (by simp [hwaits])]
  split <;> simp_all

/-- What was told before comes first. -/
def Reading.behind (r : Reading) (told : List Task) : Reading := { r with tasks := told ++ r.tasks }

/-- The reader waits on an open line that will not fail, with no frame at its front and
none that is broken. -/
theorem waits_iff :
    waits line = true ↔ line.closed = false ∧ line.incoming.pending = none ∧
      Frame.first? line.incoming.queued = none ∧ ¬ Frame.Broken line.incoming.queued := by
  simp only [waits, Bool.and_eq_true, Bool.not_eq_true', Option.isNone_iff_eq_none,
    Frame.isComplete_eq_false_iff]
  exact ⟨fun h => ⟨h.2, h.1.2, h.1.1⟩, fun h => ⟨⟨h.2.2, h.2.1⟩, h.1⟩⟩

theorem waits_of_frame {frame : Frame} {last : Bytes}
    (h : line.incoming.queued = frame.bytes ++ last) : waits line = false := by
  have hfirst := Frame.first?_eq_some_iff.mpr h
  rw [← Bool.not_eq_true, waits_iff]
  simp [hfirst]

/-- A frame that is no probe is told, whatever becomes of the line. -/
theorem readOn_told_frame {frame : Frame} {last : Bytes}
    (h : line.incoming.queued = frame.bytes ++ last) (hreport : frame.report ≠ .ok none) :
    readOn sessionId false line =
      (readOn sessionId false { line with incoming.queued := last }).behind
        (frame.task? sessionId).toList := by
  have hwaits := waits_of_frame h
  have hreceive := receive_frame h sessionId
  unfold Frame.task?
  cases hnews : frame.report with
  | error v =>
      rw [hnews] at hreceive
      rw [readOn_fault hwaits hreceive (Frame.report_error hnews)]
      rfl
  | ok news =>
      cases news with
      | some notice =>
          rw [hnews] at hreceive
          rw [readOn_event hwaits hreceive]
          rfl
      | none => exact absurd hnews hreport

/-- A probe that is answered leaves nothing to tell. -/
theorem readOn_answered {frame : Frame} {last : Bytes}
    (h : line.incoming.queued = frame.bytes ++ last) (hprobe : frame.isProbe = true) {u : Unit}
    (hsend : Line.send probeAnswer { line with incoming.queued := last } = .ok u line') :
    readOn sessionId false line = readOn sessionId false line' := by
  have hreceive := receive_frame h sessionId
  simp only [Frame.report_probe_iff.mpr hprobe, hsend] at hreceive
  exact readOn_answer (waits_of_frame h) hreceive

/-- A probe that cannot be answered ends the reader, which tells why. -/
theorem readOn_unanswerable {frame : Frame} {last : Bytes}
    (h : line.incoming.queued = frame.bytes ++ last) (hprobe : frame.isProbe = true)
    (hsend : Line.send probeAnswer { line with incoming.queued := last } = .error e line') :
    readOn sessionId false line = ⟨[.failure e], line', true⟩ := by
  have hreceive := receive_frame h sessionId
  simp only [Frame.report_probe_iff.mpr hprobe, hsend] at hreceive
  have hfatal : e.isFatal = true := by
    rcases (Line.send_error hsend).1 with ⟨fault, rfl⟩ | rfl
    · rfl
    · rfl
  exact readOn_end (waits_of_frame h) hreceive hfatal

/-- **One frame.**  The reader tells what it is, or answers it, and goes on. -/
theorem readOn_frame {frame : Frame} {last : Bytes}
    (h : line.incoming.queued = frame.bytes ++ last)
    (htakes : line.Takes (Frame.probes [frame])) :
    readOn sessionId false line =
      (readOn sessionId false (line.passed [frame] last)).behind
        (frame.task? sessionId).toList := by
  by_cases hreport : frame.report = .ok none
  · have hprobe := Frame.report_probe_iff.mp hreport
    have hsend : Line.send probeAnswer { line with incoming.queued := last } =
        .ok () (line.passed [frame] last) := by
      refine Line.send_ok_iff.mpr ⟨probeAnswer_fits, ?_, ?_⟩
      · rw [Frame.probes_of_isProbe hprobe] at htakes
        exact Line.takes_incoming.mpr htakes
      · rw [Line.passed_cons, Line.passed_nil, ← Line.answered_queued, Line.answered,
          if_pos hprobe]
    rw [readOn_answered h hprobe hsend, Frame.task?, hreport]
    rfl
  · rw [readOn_told_frame h hreport, Line.passed_of_report hreport]

theorem Reading.behind_behind (r : Reading) (told more : List Task) :
    (r.behind more).behind told = r.behind (told ++ more) := by
  simp [Reading.behind]

/-- **Frames in a row.**  While the probes among them can be answered, each is told or
answered in its turn. -/
theorem readOn_frames {given : List Frame} {last : Bytes}
    (h : line.incoming.queued = Frame.join given ++ last)
    (htakes : line.Takes (Frame.probes given)) :
    readOn sessionId false line =
      (readOn sessionId false (line.passed given last)).behind
        (given.filterMap (Frame.task? sessionId)) := by
  -- By induction on the frames; each probe uses up one of the writes that the line takes.
  induction given generalizing line with
  | nil =>
      obtain rfl : line.incoming.queued = last := h
      rfl
  | cons frame given ih =>
      have hfront : line.incoming.queued = frame.bytes ++ (Frame.join given ++ last) := by
        rw [h, ← List.append_assoc]
        rfl
      rw [Frame.probes_cons] at htakes
      have hone := htakes.mono (Nat.le_add_right ..)
      have hnext : (line.passed [frame] (Frame.join given ++ last)).Takes (Frame.probes given) :=
        (Line.takes_passed_iff hone _).mpr (Nat.add_comm .. ▸ htakes)
      rw [readOn_frame hfront hone, ih (by rw [Line.passed_incoming]) hnext,
        Reading.behind_behind, Line.passed_passed, List.singleton_append, List.filterMap_cons]
      cases frame.task? sessionId with
      | none => rfl
      | some task => rfl

/-- Behind all frames that are there. -/
theorem readOn_drained (h : line.Responsive) :
    readOn sessionId false line =
      (readOn sessionId false line.drained).behind
        ((Frame.frames line.incoming.queued).filterMap (Frame.task? sessionId)) :=
  readOn_frames (Frame.join_frames_append_rest line.incoming.queued).symm h

/-- **All that is there**, while nothing fails: the reader waits behind the last frame. -/
theorem readOn_framed (h : line.Responsive) (hpending : line.incoming.pending = none)
    (hframed : ¬ Frame.Broken (Frame.rest line.incoming.queued)) (sessionId : UInt32) :
    readOn sessionId false line =
      ⟨Frame.tasks sessionId line.incoming.queued, line.drained, false⟩ := by
  have hwaits : waits line.drained = true := by
    rw [waits_iff, Line.drained_closed, Line.drained_incoming]
    exact ⟨h.opened, hpending, Frame.first?_rest _, hframed⟩
  rw [readOn_drained h, readOn_waits hwaits]
  simp [Reading.behind, Frame.tasks, Frame.unframed, hframed]

/-- **A length that no packet has** is told behind what the frames in front of it were, and
ends the reader. -/
theorem readOn_broken (h : line.Responsive)
    (hbroken : Frame.Broken (Frame.rest line.incoming.queued)) (sessionId : UInt32) :
    ∃ source, readOn sessionId false line =
      ⟨Frame.tasks sessionId line.incoming.queued, { line.drained with incoming := source },
        true⟩ := by
  have hqueued : line.drained.incoming.queued = Frame.rest line.incoming.queued := by
    rw [Line.drained_incoming]
  rw [← hqueued] at hbroken
  obtain ⟨source, hreceive⟩ := receive_broken hbroken sessionId
  have hwaits : waits line.drained = false := by
    rw [← Bool.not_eq_true, waits_iff]
    exact fun hall => hall.2.2.2 hbroken
  refine ⟨source, ?_⟩
  rw [readOn_drained h, readOn_end hwaits hreceive rfl]
  rw [hqueued] at hbroken ⊢
  simp only [Reading.behind, Frame.tasks, Frame.unframed, if_pos hbroken]

/-- On a line that was shut down the reader ends, whatever is still there. -/
theorem readOn_closed (h : line.closed = true) :
    (readOn sessionId closing line).ended = true := by
  fun_induction readOn sessionId closing line with
  | case1 line hwaits => simp [(waits_iff.mp hwaits).1] at h
  | case2 line hwaits event line' hreceive ih =>
      exact ih (((receive_used sessionId).ok hreceive).closed.trans h)
  | case3 line hwaits line' hreceive ih =>
      exact ih (((receive_used sessionId).ok hreceive).closed.trans h)
  | case4 line hwaits e line' hreceive hclosing => rfl
  | case5 line hwaits e line' hreceive hclosing he ih =>
      exact ih (((receive_used sessionId).error hreceive).closed.trans h)
  | case6 line hwaits e line' hreceive hclosing he => rfl

/-- A probe that cannot be answered ends the reader. -/
theorem readOn_unanswered {given : List Frame} {last : Bytes}
    (hqueued : line.incoming.queued = Frame.join given ++ last)
    (h : ¬ line.Takes (Frame.probes given)) :
    (readOn sessionId false line).ended = true := by
  by_cases hclosed : line.closed = true
  · exact readOn_closed hclosed
  have hopen : line.closed = false := by simpa using hclosed
  induction given generalizing line with
  | nil => exact absurd ⟨hopen, fun _ _ _ => Nat.zero_le _⟩ h
  | cons frame given ih =>
      have hfront : line.incoming.queued = frame.bytes ++ (Frame.join given ++ last) := by
        rw [hqueued, ← List.append_assoc]
        rfl
      by_cases hone : line.Takes (Frame.probes [frame])
      · -- The probe that cannot be answered is further on.
        rw [readOn_frame hfront hone]
        refine ih (by rw [Line.passed_incoming]) ?_ (by rw [Line.passed_closed, hopen]; simp)
          (by rw [Line.passed_closed, hopen])
        rw [Line.takes_passed_iff hone, Nat.add_comm, ← Frame.probes_cons]
        exact h
      · have hprobe : frame.isProbe = true := by
          refine Decidable.byContradiction fun hprobe => hone ⟨hopen, fun _ _ _ => ?_⟩
          simp [Frame.probes, hprobe]
        rw [Frame.probes_of_isProbe hprobe] at hone
        cases hsend : Line.send probeAnswer
            { line with incoming.queued := Frame.join given ++ last } with
        | ok u line' =>
            exact absurd (Line.takes_incoming.mp (Line.send_ok_iff.mp hsend).2.1) hone
        | error e line' => rw [readOn_unanswerable hfront hprobe hsend]

/-- Where there is no frame, there is one error at most to tell. -/
theorem readOn_rest (h : Frame.first? line.incoming.queued = none) (sessionId : UInt32) :
    ∃ failure : Option Error,
      (readOn sessionId false line).tasks = failure.toList.map Task.failure := by
  cases hwaits : waits line with
  | true => exact ⟨none, by rw [readOn_waits hwaits]; rfl⟩
  | false =>
      obtain ⟨e, source, hreceive, hfatal⟩ := receive_rest h sessionId
      exact ⟨some e, by rw [readOn_end hwaits hreceive hfatal]; rfl⟩

/-- Frames in a row, whatever becomes of the line: each is told or answered in its turn, up to a
probe that cannot be answered, and there is one error at most behind them. -/
theorem readOn_front {given : List Frame} {last : Bytes}
    (hqueued : line.incoming.queued = Frame.join given ++ last)
    (hlast : Frame.first? last = none) (sessionId : UInt32) :
    ∃ front, Frame.Through front given ∧ ∃ failure : Option Error,
      (readOn sessionId false line).tasks =
        front.filterMap (Frame.task? sessionId) ++ failure.toList.map Task.failure := by
  induction given generalizing line with
  | nil =>
      obtain rfl : line.incoming.queued = last := hqueued
      exact ⟨[], .whole, readOn_rest hlast sessionId⟩
  | cons frame given ih =>
      have hfront : line.incoming.queued = frame.bytes ++ (Frame.join given ++ last) := by
        rw [hqueued, ← List.append_assoc]
        rfl
      by_cases hreport : frame.report = .ok none
      · have hprobe := Frame.report_probe_iff.mp hreport
        cases hsend : Line.send probeAnswer
            { line with incoming.queued := Frame.join given ++ last } with
        | ok u line' =>
            have hincoming := (Line.send_ok hsend).2.2.incoming
            obtain ⟨front, hthrough, failure, htasks⟩ := @ih line' (by rw [hincoming])
            refine ⟨frame :: front, hthrough.cons frame, failure, ?_⟩
            rw [readOn_answered hfront hprobe hsend, htasks, List.filterMap_cons, Frame.task?,
              hreport]
        | error e line' =>
            refine ⟨[], .upTo frame given hprobe, some e, ?_⟩
            rw [readOn_unanswerable hfront hprobe hsend]
            rfl
      · obtain ⟨front, hthrough, failure, htasks⟩ :=
          @ih { line with incoming.queued := Frame.join given ++ last } rfl
        refine ⟨frame :: front, hthrough.cons frame, failure, ?_⟩
        rw [readOn_told_frame hfront hreport, Reading.behind, htasks, List.filterMap_cons]
        cases Frame.task? sessionId frame with
        | none => rfl
        | some task => rfl

/-- **What is told of the frames that are there**, whatever becomes of the line: of all of them,
while it takes the answers to their probes. -/
theorem readOn_through (sessionId : UInt32) (line : Line) :
    ∃ front, Frame.Through front (Frame.frames line.incoming.queued) ∧
      (line.Responsive → front = Frame.frames line.incoming.queued) ∧
      ∃ failure : Option Error, (readOn sessionId false line).tasks =
        front.filterMap (Frame.task? sessionId) ++ failure.toList.map Task.failure := by
  by_cases h : line.Responsive
  · obtain ⟨failure, hrest⟩ := readOn_rest line.drained_first? sessionId
    refine ⟨_, .whole, fun _ => rfl, failure, ?_⟩
    rw [readOn_drained h, Reading.behind, hrest]
  · obtain ⟨front, hthrough, failure, htasks⟩ :=
      readOn_front (Frame.join_frames_append_rest line.incoming.queued).symm
        (Frame.first?_rest _) sessionId
    exact ⟨front, hthrough, fun hresponsive => absurd hresponsive h, failure, htasks⟩

/-- What a reading tells: nothing fatal, but for the last thing if the reader ended. -/
inductive Reading.Told : Reading → Prop where
  | going {told : List Task} {line : Line} (h : ∀ task ∈ told, task.isFatal = false) :
      Told ⟨told, line, false⟩
  | ended {told : List Task} {line : Line} {e : Error} (h : ∀ task ∈ told, task.isFatal = false)
      (he : e.isFatal = true) : Told ⟨told ++ [.failure e], line, true⟩

theorem Reading.Told.after {r : Reading} (h : r.Told) {task : Task}
    (htask : task.isFatal = false) : (r.after task).Told := by
  cases h with
  | going htold => exact .going (List.forall_mem_cons.mpr ⟨htask, htold⟩)
  | ended htold he => exact .ended (List.forall_mem_cons.mpr ⟨htask, htold⟩) he

theorem Reading.Told.of_going {r : Reading} (h : r.Told) (hgoing : r.ended = false) :
    ∀ task ∈ r.tasks, task.isFatal = false := by
  cases h with
  | going htold => exact htold
  | ended => simp at hgoing

theorem Reading.Told.of_ended {r : Reading} (h : r.Told) (hended : r.ended = true) :
    ∃ told e, r.tasks = told ++ [.failure e] ∧ (∀ task ∈ told, task.isFatal = false) ∧
      e.isFatal = true := by
  cases h with
  | going => simp at hended
  | ended htold he => exact ⟨_, _, rfl, htold, he⟩

/-- **Only the end is fatal**, and it is told last. -/
theorem readOn_told (sessionId : UInt32) (line : Line) : (readOn sessionId false line).Told := by
  generalize hclosing : false = closing
  fun_induction readOn sessionId closing line with
  | case1 line hwaits => exact .going (by simp)
  | case2 line hwaits event line' hreceive ih => exact ih.after (Task.event_nonfatal event)
  | case3 line hwaits line' hreceive ih => exact ih
  | case4 line hwaits e line' hreceive hgiven => simp [← hclosing] at hgiven
  | case5 line hwaits e line' hreceive hgiven he ih => exact ih.after he
  | case6 line hwaits e line' hreceive hgiven he =>
      exact @Reading.Told.ended [] line' e (by simp) (by simpa using he)

/-- **The reader ends just where the line breaks off.** -/
theorem readOn_ended_iff :
    (readOn sessionId false line).ended = true ↔ line.BreaksOff := by
  by_cases hresponsive : line.Responsive
  · by_cases hbroken : Frame.Broken (Frame.rest line.incoming.queued)
    · obtain ⟨source, hread⟩ := readOn_broken hresponsive hbroken sessionId
      exact iff_of_true (by rw [hread]) (.broken hbroken)
    · by_cases hpending : line.incoming.pending = none
      · refine iff_of_false (by rw [readOn_framed hresponsive hpending hbroken sessionId]; simp) ?_
        intro h
        cases h with
        | ended hclosed => simp [hresponsive.opened] at hclosed
        | failed hfailed => exact hfailed hpending
        | broken hframes => exact hbroken hframes
        | unanswered hnot => exact hnot hresponsive
      · refine iff_of_true ?_ (.failed hpending)
        have hwaits : waits line.drained = false := by
          rw [← Bool.not_eq_true, waits_iff, Line.drained_incoming]
          exact fun hall => hpending hall.2.1
        obtain ⟨e, source, hreceive, hfatal⟩ := receive_rest line.drained_first? sessionId
        rw [readOn_drained hresponsive, readOn_end hwaits hreceive hfatal]
        rfl
  · exact iff_of_true
      (readOn_unanswered (Frame.join_frames_append_rest line.incoming.queued).symm hresponsive)
      (.unanswered hresponsive)

theorem not_breaksOff_of_waits (h : waits line = true) : ¬ line.BreaksOff := by
  rw [← @readOn_ended_iff 0, readOn_waits h]
  exact Bool.false_ne_true

end EventChannel

end PictureTransfer
