import PictureTransfer.Proofs.Session.Closing
import PictureTransfer.Proofs.Session.Request

/-!
# The number of the open session

A session keeps the number of the session that its responder knows.  It changes when an opening
or a closing of one is answered with success, and at no other time, so it is the one that the
last such answer brought (`Session.sessionId_run`).  Whatever is told of an event carries the
number of the moment at which its frame was complete on the event connection, with all that the
frame says (`Session.Stamps`).

* `Session.sessionId_after_call` — one call;
* `Session.stamps_feedEvent` — what is told when the responder's side acts on the event
  connection;
* `Session.stamped_of_attended` — what is told with any move, and nothing else;
* `Session.stamped_as_completed` — the same of every session that was connected.
-/

namespace PictureTransfer

namespace Session

/-- The number of the open session as answers tell it: the one that the last of them brought
that brought one, and the first number where none did. -/
def openNumber (first : UInt32) (answers : List ((call : Call) × Except Error call.Answer)) :
    UInt32 :=
  (answers.filterMap fun answered => answered.1.brings? answered.2).getLastD first

/-- The frames on the event connection that are complete once the responder's side has acted. -/
def completed (s : Session) (feed : Feed) : List Frame :=
  Frame.frames (s.events.channel.line.feed feed).incoming.queued

/-- What the reader passes on when the responder's side acts: the tasks of the frames that it gets
through, which are all that are there while their probes can be answered, with the number of the
open session, and one error at most behind them.  So an event is one of these frames, with the
number of the open session and all that the frame says. -/
structure Stamps (s : Session) (feed : Feed) : Prop where
  tasks : ∃ front, Frame.Through front (s.completed feed) ∧
    ((s.events.channel.line.feed feed).Responsive → front = s.completed feed) ∧
    ∃ failure : Option Error, s.passed (.feedEvent feed) =
      front.filterMap (Frame.task? s.sessionId) ++ failure.toList.map Task.failure
  events : ∀ event, .event event ∈ s.passed (.feedEvent feed) → ∃ frame ∈ s.completed feed,
    ∃ notice : EventNotice, frame.bytes = (Body.toPacket .event notice).toBytes ∧
      event = ⟨notice.code, s.sessionId, notice.transactionId, notice.params⟩

/-- What is told with a move: if the responder's side acts on the event connection while the reader
goes on, the frames that are complete then and were not before, and else nothing. -/
structure Stamped (s : Session) (move : Move) : Prop where
  completes : ∀ feed, move = .feedEvent feed → s.events.channel.ended = false →
    Frame.frames s.events.channel.line.incoming.queued = [] ∧ s.Stamps feed
  nothing : s.events.channel.ended = true ∨ (∀ feed, move ≠ .feedEvent feed) → s.passed move = []
  journal : (s.after move).events.journal =
    s.events.journal ++ s.events.roster.deliver (s.passed move)

variable {s : Session}

theorem close_sessionId (s : Session) : s.close.sessionId = s.sessionId := by
  unfold close
  split
  · rfl
  · rfl

/-- **One call.**  The number is the one that its answer brings, if it brings one. -/
theorem sessionId_after_call (s : Session) (call : Call) :
    (s.after (.call call)).sessionId = (call.brings? (s.answer call)).getD s.sessionId := by
  by_cases hready : s.phase = .ready
  · cases made hready call with
    | taken r cycle line hrequest hrun hafter =>
        rw [hafter]
        rfl
    | cut r e line hrequest hrun hanswer hafter =>
        rw [hafter, hanswer, Call.brings?_error, close_sessionId]
        rfl
    | other line part hrequest hclose hafter =>
        rw [hafter, Call.brings?_of_request? hrequest]
        rfl
    | closed hcall hafter =>
        subst hcall
        rw [hafter, close_sessionId]
        rfl
  · by_cases hcall : call = .close
    · subst hcall
      exact s.close_sessionId
    · have hrefused := @of_perform _ _ (.error (.wrongPhase s.phase .ready)) _
        (perform_of_not_ready hready hcall)
      rw [hrefused.1, hrefused.2, Call.brings?_error]
      rfl

theorem openNumber_cons (first : UInt32) (answered : (call : Call) × Except Error call.Answer)
    (answers : List ((call : Call) × Except Error call.Answer)) :
    openNumber first (answered :: answers) =
      openNumber ((answered.1.brings? answered.2).getD first) answers := by
  rw [openNumber, openNumber, List.filterMap_cons]
  cases answered.1.brings? answered.2 with
  | none => rfl
  | some number => rw [List.getLastD_cons]; rfl

/-- **A run of moves.**  The number is the last that an answer brought. -/
theorem sessionId_run (s : Session) (moves : List Move) :
    (s.run moves).sessionId = openNumber s.sessionId (s.answers moves) := by
  induction moves generalizing s with
  | nil => rfl
  | cons move moves ih =>
      refine (ih (s.after move)).trans ?_
      cases move with
      | call call =>
          rw [answers, openNumber_cons, sessionId_after_call]
      | feedCommand | feedEvent | enroll | dismiss => rfl

/-- **The responder's side acts** on the event connection, and the reader reads on. -/
theorem stamps_feedEvent (h : s.Listening) (feed : Feed) : s.Stamps feed := by
  obtain ⟨front, hthrough, hwhole, failure, htasks⟩ :=
    EventChannel.readOn_through s.sessionId (s.events.channel.line.feed feed)
  have hpassed := (feedEvent_events h feed).1.trans htasks
  refine ⟨⟨front, hthrough, hwhole, failure, hpassed⟩, fun event hevent => ?_⟩
  rw [hpassed, List.mem_append] at hevent
  rcases hevent with hfront | hfailure
  · obtain ⟨frame, hframe, htask⟩ := List.mem_filterMap.mp hfront
    obtain ⟨notice, hbytes, rfl⟩ := Frame.event_of_task? htask
    exact ⟨frame, hthrough.subset hframe, notice, hbytes, rfl⟩
  · obtain ⟨e, _, hsame⟩ := List.mem_map.mp hfailure
    exact Task.noConfusion hsame

/-- **Between moves** no complete frame is left for later. -/
theorem stamped_of_attended (h : s.Attended) (move : Move) : s.Stamped move where
  completes feed _ hgoes := by
    have hwaiting : s.Waiting := h.resolve_right (by simp [hgoes])
    refine ⟨?_, stamps_feedEvent hwaiting.toListening feed⟩
    have hnone := (EventChannel.waits_iff.mp hwaiting.waits).2.2.1
    rw [Frame.frames, Frame.split_of_none hnone]
  nothing hwhen := by
    rcases hwhen with hended | hother
    · exact (after_ended hended move).1
    · cases move with
      | call call => exact passed_call h call
      | feedEvent feed => exact absurd rfl (hother feed)
      | feedCommand | enroll | dismiss => rfl
  journal := by
    rw [journal_after h move, Roster.deliver_eq_traces]
    rfl

/-- **Events are stamped as they are completed.**  After any run of moves of any session that was
connected, its number is the one that the last answer brought that brought one; the frames that a
move completes are told with the number of that moment; and those that stood behind the greeting
of the responder were told without a number. -/
theorem stamped_as_completed {config : Config} {roster : Roster} {waiting left : List Line}
    (h : connect config roster waiting = (.session s, left)) :
    (∀ moves, (s.run moves).sessionId = openNumber 0 (s.answers moves) ∧
      ∀ move, (s.run moves).Stamped move) ∧
    ∃ command event ack, Connected.Opened config waiting left command event ack ∧
      s = (opened command event roster ack).after (.feedEvent {}) ∧
      (opened command event roster ack).sessionId = 0 ∧
      (opened command event roster ack).Stamps {} ∧
      s.events.journal =
        roster.deliver ((opened command event roster ack).passed (.feedEvent {})) := by
  obtain ⟨command, event, ack, hlines, rfl⟩ := Connected.opened_of_connect h
  have hopened := opened_listening command event roster ack
  have hattended := attended_opened command event roster ack
  refine ⟨fun moves => ⟨sessionId_run _ moves, ?_⟩, command, event, ack, hlines, rfl, rfl,
    stamps_feedEvent hopened {}, ?_⟩
  · exact stamped_of_attended (attended_run hattended moves)
  · rw [journal_feedEvent hopened, callbacks, ← Roster.deliver_eq_traces]
    rfl

/-- The responder answers, and the session of number 5 is to be opened. -/
def opening (answer : Exchange) : List Move :=
  [.feedCommand { bytes := answer.toBytes }, .call (.openSession 5)]

/-- A session of a responder that answers the opening with success. -/
theorem opening_answered :
    ∃ s answer, connect {} .empty [Connected.accepting, confirming] = (.session s, []) ∧
      s.answers (opening answer) = [⟨.openSession 5, .ok ()⟩] := by
  have hconnect : ∃ s, connect {} .empty [Connected.accepting, confirming] = (.session s, []) ∧
      s.command.writeFault = none ∧ s.command.incoming.queued = [] :=
    ⟨_, by simp only [connect, Line.next, Connected.command_accepting, event_confirming]; rfl,
      rfl, rfl⟩
  obtain ⟨s, h, hwrite, hqueued⟩ := hconnect
  obtain ⟨hphase, hcounter, hopen⟩ := Connected.session_new h
  let turn : Turn := ⟨.openSession, ⟨[5], by decide⟩, none, ⟨[], ⟨.ok, 1, ⟨[], by decide⟩⟩⟩⟩
  have hawaits : Awaits 0 [turn] [] (s.feedCommand { bytes := turn.exchange.toBytes }) := by
    refine ⟨hphase, ⟨hwrite, (Bool.or_false _).trans hopen⟩, ?_, ?_⟩
    · exact congrArg (fun c => c.last.toNat) hcounter
    · refine (Line.feed_queued hopen _).trans ?_
      rw [hqueued]
      rfl
  have htransact := (awaits_step hawaits (by decide) rfl (by decide)).1.outcome
  have hperform := bind_of_ok (bind_of_ok htransact fun t => given t.confirmed)
    fun _ => setSessionId 5
  have hanswer := (@of_perform _ (.openSession 5) (.ok ()) _ hperform).1
  exact ⟨s, turn.exchange, h, congrArg (fun answer => [(⟨.openSession 5, answer⟩ :
    (call : Call) × Except Error call.Answer)]) hanswer⟩

/-- Once the session of number 5 is open, events are stamped with 5. -/
theorem stamped_as_completed_opening :
    ∃ s answer, connect {} .empty [Connected.accepting, confirming] = (.session s, []) ∧
      s.answers (opening answer) = [⟨.openSession 5, .ok ()⟩] ∧
      (s.run (opening answer)).sessionId = 5 ∧ ∀ move, (s.run (opening answer)).Stamped move := by
  obtain ⟨s, answer, h, hanswers⟩ := opening_answered
  obtain ⟨hnumber, hstamped⟩ := (stamped_as_completed h).1 (opening answer)
  rw [hanswers] at hnumber
  exact ⟨s, answer, h, hanswers, hnumber, hstamped⟩

end Session

end PictureTransfer
