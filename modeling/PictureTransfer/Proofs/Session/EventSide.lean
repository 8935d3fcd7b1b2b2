import PictureTransfer.Proofs.Event.Isolation
import PictureTransfer.Proofs.Event.Reading
import PictureTransfer.Proofs.Session.Conduct
import PictureTransfer.Proofs.Session.Welcome

/-!
# The event side of a session

Between moves the reader of a session's event connection either waits for more of a frame
or has ended (`Session.Attended`).  Only the responder's side gets it to tell anything: a
call leaves it waiting, or gives the connection up, and then nobody is told of its end.

`Session.callbacks` lists who is told what during a move.  What is left in the journal
follows from it (`Session.journal_run`), so nothing else is ever told.

* `Session.feedEvent_events`, `Session.after_call` — one move of the responder's side, and
  one call;
* `Session.attended_after` — the invariant;
* `Session.run_ended` — once the reader has ended, nothing is told or sent.
-/

namespace PictureTransfer

namespace EventChannel

/-- A reader that goes on waits. -/
theorem readOn_waits_of_going {sessionId : UInt32} {closing : Bool} {line : Line}
    (h : (readOn sessionId closing line).ended = false) :
    waits (readOn sessionId closing line).line = true := by
  fun_induction readOn sessionId closing line with
  | case1 line hwaits => exact hwaits
  | case2 line hwaits event line' hreceive ih => exact ih h
  | case3 line hwaits line' hreceive ih => exact ih h
  | case4 line hwaits e line' hreceive hclosing => simp at h
  | case5 line hwaits e line' hreceive hclosing he ih => exact ih h
  | case6 line hwaits e line' hreceive hclosing he => simp at h

/-- Giving up a connection whose reader waits ends the reader without a word. -/
theorem pump_closeStream {channel : EventChannel} (hended : channel.ended = false)
    (hwaits : waits channel.line = true) (sessionId : UInt32) :
    ∃ source, channel.closeStream.pump sessionId =
      ([], { channel with
        line := { channel.line.shut with incoming := source }
        closing := true
        ended := true }) := by
  -- The reader was waiting, so no frame is there, and it comes to the end at once.
  have hnone : Frame.first? channel.line.shut.incoming.queued = none := (waits_iff.mp hwaits).2.2.1
  have hshut : waits channel.line.shut = false := by
    rw [← Bool.not_eq_true, waits_iff]
    simp [Line.shut]
  obtain ⟨e, source, hreceive, _⟩ := receive_rest hnone sessionId
  have hread := readOn_closing hshut hreceive
  refine ⟨source, ?_⟩
  simp only [pump, closeStream, hended, Bool.false_eq_true, if_false, hread]

end EventChannel

namespace EventDesk

theorem settle_of_ended {desk : EventDesk} (h : desk.channel.ended = true) :
    desk.settle = desk := by
  rw [settle, EventChannel.pump_ended h]
  simp

/-- Nobody is told when a connection is given up. -/
theorem closeStream_journal (desk : EventDesk)
    (h : desk.channel.ended = true ∨ EventChannel.waits desk.channel.line = true) :
    desk.closeStream.journal = desk.journal ∧
      desk.closeStream.channel.line.sent = desk.channel.line.sent ∧
      desk.closeStream.channel.ended = true := by
  cases hended : desk.channel.ended with
  | true =>
      have hsettle : settle { desk with channel := desk.channel.closeStream } =
          { desk with channel := desk.channel.closeStream } := settle_of_ended hended
      rw [closeStream, hsettle]
      exact ⟨rfl, rfl, hended⟩
  | false =>
      have hwaits := h.resolve_left (by simp [hended])
      obtain ⟨source, hpump⟩ := EventChannel.pump_closeStream hended hwaits desk.sessionId
      simp only [closeStream, settle, hpump]
      simp [Line.shut]

end EventDesk

namespace Session

/-- The tasks that the reader passes on during a move. -/
def passed (s : Session) : Move → List Task
  | .feedEvent feed =>
      (EventChannel.pump s.sessionId
        { s.events.channel with line := s.events.channel.line.feed feed }).1
  | .call call =>
      if (s.after (.call call)).phase = s.phase then []
      else (s.events.channel.closeStream.pump s.sessionId).1
  | .feedCommand _ | .enroll _ | .dismiss _ => []

/-- Who is told what during a move. -/
def callbacks (s : Session) (move : Move) : List (Listener × Notice) :=
  s.events.roster.calls (s.passed move)

/-- Who is told what during a run of moves. -/
def callbacksOf (s : Session) : List Move → List (Listener × Notice)
  | [] => []
  | move :: moves => s.callbacks move ++ (s.after move).callbacksOf moves

/-- A ready session whose reader goes on. -/
structure Listening (s : Session) : Prop where
  phase : s.phase = .ready
  closing : s.events.channel.closing = false
  ended : s.events.channel.ended = false

/-- One whose reader has read all that it could. -/
structure Waiting (s : Session) : Prop extends Listening s where
  waits : EventChannel.waits s.events.channel.line = true

/-- A reader goes on waiting while its channel is let alone. -/
theorem Waiting.of_channel {s s' : Session} (h : s.Waiting) (hphase : s'.phase = s.phase)
    (hchannel : s'.events.channel = s.events.channel) : s'.Waiting where
  phase := hphase.trans h.phase
  closing := by rw [hchannel, h.closing]
  ended := by rw [hchannel, h.ended]
  waits := by rw [hchannel, h.waits]

/-- Between moves, the reader of a session waits or has ended. -/
def Attended (s : Session) : Prop := s.Waiting ∨ s.events.channel.ended = true

/-- Nobody was told anything, and nothing was sent on the event connection. -/
structure Silent (s s' : Session) : Prop where
  journal : s'.events.journal = s.events.journal
  sent : s'.events.channel.line.sent = s.events.channel.line.sent

theorem Silent.refl (s : Session) : Silent s s := ⟨rfl, rfl⟩

theorem Silent.trans {s middle s' : Session} (h : Silent s middle) (h' : Silent middle s') :
    Silent s s' := ⟨h'.journal.trans h.journal, h'.sent.trans h.sent⟩

variable {s : Session}

/-- **The responder's side acts** on the event connection, and the reader reads on. -/
theorem feedEvent_events (h : s.Listening) (feed : Feed) :
    let r := EventChannel.readOn s.sessionId false (s.events.channel.line.feed feed)
    s.passed (.feedEvent feed) = r.tasks ∧
      (s.after (.feedEvent feed)).events = { s.events with
        channel := { s.events.channel with
          line := r.line
          ended := r.ended }
        journal := s.events.journal ++ s.events.roster.deliver r.tasks } := by
  have hpump : EventChannel.pump s.events.sessionId
      { s.events.channel with line := s.events.channel.line.feed feed } =
      let r := EventChannel.readOn s.events.sessionId false (s.events.channel.line.feed feed)
      (r.tasks, { s.events.channel with
        line := r.line
        ended := r.ended }) := by
    simp only [EventChannel.pump, h.ended, h.closing, Bool.false_eq_true, if_false]
  refine ⟨congrArg Prod.fst hpump, ?_⟩
  simp only [after, feedEvent, EventDesk.feed, EventDesk.settle, hpump]
  rfl

/-- After that the reader waits, unless the line breaks off. -/
theorem waiting_after_feedEvent (h : s.Listening) {feed : Feed}
    (hgoes : ¬ (s.events.channel.line.feed feed).BreaksOff) :
    (s.after (.feedEvent feed)).Waiting := by
  have hended : (EventChannel.readOn s.sessionId false (s.events.channel.line.feed feed)).ended =
      false := by
    rw [← Bool.not_eq_true, EventChannel.readOn_ended_iff]
    exact hgoes
  have hevents := (feedEvent_events h feed).2
  exact
    { phase := h.phase
      closing := by rw [hevents]; exact h.closing
      ended := by rw [hevents]; exact hended
      waits := by rw [hevents]; exact EventChannel.readOn_waits_of_going hended }

theorem ended_after_feedEvent (h : s.Listening) {feed : Feed}
    (hbreaks : (s.events.channel.line.feed feed).BreaksOff) :
    (s.after (.feedEvent feed)).events.channel.ended = true := by
  rw [(feedEvent_events h feed).2]
  exact EventChannel.readOn_ended_iff.mpr hbreaks

/-- A reader that has ended lets the responder's side act. -/
theorem feedEvent_of_ended (h : s.events.channel.ended = true) (feed : Feed) :
    s.passed (.feedEvent feed) = [] ∧ Silent s (s.after (.feedEvent feed)) ∧
      (s.after (.feedEvent feed)).events.channel.ended = true := by
  have hfed : EventDesk.settle { s.events with channel.line := s.events.channel.line.feed feed } =
      { s.events with channel.line := s.events.channel.line.feed feed } :=
    EventDesk.settle_of_ended h
  refine ⟨?_, ?_⟩
  · simp only [passed, EventChannel.pump, h, if_true]
  · simp only [after, feedEvent, EventDesk.feed, hfed]
    exact ⟨⟨rfl, rfl⟩, h⟩

/-- The tasks of a connection that is given up. -/
theorem passed_call (h : s.Attended) (call : Call) : s.passed (.call call) = [] := by
  simp only [passed]
  split
  · rfl
  cases hended : s.events.channel.ended with
  | true =>
      have hclosed : s.events.channel.closeStream.ended = true := hended
      rw [EventChannel.pump_ended hclosed]
  | false =>
      have hwaiting : s.Waiting := h.resolve_right (by simp [hended])
      obtain ⟨source, hpump⟩ := EventChannel.pump_closeStream hended hwaiting.waits s.sessionId
      rw [hpump]

/-- **A call** leaves the reader as it is, or gives the connection up without a word. -/
theorem after_call (h : s.Attended) (call : Call) :
    Silent s (s.after (.call call)) ∧
      ((s.after (.call call)).phase = s.phase ∧
          (s.after (.call call)).events.channel = s.events.channel ∨
        (s.after (.call call)).phase = .closed ∧
          (s.after (.call call)).events.channel.ended = true) := by
  cases eventsLeft_after_call s call with
  | kept hphase hevents =>
      refine ⟨⟨by rw [hevents], by rw [hevents]⟩, .inl ⟨hphase, by rw [hevents]⟩⟩
  | closed hphase hwas hevents =>
      obtain ⟨id, hevents⟩ := hevents
      have hdesk : s.events.channel.ended = true ∨
          EventChannel.waits s.events.channel.line = true := h.symm.imp_right fun h => h.waits
      obtain ⟨hjournal, hsent, hended⟩ :=
        EventDesk.closeStream_journal { s.events with sessionId := id } hdesk
      exact ⟨⟨by rw [hevents]; exact hjournal, by rw [hevents]; exact hsent⟩,
        .inr ⟨hphase, by rw [hevents]; exact hended⟩⟩

/-- **Between moves** the reader waits or has ended. -/
theorem attended_after (h : s.Attended) (move : Move) : (s.after move).Attended := by
  cases move with
  | call call =>
      rcases (after_call h call).2 with ⟨hphase, hchannel⟩ | ⟨_, hended⟩
      · rcases h with hwaiting | hended
        · exact .inl (hwaiting.of_channel hphase hchannel)
        · exact .inr (by rw [hchannel, hended])
      · exact .inr hended
  | feedEvent feed =>
      rcases h with hwaiting | hended
      · by_cases hbreaks : (s.events.channel.line.feed feed).BreaksOff
        · exact .inr (ended_after_feedEvent hwaiting.toListening hbreaks)
        · exact .inl (waiting_after_feedEvent hwaiting.toListening hbreaks)
      · exact .inr (feedEvent_of_ended hended feed).2.2
  | feedCommand | enroll | dismiss =>
      rcases h with hwaiting | hended
      · exact .inl (hwaiting.of_channel rfl rfl)
      · exact .inr hended

theorem attended_run (h : s.Attended) (moves : List Move) : (s.run moves).Attended := by
  induction moves generalizing s with
  | nil => exact h
  | cons move moves ih => exact ih (attended_after h move)

/-- A session is opened with its reader going. -/
theorem opened_listening (command event : Line) (roster : Roster) (responder : InitCommandAck) :
    (opened command event roster responder).Listening := ⟨rfl, rfl, rfl⟩

/-- Having read what stands behind the greeting, it waits or has ended. -/
theorem attended_opened (command event : Line) (roster : Roster) (responder : InitCommandAck) :
    ((opened command event roster responder).after (.feedEvent {})).Attended := by
  have hopened := opened_listening command event roster responder
  by_cases hbreaks : ((opened command event roster responder).events.channel.line.feed {}).BreaksOff
  · exact .inr (ended_after_feedEvent hopened hbreaks)
  · exact .inl (waiting_after_feedEvent hopened hbreaks)

/-- Once the reader has ended, a move has nobody told anything. -/
theorem after_ended (h : s.events.channel.ended = true) (move : Move) :
    s.passed move = [] ∧ Silent s (s.after move) ∧
      (s.after move).events.channel.ended = true := by
  cases move with
  | call call =>
      obtain ⟨hsilent, hleft⟩ := after_call (.inr h) call
      refine ⟨passed_call (.inr h) call, hsilent, ?_⟩
      rcases hleft with ⟨_, hchannel⟩ | ⟨_, hended⟩
      · rw [hchannel, h]
      · exact hended
  | feedEvent feed => exact feedEvent_of_ended h feed
  | feedCommand | enroll | dismiss => exact ⟨rfl, ⟨rfl, rfl⟩, h⟩

/-- **Once the reader has ended**, nobody is told anything and nothing is sent. -/
theorem run_ended (h : s.events.channel.ended = true) (moves : List Move) :
    s.callbacksOf moves = [] ∧ Silent s (s.run moves) ∧
      (s.run moves).events.channel.ended = true := by
  induction moves generalizing s with
  | nil => exact ⟨rfl, .refl s, h⟩
  | cons move moves ih =>
      obtain ⟨hpassed, hsilent, hended⟩ := after_ended h move
      obtain ⟨hcallbacks, hothers, hlast⟩ := ih hended
      refine ⟨?_, hsilent.trans hothers, hlast⟩
      rw [callbacksOf, callbacks, hpassed, hcallbacks]
      rfl

/-- What reading on leaves in the journal. -/
theorem journal_feedEvent (h : s.Listening) (feed : Feed) :
    (s.after (.feedEvent feed)).events.journal =
      s.events.journal ++ Listener.traces (s.callbacks (.feedEvent feed)) := by
  obtain ⟨hpassed, hevents⟩ := feedEvent_events h feed
  rw [callbacks, ← Roster.deliver_eq_traces, hpassed, hevents]

/-- What one move leaves in the journal. -/
theorem journal_after (h : s.Attended) (move : Move) :
    (s.after move).events.journal = s.events.journal ++ Listener.traces (s.callbacks move) := by
  have hnobody : s.passed move = [] → Silent s (s.after move) →
      (s.after move).events.journal = s.events.journal ++ Listener.traces (s.callbacks move) := by
    intro hpassed hsilent
    rw [callbacks, hpassed, hsilent.journal]
    exact (List.append_nil _).symm
  cases move with
  | call call => exact hnobody (passed_call h call) (after_call h call).1
  | feedEvent feed =>
      rcases h with hwaiting | hended
      · exact journal_feedEvent hwaiting.toListening feed
      · obtain ⟨hpassed, hsilent, _⟩ := feedEvent_of_ended hended feed
        exact hnobody hpassed hsilent
  | feedCommand | enroll | dismiss => exact hnobody rfl ⟨rfl, rfl⟩

/-- **The journal tells who was told what**, and nothing else is in it. -/
theorem journal_run (h : s.Attended) (moves : List Move) :
    (s.run moves).events.journal =
      s.events.journal ++ Listener.traces (s.callbacksOf moves) := by
  induction moves generalizing s with
  | nil => exact (List.append_nil _).symm
  | cons move moves ih =>
      calc ((s.after move).run moves).events.journal
          = (s.after move).events.journal ++
              Listener.traces ((s.after move).callbacksOf moves) := ih (attended_after h move)
        _ = s.events.journal ++ Listener.traces (s.callbacksOf (move :: moves)) := by
            rw [journal_after h move, callbacksOf, Listener.traces, Listener.traces,
              Listener.traces, List.flatMap_append, List.append_assoc]

/-- One listener, which breaks down each time it is told. -/
def display : Roster := .ofList [.breaking "display"]

end Session

end PictureTransfer
