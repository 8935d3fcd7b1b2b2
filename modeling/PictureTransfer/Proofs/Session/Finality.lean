import PictureTransfer.Proofs.Session.LastReport
import PictureTransfer.Proofs.Session.Request

/-!
# Closed for good

A session that was connected is ready until it is closed, by its caller or because a cycle
was cut off, and then it is closed for good.  Both connections are shut down, every call is
refused, and whatever else happens leaves everything as it is: nothing more is sent or read on
either connection, and nobody is told anything.

* `Session.after_closed_iff` — what closes a session;
* `Session.readyOrShut_after`, `Session.readyOrShut_run` — nothing leaves a session half
  closed;
* `Session.unmoved_after`, `Session.unmoved_run` — nothing moves a session that is closed and
  whose reader has ended;
* `Session.closed_for_good` — the same of every session that was connected, at any moment.
-/

namespace PictureTransfer

/-- Nothing was sent on the line or read from it, and it is as open as it was. -/
structure Line.Untouched (line line' : Line) : Prop where
  sent : line'.sent = line.sent
  queued : line'.incoming.queued = line.incoming.queued
  closed : line'.closed = line.closed

namespace Line.Untouched

variable {line middle line' : Line}

theorem refl (line : Line) : Untouched line line := ⟨rfl, rfl, rfl⟩

theorem trans (h : Untouched line middle) (h' : Untouched middle line') :
    Untouched line line' where
  sent := h'.sent.trans h.sent
  queued := h'.queued.trans h.queued
  closed := h'.closed.trans h.closed

/-- The responder's side can do nothing to a line that was shut down. -/
theorem feed (h : line.closed = true) (feed : Feed) : Untouched line (line.feed feed) where
  sent := rfl
  queued := by simp [Line.feed, h]
  closed := by simp [Line.feed, h]

end Line.Untouched

namespace Session

/-- Whatever happened to a session, nothing came of it. -/
structure Unmoved (s s' : Session) : Prop where
  phase : s'.phase = s.phase
  sessionId : s'.sessionId = s.sessionId
  counter : s'.counter = s.counter
  command : Line.Untouched s.command s'.command
  events : Line.Untouched s.events.channel.line s'.events.channel.line
  journal : s'.events.journal = s.events.journal

theorem Unmoved.refl (s : Session) : Unmoved s s := ⟨rfl, rfl, rfl, .refl _, .refl _, rfl⟩

theorem Unmoved.trans {s middle s' : Session} (h : Unmoved s middle) (h' : Unmoved middle s') :
    Unmoved s s' where
  phase := h'.phase.trans h.phase
  sessionId := h'.sessionId.trans h.sessionId
  counter := h'.counter.trans h.counter
  command := h.command.trans h'.command
  events := h.events.trans h'.events
  journal := h'.journal.trans h.journal

/-- The moves that close a ready session. -/
inductive Ends (s : Session) : Move → Prop where
  /-- The caller closes it, as it also does by letting go of it. -/
  | close : Ends s (.call .close)
  /-- A call is taken up, and its cycle is cut off. -/
  | cut {call : Call} {r : Request} {e : Error} {line : Line} (hrequest : call.request? = some r)
      (hrun : r.run s.counter.advance.last s.command = .error e line) : Ends s (.call call)

/-- A session that is closed, from here on: both connections are shut down, every call is
refused for the phase of the session, closing it again leaves it as it is, nothing comes of
anything that happens to it, and nobody is told anything. -/
structure Finished (s : Session) : Prop where
  shut : s.Shut
  refuses : ∀ later call, call ≠ .close →
    perform call (s.run later) = .error (.wrongPhase .closed .ready) (s.run later)
  close : ∀ later, (s.run later).close = s.run later
  unmoved : ∀ later, Unmoved s (s.run later)
  silent : ∀ later, s.callbacksOf later = []

variable {s : Session}

/-- **What closes a session.** -/
theorem after_closed_iff (hready : s.phase = .ready) (move : Move) :
    (s.after move).phase = .closed ↔ s.Ends move := by
  have hnumbered : ∀ line, (s.numbered line).phase ≠ .closed := fun _ => by simp [numbered, hready]
  cases move with
  | call call =>
      cases made hready call with
      | taken r cycle line hrequest hrun hafter =>
          rw [hafter]
          refine iff_of_false (hnumbered line) fun hends => ?_
          cases hends with
          | close => simp [Call.request?] at hrequest
          | cut hrequest' hrun' =>
              obtain rfl := Option.some.inj (hrequest.symm.trans hrequest')
              simp [hrun] at hrun'
      | cut r e line hrequest hrun _ hafter =>
          rw [hafter]
          exact iff_of_true (close_phase _) (.cut hrequest hrun)
      | other line part hrequest hclose hafter =>
          rw [hafter]
          refine iff_of_false (hnumbered line) fun hends => ?_
          cases hends with
          | close => exact hclose rfl
          | cut hrequest' => simp [hrequest] at hrequest'
      | closed hcall hafter =>
          rw [hafter, hcall]
          exact iff_of_true (close_phase _) .close
  | feedCommand | feedEvent | enroll | dismiss =>
      refine iff_of_false (fun hclosed => ?_) fun hends => by cases hends
      exact Phase.noConfusion (hready.symm.trans hclosed)

/-- A session that is ready, or has given up both connections. -/
def ReadyOrShut (s : Session) : Prop := s.phase = .ready ∨ s.Shut

theorem feedEvent_closed (h : s.events.channel.line.closed = true) (feed : Feed) :
    (s.feedEvent feed).events.channel.line.closed = true := by
  have hfed : (s.events.channel.line.feed feed).closed = true := by simp [Line.feed, h]
  exact (EventDesk.settle_used _).closed.trans hfed

/-- **Nothing leaves a session half closed.** -/
theorem readyOrShut_after (h : s.ReadyOrShut) (move : Move) : (s.after move).ReadyOrShut := by
  rcases h with hready | hshut
  · cases move with
    | call call =>
        cases made hready call with
        | taken r cycle line hrequest hrun hafter => exact .inl (by rw [hafter]; exact hready)
        | cut r e line hrequest hrun _ hafter =>
            refine .inr (hafter ▸ close_shut ?_)
            simp [numbered, hready]
        | other line part hrequest hclose hafter => exact .inl (by rw [hafter]; exact hready)
        | closed hcall hafter => exact .inr (hafter ▸ close_shut (by simp [hready]))
    | feedCommand | feedEvent | enroll | dismiss => exact .inl hready
  · refine .inr ?_
    cases move with
    | call call => exact (after_call_of_closed hshut.phase call).symm ▸ hshut
    | feedCommand feed =>
        exact ⟨hshut.phase, (Line.Untouched.feed hshut.command feed).closed.trans hshut.command,
          hshut.events⟩
    | feedEvent feed => exact ⟨hshut.phase, hshut.command, feedEvent_closed hshut.events feed⟩
    | enroll | dismiss => exact ⟨hshut.phase, hshut.command, hshut.events⟩

theorem readyOrShut_run (h : s.ReadyOrShut) (moves : List Move) : (s.run moves).ReadyOrShut := by
  induction moves generalizing s with
  | nil => exact h
  | cons move moves ih => exact ih (readyOrShut_after h move)

/-- **One move** of a session that is closed and whose reader has ended. -/
theorem unmoved_after (hshut : s.Shut) (hended : s.events.channel.ended = true) (move : Move) :
    Unmoved s (s.after move) := by
  cases move with
  | call call => exact (after_call_of_closed hshut.phase call).symm ▸ .refl s
  | feedCommand feed => exact ⟨rfl, rfl, rfl, .feed hshut.command feed, .refl _, rfl⟩
  | feedEvent feed =>
      have hfed : (s.after (.feedEvent feed)).events =
          { s.events with channel.line := s.events.channel.line.feed feed } :=
        EventDesk.settle_of_ended hended
      exact ⟨rfl, rfl, rfl, .refl _, hfed ▸ .feed hshut.events feed, hfed ▸ rfl⟩
  | enroll | dismiss => exact ⟨rfl, rfl, rfl, .refl _, .refl _, rfl⟩

/-- **Nothing moves** a session that is closed and whose reader has ended. -/
theorem unmoved_run (hshut : s.Shut) (hended : s.events.channel.ended = true)
    (moves : List Move) : Unmoved s (s.run moves) := by
  induction moves generalizing s with
  | nil => exact .refl s
  | cons move moves ih =>
      have hfirst := unmoved_after hshut hended move
      have hstill : (s.after move).Shut :=
        ⟨hfirst.phase.trans hshut.phase, hfirst.command.closed.trans hshut.command,
          hfirst.events.closed.trans hshut.events⟩
      exact hfirst.trans (ih hstill (after_ended hended move).2.2)

theorem finished_of_shut (hshut : s.Shut) (hended : s.events.channel.ended = true) :
    s.Finished where
  shut := hshut
  refuses later call hcall := by
    have hphase := (unmoved_run hshut hended later).phase.trans hshut.phase
    have hrefused := perform_of_not_ready (s := s.run later) (by simp [hphase]) hcall
    rwa [hphase] at hrefused
  close later := if_pos ((unmoved_run hshut hended later).phase.trans hshut.phase)
  unmoved := unmoved_run hshut hended
  silent later := (run_ended hended later).1

/-- A session that was connected is finished once it is closed. -/
theorem finished_of_closed {config : Config} {roster : Roster} {waiting left : List Line}
    (h : connect config roster waiting = (.session s, left)) {moves : List Move}
    (hclosed : (s.run moves).phase = .closed) : (s.run moves).Finished := by
  have hnow := readyOrShut_run (.inl (Connected.session_new h).1) moves
  have hattended : (s.run moves).Attended := by
    obtain ⟨command, event, ack, _, rfl⟩ := Connected.opened_of_connect h
    exact attended_run (attended_opened command event roster ack) moves
  have hready : (s.run moves).phase ≠ .ready := by simp [hclosed]
  exact finished_of_shut (hnow.resolve_left hready)
    (hattended.resolve_left fun hwaiting => hready hwaiting.phase)

/-- **Closed for good.**  After any run of moves, a session that was connected is ready or
closed; while it is ready, it is closed by the moves that `Ends` lists and by no other; and
once it is closed, it is finished. -/
theorem closed_for_good {config : Config} {roster : Roster} {waiting left : List Line}
    (h : connect config roster waiting = (.session s, left)) (moves : List Move) :
    ((s.run moves).phase = .ready ∨ (s.run moves).phase = .closed) ∧
      ((s.run moves).phase = .ready → ∀ move,
        (s.run (moves ++ [move])).phase = .closed ↔ (s.run moves).Ends move) ∧
      ((s.run moves).phase = .closed → (s.run moves).Finished) := by
  have hnow := readyOrShut_run (.inl (Connected.session_new h).1) moves
  refine ⟨hnow.imp_right Shut.phase, fun hready move => ?_, finished_of_closed h⟩
  rw [run, List.foldl_append]
  exact after_closed_iff hready move

/-- A session that its caller has closed. -/
theorem closed_for_good_closing :
    ∃ s, connect {} .empty [Connected.accepting, confirming] = (.session s, []) ∧
      (s.run [.call .close]).phase = .closed ∧ (s.run [.call .close]).Finished := by
  obtain ⟨s, h⟩ := Connected.connect_accepting event_confirming rfl .empty
  have hclosed : (s.run [.call .close]).phase = .closed := s.close_phase
  exact ⟨s, h, hclosed, (closed_for_good h [.call .close]).2.2 hclosed⟩

end Session

end PictureTransfer
