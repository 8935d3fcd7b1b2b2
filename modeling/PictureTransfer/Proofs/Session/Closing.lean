import PictureTransfer.Proofs.Link.Use
import PictureTransfer.Session.Call

/-!
# Closing a session

A session that is closed has shut down both of its connections, and never comes
back: whatever is asked of it fails without a trace, and whatever the responder
does to it leaves the phase, and all that was sent, as they are.

* `Session.close_shut` — closing shuts both connections;
* `Session.after_call_of_closed` — no call does anything to a closed session;
* `Session.run_closed` — nor does any run of moves open it again, or have it send
  or read anything on the command connection.
-/

namespace PictureTransfer

namespace EventDesk

/-- Delivery takes the line where the reader leaves it. -/
theorem settle_used (desk : EventDesk) : Line.Used desk.channel.line desk.settle.channel.line :=
  EventChannel.pump_used desk.channel desk.sessionId

theorem closeStream_closed (desk : EventDesk) : desk.closeStream.channel.line.closed = true :=
  (settle_used { desk with channel := desk.channel.closeStream }).closed

end EventDesk

namespace Session

/-- A session that has given up both connections. -/
structure Shut (s : Session) : Prop where
  phase : s.phase = .closed
  command : s.command.closed = true
  events : s.events.channel.line.closed = true

/-- **Closing shuts both connections** of a session that was not closed. -/
theorem close_shut {s : Session} (h : s.phase ≠ .closed) : s.close.Shut := by
  have hclose : s.close = { s with
      events := s.events.closeStream.join
      command := s.command.shut
      phase := .closed } := if_neg h
  rw [hclose]
  exact ⟨rfl, rfl, s.events.closeStream_closed⟩

theorem close_counter (s : Session) : s.close.counter = s.counter := by
  unfold close
  split <;> rfl

/-- What was sent and what is unread are as they were before. -/
theorem close_command (s : Session) :
    s.close.command.sent = s.command.sent ∧ s.close.command.incoming = s.command.incoming := by
  unfold close
  split
  · exact ⟨rfl, rfl⟩
  · exact ⟨rfl, rfl⟩

/-- An operation that the responder has to carry out is refused like any other. -/
theorem carryOut_of_not_ready {s : Session} (h : s.phase ≠ .ready) (operation : OperationCode)
    (params : List UInt32) (dataOut : Option Bytes) :
    carryOut operation params dataOut s = .error (.wrongPhase s.phase .ready) s :=
  bind_of_error (transact_of_not_ready h operation params dataOut) _

theorem fetch_of_not_ready {s : Session} (h : s.phase ≠ .ready) (operation : OperationCode)
    (params : List UInt32) :
    fetch operation params s = .error (.wrongPhase s.phase .ready) s :=
  bind_of_error (carryOut_of_not_ready h operation params none) _

theorem fetchAs_of_not_ready {α : Type} {s : Session} (h : s.phase ≠ .ready)
    (decoder : Decoder α) (operation : OperationCode) (params : List UInt32) :
    fetchAs decoder operation params s = .error (.wrongPhase s.phase .ready) s :=
  bind_of_error (fetch_of_not_ready h operation params) _

/-- **A call on a session that is not ready** fails without a trace, unless it
asks for the end of the session. -/
theorem perform_of_not_ready {s : Session} (h : s.phase ≠ .ready) {call : Call}
    (hcall : call ≠ .close) : perform call s = .error (.wrongPhase s.phase .ready) s := by
  cases call with
  | transact operation params dataOut => exact transact_of_not_ready h operation params dataOut
  | openSession | closeSession | getNumObjects | deleteObject | initiateCapture
  | setDevicePropValue => exact bind_of_error (carryOut_of_not_ready h ..) _
  | getDeviceInfo | getStorageIds | getStorageInfo | getObjectHandles | getObjectInfo =>
      exact fetchAs_of_not_ready h ..
  | getObject | getThumb | getDevicePropValue => exact fetch_of_not_ready h ..
  | sendCancel | probe => exact requireReady_bind h _
  | close => exact absurd rfl hcall

/-- **A call on a closed session** leaves it as it is. -/
theorem after_call_of_closed {s : Session} (h : s.phase = .closed) (call : Call) :
    s.after (.call call) = s := by
  have hready : s.phase ≠ .ready := by simp [h]
  by_cases hcall : call = .close
  · subst hcall
    exact if_pos h
  · have hperform := perform_of_not_ready hready hcall
    simp only [after, hperform]

/-- What stays of a closed session for good: it is closed, nothing more is sent
on the command connection, and nothing more is read from it. -/
structure Rests (s s' : Session) : Prop where
  phase : s'.phase = .closed
  sent : s'.command.sent = s.command.sent
  queued : s.command.incoming.queued <+: s'.command.incoming.queued

theorem Rests.refl {s : Session} (h : s.phase = .closed) : Rests s s :=
  ⟨h, rfl, List.prefix_rfl⟩

theorem Rests.trans {s middle s' : Session} (h : Rests s middle) (h' : Rests middle s') :
    Rests s s' where
  phase := h'.phase
  sent := h'.sent.trans h.sent
  queued := h.queued.trans h'.queued

/-- One move of a closed session. -/
theorem after_rests {s : Session} (h : s.phase = .closed) (move : Move) :
    Rests s (s.after move) := by
  cases move with
  | call call => exact (after_call_of_closed h call).symm ▸ Rests.refl h
  | feedCommand feed =>
      refine ⟨h, rfl, ?_⟩
      change s.command.incoming.queued <+: (s.command.feed feed).incoming.queued
      unfold Line.feed
      dsimp only
      split
      · exact List.prefix_rfl
      · exact List.prefix_append ..
  | feedEvent | enroll | dismiss => exact ⟨h, rfl, List.prefix_rfl⟩

/-- **A closed session rests.**  Whatever happens to it, it stays closed, and its
command connection is neither written nor read. -/
theorem run_closed {s : Session} (h : s.phase = .closed) (moves : List Move) :
    Rests s (s.run moves) := by
  induction moves generalizing s with
  | nil => exact .refl h
  | cons move moves ih =>
      have hfirst := after_rests h move
      exact hfirst.trans (ih hfirst.phase)

end Session

end PictureTransfer
