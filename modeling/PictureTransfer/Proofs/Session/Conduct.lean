import PictureTransfer.Proofs.Outcome
import PictureTransfer.Session.Call

/-!
# What a call can do to a session

Every call is put together from a few steps: it asks whether the session is ready, uses
the command connection, takes a transaction number, keeps the number of the session that
is open, and may close the session.  Whatever is true of these, and carries over to steps
in a row, is true of every call (`Session.perform_parts`).

The event side is touched by the last two alone: a call leaves it as it is, but for the
number of the session, or gives it up (`Session.perform_eventsLeft`).
-/

namespace PictureTransfer

namespace Session

/-- What is said of a step holds of the parts of calls, and of what is put together from
them. -/
structure Conduct (holds : {α : Type} → SessionM α → Prop) : Prop where
  pure : ∀ {α : Type} (a : α), holds (Pure.pure a)
  throw : ∀ {α : Type} (e : Error), @holds α (throw e)
  bind : ∀ {α β : Type} {x : SessionM α} {f : α → SessionM β}, holds x → (∀ a, holds (f a)) →
    holds (x >>= f)
  closingOnError : ∀ {α : Type} {x : SessionM α}, holds x → holds (closingOnError x)
  requireReady : holds requireReady
  onCommand : ∀ {α : Type} (action : EStateM Error Line α), holds (onCommand action)
  nextTransaction : holds nextTransaction
  setSessionId : ∀ id, holds (setSessionId id)
  close : holds (modify close)

namespace Conduct

variable {holds : {α : Type} → SessionM α → Prop} {α : Type}

theorem given (h : Conduct holds) (x : Except Error α) : holds (given x) := by
  cases x with
  | ok a => exact h.pure a
  | error e => exact h.throw e

theorem transact (h : Conduct holds) (operation : OperationCode) (params : List UInt32)
    (dataOut : Option Bytes) : holds (transact operation params dataOut) := by
  refine h.bind h.requireReady fun _ => h.bind (h.given _) fun params =>
    h.bind h.nextTransaction fun id =>
      h.bind (h.closingOnError (h.onCommand _)) fun cycle => ?_
  split
  · exact h.throw _
  · exact h.pure _

theorem carryOut (h : Conduct holds) (operation : OperationCode) (params : List UInt32)
    (dataOut : Option Bytes) : holds (carryOut operation params dataOut) :=
  h.bind (h.transact ..) fun _ => h.given _

theorem fetch (h : Conduct holds) (operation : OperationCode) (params : List UInt32) :
    holds (fetch operation params) :=
  h.bind (h.carryOut ..) fun _ => h.pure _

theorem fetchAs (h : Conduct holds) (decoder : Decoder α) (operation : OperationCode)
    (params : List UInt32) : holds (fetchAs decoder operation params) :=
  h.bind (h.fetch ..) fun _ => h.given _

end Conduct

/-- **What holds of the parts of calls holds of every call.** -/
theorem perform_parts {holds : {α : Type} → SessionM α → Prop} (h : Conduct holds) (call : Call) :
    holds (perform call) := by
  cases call with
  | transact => exact h.transact ..
  | openSession | closeSession => exact h.bind (h.carryOut ..) fun _ => h.setSessionId _
  | getDeviceInfo | getStorageIds | getStorageInfo | getObjectHandles | getObjectInfo =>
      exact h.fetchAs ..
  | getNumObjects => exact h.bind (h.carryOut ..) fun _ => h.given _
  | getObject | getThumb | getDevicePropValue => exact h.fetch ..
  | deleteObject | initiateCapture | setDevicePropValue =>
      exact h.bind (h.carryOut ..) fun _ => h.pure _
  | sendCancel => exact h.bind h.requireReady fun _ => h.onCommand _
  | probe =>
      exact h.bind h.requireReady fun _ => h.bind (h.onCommand _) fun _ => h.given _
  | close => exact h.close

/-- A relation that holds between a session and what any part of a call leaves of it. -/
structure CallRelation (rel : Session → Session → Prop) : Prop where
  refl : ∀ s, rel s s
  trans : ∀ {s middle s'}, rel s middle → rel middle s' → rel s s'
  command : ∀ (s : Session) (line : Line), rel s { s with command := line }
  counter : ∀ (s : Session) (counter : Counter), rel s { s with counter := counter }
  sessionId : ∀ (s : Session) (id : UInt32), rel s { s with events.sessionId := id }
  close : ∀ s : Session, rel s s.close

/-- What every part of a call does to a session, the call does. -/
theorem CallRelation.conduct {rel : Session → Session → Prop} (h : CallRelation rel) :
    Conduct fun x => StepRelates rel x where
  pure a := .pure h.refl a
  throw e := .throw h.refl e
  bind hx hf := @StepRelates.bind _ _ _ _ rel h.trans _ _ hx hf
  closingOnError hx := by
    refine .of_stateOf fun s => ?_
    unfold closingOnError
    split
    · rename_i hrun
      exact hx.ok hrun
    · rename_i hrun
      exact h.trans (hx.error hrun) (h.close _)
  requireReady := by
    refine .of_stateOf fun s => ?_
    unfold requireReady
    split
    · exact h.refl s
    · exact h.refl s
  onCommand action := by
    refine .of_stateOf fun s => ?_
    unfold onCommand
    split
    · exact h.command s _
    · exact h.command s _
  nextTransaction := .of_stateOf fun s => h.counter s _
  setSessionId id := .of_stateOf fun s => h.sessionId s id
  close := .of_stateOf h.close

/-- What a call leaves of the event side. -/
inductive EventsLeft (s s' : Session) : Prop where
  /-- It is as it was, but for the number of the session. -/
  | kept (hphase : s'.phase = s.phase)
      (hevents : s'.events = { s.events with sessionId := s'.sessionId })
  /-- It was given up, and the session closed. -/
  | closed (hphase : s'.phase = .closed) (hwas : s.phase ≠ .closed)
      (hevents : ∃ id, s'.events =
        { EventDesk.join (EventDesk.closeStream { s.events with sessionId := id }) with
          sessionId := s'.sessionId })

theorem EventsLeft.trans {s middle s' : Session} (h : EventsLeft s middle)
    (h' : EventsLeft middle s') : EventsLeft s s' := by
  cases h with
  | kept hphase hevents =>
      cases h' with
      | kept hphase' hevents' =>
          exact .kept (hphase'.trans hphase) (by rw [hevents', hevents])
      | closed hphase' hwas' hevents' =>
          obtain ⟨id, hevents'⟩ := hevents'
          exact .closed hphase' (hphase ▸ hwas') ⟨id, by rw [hevents', hevents]⟩
  | closed hphase hwas hevents =>
      obtain ⟨id, hevents⟩ := hevents
      cases h' with
      | kept hphase' hevents' =>
          exact .closed (hphase'.trans hphase) hwas ⟨id, by rw [hevents', hevents]⟩
      | closed _ hwas' _ => exact absurd hphase hwas'

theorem eventsLeft_close (s : Session) : EventsLeft s s.close := by
  by_cases h : s.phase = .closed
  · have hclose : s.close = s := if_pos h
    rw [hclose]
    exact .kept rfl rfl
  · refine .closed s.close_phase h ⟨s.sessionId, ?_⟩
    have hclose : s.close = { s with
        events := s.events.closeStream.join
        command := s.command.shut
        phase := .closed } := if_neg h
    rw [hclose]
    rfl

theorem eventsLeft_callRelation : CallRelation EventsLeft where
  refl _ := .kept rfl rfl
  trans := .trans
  command _ _ := .kept rfl rfl
  counter _ _ := .kept rfl rfl
  sessionId _ _ := .kept rfl rfl
  close := eventsLeft_close

/-- **A call and the event side.**  Nothing but its number changes, or it is given up. -/
theorem perform_eventsLeft (call : Call) : StepRelates EventsLeft (perform call) :=
  perform_parts eventsLeft_callRelation.conduct call

theorem eventsLeft_after_call (s : Session) (call : Call) :
    EventsLeft s (s.after (.call call)) := by
  have hleft := perform_eventsLeft call
  cases hperform : perform call s with
  | ok answer s' =>
      simp only [after, hperform]
      exact hleft.ok hperform
  | error e s' =>
      simp only [after, hperform]
      exact hleft.error hperform

end Session

end PictureTransfer
