import PictureTransfer.Event.Channel
import PictureTransfer.Session.Cycle
import PictureTransfer.Session.Handshake
import PictureTransfer.Transaction.Basic
import PictureTransfer.Transaction.Counter

/-!
# Sessions

A session holds the two connections to a responder.  Calls use the command
connection, one after the other; the event connection is read on its own.

`connect` runs both handshakes and either gives a session that is ready or
shuts down what it opened.  `transact` runs one operation.  An operation whose
data is spoiled leaves the session ready, since the response was still read;
anything else that goes wrong in a cycle leaves the command connection out of
step, and closes the session.

* `close_phase` — a session that was closed is closed;
* `close_close` — closing again does nothing;
* `transact_of_not_ready` — a session that is not ready carries nothing out,
  and nothing about it changes.
-/

namespace PictureTransfer

/-- A session with one responder. -/
structure Session where
  command : Line
  events : EventDesk
  phase : Phase
  counter : Counter := {}
  /-- How the responder presented itself. -/
  responder : InitCommandAck

/-- A step of a session, which may fail but leaves a session either way. -/
abbrev SessionM := EStateM Error Session

/-- What came of connecting: a session, or an error and the connections that
were opened. -/
inductive Connected where
  | session (session : Session)
  | failure (cause : Error) (opened : List Line)

namespace Session

/-- The session number that the responder knows, zero when none is open. -/
def sessionId (s : Session) : UInt32 := s.events.sessionId

/-- Gives up both connections and waits for the event reader's end. -/
def close (s : Session) : Session :=
  if s.phase = .closed then s
  else
    { s with
      events := s.events.closeStream.join
      command := s.command.shut
      phase := .closed }

/-- Connects over the connections that wait to be handed out, and tells which
of them are left. -/
def connect (config : Config) (roster : Roster) (waiting : List Line) :
    Connected × List Line :=
  match Line.next waiting with
  | .error cause => (.failure (.link cause) [], waiting)
  | .ok (command, waiting) =>
      match Handshake.command config command with
      | .error e command => (.failure e [command.shut], waiting)
      | .ok responder command =>
          match Line.next waiting with
          | .error cause => (.failure (.link cause) [command.shut], waiting)
          | .ok (event, waiting) =>
              match Handshake.event responder.connectionNumber event with
              | .error e event => (.failure e [command.shut, event.shut], waiting)
              | .ok () event =>
                  match EventChannel.start event with
                  | .error e event => (.failure e [command.shut, event], waiting)
                  | .ok channel _ =>
                      let events : EventDesk := { channel := channel, roster := roster }
                      (.session ⟨command, events.settle, .ready, {}, responder⟩, waiting)

/-- The responder's side does something to the command connection. -/
def feedCommand (feed : Feed) (s : Session) : Session :=
  { s with command := s.command.feed feed }

/-- The responder's side does something to the event connection. -/
def feedEvent (feed : Feed) (s : Session) : Session :=
  { s with events := s.events.feed feed }

/-- Enrolls a listener. -/
def enroll (listener : Listener) (s : Session) : Session :=
  { s with events.roster := s.events.roster.enroll listener }

/-- Dismisses the listener of a name. -/
def dismiss (name : String) (s : Session) : Session :=
  { s with events.roster := s.events.roster.dismiss name }

/-- Refuses while the session is not ready. -/
def requireReady : SessionM Unit := fun s =>
  if s.phase = .ready then .ok () s else .error (.wrongPhase s.phase .ready) s

/-- Does something with the command connection. -/
def onCommand {α : Type} (action : EStateM Error Line α) : SessionM α := fun s =>
  match action s.command with
  | .ok value line => .ok value { s with command := line }
  | .error e line => .error e { s with command := line }

/-- Closes the session if something goes wrong. -/
def closingOnError {α : Type} (action : SessionM α) : SessionM α := fun s =>
  match action s with
  | .ok value s => .ok value s
  | .error e s => .error e s.close

/-- Goes on with a value, or fails. -/
def given {α : Type} : Except Error α → SessionM α
  | .ok value => pure value
  | .error e => throw e

/-- Takes the next transaction number. -/
def nextTransaction : SessionM UInt32 := fun s =>
  .ok s.counter.advance.last { s with counter := s.counter.advance }

/-- Runs one operation.  The response is given back whatever it says. -/
def transact (operation : OperationCode) (params : List UInt32) (dataOut : Option Bytes) :
    SessionM Transaction := do
  requireReady
  let params ← given ((Params.ofList 5 params).mapError .violation)
  let id ← nextTransaction
  let cycle ← closingOnError (onCommand (Cycle.run operation id params dataOut))
  match cycle.held with
  | some violation => throw (.violation violation)
  | none => pure ⟨operation, id, cycle.response, cycle.data⟩

/-- Sends a request to give up a transaction, which the responder may
ignore. -/
def sendCancel (transactionId : UInt32) : SessionM Unit := do
  requireReady
  onCommand (Line.send (Body.toPacket .cancel ⟨transactionId⟩))

/-- Has the responder answer a probe. -/
def probe : SessionM Unit := do
  requireReady
  let reply ← onCommand do
    Line.send (Body.toPacket .probeRequest ())
    Line.receive
  given ((Packet.expect .probeResponse reply).mapError .violation)

theorem close_phase (s : Session) : s.close.phase = .closed := by
  unfold close
  split
  · assumption
  · rfl

theorem close_close (s : Session) : s.close.close = s.close := by
  rw [close, if_pos s.close_phase]

theorem requireReady_of_not_ready {s : Session} (h : s.phase ≠ .ready) :
    requireReady s = .error (.wrongPhase s.phase .ready) s := by
  simp [requireReady, h]

/-- A call that needs a ready session fails on any other without a trace. -/
theorem requireReady_bind {α : Type} {s : Session} (h : s.phase ≠ .ready)
    (next : Unit → SessionM α) :
    (requireReady >>= next) s = .error (.wrongPhase s.phase .ready) s := by
  simp [bind, EStateM.bind, requireReady_of_not_ready h]

theorem transact_of_not_ready {s : Session} (h : s.phase ≠ .ready)
    (operation : OperationCode) (params : List UInt32) (dataOut : Option Bytes) :
    transact operation params dataOut s = .error (.wrongPhase s.phase .ready) s :=
  requireReady_bind h _

end Session

end PictureTransfer
