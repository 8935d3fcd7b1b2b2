import PictureTransfer.Command.Arguments
import PictureTransfer.Command.Failure
import PictureTransfer.Command.Procedure

/-!
# What the commands do

Every command is a procedure that may fail.  A command that works in a session
of the protocol is put between the opening and the closing of one: what it
comes to is not changed by the closing, which is done whether it failed or not.
Only a command that breaks down does not come so far.

* `procedure_of_needsSession`, `procedure_of_not_needsSession` — the two forms
  of a command's procedure.
-/

namespace PictureTransfer

/-- A procedure that may fail. -/
abbrev Work := ExceptT Failure Procedure

namespace Work

/-- Does a step that cannot fail. -/
def perform (s : Step) : Work s.Answer := ExceptT.lift (Procedure.ask s)

/-- Takes the value that is there, and breaks down where there is none. -/
def expect {α : Type} (crash : Crash) : Option α → Work α
  | some value => pure value
  | none => ExceptT.mk (.crashed crash)

/-- The point in time some seconds from now. -/
def deadline (seconds : UInt64) : Work Instant := do
  let now ← perform .now
  expect .endOfTime (now.later? seconds)

/-- Makes a call on the session. -/
def call (c : Call) : Work c.Answer := do
  match ← perform (.call c) with
  | .ok answer => pure answer
  | .error cause => throw (.call cause)

/-- Prints a line. -/
def print (line : String) : Work Unit := perform (.print line)

/-- Writes a file. -/
def save (path : String) (content : Bytes) : Work Unit := do
  match ← perform (.save path content) with
  | none => pure ()
  | some cause => throw (.writing path cause)

end Work

namespace Command

/-- True for commands that work in a session of the protocol. -/
def needsSession : Command → Bool
  | info | probe => false
  | _ => true

/-- The listener that hears of captures. -/
def watcher : Listener := .recording "capture"

/-- Watches over a capture that has some seconds, until it is complete or the
deadline is there. -/
def watchUntil (deadline : Instant) (transactionId : UInt32) (seconds : UInt64) : Work Unit := do
  let complete ← Work.perform (.watch ⟨watcher.name, transactionId⟩ deadline)
  Work.perform (.dismiss watcher.name)
  if complete then Work.print Report.captured else throw (.noCompletion seconds)

/-- Has the responder take a picture, and watches until that is complete.  The
watcher is enrolled first, so that it misses nothing. -/
def captureAndWatch (storageId : UInt32) (seconds : UInt64) : Work Unit := do
  Work.perform (.enroll watcher)
  let id ← Work.call (.initiateCapture storageId 0)
  let deadline ← Work.deadline seconds
  watchUntil deadline id seconds

/-- What a command does, once its session is open if it needs one. -/
def work (responder : InitCommandAck) : Command → Work Unit
  | info => do
      let device ← Work.call .getDeviceInfo
      (Report.device device).forM Work.print
  | probe => do
      Work.call .probe
      Work.print (Report.probed responder.name)
  | storages => do
      let ids ← Work.call .getStorageIds
      ids.forM fun id => do
        let found ← Work.call (.getStorageInfo id)
        Work.print (Report.storage id found)
  | objects storageId => do
      let handles ← Work.call (.getObjectHandles storageId 0 0)
      handles.forM fun handle => do
        let found ← Work.call (.getObjectInfo handle)
        Work.print (Report.object handle found)
  | get handle output thumb => do
      let content ← if thumb then Work.call (.getThumb handle) else Work.call (.getObject handle)
      Work.save output content
  | capture storageId seconds => captureAndWatch storageId seconds
  | listen seconds => do
      Work.perform (.enroll (.logging "log"))
      Work.perform (.pause seconds)

/-- Does a command's work between the opening and the closing of a session. -/
def bracket (sessionId : UInt32) (work : Work Unit) : Procedure (Except Failure Unit) := do
  match ← Procedure.ask (.call (.openSession sessionId)) with
  | .error cause => pure (.error (.call cause))
  | .ok () =>
      let result ← work.run
      let _ ← Procedure.ask (.call .closeSession)
      pure result

/-- All that a command does. -/
def procedure (responder : InitCommandAck) (sessionId : UInt32) (command : Command) :
    Procedure (Except Failure Unit) :=
  if command.needsSession then bracket sessionId (command.work responder)
  else (command.work responder).run

theorem procedure_of_needsSession {command : Command} (h : command.needsSession = true)
    (responder : InitCommandAck) (sessionId : UInt32) :
    command.procedure responder sessionId = bracket sessionId (command.work responder) := by
  simp [procedure, h]

theorem procedure_of_not_needsSession {command : Command} (h : command.needsSession = false)
    (responder : InitCommandAck) (sessionId : UInt32) :
    command.procedure responder sessionId = (command.work responder).run := by
  simp [procedure, h]

end Command

end PictureTransfer
