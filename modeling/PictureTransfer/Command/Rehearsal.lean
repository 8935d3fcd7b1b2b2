import PictureTransfer.Command.Action
import PictureTransfer.Command.Usage
import PictureTransfer.Config.File
import PictureTransfer.Link.Address
import PictureTransfer.Responder.Script

/-!
# Rehearsals

A rehearsal carries a command line out with a scripted responder and with files
that are given, and tells all that can be seen of it.  Every event that the
responder sends is delivered at once: those that come with its replies before
the call goes on, and those that come by themselves while a watch has time.
The steps of a rehearsal take no time; what passes is the time between arrivals.

* `play_bind` — one procedure behind another is played after it, unless it
  broke down.
-/

namespace PictureTransfer

/-- Something that the responder does on the event connection by itself. -/
structure Arrival where
  /-- The nanoseconds since the one before it. -/
  delay : Nat := 0
  feed : Feed
  deriving DecidableEq, Repr

/-- What has arrived before a deadline, from a point in time on. -/
def Arrival.inTime (deadline : Instant) (now : Instant) : List Arrival → List Feed
  | [] => []
  | arrival :: later =>
      let time : Instant := ⟨now.nanoseconds + arrival.delay⟩
      if time.nanoseconds < deadline.nanoseconds then arrival.feed :: inTime deadline time later
      else []

/-- What a command line finds around it. -/
structure Surroundings where
  /-- The content of a file, if it can be read. -/
  files : Files
  /-- Why a file cannot be written, if it cannot. -/
  refusal : String → Option String := fun _ => none
  network : Network := .reachable
  script : Script := {}
  /-- What the clock shows. -/
  now : Instant := {}
  /-- What arrives on the event connection from then on, while a watch waits. -/
  meanwhile : List Arrival := []

/-- What arrives before a deadline. -/
def Surroundings.inTime (around : Surroundings) (deadline : Instant) : List Feed :=
  Arrival.inTime deadline around.now around.meanwhile

/-- What a watch has seen in a session so far. -/
def Watch.seen (watch : Watch) (s : Session) : Sighting :=
  watch.follow (s.events.told watch.listener)

/-- Lets a watch wait for what arrives on the event connection, until it has seen its capture
complete. -/
def Session.await (watch : Watch) (s : Session) : List Feed → Session
  | [] => s
  | feed :: later => if (watch.seen s).complete then s else (s.feedEvent feed).await watch later

/-- How far a rehearsal has come: the session, the replies still to come, and
what was printed and saved. -/
structure Stage where
  session : Session
  replies : List Reply := []
  printed : List String := []
  saved : List (String × Bytes) := []

namespace Stage

/-- Makes a call, with the replies that it draws. -/
def call (c : Call) (stage : Stage) : Except Error c.Answer × Stage :=
  let supply := Session.supply c 0 stage.session stage.replies
  let (answer, session) := match Session.perform c supply.session with
    | .ok answer session => (Except.ok answer, session)
    | .error cause session => (Except.error cause, session)
  match supply.replies with
  | some left => (answer, { stage with
      session := session
      replies := left })
  | none => (answer, { stage with
      session := session.hangUp
      replies := [] })

/-- Prints lines. -/
def print (lines : List String) (stage : Stage) : Stage :=
  { stage with printed := stage.printed ++ lines }

/-- Does a step. -/
def perform (around : Surroundings) : (step : Step) → Stage → step.Answer × Stage
  | .call c, stage => stage.call c
  | .print line, stage => ((), stage.print [line])
  | .save path content, stage =>
      match around.refusal path with
      | some cause => (some cause, stage)
      | none => (none, { stage with saved := stage.saved ++ [(path, content)] })
  | .enroll listener, stage => ((), { stage with session := stage.session.enroll listener })
  | .dismiss name, stage => ((), { stage with session := stage.session.dismiss name })
  | .now, stage => (around.now, stage)
  | .watch watch deadline, stage =>
      let session := stage.session.await watch (around.inTime deadline)
      let seen := watch.seen session
      (seen.complete, { stage with session := session }.print seen.lines)
  | .pause _, stage => ((), stage)

end Stage

namespace Procedure

variable {α β : Type}

/-- Plays a procedure to its end, or as far as it comes. -/
def play (around : Surroundings) : Procedure α → Stage → Except Crash α × Stage
  | done value, stage => (.ok value, stage)
  | crashed crash, stage => (.error crash, stage)
  | step s next, stage =>
      let (answer, stage) := stage.perform around s
      (next answer).play around stage

theorem play_bind (around : Surroundings) (p : Procedure α) (more : α → Procedure β)
    (stage : Stage) :
    (p.bind more).play around stage =
      match p.play around stage with
      | (.ok value, stage) => (more value).play around stage
      | (.error crash, stage) => (.error crash, stage) := by
  induction p generalizing stage with
  | done | crashed => rfl
  | step s next ih => exact ih _ _

end Procedure

/-- All that can be seen of a command line. -/
structure Outcome where
  exit : UInt32
  printed : List String := []
  failure : Option Failure := none
  crash : Option Crash := none
  /-- The packets that the responder read. -/
  requests : List Packet := []
  saved : List (String × Bytes) := []
  deriving DecidableEq

/-- What a command comes to, unless it breaks down. -/
abbrev Ending (α : Type) := Except Crash (Except Failure α)

namespace Ending

/-- The exit code of a command: 1 if it failed, and 101 if it broke down. -/
def exit : Ending Unit → UInt32
  | .ok (.ok ()) => 0
  | .ok (.error _) => 1
  | .error _ => 101

/-- Why a command failed. -/
def failure : Ending Unit → Option Failure
  | .ok (.error failure) => some failure
  | .ok (.ok ()) | .error _ => none

/-- Why a command broke down. -/
def crash : Ending Unit → Option Crash
  | .error crash => some crash
  | .ok _ => none

end Ending

namespace Outcome

/-- What is printed, each entry as a line of its own. -/
def stdout (outcome : Outcome) : String := String.join (outcome.printed.map (· ++ "\n"))

/-- Nothing was carried out, for a reason. -/
def ofFailure (failure : Failure) (requests : List Packet) : Outcome where
  exit := 1
  failure := some failure
  requests := requests

/-- What a command came to, and where. -/
def ofStage (script : Script) (ending : Ending Unit) (stage : Stage) : Outcome where
  exit := ending.exit
  printed := stage.printed
  failure := ending.failure
  crash := ending.crash
  requests := script.requests [stage.session.command, stage.session.events.channel.line]
  saved := stage.saved

end Outcome

namespace Settings

/-- The configuration of a command: that of the file, if there is one to use,
with what the command line sets. -/
def configuration (settings : Settings) (files : Files) : Except Failure Config :=
  match settings.config with
  | none => .ok (settings.applyTo {})
  | some path =>
      match Config.load path files with
      | some config => .ok (settings.applyTo config)
      | none => .error (.loading path)

end Settings

namespace Command

/-- Rehearses a command with a configuration. -/
def rehearse (around : Surroundings) (config : Config) (sessionId : UInt32) (command : Command) :
    Outcome :=
  match around.network.refusal config.address with
  | some cause => .ofFailure (.connecting config.address (.link cause)) []
  | none =>
      match Session.connect config .empty around.script.lines with
      | (.failure cause opened, _) =>
          .ofFailure (.connecting config.address cause) (around.script.requests opened)
      | (.session session, _) =>
          let (ending, stage) := (command.procedure session.responder sessionId).play around
            { session := session, replies := around.script.replies }
          .ofStage around.script ending stage

end Command

namespace Invocation

/-- Rehearses what a command line asks for. -/
def rehearse (around : Surroundings) : Invocation → Outcome
  | .misuse => { exit := 2 }
  | .help topic => { exit := 0, printed := Usage.lines topic }
  | .version => { exit := 0, printed := [Usage.versionLine] }
  | .run settings command =>
      match settings.configuration around.files with
      | .error failure => .ofFailure failure []
      | .ok config => command.rehearse around config settings.openedSession

end Invocation

end PictureTransfer
