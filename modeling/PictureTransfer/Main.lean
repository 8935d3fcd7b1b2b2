import PictureTransfer.Command.Rehearsal
import PictureTransfer.Link.Connector
import PictureTransfer.Session.Arrival
import Std.Async.DNS
import Std.Async.TCP

/-!
# The command line

Carries the procedures of the commands out over the network.  What has arrived
is looked at every few milliseconds: the event connection all the time, and the
command connection while a call needs more of it.
-/

namespace PictureTransfer

open Std.Async Std.Net

/-- The time between two looks, in milliseconds. -/
def glance : UInt32 := 2

/-- The number of a system error and what is said of it.  Errors of the network
come with the negative of their number. -/
def systemError? : IO.Error → Option (UInt32 × String)
  | .alreadyExists _ code details | .otherError code details | .resourceBusy code details
  | .resourceVanished code details | .unsupportedOperation code details
  | .hardwareFault code details | .unsatisfiedConstraints code details
  | .illegalOperation code details | .protocolError code details | .timeExpired code details
  | .interrupted _ code details | .noFileOrDirectory _ code details
  | .invalidArgument _ code details | .permissionDenied _ code details
  | .resourceExhausted _ code details | .inappropriateType _ code details
  | .noSuchThing _ code details => some (if code < 0x80000000 then code else 0 - code, details)
  | .unexpectedEof | .userError _ => none

/-- The text of an error that the system reports. -/
def causeText (e : IO.Error) : String :=
  match systemError? e, e with
  | some (99, _), _ => Impasse.noSource.message
  | some (code, details), _ => details.capitalize ++ " (os error " ++ toString code ++ ")"
  | none, .userError text => text
  | none, _ => "end of file"

/-- The number of the error that nobody could be asked for a name. -/
def nobodyAsked : UInt32 := 3001

/-- The text of an error in looking a host up. -/
def lookupText (e : IO.Error) : String :=
  match systemError? e with
  | some (code, _) =>
      if code = nobodyAsked then Impasse.nobodyToAsk.message else Impasse.unknownName.message
  | none => Impasse.unknownName.message

/-- An error of a transfer. -/
def faultOf (e : IO.Error) : Fault := ⟨.other, causeText e⟩

/-- A connection over the network. -/
structure Connection where
  socket : TCP.Socket.Client
  /-- The transfer that is under way. -/
  incoming : IO.Ref (Option (AsyncTask (Option ByteArray)))
  /-- True when nothing more can come. -/
  ended : IO.Ref Bool
  /-- The count of bytes that were written. -/
  written : IO.Ref Nat

/-- Waits for a task, for some milliseconds if that is limited. -/
partial def waitFor {α : Type} (task : AsyncTask α) (limit : Option Nat) : IO α := do
  if ← IO.hasFinished task then task.block
  else
    match limit with
    | some 0 => throw (.userError "connection timed out")
    | _ =>
        IO.sleep glance
        waitFor task (limit.map (· - glance.toNat))

namespace Connection

/-- Connects to one place, within so many milliseconds if there is a limit. -/
def reach (limit : Option UInt64) (place : SocketAddress) : IO Connection := do
  let socket ← TCP.Socket.Client.mk
  waitFor (← (socket.connect place).toIO) (limit.map UInt64.toNat)
  return ⟨socket, ← IO.mkRef none, ← IO.mkRef false, ← IO.mkRef 0⟩

/-- The places that a host and a port stand for. -/
def places (address : Address) : IO (List SocketAddress) := do
  let host := address.host
  let bare := if host.startsWith "[" && host.endsWith "]"
    then String.ofList (host.toList.drop 1).dropLast else host
  let found ← (DNS.getAddrInfo bare (toString address.port)).block
  return found.toList.map fun
    | .v4 ip => .v4 ⟨ip, address.port⟩
    | .v6 ip => .v6 ⟨ip, address.port⟩

/-- What the system does for calls. -/
def sockets : Sockets IO SocketAddress Connection where
  lookUp address := do return (← (places address).toBaseIO).mapError lookupText
  dial limit place := do return (← (reach limit place).toBaseIO).mapError causeText
  hasten connection := do return (← connection.socket.noDelay.toBaseIO).mapError faultOf

/-- Connects to the responder of a configuration. -/
def dial (config : Config) : IO (Except Error Connection) := do
  return (← config.connector.connect sockets).mapError fun failure =>
    .link (failure.toLinkError config.address)

/-- What has come in since the last look, if anything has.  The end is noted
down. -/
def look (c : Connection) : IO (Option Feed) := do
  if ← c.ended.get then return none
  match ← c.incoming.get with
  | none =>
      c.incoming.set (some (← (c.socket.recv? 65536).toIO))
      return none
  | some task =>
      if !(← IO.hasFinished task) then return none
      c.incoming.set none
      try
        match ← task.block with
        | some bytes => return some { bytes := bytes.toList }
        | none =>
            c.ended.set true
            return some {}
      catch e =>
        c.ended.set true
        return some { readFault := some (faultOf e) }

/-- Writes what was put on a line since the last time. -/
def flush (c : Connection) (line : Line) : IO (Option Fault) := do
  let bytes := line.sent.drop (← c.written.get)
  if bytes.isEmpty then return none
  c.written.set line.sent.length
  try
    (c.socket.send ⟨bytes.toArray⟩).block
    return none
  catch e => return some (faultOf e)

/-- Gives the connection up. -/
def close (c : Connection) : IO Unit := do
  if let some task ← c.incoming.get then
    c.socket.native.cancelRecv
    discard <| IO.wait task
  try c.socket.shutdown.block
  catch _ => pure ()

end Connection

/-- A state with a line in it. -/
structure Lined (σ : Type) where
  line : σ → Line
  withLine : Line → σ → σ

/-- The state that an action leaves. -/
def left {ε σ α : Type} : EStateM.Result ε σ α → σ
  | .ok _ s | .error _ s => s

/-- Carries an action out over a connection, doing something else while it has
to wait.  Gives the outcome, and the state that it came from in the end. -/
partial def Connection.carry {σ α : Type} (c : Connection) (view : Lined σ)
    (meanwhile : σ → IO σ) (action : EStateM Error σ α) (s : σ) :
    IO (Except Error α × σ × σ) := do
  let line := view.line s
  let more := !(← c.ended.get)
  let outcome := action (view.withLine (line.expecting more) s)
  let after := view.line (left outcome)
  match ← c.flush after with
  | some fault =>
      carry c view meanwhile action (view.withLine (line.feed { writeFault := some ⟨fault, 0⟩ }) s)
  | none =>
      if after.isStarved more then
        let s ← meanwhile s
        match ← c.look with
        | some feed => carry c view meanwhile action (view.withLine (line.feed feed) s)
        | none =>
            IO.sleep glance
            carry c view meanwhile action s
      else
        let result := match outcome with
          | .ok value _ => .ok value
          | .error cause _ => .error cause
        return (result, view.withLine after.unmarked (left outcome), s)

/-- A session over the network. -/
structure Live where
  command : Connection
  event : Connection
  session : IO.Ref Session
  /-- The count of entries in the journal that were looked at. -/
  seen : IO.Ref Nat
  verbose : Bool

namespace Live

/-- Writes a line of the log. -/
def log (live : Live) (line : LogLine) : IO Unit := do
  if line.level != .debug || live.verbose then
    let fields := line.fields.map fun (name, value) => " " ++ name ++ "=" ++ value
    IO.eprintln (line.level.name ++ " ptpip: " ++ line.message ++ String.join fields)

/-- Looks at the event connection.  Its end is the end of its reader. -/
def listen (live : Live) (s : Session) : IO Session := do
  match ← live.event.look with
  | none => return s
  | some feed =>
      let feed := { feed with shutdown := ← live.event.ended.get }
      let fed := s.feedEvent feed
      let fed ← match ← live.event.flush fed.events.channel.line with
        | none => pure fed
        | some fault => pure ((s.feedEvent { writeFault := some ⟨fault, 0⟩ }).feedEvent feed)
      for entry in fed.events.journal.drop (← live.seen.get) do
        if let .logged line := entry then live.log line
      live.seen.set fed.events.journal.length
      return fed

/-- Opens a session with the responder of a configuration. -/
def connect (config : Config) (verbose : Bool) : IO (Except Error Live) := do
  let own : Lined Line := ⟨id, fun line _ => line⟩
  let command ← match ← Connection.dial config with
    | .ok c => pure c
    | .error cause => return .error cause
  match ← command.carry own pure (Handshake.command config) .fresh with
  | (.error cause, _, _) => return .error cause
  | (.ok responder, _, commandLine) =>
      let event ← match ← Connection.dial config with
        | .ok c => pure c
        | .error cause => return .error cause
      match ← event.carry own pure (Handshake.event responder.connectionNumber) .fresh with
      | (.error cause, _, _) => return .error cause
      | (.ok (), _, eventLine) =>
          match Session.connect config .empty [commandLine, eventLine] with
          | (.failure cause _, _) => return .error cause
          | (.session session, _) =>
              let _ ← event.flush session.events.channel.line
              let session := session.feedEvent { shutdown := ← event.ended.get }
              return .ok
                ⟨command, event, ← IO.mkRef session, ← IO.mkRef 0, verbose⟩

/-- What the clock shows. -/
def now : IO Instant := return ⟨← IO.monoNanosNow⟩

/-- Listens for some seconds from a point in time on. -/
partial def listenFor (live : Live) (seconds : UInt64) (start : Instant) : IO Unit := do
  live.session.set (← live.listen (← live.session.get))
  let passed := (← now).nanoseconds - start.nanoseconds
  if passed / Instant.perSecond < seconds.toNat then
    IO.sleep glance
    live.listenFor seconds start

/-- Prints what a watch sees, after some lines that were printed before. -/
partial def follow (live : Live) (watch : Watch) (deadline : Instant) (printed : Nat) :
    IO Bool := do
  let session ← live.listen (← live.session.get)
  live.session.set session
  let seen := watch.seen session
  (seen.lines.drop printed).forM IO.println
  if seen.complete then return true
  if deadline.nanoseconds ≤ (← now).nanoseconds then return false
  IO.sleep glance
  live.follow watch deadline seen.lines.length

/-- Does a step. -/
def perform (live : Live) : (step : Step) → IO step.Answer
  | .call c => do
      let view : Lined Session := ⟨Session.command, fun line s => { s with command := line }⟩
      let (answer, session, _) ← live.command.carry view live.listen (Session.perform c)
        (← live.session.get)
      live.session.set session
      return answer
  | .print line => IO.println line
  | .save path content => do
      try
        IO.FS.writeBinFile path ⟨content.toArray⟩
        return none
      catch e => return some (causeText e)
  | .enroll listener => live.session.modify (·.enroll listener)
  | .dismiss name => live.session.modify (·.dismiss name)
  | .now => now
  | .watch watch deadline => live.follow watch deadline 0
  | .pause seconds => do live.listenFor seconds (← now)

/-- Carries a procedure out, as far as it comes. -/
def carry {α : Type} (live : Live) : Procedure α → IO (Except Crash α)
  | .done value => pure (.ok value)
  | .crashed crash => pure (.error crash)
  | .step s next => do live.carry (next (← live.perform s))

/-- Gives both connections up. -/
def close (live : Live) : IO Unit := do
  live.command.close
  live.event.close

end Live

/-- Carries a command out. -/
def Command.carry (settings : Settings) (command : Command) : IO (Ending Unit) := do
  let content ← match settings.config with
    | none => pure none
    | some path =>
        try pure (some (← IO.FS.readBinFile path).toList)
        catch _ => pure none
  match settings.configuration fun _ => content with
  | .error failure => return .ok (.error failure)
  | .ok config =>
      match ← Live.connect config settings.verbose with
      | .error cause => return .ok (.error (.connecting config.address cause))
      | .ok live =>
          let responder := (← live.session.get).responder
          let ending ← live.carry (command.procedure responder settings.openedSession)
          live.close
          return ending

end PictureTransfer

open PictureTransfer

/-- Carries out what a command line asks for. -/
def main (arguments : List String) : IO UInt32 := do
  match Invocation.ofArguments arguments with
  | .misuse =>
      IO.eprintln "error: invalid arguments\n\nFor more information, try '--help'."
      return 2
  | .help topic =>
      (Usage.lines topic).forM IO.println
      return 0
  | .version =>
      IO.println Usage.versionLine
      return 0
  | .run settings command =>
      let ending ← command.carry settings
      if let some failure := ending.failure then
        IO.eprintln ("ERROR ptpip: Error: " ++ failure.logged)
      if let some crash := ending.crash then
        IO.eprintln crash.message
      return ending.exit
