/-!
# Phases of a session

A session opens its command connection, then its event connection, is ready
for operations, and in the end is closed.
-/

namespace PictureTransfer

/-- How far a session has come. -/
inductive Phase where
  /-- No connection attempted yet. -/
  | disconnected
  /-- Opening the command connection. -/
  | commandConnecting
  /-- Command connection accepted by the responder. -/
  | commandOpen
  /-- Opening the event connection. -/
  | eventConnecting
  /-- Both connections up; operations may be issued. -/
  | ready
  /-- Both connections torn down. -/
  | closed
  deriving DecidableEq, Repr

namespace Phase

/-- Every phase, in the order of a session's life. -/
def all : List Phase :=
  [disconnected, commandConnecting, commandOpen, eventConnecting, ready, closed]

/-- The phase of a session before anything happens. -/
def first : Phase := disconnected

/-- The name of a phase. -/
def name : Phase → String
  | disconnected => "Disconnected"
  | commandConnecting => "CommandConnecting"
  | commandOpen => "CommandOpen"
  | eventConnecting => "EventConnecting"
  | ready => "Ready"
  | closed => "Closed"

/-- A phase as messages show it. -/
def text : Phase → String
  | disconnected => "DISCONNECTED"
  | commandConnecting => "COMMAND_CONNECTING"
  | commandOpen => "COMMAND_OPEN"
  | eventConnecting => "EVENT_CONNECTING"
  | ready => "READY"
  | closed => "CLOSED"

/-- True when operations may be issued. -/
def isReady : Phase → Bool
  | ready => true
  | _ => false

/-- True while the handshake is in progress. -/
def isConnecting : Phase → Bool
  | commandConnecting | commandOpen | eventConnecting => true
  | _ => false

/-- The phase of a given name. -/
def ofName? (name : String) : Option Phase := all.find? (·.name = name)

end Phase

end PictureTransfer
