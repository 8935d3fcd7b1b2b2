import PictureTransfer.Guid

/-!
# Configurations

What a session needs to know: where the responder is, how the initiator
presents itself, and how long to wait for a connection.
-/

namespace PictureTransfer

/-- What a session needs to know before it connects. -/
structure Config where
  /-- Name or address of the responder. -/
  host : String := "192.168.1.1"
  port : UInt16 := 15740
  /-- The identifier that the initiator presents. -/
  guid : Guid := .zero
  /-- The name that the initiator presents. -/
  name : String := "ptpip"
  protocolVersion : UInt32 := 0x00010000
  /-- Milliseconds to wait for a connection, zero for the system's own limit. -/
  connectTimeoutMs : UInt64 := 5000
  /-- Events held for the listeners before the reader has to wait. -/
  eventQueueDepth : UInt64 := 64
  deriving DecidableEq

namespace Config

/-- The host as it stands in an address: brackets keep the colons of a bare
address apart from the one before the port. -/
def hostPart (host : String) : String :=
  if host.toList.contains ':' && host.toList.head? != some '[' then "[" ++ host ++ "]"
  else host

/-- Where to connect, host and port. -/
def address (c : Config) : String := hostPart c.host ++ ":" ++ toString c.port

/-- How many milliseconds to wait for a connection, if there is a limit. -/
def connectTimeout (c : Config) : Option UInt64 :=
  if c.connectTimeoutMs = 0 then none else some c.connectTimeoutMs

end Config

end PictureTransfer
