import PictureTransfer.Config.Basic
import PictureTransfer.Link.Line

/-!
# Handshakes

The initiator presents itself on the command connection and is given the
number of the connection; with that number it opens the event connection.  At
either step the responder may turn it down.
-/

namespace PictureTransfer

namespace Handshake

/-- What a refusal says: the reason, or what is wrong with it. -/
def refusal (p : Packet) : Violation :=
  match Body.decode .initFail p.payload with
  | .ok fail => .handshakeRejected fail.reason
  | .error violation => violation

/-- The body of the packet that a handshake waits for; a refusal and any other
packet is a violation. -/
def answer (kind : PacketKind) (p : Packet) : Except Violation (Body kind) :=
  if p.kind = kind then Body.decode kind p.payload
  else if p.kind = .initFail then .error (refusal p)
  else .error (.unexpectedPacket kind p.kind)

/-- Sends a packet and waits for the answer of a kind. -/
def exchange (question : Packet) (kind : PacketKind) : EStateM Error Line (Body kind) := do
  Line.send question
  let reply ← Line.receive
  match answer kind reply with
  | .ok body => pure body
  | .error violation => throw (.violation violation)

/-- The packet that presents an initiator. -/
def introduction (config : Config) : Packet :=
  Body.toPacket .initCommandRequest ⟨config.guid, config.name, config.protocolVersion⟩

/-- Opens the command connection. -/
def command (config : Config) : EStateM Error Line InitCommandAck :=
  exchange (introduction config) .initCommandAck

/-- Opens the event connection that belongs to a command connection. -/
def event (connectionNumber : UInt32) : EStateM Error Line Unit :=
  exchange (Body.toPacket .initEventRequest ⟨connectionNumber⟩) .initEventAck

end Handshake

end PictureTransfer
