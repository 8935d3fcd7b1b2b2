import PictureTransfer.Code
import PictureTransfer.Packet.Kind
import PictureTransfer.Session.Phase
import PictureTransfer.Wire.Error

/-!
# Errors of a session

Four families of cause: values that do not read (`WireError`), packets that
break the rules of the protocol (`Violation`), connections that fail
(`LinkError`), and the session's own refusals.  Each error has one text.

`isFatal` tells whether the connection can deliver further packets,
`isEndOfStream` whether input merely ran out, and `causes` lists the error and
what lies behind it.
-/

namespace PictureTransfer

/-- What the responder says when it turns a handshake down. -/
def refusalText (reason : UInt32) : String :=
  match reason with
  | 1 => "rejected initiator"
  | 2 => "busy"
  | 3 => "unspecified"
  | _ => "unknown"

/-- What may be wrong with the shape of a payload. -/
inductive ShapeFault where
  /-- The payload is not the only length that its kind has. -/
  | notExactly (expected actual : Nat)
  /-- The payload is shorter than its fixed part. -/
  | tooShort (least actual : Nat)
  /-- The parameters are not whole 32-bit numbers. -/
  | unaligned (length : Nat)
  deriving DecidableEq, Repr

/-- The text of a fault in the shape of a payload. -/
def ShapeFault.message : ShapeFault → String
  | notExactly expected actual =>
      "expected exactly " ++ toString expected ++ " bytes, got " ++ toString actual
  | tooShort least actual =>
      "expected at least " ++ toString least ++ " bytes, got " ++ toString actual
  | unaligned length =>
      "parameter block of " ++ toString length ++ " bytes is not 4-byte aligned"

/-- Well-formed bytes that break a rule of the protocol. -/
inductive Violation where
  | unknownKind (code : Nat)
  | invalidLength (length : Nat)
  /-- A packet whose length does not fit the header. -/
  | packetTooLarge (length : Nat)
  | unexpectedPacket (expected actual : PacketKind)
  | invalidPayload (kind : PacketKind) (fault : ShapeFault)
  | malformedPayload (kind : PacketKind) (cause : WireError)
  | tooManyParameters (count most : Nat)
  | transactionMismatch (expected actual : UInt32)
  | dataOverrun (expected : UInt64) (received : Nat)
  /-- A data phase that is under way starts again. -/
  | dataStarted
  /-- Data after the end of the data phase. -/
  | dataEnded (kind : PacketKind)
  | handshakeRejected (reason : UInt32)
  | missingEventParameter (code : EventCode) (index : Nat)
  | eventParameterOutOfRange (code : EventCode) (index : Nat) (value : UInt32)
  | missingResponseParameter (index : Nat)
  deriving DecidableEq, Repr

namespace Violation

/-- The text of a violation. -/
def message : Violation → String
  | unknownKind code => "Unknown packet type " ++ Hex.upper 8 code
  | invalidLength length =>
      "Invalid packet length " ++ toString length ++ " (header alone is 8 bytes)"
  | packetTooLarge length =>
      "Packet of " ++ toString length ++ " bytes does not fit the 32-bit length field"
  | unexpectedPacket expected actual =>
      "Unexpected packet: expected " ++ expected.name ++ ", got " ++ actual.name
  | invalidPayload kind fault => "Invalid " ++ kind.name ++ " payload: " ++ fault.message
  | malformedPayload kind cause => "Malformed " ++ kind.name ++ " payload: " ++ cause.message
  | tooManyParameters count most =>
      "Too many parameters: " ++ toString count ++ " (max " ++ toString most ++ ")"
  | transactionMismatch expected actual =>
      "Transaction ID mismatch: expected " ++ toString expected ++ ", got " ++ toString actual
  | dataOverrun expected received =>
      "Data phase overrun: " ++ toString received ++ " bytes received, " ++
        toString expected ++ " announced"
  | dataStarted => "Unexpected StartData in data phase: data phase already started"
  | dataEnded kind => "Unexpected " ++ kind.name ++ " in data phase: data phase already ended"
  | handshakeRejected reason =>
      "Responder rejected the connection: reason " ++ Hex.upper 8 reason.toNat ++
        " (" ++ refusalText reason ++ ")"
  | missingEventParameter code index =>
      code.text ++ " event is missing parameter " ++ toString index
  | eventParameterOutOfRange code index value =>
      code.text ++ " event parameter " ++ toString index ++ " is " ++
        Hex.upper 8 value.toNat ++ ", exceeds 16 bits"
  | missingResponseParameter index => "Response is missing parameter " ++ toString index

/-- True when packets can no longer be told apart on the connection. -/
def breaksFraming : Violation → Bool
  | invalidLength _ | packetTooLarge _ => true
  | _ => false

end Violation

/-- A connection that cannot be had or fails. -/
inductive LinkError where
  | connect (address : String) (cause : String)
  /-- The address stands for no place to connect to. -/
  | unresolved (address : String)
  | io (fault : Fault)
  deriving DecidableEq, Repr

/-- The text of a connection's failure. -/
def LinkError.message : LinkError → String
  | connect address cause => "Failed to connect to " ++ address ++ ": " ++ cause
  | unresolved address => "Address " ++ address ++ " did not resolve to any socket address"
  | io fault => "IO error: " ++ fault.message

/-- Why a call on a session fails. -/
inductive Error where
  | wire (cause : WireError)
  | violation (cause : Violation)
  | link (cause : LinkError)
  /-- The responder did not carry the operation out. -/
  | notOk (operation : OperationCode) (code : ResponseCode)
  /-- The session is not in the phase that the call needs. -/
  | wrongPhase (actual required : Phase)
  deriving DecidableEq, Repr

namespace Error

/-- The text of an error. -/
def message : Error → String
  | wire cause => cause.message
  | violation cause => cause.message
  | link cause => cause.message
  | notOk operation code => operation.text ++ " failed with " ++ code.text
  | wrongPhase actual required =>
      "Session is " ++ actual.text ++ ", operation requires " ++ required.text

/-- True when the connection can deliver no further packets. -/
def isFatal : Error → Bool
  | wire cause => cause.isFatal
  | violation cause => cause.breaksFraming
  | link _ => true
  | notOk .. | wrongPhase .. => false

/-- True when the input simply ran out of bytes. -/
def isEndOfStream : Error → Bool
  | wire cause => cause.isEndOfStream
  | _ => false

/-- The texts of an error and of what caused it, nearest first. -/
def causes : Error → List String
  | wire cause => cause.causes
  | violation (.malformedPayload kind cause) =>
      (Violation.malformedPayload kind cause).message :: cause.causes
  | link (.connect address cause) => [(LinkError.connect address cause).message, cause]
  | link (.io fault) => [(LinkError.io fault).message, fault.message]
  | error => [error.message]

end Error

end PictureTransfer
