import PictureTransfer.Guid
import PictureTransfer.Packet.Basic
import PictureTransfer.Wire.Text

/-!
# What packets carry

Each kind of packet has a body of its own type, `Body kind`.  `encode` writes
a body as a payload, `decode` reads a payload as the body of a kind and says
what is wrong with one that is none, and `Packet.expect` also checks that the
packet is of the kind asked for.

A payload is read in full: fixed-size payloads have just their length, and a
payload that ends in parameters holds only whole ones, up to a fixed count.
-/

namespace PictureTransfer

/-- Up to `most` numbers that come with an operation, a response or an
event. -/
structure Params (most : Nat) where
  values : List UInt32
  length_le : values.length ≤ most
  deriving DecidableEq

/-- The parameters of an operation or of its response. -/
abbrev OperationParams := Params 5

/-- The parameters of an event. -/
abbrev EventParams := Params 3

namespace Params

variable {most : Nat}

/-- The given numbers, if there are not too many. -/
def ofList (most : Nat) (values : List UInt32) : Except Violation (Params most) :=
  if h : values.length ≤ most then .ok ⟨values, h⟩
  else .error (.tooManyParameters values.length most)

/-- The parameter at an index, if there is one. -/
def get? (params : Params most) (index : Nat) : Option UInt32 := params.values[index]?

/-- The bytes of the parameters. -/
def toBytes (params : Params most) : Bytes := params.values.flatMap encodeUInt32

/-- The whole 32-bit numbers at the start of a byte string. -/
def words : Bytes → List UInt32
  | a :: b :: c :: d :: rest => UInt32.ofNat (LittleEndian.decode [a, b, c, d]) :: words rest
  | _ => []

/-- The parameters that make up the end of a payload. -/
def ofBytes (most : Nat) (kind : PacketKind) (tail : Bytes) : Except Violation (Params most) :=
  if tail.length % 4 ≠ 0 then .error (.invalidPayload kind (.unaligned tail.length))
  else ofList most (words tail)

end Params

/-- Which way the data of an operation goes. -/
structure DataFlow where
  code : UInt32
  deriving DecidableEq, Repr

namespace DataFlow

/-- From the responder to the initiator, or no data at all. -/
def inward : DataFlow := ⟨1⟩

/-- From the initiator to the responder. -/
def outward : DataFlow := ⟨2⟩

/-- The name of a direction. -/
def shown (flow : DataFlow) : String :=
  match flow.code with
  | 0 => "Unknown"
  | 1 => "NoDataOrDataIn"
  | 2 => "DataOut"
  | other => "Other(" ++ toString other ++ ")"

end DataFlow

/-- The initiator presents itself. -/
structure InitCommandRequest where
  guid : Guid
  name : String
  protocolVersion : UInt32
  deriving DecidableEq

/-- The responder accepts the command connection and presents itself. -/
structure InitCommandAck where
  connectionNumber : UInt32
  guid : Guid
  name : String
  protocolVersion : UInt32
  deriving DecidableEq

/-- The initiator opens the event connection that belongs to a command
connection. -/
structure InitEventRequest where
  connectionNumber : UInt32
  deriving DecidableEq, Repr

/-- The responder turns a connection down. -/
structure InitFail where
  reason : UInt32
  deriving DecidableEq, Repr

/-- The initiator asks for an operation. -/
structure OperationRequest where
  flow : DataFlow
  code : OperationCode
  transactionId : UInt32
  params : OperationParams
  deriving DecidableEq

/-- The responder has finished with an operation. -/
structure OperationResponse where
  code : ResponseCode
  transactionId : UInt32
  params : OperationParams
  deriving DecidableEq

/-- Something happened at the responder. -/
structure EventNotice where
  code : EventCode
  transactionId : UInt32
  params : EventParams
  deriving DecidableEq

/-- Data is to come, so many bytes of it. -/
structure StartData where
  transactionId : UInt32
  totalLength : UInt64
  deriving DecidableEq, Repr

/-- A piece of the data. -/
structure DataChunk where
  transactionId : UInt32
  chunk : Bytes
  deriving DecidableEq, Repr

/-- The initiator gives up a transaction. -/
structure Cancel where
  transactionId : UInt32
  deriving DecidableEq, Repr

/-- What a packet of each kind carries. -/
abbrev Body : PacketKind → Type
  | .initCommandRequest => InitCommandRequest
  | .initCommandAck => InitCommandAck
  | .initEventRequest => InitEventRequest
  | .initEventAck => Unit
  | .initFail => InitFail
  | .operationRequest => OperationRequest
  | .operationResponse => OperationResponse
  | .event => EventNotice
  | .startData => StartData
  | .data => DataChunk
  | .cancel => Cancel
  | .endData => DataChunk
  | .probeRequest => Unit
  | .probeResponse => Unit

namespace Body

/-- The payload of a body. -/
def encode : (kind : PacketKind) → Body kind → Bytes
  | .initCommandRequest, m =>
      m.guid.bytes ++ Text.encode m.name ++ encodeUInt32 m.protocolVersion
  | .initCommandAck, m =>
      encodeUInt32 m.connectionNumber ++ m.guid.bytes ++ Text.encode m.name ++
        encodeUInt32 m.protocolVersion
  | .initEventRequest, m => encodeUInt32 m.connectionNumber
  | .initEventAck, _ => []
  | .initFail, m => encodeUInt32 m.reason
  | .operationRequest, m =>
      encodeUInt32 m.flow.code ++ encodeUInt16 m.code.value ++ encodeUInt32 m.transactionId ++
        m.params.toBytes
  | .operationResponse, m =>
      encodeUInt16 m.code.value ++ encodeUInt32 m.transactionId ++ m.params.toBytes
  | .event, m => encodeUInt16 m.code.value ++ encodeUInt32 m.transactionId ++ m.params.toBytes
  | .startData, m => encodeUInt32 m.transactionId ++ encodeUInt64 m.totalLength
  | .data, m => encodeUInt32 m.transactionId ++ m.chunk
  | .cancel, m => encodeUInt32 m.transactionId
  | .endData, m => encodeUInt32 m.transactionId ++ m.chunk
  | .probeRequest, _ => []
  | .probeResponse, _ => []

/-- The packet that carries a body. -/
def toPacket (kind : PacketKind) (body : Body kind) : Packet := ⟨kind, encode kind body⟩

/-- Reads the sixteen bytes of an identifier. -/
def guid : Decoder Guid := do
  match Guid.ofBytes? (← Decoder.exactly 16 "UINT8") with
  | some guid => pure guid
  | none => throw (.endOfStream "UINT8")

/-- Reads fields off the start of a payload; gives them and what follows. -/
def fields {α : Type} (kind : PacketKind) (decoder : Decoder α) (payload : Bytes) :
    Except Violation (α × Bytes) :=
  match decoder (.ofBytes payload) with
  | .ok value s => .ok (value, s.queued)
  | .error e _ => .error (.malformedPayload kind e)

/-- Refuses a payload of any other length. -/
def exactLength (kind : PacketKind) (payload : Bytes) (expected : Nat) :
    Except Violation Unit :=
  if payload.length = expected then .ok ()
  else .error (.invalidPayload kind (.notExactly expected payload.length))

/-- Refuses a payload that is too short. -/
def leastLength (kind : PacketKind) (payload : Bytes) (least : Nat) : Except Violation Unit :=
  if least ≤ payload.length then .ok ()
  else .error (.invalidPayload kind (.tooShort least payload.length))

/-- A payload that is one 32-bit number. -/
def word (kind : PacketKind) (payload : Bytes) : Except Violation UInt32 := do
  exactLength kind payload 4
  let (value, _) ← fields kind Decoder.uint32 payload
  pure value

/-- A payload that starts with a transaction number. -/
def chunk (kind : PacketKind) (payload : Bytes) : Except Violation DataChunk := do
  leastLength kind payload 4
  let (transactionId, rest) ← fields kind Decoder.uint32 payload
  pure ⟨transactionId, rest⟩

/-- Reads a payload as the body of a kind. -/
def decode : (kind : PacketKind) → Bytes → Except Violation (Body kind)
  | .initCommandRequest, payload => do
      let decoder : Decoder InitCommandRequest := do
        pure ⟨← guid, ← Text.decoder, ← Decoder.uint32⟩
      let (body, rest) ← fields .initCommandRequest decoder payload
      exactLength .initCommandRequest payload (payload.length - rest.length)
      pure body
  | .initCommandAck, payload => do
      let decoder : Decoder InitCommandAck := do
        pure ⟨← Decoder.uint32, ← guid, ← Text.decoder, ← Decoder.uint32⟩
      let (body, rest) ← fields .initCommandAck decoder payload
      exactLength .initCommandAck payload (payload.length - rest.length)
      pure body
  | .initEventRequest, payload => do pure ⟨← word .initEventRequest payload⟩
  | .initEventAck, payload => exactLength .initEventAck payload 0
  | .initFail, payload => do pure ⟨← word .initFail payload⟩
  | .operationRequest, payload => do
      leastLength .operationRequest payload 10
      let decoder : Decoder (UInt32 × UInt16 × UInt32) := do
        pure (← Decoder.uint32, ← Decoder.uint16, ← Decoder.uint32)
      let ((flow, code, transactionId), tail) ← fields .operationRequest decoder payload
      pure ⟨⟨flow⟩, ⟨code⟩, transactionId, ← Params.ofBytes 5 .operationRequest tail⟩
  | .operationResponse, payload => do
      leastLength .operationResponse payload 6
      let decoder : Decoder (UInt16 × UInt32) := do
        pure (← Decoder.uint16, ← Decoder.uint32)
      let ((code, transactionId), tail) ← fields .operationResponse decoder payload
      pure ⟨⟨code⟩, transactionId, ← Params.ofBytes 5 .operationResponse tail⟩
  | .event, payload => do
      leastLength .event payload 6
      let decoder : Decoder (UInt16 × UInt32) := do
        pure (← Decoder.uint16, ← Decoder.uint32)
      let ((code, transactionId), tail) ← fields .event decoder payload
      pure ⟨⟨code⟩, transactionId, ← Params.ofBytes 3 .event tail⟩
  | .startData, payload => do
      exactLength .startData payload 12
      let decoder : Decoder StartData := do pure ⟨← Decoder.uint32, ← Decoder.uint64⟩
      let (body, _) ← fields .startData decoder payload
      pure body
  | .data, payload => chunk .data payload
  | .cancel, payload => do pure ⟨← word .cancel payload⟩
  | .endData, payload => chunk .endData payload
  | .probeRequest, payload => exactLength .probeRequest payload 0
  | .probeResponse, payload => exactLength .probeResponse payload 0

end Body

/-- The body of a packet that has to be of the given kind. -/
def Packet.expect (kind : PacketKind) (p : Packet) : Except Violation (Body kind) :=
  if p.kind = kind then Body.decode kind p.payload
  else .error (.unexpectedPacket kind p.kind)

end PictureTransfer
