/-!
# Packet kinds

The fourteen kinds of packet, numbered from 1.  `ofCode?_code` says that a
kind is found again by its number.
-/

namespace PictureTransfer

/-- The kinds of packet. -/
inductive PacketKind where
  | initCommandRequest
  | initCommandAck
  | initEventRequest
  | initEventAck
  | initFail
  | operationRequest
  | operationResponse
  | event
  | startData
  | data
  | cancel
  | endData
  | probeRequest
  | probeResponse
  deriving DecidableEq, Repr

namespace PacketKind

/-- Every kind, in the order of the numbers. -/
def all : List PacketKind :=
  [initCommandRequest, initCommandAck, initEventRequest, initEventAck, initFail,
    operationRequest, operationResponse, event, startData, data, cancel, endData,
    probeRequest, probeResponse]

/-- The number that stands for a kind in a header. -/
def code : PacketKind → Nat
  | initCommandRequest => 1
  | initCommandAck => 2
  | initEventRequest => 3
  | initEventAck => 4
  | initFail => 5
  | operationRequest => 6
  | operationResponse => 7
  | event => 8
  | startData => 9
  | data => 10
  | cancel => 11
  | endData => 12
  | probeRequest => 13
  | probeResponse => 14

/-- The kind of a given number. -/
def ofCode? (code : Nat) : Option PacketKind := all.find? (·.code = code)

/-- The name of a kind. -/
def name : PacketKind → String
  | initCommandRequest => "InitCommandRequest"
  | initCommandAck => "InitCommandAck"
  | initEventRequest => "InitEventRequest"
  | initEventAck => "InitEventAck"
  | initFail => "InitFail"
  | operationRequest => "OperationRequest"
  | operationResponse => "OperationResponse"
  | event => "Event"
  | startData => "StartData"
  | data => "Data"
  | cancel => "Cancel"
  | endData => "EndData"
  | probeRequest => "ProbeRequest"
  | probeResponse => "ProbeResponse"

/-- The kind of a given name. -/
def ofName? (name : String) : Option PacketKind := all.find? (·.name = name)

theorem code_lt (kind : PacketKind) : kind.code < 15 := by
  cases kind <;> decide

theorem ofCode?_code (kind : PacketKind) : ofCode? kind.code = some kind := by
  cases kind <;> rfl

end PacketKind

end PictureTransfer
