import PictureTransfer.Link.Line
import PictureTransfer.Transaction.DataPhase

/-!
# One cycle on the command connection

A cycle is a request, the initiator's data if there is any, and then packets
of the responder up to its response.  Probes in between are answered.

A data packet that breaks a rule does not end the cycle: the first violation
is held and the remaining data passed over until the response is there, so
that the connection stays in step.  Every other error ends the cycle at once.

* `Intake.take_held` — the first violation stays.
-/

namespace PictureTransfer

/-- What has come of the data of a cycle so far. -/
structure Intake where
  phase : DataPhase
  /-- The first violation among the data packets. -/
  held : Option Violation := none
  /-- True once there was a data packet. -/
  any : Bool := false
  deriving DecidableEq, Repr

namespace Intake

/-- The intake of a transaction at its start. -/
def ofTransaction (id : UInt32) : Intake where
  phase := { transactionId := id }

/-- Takes a data packet in. -/
def take (intake : Intake) (packet : DataPacket) : Intake :=
  match intake.held with
  | some _ => { intake with any := true }
  | none =>
      match intake.phase.accept packet with
      | .ok phase => ⟨phase, none, true⟩
      | .error violation => ⟨intake.phase, some violation, true⟩

/-- The data, if there was any packet of it. -/
def data (intake : Intake) : Option Bytes := if intake.any then some intake.phase.data else none

theorem take_held {intake : Intake} {v : Violation} (h : intake.held = some v)
    (packet : DataPacket) : (intake.take packet).held = some v := by
  simp [take, h]

end Intake

/-- What a packet means in a cycle. -/
inductive Heard where
  | data (packet : DataPacket)
  | response (response : OperationResponse)
  | probe

/-- Makes out what a packet means in a cycle. -/
def Heard.ofPacket (p : Packet) : Except Violation Heard :=
  match p.kind with
  | .startData => (data ∘ .start) <$> Body.decode .startData p.payload
  | .data => (data ∘ .piece) <$> Body.decode .data p.payload
  | .endData => (data ∘ .last) <$> Body.decode .endData p.payload
  | .operationResponse => response <$> Body.decode .operationResponse p.payload
  | .probeRequest => (fun () => probe) <$> Body.decode .probeRequest p.payload
  | other => .error (.unexpectedPacket .operationResponse other)

/-- What a cycle comes to. -/
structure Cycle where
  response : OperationResponse
  data : Option Bytes
  /-- The violation that spoils the data, if there was one. -/
  held : Option Violation
  deriving DecidableEq

namespace Cycle

/-- Reads up to the response, adding to what has come in. -/
def collect (intake : Intake) (line : Line) : EStateM.Result Error Line Cycle :=
  match _h : Line.receive line with
  | .error e line' => .error e line'
  | .ok p line' =>
      match Heard.ofPacket p with
      | .error violation => .error (.violation violation) line'
      | .ok (.response response) => .ok ⟨response, intake.data, intake.held⟩ line'
      | .ok (.data packet) => collect (intake.take packet) line'
      | .ok .probe =>
          match _hs : Line.send (Body.toPacket .probeResponse ()) line' with
          | .error e line'' => .error e line''
          | .ok () line'' => collect intake line''
termination_by line.incoming.queued.length
decreasing_by
  · have := Line.receive_shortens _h
    omega
  · have := Line.receive_shortens _h
    have hsame : line''.incoming = line'.incoming := (Line.send_ok _hs).2.2.incoming
    rw [hsame]
    omega

/-- A response has to name the transaction it belongs to. -/
def check (id : UInt32) (cycle : Cycle) : Except Violation Cycle :=
  if cycle.response.transactionId = id then .ok cycle
  else .error (.transactionMismatch id cycle.response.transactionId)

/-- Sends the request and what data there is to send. -/
def request (operation : OperationCode) (id : UInt32) (params : OperationParams)
    (dataOut : Option Bytes) : EStateM Error Line Unit := do
  let flow := if dataOut.isSome then DataFlow.outward else DataFlow.inward
  Line.send (Body.toPacket .operationRequest ⟨flow, operation, id, params⟩)
  match dataOut with
  | some data => Line.send (Body.toPacket .data ⟨id, data⟩)
  | none => pure ()

/-- Runs a whole cycle. -/
def run (operation : OperationCode) (id : UInt32) (params : OperationParams)
    (dataOut : Option Bytes) : EStateM Error Line Cycle := do
  request operation id params dataOut
  let cycle ← collect (.ofTransaction id)
  match cycle.check id with
  | .ok cycle => pure cycle
  | .error violation => throw (.violation violation)

end Cycle

end PictureTransfer
