import PictureTransfer.Link.Line
import PictureTransfer.Proofs.Outcome

/-!
# What goes wrong with packets

Sending and receiving packets fails in ways of their own: the connection fails,
a packet is cut off or has a length or a kind that no packet has, it is of
another kind than the one that is due, or its payload is not one of its kind.
Behind each of them the initiator and the responder may be at different places
of the line: `Error.breaksStep`.

* `Packet.read_error_cases`, `Line.receive_error`, `Line.send_error_breaksStep` —
  nothing else goes wrong with a line;
* `Body.failsInPayload_decode`, `Body.failsInShape_decode` — nothing else goes wrong
  with a payload.
-/

namespace PictureTransfer

/-- True of the rules that a single packet can break. -/
def Violation.isOfPacket : Violation → Bool
  | unknownKind _ | invalidLength _ | packetTooLarge _ | unexpectedPacket ..
  | invalidPayload .. | malformedPayload .. | tooManyParameters .. => true
  | _ => false

/-- True of the rules that the payload of a packet can break. -/
def Violation.isOfPayload : Violation → Bool
  | invalidPayload .. | malformedPayload .. | tooManyParameters .. => true
  | _ => false

/-- A rule of payloads is one of packets, and breaking it leaves the packets apart. -/
theorem Violation.isOfPacket_of_isOfPayload {violation : Violation}
    (h : violation.isOfPayload = true) :
    violation.isOfPacket = true ∧ violation.breaksFraming = false := by
  cases violation with
  | invalidPayload | malformedPayload | tooManyParameters => exact ⟨rfl, rfl⟩
  | _ => exact Bool.noConfusion h

/-- True of an error of sending and receiving packets, behind which the two sides
of a line may be out of step. -/
def Error.breaksStep : Error → Bool
  | wire (.endOfStream what) => what = "packet header" || what = "packet payload"
  | violation cause => cause.isOfPacket
  | link _ => true
  | _ => false

namespace Packet

theorem headerShortfall_breaksStep (s : Source) : (headerShortfall s).breaksStep = true := by
  unfold headerShortfall
  split
  · split <;> rfl
  · rfl

theorem payloadShortfall_breaksStep (s : Source) : (payloadShortfall s).breaksStep = true := by
  unfold payloadShortfall
  split <;> rfl

/-- **A packet that cannot be read** breaks the step, and what was read of it is
gone. -/
theorem read_error_cases {s s' : Source} {e : Error} (h : read s = .error e s') :
    e.breaksStep = true ∧ (s' = exhausted s ∨ ∃ n, s' = past n s) := by
  rw [read_eq] at h
  split at h
  · obtain ⟨rfl, rfl⟩ := EStateM.Result.error.inj h
    exact ⟨headerShortfall_breaksStep s, .inl rfl⟩
  split at h
  · obtain ⟨rfl, rfl⟩ := EStateM.Result.error.inj h
    exact ⟨rfl, .inr ⟨_, rfl⟩⟩
  split at h
  · obtain ⟨rfl, rfl⟩ := EStateM.Result.error.inj h
    exact ⟨payloadShortfall_breaksStep s, .inl rfl⟩
  split at h
  · simp at h
  · obtain ⟨rfl, rfl⟩ := EStateM.Result.error.inj h
    exact ⟨rfl, .inr ⟨_, rfl⟩⟩

theorem read_error_queued {s s' : Source} {e : Error} (h : read s = .error e s') :
    s'.queued <:+ s.queued := by
  rcases (read_error_cases h).2 with rfl | ⟨n, rfl⟩
  · exact List.nil_suffix
  · exact List.drop_suffix n s.queued

end Packet

namespace Line

theorem receive_error {line line' : Line} {e : Error} (h : receive line = .error e line') :
    e.breaksStep = true := by
  unfold receive at h
  split at h
  · simp at h
  · rename_i hread
    simp only [EStateM.Result.error.injEq] at h
    exact (Packet.read_error_cases (h.1 ▸ hread)).1

theorem send_error_breaksStep {p : Packet} {line line' : Line} {e : Error}
    (h : send p line = .error e line') : e.breaksStep = true := by
  rcases (send_error h).1 with ⟨fault, rfl⟩ | rfl <;> rfl

end Line

namespace Body

/-- The computation fails only because of a rule that a packet can break. -/
abbrev FailsInShape {α : Type} (x : Except Violation α) : Prop :=
  FailsOnly (fun violation => violation.isOfPacket = true) x

/-- The computation fails only because of a rule that a payload can break. -/
abbrev FailsInPayload {α : Type} (x : Except Violation α) : Prop :=
  FailsOnly (fun violation => violation.isOfPayload = true) x

theorem failsInPayload_fields {α : Type} (kind : PacketKind) (decoder : Decoder α)
    (payload : Bytes) : FailsInPayload (fields kind decoder payload) where
  error h := by
    unfold fields at h
    split at h
    · simp at h
    · simp only [Except.error.injEq] at h
      subst h
      rfl

theorem failsInPayload_exactLength (kind : PacketKind) (payload : Bytes) (expected : Nat) :
    FailsInPayload (exactLength kind payload expected) where
  error h := by
    unfold exactLength at h
    split at h
    · simp at h
    · simp only [Except.error.injEq] at h
      subst h
      rfl

theorem failsInPayload_leastLength (kind : PacketKind) (payload : Bytes) (least : Nat) :
    FailsInPayload (leastLength kind payload least) where
  error h := by
    unfold leastLength at h
    split at h
    · simp at h
    · simp only [Except.error.injEq] at h
      subst h
      rfl

theorem failsInPayload_params (most : Nat) (kind : PacketKind) (tail : Bytes) :
    FailsInPayload (Params.ofBytes most kind tail) where
  error h := by
    unfold Params.ofBytes Params.ofList at h
    split at h
    · simp only [Except.error.injEq] at h
      subst h
      rfl
    split at h
    · simp at h
    · simp only [Except.error.injEq] at h
      subst h
      rfl

theorem failsInPayload_word (kind : PacketKind) (payload : Bytes) :
    FailsInPayload (word kind payload) :=
  (failsInPayload_exactLength ..).bind fun _ => (failsInPayload_fields ..).bind fun _ =>
    .ok _

theorem failsInPayload_chunk (kind : PacketKind) (payload : Bytes) :
    FailsInPayload (chunk kind payload) :=
  (failsInPayload_leastLength ..).bind fun _ => (failsInPayload_fields ..).bind fun _ =>
    .ok _

/-- A payload that is none of its kind breaks a rule of payloads. -/
theorem failsInPayload_decode (kind : PacketKind) (payload : Bytes) :
    FailsInPayload (decode kind payload) := by
  cases kind with
  | initCommandRequest | initCommandAck =>
      exact (failsInPayload_fields ..).bind fun _ => (failsInPayload_exactLength ..).bind fun _ =>
        .ok _
  | initEventRequest | initFail | cancel =>
      exact (failsInPayload_word ..).bind fun _ => .ok _
  | initEventAck | probeRequest | probeResponse => exact failsInPayload_exactLength ..
  | operationRequest | operationResponse | event =>
      exact (failsInPayload_leastLength ..).bind fun _ => (failsInPayload_fields ..).bind fun _ =>
        (failsInPayload_params ..).bind fun _ => .ok _
  | startData =>
      exact (failsInPayload_exactLength ..).bind fun _ => (failsInPayload_fields ..).bind fun _ =>
        .ok _
  | data | endData => exact failsInPayload_chunk ..

/-- A payload that is none of its kind is a fault of the packet. -/
theorem failsInShape_decode (kind : PacketKind) (payload : Bytes) :
    FailsInShape (decode kind payload) where
  error h := (Violation.isOfPacket_of_isOfPayload ((failsInPayload_decode kind payload).error h)).1

end Body

/-- A packet that is not the one that is due is a fault of the packet. -/
theorem Packet.expect_error {kind : PacketKind} {p : Packet} {v : Violation}
    (h : p.expect kind = .error v) : v.isOfPacket = true := by
  unfold Packet.expect at h
  split at h
  · exact (Body.failsInShape_decode kind p.payload).error h
  · simp only [Except.error.injEq] at h
    subst h
    rfl

end PictureTransfer
