import PictureTransfer.Proofs.Packet.Payload
import PictureTransfer.Proofs.Wire.Lettering

/-!
# Payloads of the greeting

The responder's greeting on the command connection holds its name, which ends at
its first zero unit.  So each payload that reads is that of one greeting, and every
greeting whose name holds no character of number zero can be read:
`Body.decode_initCommandAck_ok_iff`.  The same holds of the initiator's introduction,
which the greeting answers: `Body.decode_initCommandRequest_ok_iff`.  The greeting on the
event connection is empty.
-/

namespace PictureTransfer

/-- True of a greeting that reads back: the name holds no character of number
zero. -/
def InitCommandAck.Readable (ack : InitCommandAck) : Prop := '\x00' ∉ ack.name.toList

instance (ack : InitCommandAck) : Decidable ack.Readable := inferInstanceAs (Decidable (¬ _))

/-- True of an introduction that reads back, likewise. -/
def InitCommandRequest.Readable (request : InitCommandRequest) : Prop :=
  '\x00' ∉ request.name.toList

instance (request : InitCommandRequest) : Decidable request.Readable :=
  inferInstanceAs (Decidable (¬ _))

namespace Body

/-- An identifier is spelt by its bytes. -/
theorem reads_guid : guid.Reads fun m bytes => bytes = m.bytes := by
  have hparts : guid.Reads fun m bytes => ∃ sixteen front rest,
      (sixteen.length = 16 ∧ front = sixteen) ∧ (m.bytes = sixteen ∧ rest = []) ∧
        bytes = front ++ rest := by
    refine (Decoder.reads_exactly 16 "UINT8").bind fun sixteen => ?_
    by_cases hlength : sixteen.length = 16
    · simp only [Guid.ofBytes?, dif_pos hlength]
      refine (Decoder.reads_pure _).congr fun m rest => ?_
      constructor
      · intro hspelt
        obtain ⟨rfl, rfl⟩ := hspelt
        exact ⟨rfl, rfl⟩
      · intro hspelt
        obtain ⟨rfl, rfl⟩ := hspelt
        exact ⟨rfl, rfl⟩
    · simp only [Guid.ofBytes?, dif_neg hlength]
      intro s s' m
      constructor
      · intro h
        exact absurd h throw_ne_ok
      · intro hspelt
        obtain ⟨_, _, ⟨hbytes, _⟩, _⟩ := hspelt
        exact absurd (hbytes ▸ m.length_eq) hlength
  refine hparts.congr fun m bytes => ?_
  constructor
  · intro hspelt
    obtain ⟨_, _, _, ⟨_, rfl⟩, ⟨rfl, rfl⟩, rfl⟩ := hspelt
    exact List.append_nil _
  · intro hspelt
    subst hspelt
    exact ⟨m.bytes, _, _, ⟨m.length_eq, rfl⟩, ⟨rfl, rfl⟩, (List.append_nil _).symm⟩

/-- The fields of a greeting, one behind the other. -/
theorem reads_initCommandAck :
    Decoder.Reads (do
      pure (⟨← Decoder.uint32, ← guid, ← Text.decoder, ← Decoder.uint32⟩ : InitCommandAck))
      fun m bytes => m.Readable ∧ bytes = encode .initCommandAck m := by
  refine (Decoder.reads_uint32.bind fun number => reads_guid.bind fun id =>
    Text.reads_decoder.bind fun name => Decoder.reads_uint32.bind fun version =>
      Decoder.reads_pure (⟨number, id, name, version⟩ : InitCommandAck)).congr
    fun m bytes => ?_
  constructor
  · intro hspelt
    obtain ⟨number, _, _, rfl, ⟨id, _, _, rfl, ⟨name, _, _, ⟨hname, rfl⟩,
      ⟨version, _, _, rfl, ⟨rfl, rfl⟩, rfl⟩, rfl⟩, rfl⟩, rfl⟩ := hspelt
    exact ⟨hname, by simp [encode]⟩
  · intro hspelt
    obtain ⟨hname, rfl⟩ := hspelt
    exact ⟨m.connectionNumber, _, _, rfl, ⟨m.guid, _, _, rfl, ⟨m.name, _, _, ⟨hname, rfl⟩,
      ⟨m.protocolVersion, _, _, rfl, ⟨rfl, rfl⟩, rfl⟩, rfl⟩, rfl⟩, by simp [encode]⟩

/-- **A greeting** has one payload, and is read off no other. -/
theorem decode_initCommandAck_ok_iff {payload : Bytes} {m : InitCommandAck} :
    decode .initCommandAck payload = .ok m ↔
      m.Readable ∧ payload = encode .initCommandAck m :=
  fields_whole_ok_iff reads_initCommandAck

/-- The fields of an introduction, one behind the other. -/
theorem reads_initCommandRequest :
    Decoder.Reads (do pure (⟨← guid, ← Text.decoder, ← Decoder.uint32⟩ : InitCommandRequest))
      fun m bytes => m.Readable ∧ bytes = encode .initCommandRequest m := by
  refine (reads_guid.bind fun id => Text.reads_decoder.bind fun name =>
    Decoder.reads_uint32.bind fun version =>
      Decoder.reads_pure (⟨id, name, version⟩ : InitCommandRequest)).congr fun m bytes => ?_
  constructor
  · intro hspelt
    obtain ⟨id, _, _, rfl, ⟨name, _, _, ⟨hname, rfl⟩,
      ⟨version, _, _, rfl, ⟨rfl, rfl⟩, rfl⟩, rfl⟩, rfl⟩ := hspelt
    exact ⟨hname, by simp [encode]⟩
  · intro hspelt
    obtain ⟨hname, rfl⟩ := hspelt
    exact ⟨m.guid, _, _, rfl, ⟨m.name, _, _, ⟨hname, rfl⟩,
      ⟨m.protocolVersion, _, _, rfl, ⟨rfl, rfl⟩, rfl⟩, rfl⟩, by simp [encode]⟩

/-- **An introduction** has one payload, and is read off no other. -/
theorem decode_initCommandRequest_ok_iff {payload : Bytes} {m : InitCommandRequest} :
    decode .initCommandRequest payload = .ok m ↔
      m.Readable ∧ payload = encode .initCommandRequest m :=
  fields_whole_ok_iff reads_initCommandRequest

/-- **The greeting on the event connection** carries nothing. -/
theorem decode_initEventAck_ok_iff {payload : Bytes} {u : Unit} :
    decode .initEventAck payload = .ok u ↔ payload = encode .initEventAck u := by
  simp only [decode, exactLength_ok_iff, encode, List.length_eq_zero_iff]

end Body

end PictureTransfer
