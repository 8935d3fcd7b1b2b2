import PictureTransfer.Proofs.Packet.Greeting

/-!
# Bodies and payloads

A packet of a kind carries one body, and a body of a kind makes one packet.  Every body can
be read back that is canonical, which asks for nothing but names without a character of
number zero: codes and directions are their numbers, and parameters come with the proof that
there are not too many.  In turn whatever is read is canonical and makes just the packet that
it was read from, so no byte of a payload goes unread and none is read in two ways.

* `Body.decode_ok_iff` — payloads, for every kind of packet;
* `Packet.expect_ok_iff` — packets that have to be of a kind;
* `Packet.catalogue_bijective` — both ways, kind by kind.
-/

namespace PictureTransfer

namespace Body

/-- True of a body that reads back: where it holds a name, the name holds no character of
number zero. -/
def Canonical : (kind : PacketKind) → Body kind → Prop
  | .initCommandRequest, m => m.Readable
  | .initCommandAck, m => m.Readable
  | _, _ => True

/-- **A canonical body has one payload**, and a payload is read as such a body or not at
all. -/
theorem decode_ok_iff {kind : PacketKind} {payload : Bytes} {m : Body kind} :
    decode kind payload = .ok m ↔ Canonical kind m ∧ payload = encode kind m := by
  cases kind with
  | initCommandRequest => exact decode_initCommandRequest_ok_iff
  | initCommandAck => exact decode_initCommandAck_ok_iff
  -- The other kinds hold no text, and every body of theirs is canonical.
  | initEventRequest => exact decode_initEventRequest_ok_iff.trans (and_iff_right trivial).symm
  | initEventAck => exact decode_initEventAck_ok_iff.trans (and_iff_right trivial).symm
  | initFail => exact decode_initFail_ok_iff.trans (and_iff_right trivial).symm
  | operationRequest => exact decode_operationRequest_ok_iff.trans (and_iff_right trivial).symm
  | operationResponse => exact decode_operationResponse_ok_iff.trans (and_iff_right trivial).symm
  | event => exact decode_event_ok_iff.trans (and_iff_right trivial).symm
  | startData => exact decode_startData_ok_iff.trans (and_iff_right trivial).symm
  | data => exact decode_data_ok_iff.trans (and_iff_right trivial).symm
  | cancel => exact decode_cancel_ok_iff.trans (and_iff_right trivial).symm
  | endData => exact decode_endData_ok_iff.trans (and_iff_right trivial).symm
  | probeRequest => exact decode_probeRequest_ok_iff.trans (and_iff_right trivial).symm
  | probeResponse => exact decode_probeResponse_ok_iff.trans (and_iff_right trivial).symm

end Body

namespace Packet

/-- **A packet is read as a body** just when it is the packet of that body. -/
theorem expect_ok_iff {kind : PacketKind} {p : Packet} {m : Body kind} :
    p.expect kind = .ok m ↔ Body.Canonical kind m ∧ p = Body.toPacket kind m := by
  obtain ⟨actual, payload⟩ := p
  unfold expect
  by_cases hkind : actual = kind
  · subst hkind
    rw [if_pos rfl, Body.decode_ok_iff, Body.toPacket, mk.injEq, and_iff_right rfl]
  · rw [if_neg hkind]
    refine iff_of_false (by simp) fun h => hkind (congrArg Packet.kind h.2)

/-- **Packets and bodies correspond.**  For each kind of packet, a canonical body is read
back from the packet that it makes; a body that is read from a packet is canonical and makes
just that packet; and no other packet of the kind is read as the same body. -/
theorem catalogue_bijective (kind : PacketKind) :
    (∀ m : Body kind, Body.Canonical kind m → (Body.toPacket kind m).expect kind = .ok m) ∧
      (∀ (payload : Bytes) (m : Body kind), expect kind ⟨kind, payload⟩ = .ok m →
        Body.Canonical kind m ∧ Body.toPacket kind m = ⟨kind, payload⟩) ∧
      ∀ (payload payload' : Bytes) (m : Body kind), expect kind ⟨kind, payload⟩ = .ok m →
        expect kind ⟨kind, payload'⟩ = .ok m → payload = payload' := by
  refine ⟨fun m hcanonical => expect_ok_iff.mpr ⟨hcanonical, rfl⟩, ?_, ?_⟩
  · intro payload m h
    obtain ⟨hcanonical, hpacket⟩ := expect_ok_iff.mp h
    exact ⟨hcanonical, hpacket.symm⟩
  · intro payload payload' m h h'
    have hpacket := (expect_ok_iff.mp h).2
    have hpacket' := (expect_ok_iff.mp h').2
    exact congrArg Packet.payload (hpacket.trans hpacket'.symm)

end Packet

end PictureTransfer
