import PictureTransfer.Proofs.Event.Reading
import PictureTransfer.Proofs.Packet.Catalogue
import PictureTransfer.Proofs.Wire.Streaming

/-!
# The shapes of payloads

Which payloads a packet of each kind can have, told by their lengths alone, but for the greetings
on the command connection: these hold a name, and what makes a name is told by its units.  Every
payload of the shape is read, and no other.

* `Fills` — values of one width, each of which is written in that many bytes, while any that many
  bytes are those of a value; `Fills.append`, `Fills.params_iff` put them together;
* `Body.shaped_iff` — what is read as the body of a kind is what has the shape of its payloads;
* `Packet.expect_nonfatal` — what is not read is no end of the connection;
* `EventChannel.readOn_refused`, `EventChannel.readOn_probe`, `EventChannel.readOn_ended_eq` — so
  the reader of the event connection goes on behind each packet;
* `Packet.payload_shapes` — all of this for every packet.
-/

namespace PictureTransfer

/-- Every byte string of the width is the form of a value, and every form has the width. -/
structure Fills {α : Type} (spelt : α → Bytes) (width : Nat) : Prop where
  length_eq : ∀ a, (spelt a).length = width
  exists_of_length : ∀ {bytes : Bytes}, bytes.length = width → ∃ a, bytes = spelt a

namespace Fills

variable {α β : Type} {spelt : α → Bytes} {spelt' : β → Bytes} {width width' most : Nat}
  {bytes : Bytes}

/-- Numbers of a width fill it. -/
theorem number {toNat : α → Nat} {ofNat : Nat → α}
    (h : ∀ n < LittleEndian.span width, toNat (ofNat n) = n) :
    Fills (fun a => LittleEndian.encode width (toNat a)) width where
  length_eq a := LittleEndian.length_encode width (toNat a)
  exists_of_length := by
    rintro bytes rfl
    refine ⟨ofNat (LittleEndian.decode bytes), ?_⟩
    rw [h _ (LittleEndian.decode_lt bytes), LittleEndian.encode_decode]

theorem uint16 : Fills encodeUInt16 2 := number fun _ => UInt16.toNat_ofNat_of_lt'

theorem uint32 : Fills encodeUInt32 4 := number fun _ => UInt32.toNat_ofNat_of_lt'

theorem uint64 : Fills encodeUInt64 8 := number fun _ => UInt64.toNat_ofNat_of_lt'

theorem guid : Fills Guid.bytes 16 where
  length_eq := Guid.length_eq
  exists_of_length h := ⟨⟨_, h⟩, rfl⟩

theorem nothing : Fills (fun _ : Unit => []) 0 where
  length_eq _ := rfl
  exists_of_length h := ⟨(), List.eq_nil_of_length_eq_zero h⟩

/-- The first bytes of a string that has as many as the width, and the others. -/
theorem front (h : Fills spelt width) (hwidth : width ≤ bytes.length) :
    ∃ a rest, bytes = spelt a ++ rest ∧ bytes.length = width + rest.length := by
  obtain ⟨a, ha⟩ := h.exists_of_length (List.length_take_of_le hwidth)
  refine ⟨a, bytes.drop width, ?_, ?_⟩
  · rw [← ha, List.take_append_drop]
  · rw [List.length_drop]
    omega

/-- One form behind another. -/
theorem append (h : Fills spelt width) (h' : Fills spelt' width') :
    Fills (fun m : α × β => spelt m.1 ++ spelt' m.2) (width + width') where
  length_eq m := by rw [List.length_append, h.length_eq, h'.length_eq]
  exists_of_length {bytes} hlength := by
    have henough : width ≤ bytes.length := by omega
    obtain ⟨a, rest, rfl, hrest⟩ := h.front henough
    have hlast : rest.length = width' := by omega
    obtain ⟨b, rfl⟩ := h'.exists_of_length hlast
    exact ⟨(a, b), rfl⟩

theorem whole_iff (h : Fills spelt width) :
    (∃ a, bytes = spelt a) ↔ bytes.length = width := by
  constructor
  · rintro ⟨a, rfl⟩
    exact h.length_eq a
  · intro hlength
    exact h.exists_of_length hlength

/-- A form with any bytes behind it. -/
theorem open_iff (h : Fills spelt width) :
    (∃ m : α × Bytes, bytes = spelt m.1 ++ m.2) ↔ width ≤ bytes.length := by
  constructor
  · rintro ⟨m, rfl⟩
    rw [List.length_append, h.length_eq]
    exact Nat.le_add_right width _
  · intro hlength
    obtain ⟨a, rest, hbytes, -⟩ := h.front hlength
    exact ⟨(a, rest), hbytes⟩

/-- A form with parameters behind it. -/
theorem params_iff (h : Fills spelt width) :
    (∃ m : α × Params most, bytes = spelt m.1 ++ m.2.toBytes) ↔
      ∃ count ≤ most, bytes.length = width + 4 * count := by
  constructor
  · rintro ⟨m, rfl⟩
    refine ⟨m.2.values.length, m.2.length_le, ?_⟩
    rw [List.length_append, h.length_eq, Params.length_toBytes]
  · rintro ⟨count, hcount, hlength⟩
    have henough : width ≤ bytes.length := by omega
    obtain ⟨a, rest, rfl, hrest⟩ := h.front henough
    have hback : (Params.words rest).flatMap encodeUInt32 = rest :=
      Params.flatMap_words (by omega)
    have hwords : rest.length = 4 * (Params.words rest).length := by
      have hall := Params.length_toBytes ⟨Params.words rest, Nat.le_refl _⟩
      rwa [Params.toBytes, hback] at hall
    have hfew : (Params.words rest).length ≤ most := by omega
    exact ⟨(a, ⟨Params.words rest, hfew⟩), congrArg _ hback.symm⟩

end Fills

namespace Body

/-- The shape of a greeting: a head of some width, the units of a name, which is well-formed and
ends at its first zero unit, and one number. -/
def Named (width : Nat) (payload : Bytes) : Prop :=
  ∃ head units last, payload = head ++ Text.unitBytes (units ++ [0]) ++ last ∧
    head.length = width ∧ (∀ u ∈ units, u ≠ 0 ∧ u < LittleEndian.span 2) ∧
    Utf16.WellFormed units ∧ last.length = 4

/-- **The shape of the payloads** of each kind. -/
def Shaped : PacketKind → Bytes → Prop
  | .initCommandRequest, payload => Named 16 payload
  | .initCommandAck, payload => Named 20 payload
  | .initEventAck, payload | .probeRequest, payload | .probeResponse, payload =>
      payload.length = 0
  | .initEventRequest, payload | .initFail, payload | .cancel, payload => payload.length = 4
  | .startData, payload => payload.length = 12
  | .data, payload | .endData, payload => 4 ≤ payload.length
  | .operationRequest, payload => ∃ count ≤ 5, payload.length = 10 + 4 * count
  | .operationResponse, payload => ∃ count ≤ 5, payload.length = 6 + 4 * count
  | .event, payload => ∃ count ≤ 3, payload.length = 6 + 4 * count

variable {kind : PacketKind} {payload : Bytes}

/-- A payload with a name is read just if it has the shape of one. -/
theorem named_iff {α : Type} {spelt : α → Bytes} {width : Nat} (h : Fills spelt width) :
    (∃ m : α × String × UInt32, '\x00' ∉ m.2.1.toList ∧
      payload = spelt m.1 ++ Text.encode m.2.1 ++ encodeUInt32 m.2.2) ↔ Named width payload := by
  constructor
  · rintro ⟨⟨a, name, version⟩, hplain, rfl⟩
    obtain ⟨units, hunits, hwell, hname⟩ := Text.spelt_iff.mp ⟨name, hplain, rfl⟩
    exact ⟨spelt a, units, encodeUInt32 version, by rw [← hname], h.length_eq a, hunits, hwell,
      length_encodeUInt32 version⟩
  · rintro ⟨head, units, last, rfl, hhead, hunits, hwell, hlast⟩
    obtain ⟨a, rfl⟩ := h.exists_of_length hhead
    obtain ⟨name, hplain, hname⟩ := Text.spelt_iff.mpr ⟨units, hunits, hwell, rfl⟩
    obtain ⟨version, rfl⟩ := Fills.uint32.exists_of_length hlast
    exact ⟨(a, name, version), hplain, by rw [← hname]⟩

/-- Bodies of a kind that are all read back, told by their parts. -/
theorem exists_iff_parts {α : Type} {spelt : α → Bytes} (make : α → Body kind)
    (parts : Body kind → α) (hmake : ∀ a, encode kind (make a) = spelt a)
    (hparts : ∀ m, encode kind m = spelt (parts m)) (hcanonical : ∀ m, Canonical kind m) :
    (∃ m, decode kind payload = .ok m) ↔ ∃ a, payload = spelt a := by
  constructor
  · rintro ⟨m, h⟩
    exact ⟨parts m, (decode_ok_iff.mp h).2.trans (hparts m)⟩
  · rintro ⟨a, rfl⟩
    exact ⟨make a, decode_ok_iff.mpr ⟨hcanonical _, (hmake a).symm⟩⟩

/-- **What is read** as the body of a kind is what has the shape of its payloads. -/
theorem shaped_iff : (∃ m, decode kind payload = .ok m) ↔ Shaped kind payload := by
  cases kind with
  | initCommandRequest =>
      refine Iff.trans ?_ (named_iff Fills.guid)
      constructor
      · rintro ⟨⟨guid, name, version⟩, h⟩
        obtain ⟨hreadable, hpayload⟩ := decode_ok_iff.mp h
        exact ⟨(guid, name, version), hreadable, hpayload⟩
      · rintro ⟨⟨guid, name, version⟩, hplain, hpayload⟩
        exact ⟨⟨guid, name, version⟩, decode_ok_iff.mpr ⟨hplain, hpayload⟩⟩
  | initCommandAck =>
      refine Iff.trans ?_ (named_iff (Fills.uint32.append Fills.guid))
      constructor
      · rintro ⟨⟨number, guid, name, version⟩, h⟩
        obtain ⟨hreadable, hpayload⟩ := decode_ok_iff.mp h
        exact ⟨((number, guid), name, version), hreadable, hpayload⟩
      · rintro ⟨⟨⟨number, guid⟩, name, version⟩, hplain, hpayload⟩
        exact ⟨⟨number, guid, name, version⟩, decode_ok_iff.mpr ⟨hplain, hpayload⟩⟩
  | initEventAck | probeRequest | probeResponse =>
      exact Iff.trans (exists_iff_parts id id (by intro _; rfl) (by intro _; rfl)
        (by intro _; trivial)) Fills.nothing.whole_iff
  | initEventRequest | initFail | cancel =>
      exact Iff.trans (exists_iff_parts (fun n => ⟨n⟩) (fun m => m.1) (by intro _; rfl)
        (by intro _; rfl) (by intro _; trivial)) Fills.uint32.whole_iff
  | startData =>
      exact Iff.trans (exists_iff_parts (fun m => ⟨m.1, m.2⟩) (fun m => (m.1, m.2))
        (by intro _; rfl) (by intro _; rfl) (by intro _; trivial))
        (Fills.uint32.append Fills.uint64).whole_iff
  | data | endData =>
      exact Iff.trans (exists_iff_parts (fun m => ⟨m.1, m.2⟩) (fun m => (m.1, m.2))
        (by intro _; rfl) (by intro _; rfl) (by intro _; trivial)) Fills.uint32.open_iff
  | operationRequest =>
      exact Iff.trans (exists_iff_parts (fun m => ⟨⟨m.1.1.1⟩, ⟨m.1.1.2⟩, m.1.2, m.2⟩)
        (fun m => (((m.flow.code, m.code.value), m.transactionId), m.params))
        (by intro _; rfl) (by intro _; rfl) (by intro _; trivial))
        ((Fills.uint32.append Fills.uint16).append Fills.uint32).params_iff
  | operationResponse | event =>
      exact Iff.trans (exists_iff_parts (fun m => ⟨⟨m.1.1⟩, m.1.2, m.2⟩)
        (fun m => ((m.code.value, m.transactionId), m.params))
        (by intro _; rfl) (by intro _; rfl) (by intro _; trivial))
        (Fills.uint16.append Fills.uint32).params_iff

end Body

namespace Packet

variable {kind : PacketKind} {p : Packet} {v : Violation}

theorem expect_shaped_iff :
    (∃ m, p.expect kind = .ok m) ↔ p.kind = kind ∧ Body.Shaped kind p.payload := by
  unfold expect
  by_cases hkind : p.kind = kind
  · rw [if_pos hkind, Body.shaped_iff]
    exact (and_iff_right hkind).symm
  · simp [hkind]

/-- A packet that is not the one that is due leaves the packets behind it apart, and is not the
end of them. -/
theorem expect_nonfatal (h : p.expect kind = .error v) :
    (Error.violation v).isFatal = false ∧ (Error.violation v).isEndOfStream = false := by
  refine ⟨?_, rfl⟩
  unfold expect at h
  split at h
  · have hpayload := (Body.failsInPayload_decode kind p.payload).error h
    exact (Violation.isOfPacket_of_isOfPayload hpayload).2
  · obtain rfl := Except.error.inj h
    rfl

/-- The kind of packet that one on the event connection is taken for: a probe if it is of that
kind, else an event. -/
def dueOnEvents (p : Packet) : PacketKind :=
  if p.kind = .probeRequest then .probeRequest else .event

/-- What the event connection makes of a packet fails as reading it as what it is taken for. -/
theorem report_error_iff : p.report = .error v ↔ p.expect p.dueOnEvents = .error v := by
  obtain ⟨kind, payload⟩ := p
  cases kind with
  | event | probeRequest => simp [report, expect, dueOnEvents, except_map_error_iff]
  | _ => simp [report, expect, dueOnEvents]

/-- The frame that a packet makes. -/
def frame (p : Packet) (hfits : p.Fits) : Frame where
  bytes := p.toBytes
  least := by
    rw [length_toBytes]
    exact Nat.le_add_right 8 _
  announced := by
    have hannounced := (announced_toBytes_append hfits []).1
    rwa [List.append_nil, ← p.length_toBytes] at hannounced

theorem report_frame (hfits : p.Fits) : (p.frame hfits).report = p.report := by
  have hpacket : (p.frame hfits).packet = .ok p := Frame.packet_ok_iff.mpr rfl
  rw [Frame.report, hpacket]
  rfl

end Packet

namespace EventChannel

variable {p : Packet} {line line' : Line} {last : Bytes} {v : Violation} {sessionId : UInt32}

/-- A packet that is refused is told, and the reader goes on behind it. -/
theorem readOn_refused (hfits : p.Fits) (hqueued : line.incoming.queued = p.toBytes ++ last)
    (h : p.expect p.dueOnEvents = .error v) :
    readOn sessionId false line =
      (readOn sessionId false { line with incoming.queued := last }).after
        (.failure (.violation v)) := by
  have hframe : line.incoming.queued = (p.frame hfits).bytes ++ last := hqueued
  have hreport : (p.frame hfits).report = .error v := by
    rw [Packet.report_frame, Packet.report_error_iff]
    exact h
  rw [readOn_told_frame hframe (by simp [hreport]), Frame.task?, hreport]
  rfl

/-- A probe that is answered is all that the reader reads of the line at once. -/
theorem readOn_probe (hp : p = Body.toPacket .probeRequest ())
    (hqueued : line.incoming.queued = p.toBytes ++ last)
    (hsend : Line.send probeAnswer { line with incoming.queued := last } = .ok () line') :
    readOn sessionId false line = readOn sessionId false line' := by
  have hfits : p.Fits := by
    subst hp
    decide
  have hframe : line.incoming.queued = (p.frame hfits).bytes ++ last := hqueued
  refine readOn_answered hframe ?_ hsend
  rw [← Frame.report_probe_iff, Packet.report_frame]
  exact Packet.report_probe_iff.mpr hp

/-- **Whether the reader ends** does not hang on a packet that asks for no answer.  A connection
that was given up is shut down, and its reader ends in any case. -/
theorem readOn_ended_eq {closing : Bool} (hclosing : closing = true → line.closed = true)
    (hfits : p.Fits) (hqueued : line.incoming.queued = p.toBytes ++ last)
    (hprobe : p ≠ Body.toPacket .probeRequest ()) :
    (readOn sessionId closing line).ended =
      (readOn sessionId closing { line with incoming.queued := last }).ended := by
  cases closing with
  | true =>
      have hclosed : line.closed = true := hclosing rfl
      rw [readOn_closed hclosed, readOn_closed]
      exact hclosed
  | false =>
      have hframe : line.incoming.queued = (p.frame hfits).bytes ++ last := hqueued
      have htold : (p.frame hfits).report ≠ .ok none := by
        rw [Packet.report_frame]
        intro h
        exact hprobe (Packet.report_probe_iff.mp h)
      rw [readOn_told_frame hframe htold]
      rfl

end EventChannel

namespace Packet

/-- **Payloads are read by their shape.**  A packet is read as a body of a kind just if it is of
that kind and its payload has the shape of the kind; if not, the error is one of the protocol,
behind which packets can still be told apart and which is not the end of them.

So the reader of the event connection goes on behind each packet that is there in full.  One that
it refuses is told with that error, and a probe is answered; whether the reader ends does not
hang on the packet, also where the connection was given up and shut down. -/
theorem payload_shapes (kind : PacketKind) (p : Packet) :
    ((∃ m, p.expect kind = .ok m) ↔ p.kind = kind ∧ Body.Shaped kind p.payload) ∧
    (¬ (p.kind = kind ∧ Body.Shaped kind p.payload) → ∃ v, p.expect kind = .error v ∧
      (Error.violation v).isFatal = false ∧ (Error.violation v).isEndOfStream = false) ∧
    ∀ (sessionId : UInt32) (line : Line) (last : Bytes), p.Fits →
      line.incoming.queued = p.toBytes ++ last →
      (∀ v, p.expect p.dueOnEvents = .error v →
        EventChannel.readOn sessionId false line =
          (EventChannel.readOn sessionId false { line with incoming.queued := last }).after
            (.failure (.violation v))) ∧
      (∀ line', p = Body.toPacket .probeRequest () →
        Line.send probeAnswer { line with incoming.queued := last } = .ok () line' →
        EventChannel.readOn sessionId false line = EventChannel.readOn sessionId false line') ∧
      ∀ closing, (closing = true → line.closed = true) → p ≠ Body.toPacket .probeRequest () →
        (EventChannel.readOn sessionId closing line).ended =
          (EventChannel.readOn sessionId closing { line with incoming.queued := last }).ended := by
  refine ⟨expect_shaped_iff, ?other, fun sessionId line last hfits hqueued =>
    ⟨?refused, ?probe, ?ended⟩⟩
  case other =>
    intro hother
    cases h : p.expect kind with
    | ok m => exact absurd (expect_shaped_iff.mp ⟨m, h⟩) hother
    | error v => exact ⟨v, rfl, expect_nonfatal h⟩
  case refused =>
    intro v h
    exact EventChannel.readOn_refused hfits hqueued h
  case probe =>
    intro line' hp hsend
    exact EventChannel.readOn_probe hp hqueued hsend
  case ended =>
    intro closing hclosing hprobe
    exact EventChannel.readOn_ended_eq hclosing hfits hqueued hprobe

end Packet

end PictureTransfer
