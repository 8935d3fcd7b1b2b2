import PictureTransfer.Config.File
import PictureTransfer.Proofs.Packet.Shape
import PictureTransfer.Proofs.Packet.Succession
import PictureTransfer.Proofs.Session.Welcome

/-!
# How the initiator presents itself

The first thing that connecting writes is the packet that presents the initiator, with the
identifier, the name and the version of its configuration.  The responder reads them off it just
as they are, if the name holds no character of number zero.  Nothing in a configuration forbids
that character, and it is written as the others are; but a reader takes it for the end of the
name, and then finds the payload too long.

* `Body.decode_unreadable` — an introduction of such a name is refused for its length;
* `Handshake.exchange_sent` — what a handshake writes, and which packet is read off it;
* `Connected.command?_connect` — connecting writes nothing else on the command connection;
* `Connected.introduction_read_back` — so what is read off that is the configuration.
-/

namespace PictureTransfer

namespace Body

theorem length_introduction (m : InitCommandRequest) :
    (encode .initCommandRequest m).length = 20 + Text.encodedLength m.name := by
  simp only [encode, List.length_append, m.guid.length_eq, Text.length_encode,
    length_encodeUInt32]
  omega

/-- An introduction with bytes behind it is refused for its length. -/
theorem decode_trailing {m : InitCommandRequest} {payload rest : Bytes} (hm : m.Readable)
    (hpayload : payload = encode .initCommandRequest m ++ rest) (hrest : rest ≠ []) :
    decode .initCommandRequest payload = .error (.invalidPayload .initCommandRequest
      (.notExactly (encode .initCommandRequest m).length payload.length)) :=
  fields_trailing reads_initCommandRequest ⟨hm, rfl⟩ hpayload hrest

/-- **A name that is cut off** leaves bytes behind the fields, for which the payload is refused. -/
theorem decode_unreadable {m : InitCommandRequest} (h : '\x00' ∈ m.name.toList) :
    decode .initCommandRequest (encode .initCommandRequest m) =
      .error (.invalidPayload .initCommandRequest (.notExactly
        (20 + Text.encodedLength (Text.cut m.name)) (20 + Text.encodedLength m.name))) := by
  obtain ⟨others, hname⟩ := Text.encode_of_zero h
  -- The first four bytes behind the cut are taken for the version, and as many are left as
  -- stand behind the cut in the name.
  have henough : 4 ≤ (Text.encode others ++ encodeUInt32 m.protocolVersion).length := by
    rw [List.length_append, length_encodeUInt32]
    omega
  obtain ⟨version, rest, hbehind, hlength⟩ := Fills.uint32.front henough
  have hrest : rest ≠ [] := by
    rintro rfl
    rw [List.length_append, length_encodeUInt32, Text.length_encode, Text.encodedLength,
      List.length_nil] at hlength
    omega
  have hpayload : encode .initCommandRequest m =
      encode .initCommandRequest ⟨m.guid, Text.cut m.name, version⟩ ++ rest := by
    calc encode .initCommandRequest m
        = m.guid.bytes ++ Text.encode (Text.cut m.name) ++
            (Text.encode others ++ encodeUInt32 m.protocolVersion) := by
          simp only [encode, hname, List.append_assoc]
      _ = encode .initCommandRequest ⟨m.guid, Text.cut m.name, version⟩ ++ rest := by
          simp only [hbehind, encode, List.append_assoc]
  have hplain : InitCommandRequest.Readable ⟨m.guid, Text.cut m.name, version⟩ :=
    Text.cut_plain m.name
  rw [decode_trailing hplain hpayload hrest, length_introduction, length_introduction]

end Body

namespace Handshake

/-- Behind its question a handshake writes nothing. -/
theorem exchange_sent_eq (question : Packet) (kind : PacketKind) (line : Line) :
    (stateOf (exchange question kind line)).sent = (stateOf (Line.send question line)).sent := by
  cases hsend : Line.send question line with
  | error e line' =>
      rw [exchange, bind_of_error hsend]
      rfl
  | ok u line' =>
      rw [exchange, bind_of_ok hsend]
      refine (StepRelates.bind .trans Line.receive_sent fun reply => ?_).left line'
      split
      · exact .pure Line.SameSent.refl _
      · exact .throw Line.SameSent.refl _

/-- **What a handshake writes** is its question, as far as the line takes it, and no other packet
is read off that. -/
theorem exchange_sent (question : Packet) (kind : PacketKind) (line : Line) :
    ∃ written, (stateOf (exchange question kind line)).sent = line.sent ++ written ∧
      (question.Fits → line.Takes question.writes → written = question.toBytes) ∧
      ∀ p s', Packet.read (.ofBytes written) = .ok p s' → p = question ∧ s' = .ofBytes [] := by
  rw [exchange_sent_eq]
  by_cases hfits : question.Fits
  · obtain ⟨part, hpart, hsent⟩ := Line.send_sent question line
    refine ⟨part, hsent, ?whole, ?read⟩
    case whole =>
      intro _ htakes
      rw [Line.send_ok_iff.mpr ⟨hfits, htakes, rfl⟩] at hsent
      have hposted : line.sent ++ question.toBytes = line.sent ++ part :=
        (Line.posted_sent question line).symm.trans hsent
      exact (List.append_cancel_left hposted).symm
    case read =>
      intro p s' h
      exact Packet.read_of_prefix hfits hpart h
  · -- A packet that is too large is not begun.
    have hsend : Line.send question line =
        .error (.violation (.packetTooLarge question.wireLength)) line := if_neg hfits
    refine ⟨[], ?sent, ?whole, ?read⟩
    case sent => rw [hsend, List.append_nil]; rfl
    case whole =>
      intro h
      exact absurd h hfits
    case read =>
      intro p s' h
      simp [Packet.read_eq, Source.ofBytes] at h

end Handshake

namespace Connected

/-- The command connection that was taken over, as connecting left it. -/
def command? : Connected → Option Line
  | .session s => some s.command
  | .failure _ opened => opened.head?

/-- **Connecting writes** on the command connection what the first handshake does. -/
theorem command?_connect (config : Config) (roster : Roster) (command : Line)
    (waiting : List Line) :
    ∃ line, (Session.connect config roster (command :: waiting)).1.command? = some line ∧
      line.sent = (stateOf (Handshake.command config command)).sent := by
  have hwritten : ∀ {e line'}, Handshake.command config command = .error e line' →
      line'.sent = (stateOf (Handshake.command config command)).sent := by
    intro e line' h
    rw [h]
    rfl
  have hgreeted : ∀ {ack line'}, Handshake.command config command = .ok ack line' →
      line'.sent = (stateOf (Handshake.command config command)).sent := by
    intro ack line' h
    rw [h]
    rfl
  cases hconnect : Session.connect config roster (command :: waiting) with
  | mk result left =>
    cases ended_of_connect hconnect with
    | command h =>
        have hsent := hwritten h
        exact ⟨_, rfl, hsent⟩
    | noEvent h | event h | noReader h | session h =>
        have hsent := hgreeted h
        exact ⟨_, rfl, hsent⟩

/-- **What is read off the introduction** is the configuration.  A line that takes the packet has
it in full, and it is read back.  Whatever is read off what was written is that packet, with
nothing behind it, and the identifier, the name and the version of the configuration are read off
that, if the name holds no character of number zero.  If it holds one, the packet is refused, for
a length that it should have had with the part of the name in front of it. -/
theorem introduction_read_back (config : Config) (roster : Roster) (command : Line)
    (waiting : List Line) :
    ∃ line written,
      (Session.connect config roster (command :: waiting)).1.command? = some line ∧
      line.sent = command.sent ++ written ∧
      ((Handshake.introduction config).Fits →
        command.Takes (Handshake.introduction config).writes →
        Packet.read (.ofBytes written) = .ok (Handshake.introduction config) (.ofBytes [])) ∧
      ∀ p s', Packet.read (.ofBytes written) = .ok p s' → s' = .ofBytes [] ∧
        ('\x00' ∉ config.name.toList → p.expect .initCommandRequest =
          .ok ⟨config.guid, config.name, config.protocolVersion⟩) ∧
        ('\x00' ∈ config.name.toList → p.expect .initCommandRequest =
          .error (.invalidPayload .initCommandRequest (.notExactly
            (20 + Text.encodedLength (Text.cut config.name))
            (20 + Text.encodedLength config.name)))) := by
  obtain ⟨line, hline, hcommand⟩ := command?_connect config roster command waiting
  obtain ⟨written, hwritten, hwhole, hread⟩ :=
    Handshake.exchange_sent (Handshake.introduction config) .initCommandAck command
  refine ⟨line, written, hline, hcommand.trans hwritten, ?whole, ?read⟩
  case whole =>
    intro hfits htakes
    apply Packet.read_ok_iff.mpr
    refine ⟨hfits, [], ?_, rfl⟩
    rw [hwhole hfits htakes, List.append_nil]
    rfl
  case read =>
    intro p s' h
    obtain ⟨rfl, rfl⟩ := hread p s' h
    refine ⟨rfl, ?_, ?_⟩
    · intro hplain
      exact Packet.expect_ok_iff.mpr ⟨hplain, rfl⟩
    · intro hzero
      exact Body.decode_unreadable hzero

/-- A configuration with the character of number zero in its name. -/
def zeroNamed : Config := { name := "a\x00b" }

/-- A settings file admits the name, and a session comes of it; but the responder, which reads the
packet, finds no introduction in it. -/
theorem introduction_unread_zeroNamed :
    Config.ofText? "name = \"a\\u0000b\"" = some zeroNamed ∧
      ∃ s, Session.connect zeroNamed .empty [accepting, welcoming] = (.session s, []) ∧
        Packet.read (.ofBytes s.command.sent) =
          .ok (Handshake.introduction zeroNamed) (.ofBytes []) ∧
        (Handshake.introduction zeroNamed).expect .initCommandRequest =
          .error (.invalidPayload .initCommandRequest (.notExactly 24 28)) := by
  have haccepting : accepting.Clear := ⟨rfl, rfl⟩
  have hwelcoming : welcoming.Clear := ⟨rfl, rfl⟩
  have hwelcome : Welcome zeroNamed accepting welcoming ⟨7, .zero, "camera", 0x00010000⟩ [] [12] :=
    { readable := by decide
      accepted := ⟨by decide, haccepting.takes _, by decide, (List.append_nil _).symm⟩
      registered := ⟨by decide, hwelcoming.takes _, by decide, rfl⟩
      handle := rfl }
  obtain ⟨s, hconnect, hgreeted⟩ := connect_of_welcome hwelcome .empty []
  refine ⟨by decide +kernel, s, hconnect, ?read, ?refused⟩
  case read =>
    apply Packet.read_ok_iff.mpr
    refine ⟨by decide, [], ?_, rfl⟩
    rw [hgreeted.sent, List.append_nil]
    rfl
  case refused => exact Body.decode_unreadable (by decide)

end Connected

end PictureTransfer
