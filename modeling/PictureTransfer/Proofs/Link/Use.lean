import PictureTransfer.Event.Channel
import PictureTransfer.Proofs.Packet.Fault
import PictureTransfer.Proofs.Packet.Framing
import PictureTransfer.Session.Handshake

/-!
# What using a line does to it

Whatever is sent over a line and received from it: what was written before
stands in front of what is written now, bytes are read from the front, and the
line is as open or closed as it was, with the same second handle to be had
(`Line.Used`).  Only `shut` closes a line, and it does nothing else.

* `Line.send_used`, `Line.receive_used` — the two uses of a line;
* `Line.send_sent`, `Line.receive_sent` — what either has on the line behind what was sent before;
* `Line.send_noNewFault`, `Line.receive_noNewFault` — neither brings about that a write fails;
* `Handshake.exchange_used`, `EventChannel.readOn_used` — those made of them.
-/

namespace PictureTransfer

namespace Line

/-- The second line is the first after some use. -/
structure Used (line line' : Line) : Prop where
  closed : line'.closed = line.closed
  cloneFault : line'.cloneFault = line.cloneFault
  sent : line.sent <+: line'.sent
  queued : line'.incoming.queued <:+ line.incoming.queued

theorem Used.refl (line : Line) : Used line line := ⟨rfl, rfl, List.prefix_rfl, List.suffix_rfl⟩

theorem Used.trans {line middle line' : Line} (h : Used line middle) (h' : Used middle line') :
    Used line line' where
  closed := h'.closed.trans h.closed
  cloneFault := h'.cloneFault.trans h.cloneFault
  sent := h.sent.trans h'.sent
  queued := h'.queued.trans h.queued

theorem Wrote.used {bytes : Bytes} {line line' : Line} (h : Wrote bytes line line') :
    Used line line' where
  closed := h.closed
  cloneFault := h.cloneFault
  sent := h.sent ▸ List.prefix_append ..
  queued := h.incoming ▸ List.suffix_rfl

theorem send_used (p : Packet) : StepRelates Used (send p) where
  ok h := (send_ok h).2.2.used
  error h := by
    obtain ⟨_, part, _, hwrote⟩ := send_error h
    exact hwrote.used

theorem receive_used : StepRelates Used receive where
  ok h := by
    obtain ⟨_, rest, hqueued, rfl⟩ := receive_ok_iff.mp h
    exact ⟨rfl, rfl, List.prefix_rfl, hqueued ▸ List.suffix_append ..⟩
  error {line _ _} h := by
    unfold receive at h
    cases hread : Packet.read line.incoming with
    | ok p source => simp [hread] at h
    | error e source =>
        simp only [hread, EStateM.Result.error.injEq] at h
        obtain ⟨rfl, rfl⟩ := h
        exact ⟨rfl, rfl, List.prefix_rfl, Packet.read_error_queued hread⟩

/-- A packet is sent in full or in part. -/
theorem send_sent (p : Packet) (line : Line) :
    ∃ part, part <+: p.toBytes ∧ (stateOf (send p line)).sent = line.sent ++ part := by
  cases hsend : send p line with
  | ok u line' => exact ⟨_, List.prefix_rfl, (send_ok hsend).2.2.sent⟩
  | error e line' =>
      obtain ⟨_, part, hpart, hwrote⟩ := send_error hsend
      exact ⟨part, hpart, hwrote.sent⟩

/-- On the second line no more was sent than on the first. -/
def SameSent (line line' : Line) : Prop := line'.sent = line.sent

theorem SameSent.refl (line : Line) : SameSent line line := rfl

theorem SameSent.trans {line middle line' : Line} (h : SameSent line middle)
    (h' : SameSent middle line') : SameSent line line' := Eq.trans h' h

/-- Nothing is sent where a packet is received. -/
theorem receive_sent : StepRelates SameSent receive := by
  refine .of_stateOf fun line => ?_
  unfold receive
  cases Packet.read line.incoming with
  | ok => rfl
  | error => rfl

/-- On the second line no write is going to fail, if none is on the first. -/
def NoNewFault (line line' : Line) : Prop := line.writeFault = none → line'.writeFault = none

theorem NoNewFault.refl (line : Line) : NoNewFault line line := id

theorem NoNewFault.trans {line middle line' : Line} (h : NoNewFault line middle)
    (h' : NoNewFault middle line') : NoNewFault line line' := h' ∘ h

theorem write_noNewFault (bytes : Bytes) : StepRelates NoNewFault (write bytes) := by
  refine .of_stateOf fun line hnone => ?_
  unfold write
  split
  · exact hnone
  · cases line.writeRefusal with
    | none => exact congrArg (fun fault => fault.bind WriteFault.next) hnone
    | some => exact congrArg (fun fault => fault.bind WriteFault.next) hnone

theorem send_noNewFault (p : Packet) : StepRelates NoNewFault (send p) := by
  refine .of_stateOf fun line => ?_
  unfold send
  split
  · cases hhead : write p.header line with
    | error fault middle => exact (write_noNewFault _).error hhead
    | ok u middle =>
        have hfirst := (write_noNewFault p.header).ok hhead
        dsimp only
        cases hbody : write p.payload middle with
        | error fault last => exact hfirst.trans ((write_noNewFault _).error hbody)
        | ok u last => exact hfirst.trans ((write_noNewFault _).ok hbody)
  · exact .refl line

theorem receive_noNewFault : StepRelates NoNewFault receive := by
  refine .of_stateOf fun line => ?_
  unfold receive
  cases Packet.read line.incoming with
  | ok => exact id
  | error => exact id

end Line

/-- A handshake only sends and receives. -/
theorem Handshake.exchange_used (question : Packet) (kind : PacketKind) :
    StepRelates Line.Used (exchange question kind) := by
  refine .bind .trans (Line.send_used question) fun _ => .bind .trans Line.receive_used fun p => ?_
  split
  · exact .pure Line.Used.refl _
  · exact .throw Line.Used.refl _

theorem Handshake.exchange_noNewFault (question : Packet) (kind : PacketKind) :
    StepRelates Line.NoNewFault (exchange question kind) := by
  refine .bind .trans (Line.send_noNewFault question) fun _ =>
    .bind .trans Line.receive_noNewFault fun p => ?_
  split
  · exact .pure Line.NoNewFault.refl _
  · exact .throw Line.NoNewFault.refl _

namespace EventChannel

/-- Dealing with one packet only uses the line. -/
theorem receive_used (sessionId : UInt32) : StepRelates Line.Used (receive sessionId) := by
  refine .of_stateOf fun line => ?_
  unfold receive
  cases hreceive : Line.receive line with
  | error e middle => exact Line.receive_used.error hreceive
  | ok p middle =>
      have hused := Line.receive_used.ok hreceive
      dsimp only
      split
      · split
        · exact hused
        · exact hused
      -- Only a probe has something sent back.
      · split
        · split
          · rename_i hsend
            exact hused.trans ((Line.send_used _).ok hsend)
          · rename_i hsend
            exact hused.trans ((Line.send_used _).error hsend)
        · exact hused
      · exact hused

/-- Reading on as far as possible only uses the line. -/
theorem readOn_used (sessionId : UInt32) (closing : Bool) (line : Line) :
    Line.Used line (readOn sessionId closing line).line := by
  fun_induction readOn sessionId closing line with
  | case1 line hwaits => exact .refl line
  | case2 line hwaits event line' hreceive ih =>
      exact ((receive_used sessionId).ok hreceive).trans ih
  | case3 line hwaits line' hreceive ih =>
      exact ((receive_used sessionId).ok hreceive).trans ih
  | case4 line hwaits e line' hreceive hclosing => exact (receive_used sessionId).error hreceive
  | case5 line hwaits e line' hreceive hclosing he ih =>
      exact ((receive_used sessionId).error hreceive).trans ih
  | case6 line hwaits e line' hreceive hclosing he => exact (receive_used sessionId).error hreceive

theorem pump_used (channel : EventChannel) (sessionId : UInt32) :
    Line.Used channel.line (channel.pump sessionId).2.line := by
  unfold pump
  split
  · exact .refl _
  · exact readOn_used ..

end EventChannel

end PictureTransfer
