import PictureTransfer.Proofs.Packet.Fault
import PictureTransfer.Proofs.Packet.Framing
import PictureTransfer.Proofs.Packet.Payload
import PictureTransfer.Proofs.Transaction.Reassembly
import PictureTransfer.Transaction.Basic

/-!
# Exchanges

An exchange is what a responder sends for one operation: packets of data and
probes in any order, and then its response.  It is a value of its own here, with
its bytes and with the outcome that it decides for the call.

* `Heard.ofPacket_ok_iff` — a packet means in a cycle just what it was made of;
* `Cycle.collect_exchange` — a cycle reads the exchange at the front of its line,
  answers the probes, and leaves what stands behind;
* `Cycle.collect_ok` — and a cycle that comes to an end has read an exchange;
* `Cycle.collect_error` — any other ends with a fault of a packet.
-/

namespace PictureTransfer

/-- The packet of a data phase. -/
def DataPacket.toPacket : DataPacket → Packet
  | start a => Body.toPacket .startData a
  | piece c => Body.toPacket .data c
  | last c => Body.toPacket .endData c

/-- The packet of a meaning. -/
def Heard.toPacket : Heard → Packet
  | data packet => packet.toPacket
  | response r => Body.toPacket .operationResponse r
  | probe => Body.toPacket .probeRequest ()

/-- **What a packet means.**  It is heard as what it was made of, and as nothing
else. -/
theorem Heard.ofPacket_ok_iff {p : Packet} {heard : Heard} :
    ofPacket p = .ok heard ↔ p = heard.toPacket := by
  obtain ⟨kind, payload⟩ := p
  constructor
  · intro h
    unfold ofPacket at h
    dsimp only at h
    split at h
    · obtain ⟨m, hm, rfl⟩ := except_map_ok_iff.mp h
      exact congrArg _ (Body.decode_startData_ok_iff.mp hm)
    · obtain ⟨m, hm, rfl⟩ := except_map_ok_iff.mp h
      exact congrArg _ (Body.decode_data_ok_iff.mp hm)
    · obtain ⟨m, hm, rfl⟩ := except_map_ok_iff.mp h
      exact congrArg _ (Body.decode_endData_ok_iff.mp hm)
    · obtain ⟨m, hm, rfl⟩ := except_map_ok_iff.mp h
      exact congrArg _ (Body.decode_operationResponse_ok_iff.mp hm)
    · obtain ⟨m, hm, rfl⟩ := except_map_ok_iff.mp h
      exact congrArg _ (Body.decode_probeRequest_ok_iff.mp hm)
    · simp at h
  · intro h
    rcases heard with ⟨a | c | c⟩ | r | _
    · obtain ⟨rfl, rfl⟩ := Packet.mk.inj h
      exact except_map_ok_iff.mpr ⟨a, Body.decode_startData_ok_iff.mpr rfl, rfl⟩
    · obtain ⟨rfl, rfl⟩ := Packet.mk.inj h
      exact except_map_ok_iff.mpr ⟨c, Body.decode_data_ok_iff.mpr rfl, rfl⟩
    · obtain ⟨rfl, rfl⟩ := Packet.mk.inj h
      exact except_map_ok_iff.mpr ⟨c, Body.decode_endData_ok_iff.mpr rfl, rfl⟩
    · obtain ⟨rfl, rfl⟩ := Packet.mk.inj h
      exact except_map_ok_iff.mpr ⟨r, Body.decode_operationResponse_ok_iff.mpr rfl, rfl⟩
    · obtain ⟨rfl, rfl⟩ := Packet.mk.inj h
      exact except_map_ok_iff.mpr ⟨(), Body.decode_probeRequest_ok_iff.mpr rfl, rfl⟩

/-- A packet without a meaning in a cycle is a fault of the packet. -/
theorem Heard.ofPacket_error {p : Packet} {v : Violation} (h : ofPacket p = .error v) :
    v.isOfPacket = true := by
  unfold ofPacket at h
  split at h
  · exact (Body.failsInShape_decode .startData p.payload).error (except_map_error_iff.mp h)
  · exact (Body.failsInShape_decode .data p.payload).error (except_map_error_iff.mp h)
  · exact (Body.failsInShape_decode .endData p.payload).error (except_map_error_iff.mp h)
  · exact (Body.failsInShape_decode .operationResponse p.payload).error (except_map_error_iff.mp h)
  · exact (Body.failsInShape_decode .probeRequest p.payload).error (except_map_error_iff.mp h)
  · simp only [Except.error.injEq] at h
    subst h
    rfl

/-- What a responder may send before its response. -/
inductive Aside where
  | data (packet : DataPacket)
  | probe
  deriving DecidableEq, Repr

namespace Aside

/-- What an aside means in a cycle. -/
def heard : Aside → Heard
  | data packet => .data packet
  | probe => .probe

/-- The packet of an aside. -/
def toPacket (aside : Aside) : Packet := aside.heard.toPacket

/-- The packet of data that an aside is, if it is one. -/
def data? : Aside → Option DataPacket
  | data packet => some packet
  | probe => none

/-- What the initiator sends back for an aside: an answer to a probe. -/
def reply : Aside → Bytes
  | data _ => []
  | probe => (Body.toPacket .probeResponse ()).toBytes

end Aside

/-- What a responder sends for one operation. -/
structure Exchange where
  asides : List Aside
  response : OperationResponse
  deriving DecidableEq

namespace Exchange

/-- The packets of an exchange in order. -/
def packets (e : Exchange) : List Packet :=
  e.asides.map Aside.toPacket ++ [Body.toPacket .operationResponse e.response]

/-- The bytes of an exchange. -/
def toBytes (e : Exchange) : Bytes := e.packets.flatMap Packet.toBytes

/-- True of an exchange that can be sent: each of its packets fits its header. -/
def Fits (e : Exchange) : Prop := ∀ p ∈ e.packets, p.Fits

instance (e : Exchange) : Decidable e.Fits := inferInstanceAs (Decidable (∀ p ∈ e.packets, p.Fits))

/-- The packets of data in order. -/
def data (e : Exchange) : List DataPacket := e.asides.filterMap Aside.data?

/-- What the initiator sends back before the response: an answer to each probe. -/
def replies (e : Exchange) : Bytes := e.asides.flatMap Aside.reply

/-- The data of an exchange, if there is any packet of it: the pieces in the
order of their arrival. -/
def content (e : Exchange) : Option Bytes :=
  if e.data.isEmpty then none else some (e.data.flatMap DataPacket.bytes)

/-- **The outcome that an exchange decides** for the call that it answers.  A
packet of data that is refused spoils it, whatever the response says. -/
def outcome (operation : OperationCode) (id : UInt32) (e : Exchange) :
    Except Error Transaction :=
  match (DataPhase.fresh id).acceptAll e.data with
  | .ok _ => .ok ⟨operation, id, e.response, e.content⟩
  | .error violation => .error (.violation violation)

/-- The cycle that an exchange makes of an intake. -/
def cycle (intake : Intake) (e : Exchange) : Cycle :=
  ⟨e.response, (intake.takeAll e.data).data, (intake.takeAll e.data).held⟩

/-- The exchange with one aside more in front. -/
def behind (aside : Aside) (e : Exchange) : Exchange := { e with asides := aside :: e.asides }

theorem toBytes_of_response (response : OperationResponse) :
    toBytes ⟨[], response⟩ = (Body.toPacket .operationResponse response).toBytes := by
  simp [toBytes, packets]

theorem packets_behind (aside : Aside) (e : Exchange) :
    (e.behind aside).packets = aside.toPacket :: e.packets := rfl

theorem toBytes_behind (aside : Aside) (e : Exchange) :
    (e.behind aside).toBytes = aside.toPacket.toBytes ++ e.toBytes := rfl

theorem replies_behind (aside : Aside) (e : Exchange) :
    (e.behind aside).replies = aside.reply ++ e.replies := rfl

theorem fits_behind_iff {aside : Aside} {e : Exchange} :
    (e.behind aside).Fits ↔ aside.toPacket.Fits ∧ e.Fits := by
  simp [Fits, packets_behind]

theorem cycle_behind_data (intake : Intake) (packet : DataPacket) (e : Exchange) :
    (e.behind (.data packet)).cycle intake = e.cycle (intake.take packet) := rfl

theorem cycle_behind_probe (intake : Intake) (e : Exchange) :
    (e.behind .probe).cycle intake = e.cycle intake := rfl

/-- A cycle from the start gives the outcome of its exchange. -/
theorem outcome_eq (operation : OperationCode) (id : UInt32) (e : Exchange) :
    e.outcome operation id =
      match (e.cycle (.ofTransaction id)).held with
      | some violation => .error (.violation violation)
      | none => .ok ⟨operation, id, e.response, (e.cycle (.ofTransaction id)).data⟩ := by
  unfold outcome cycle
  cases haccept : (DataPhase.fresh id).acceptAll e.data with
  | error v =>
      have hheld : ((Intake.ofTransaction id).takeAll e.data).held = some v :=
        Intake.takeAll_of_refused rfl haccept
      simp [hheld]
  | ok phase =>
      have htake : (Intake.ofTransaction id).takeAll e.data =
          ⟨phase, none, false || !e.data.isEmpty⟩ := Intake.takeAll_of_accepted rfl haccept
      have hdata : phase.data = e.data.flatMap DataPacket.bytes := DataPhase.acceptAll_data haccept
      have hcontent : ((Intake.ofTransaction id).takeAll e.data).data = e.content := by
        rw [htake, content, ← hdata]
        cases e.data <;> rfl
      have hheld : ((Intake.ofTransaction id).takeAll e.data).held = none := by rw [htake]
      simp only [hcontent, hheld]

end Exchange

namespace Cycle

/-- Reading on, one packet at a time. -/
theorem collect_eq (intake : Intake) (line : Line) :
    collect intake line =
      match Line.receive line with
      | .error e line' => .error e line'
      | .ok p line' =>
          match Heard.ofPacket p with
          | .error violation => .error (.violation violation) line'
          | .ok (.response response) => .ok ⟨response, intake.data, intake.held⟩ line'
          | .ok (.data packet) => collect (intake.take packet) line'
          | .ok .probe =>
              match Line.send (Body.toPacket .probeResponse ()) line' with
              | .error e line'' => .error e line''
              | .ok () line'' => collect intake line'' := by
  rw [collect]
  split
  · rename_i hreceive
    simp only [hreceive]
  · rename_i p middle hreceive
    simp only [hreceive]
    cases Heard.ofPacket p with
    | error v => rfl
    | ok heard =>
        cases heard with
        | data packet => rfl
        | response r => rfl
        | probe =>
            dsimp only
            split <;> simp_all

/-- **A cycle reads its exchange.**  On a clear line it reads what stands at the
front, answers the probes, and leaves all that stands behind. -/
theorem collect_exchange {e : Exchange} {line : Line} {rest : Bytes} (intake : Intake)
    (hclear : line.Clear) (hfits : e.Fits)
    (hqueued : line.incoming.queued = e.toBytes ++ rest) :
    collect intake line = .ok (e.cycle intake) { line with
      incoming.queued := rest
      sent := line.sent ++ e.replies } := by
  obtain ⟨asides, response⟩ := e
  induction asides generalizing intake line with
  | nil =>
      rw [Exchange.toBytes_of_response] at hqueued
      have hresponse : (Body.toPacket .operationResponse response).Fits :=
        hfits _ (by simp [Exchange.packets])
      have hheard : Heard.ofPacket (Body.toPacket .operationResponse response) =
          .ok (.response response) := Heard.ofPacket_ok_iff.mpr rfl
      rw [collect_eq, Line.receive_ok_iff.mpr ⟨hresponse, rest, hqueued, rfl⟩]
      simp only [hheard]
      simp [Exchange.cycle, Exchange.data, Intake.takeAll, Exchange.replies]
  | cons aside asides ih =>
      have hwhole : (⟨aside :: asides, response⟩ : Exchange) =
          Exchange.behind aside ⟨asides, response⟩ := rfl
      rw [hwhole] at hfits hqueued ⊢
      rw [Exchange.toBytes_behind, List.append_assoc] at hqueued
      obtain ⟨hfirst, hothers⟩ := Exchange.fits_behind_iff.mp hfits
      have hheard : Heard.ofPacket aside.toPacket = .ok aside.heard :=
        Heard.ofPacket_ok_iff.mpr rfl
      rw [collect_eq, Line.receive_ok_iff.mpr ⟨hfirst, _, hqueued, rfl⟩]
      simp only [hheard]
      cases aside with
      | data packet =>
          have hnext : Line.Clear { line with
              incoming.queued := Exchange.toBytes ⟨asides, response⟩ ++ rest } := hclear
          have hrest := ih (intake.take packet) hnext hothers rfl
          simp only [Aside.heard, hrest, Exchange.cycle_behind_data, Exchange.replies_behind,
            Aside.reply, List.nil_append]
      | probe =>
          have hanswer : (Body.toPacket .probeResponse ()).Fits := by decide
          have hnext : Line.Clear { line with
              incoming.queued := Exchange.toBytes ⟨asides, response⟩ ++ rest } := hclear
          have hsend := Line.send_clear hnext hanswer
          have hanswered : Line.Clear { line with
              incoming.queued := Exchange.toBytes ⟨asides, response⟩ ++ rest
              sent := line.sent ++ (Body.toPacket .probeResponse ()).toBytes } := hclear
          have hrest := ih intake hanswered hothers rfl
          simp only [Aside.heard, hsend, hrest, Exchange.cycle_behind_probe,
            Exchange.replies_behind, Aside.reply, List.append_assoc]

/-- A line after an exchange: its bytes are read and its probes answered. -/
structure Exchanged (e : Exchange) (line line' : Line) : Prop where
  fits : e.Fits
  queued : line.incoming.queued = e.toBytes ++ line'.incoming.queued
  sent : line'.sent = line.sent ++ e.replies

/-- An aside that was dealt with stands in front of the exchange that follows. -/
theorem Exchanged.behind {aside : Aside} {e : Exchange} {line middle line' : Line}
    (h : Exchanged e middle line') (hfits : aside.toPacket.Fits)
    (hqueued : line.incoming.queued = aside.toPacket.toBytes ++ middle.incoming.queued)
    (hsent : middle.sent = line.sent ++ aside.reply) :
    Exchanged (e.behind aside) line line' where
  fits := Exchange.fits_behind_iff.mpr ⟨hfits, h.fits⟩
  queued := by rw [hqueued, h.queued, Exchange.toBytes_behind, List.append_assoc]
  sent := by rw [h.sent, hsent, Exchange.replies_behind, List.append_assoc]

/-- **A cycle that comes to an end** has read an exchange, and just that. -/
theorem collect_ok {intake : Intake} {line line' : Line} {cycle : Cycle}
    (h : collect intake line = .ok cycle line') :
    ∃ e : Exchange, cycle = e.cycle intake ∧ Exchanged e line line' := by
  fun_induction collect intake line with
  | case1 => simp at h
  | case2 => simp at h
  | case3 intake line p middle hreceive response hheard =>
      simp only [EStateM.Result.ok.injEq] at h
      obtain ⟨rfl, rfl⟩ := h
      obtain ⟨hfits, rest, hqueued, rfl⟩ := Line.receive_ok_iff.mp hreceive
      obtain rfl := Heard.ofPacket_ok_iff.mp hheard
      refine ⟨⟨[], response⟩, rfl, ?_, ?_, ?_⟩
      · intro q hq
        have hsame : q = Body.toPacket .operationResponse response := by
          simpa [Exchange.packets] using hq
        exact hsame ▸ hfits
      · rw [Exchange.toBytes_of_response]
        exact hqueued
      · simp [Exchange.replies]
  | case4 intake line p middle hreceive packet hheard ih =>
      obtain ⟨e, rfl, hrest⟩ := ih h
      obtain ⟨hfits, rest, hqueued, rfl⟩ := Line.receive_ok_iff.mp hreceive
      obtain rfl := Heard.ofPacket_ok_iff.mp hheard
      refine ⟨e.behind (.data packet), rfl, hrest.behind hfits hqueued ?_⟩
      simp [Aside.reply]
  | case5 => simp at h
  | case6 intake line p middle hreceive hheard last hsend ih =>
      obtain ⟨e, rfl, hrest⟩ := ih h
      obtain ⟨hfits, rest, hqueued, rfl⟩ := Line.receive_ok_iff.mp hreceive
      obtain rfl := Heard.ofPacket_ok_iff.mp hheard
      have hwrote := (Line.send_ok hsend).2.2
      refine ⟨e.behind .probe, rfl, hrest.behind hfits ?_ hwrote.sent⟩
      rw [hwrote.incoming]
      exact hqueued

/-- **A cycle that fails** fails for a fault of a packet. -/
theorem collect_error {intake : Intake} {line line' : Line} {e : Error}
    (h : collect intake line = .error e line') : e.breaksStep = true := by
  fun_induction collect intake line with
  | case1 intake line e middle hreceive =>
      simp only [EStateM.Result.error.injEq] at h
      exact Line.receive_error (h.1 ▸ hreceive)
  | case2 intake line p middle hreceive v hheard =>
      simp only [EStateM.Result.error.injEq] at h
      rw [← h.1]
      exact Heard.ofPacket_error hheard
  | case3 => simp at h
  | case4 intake line p middle hreceive packet hheard ih => exact ih h
  | case5 intake line p middle hreceive hheard e last hsend =>
      simp only [EStateM.Result.error.injEq] at h
      exact Line.send_error_breaksStep (h.1 ▸ hsend)
  | case6 intake line p middle hreceive hheard last hsend ih => exact ih h

end Cycle

end PictureTransfer
