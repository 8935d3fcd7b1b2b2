import PictureTransfer.Proofs.Session.Classification
import PictureTransfer.Proofs.Transaction.Order

/-!
# Downloads that are cut short

A responder that has announced its data sends a last piece when there is no more of it.
Where a last piece came, the data of a call is whole.  But a call does not ask for one: the
response ends it, wherever in the data the responder left off, and the call succeeds with the
data that has come until then.

* `Exchange.cutTo` — the exchange of a responder that leaves off early;
* `Exchange.accepted_cutTo`, `Exchange.data_cutTo` — its data is accepted like that of the
  whole exchange, and is a beginning of it;
* `Exchange.data_ended` — data with a last piece is whole;
* `Session.InStep.succeedsCut` — a call that has succeeded succeeds on any beginning of its
  exchange;
* `Session.transact_ok_cut_short` — what the data of a call that succeeds is, and what it need
  not be.
-/

namespace PictureTransfer

namespace Exchange

/-- The exchange of a responder that leaves off behind some of what it has to send, and
responds there. -/
def cutTo (front : List Aside) (e : Exchange) : Exchange := { e with asides := front }

variable {e : Exchange} {front : List Aside} {id : UInt32}

theorem fits_cutTo (h : e.Fits) (hfront : front <+: e.asides) : (e.cutTo front).Fits := by
  intro p hp
  refine h p ?_
  rcases List.mem_append.mp hp with haside | hresponse
  · exact List.mem_append_left _ ((hfront.map Aside.toPacket).subset haside)
  · exact List.mem_append_right _ hresponse

theorem data_cutTo (hfront : front <+: e.asides) : (e.cutTo front).data <+: e.data :=
  hfront.filterMap Aside.data?

/-- Nothing of a phase is refused for what would have followed. -/
theorem accepted_cutTo (h : e.Accepted id) (hfront : front <+: e.asides) :
    (e.cutTo front).Accepted id := by
  obtain ⟨phase, hphase⟩ := h
  obtain ⟨back, hback⟩ := data_cutTo hfront
  rw [← hback] at hphase
  obtain ⟨middle, hmiddle, -⟩ := DataPhase.acceptAll_append_ok_iff.mp hphase
  exact ⟨middle, hmiddle⟩

/-- The bytes of the data, of which there are none without a packet of data. -/
theorem content_bytes (e : Exchange) : e.content.getD [] = e.data.flatMap DataPacket.bytes := by
  unfold content
  cases e.data with
  | nil => rfl
  | cons packet packets => rfl

/-- **A last piece makes the data whole**: nothing behind it brings any. -/
theorem data_ended (h : e.Accepted id) {before after : List DataPacket} {last : DataPacket}
    (hdata : e.data = before ++ last :: after) (hlast : last.isLast = true) :
    e.data.flatMap DataPacket.bytes = (before ++ [last]).flatMap DataPacket.bytes := by
  have hsplit : e.data = (before ++ [last]) ++ after := by simpa using hdata
  obtain ⟨phase, hphase⟩ := h
  rw [hsplit] at hphase
  obtain ⟨middle, hfront, hafter⟩ := DataPhase.acceptAll_append_ok_iff.mp hphase
  have hended : middle.finished = true := by
    simp [(DataPhase.MadeOf.of_fresh.acceptAll hfront).finished, hlast]
  rw [hsplit, List.flatMap_append, DataPhase.acceptAll_ended hended hafter, List.append_nil]

end Exchange

namespace Session

variable {operation : OperationCode} {params : OperationParams} {dataOut : Option Bytes}
  {s s' : Session} {t : Transaction} {e : Exchange} {rest : Bytes}

/-- The data of an operation that was carried out is handed on as it is. -/
theorem fetch_of_transact {values : List UInt32} (h : transact operation values none s = .ok t s')
    (hok : t.isOk = true) : fetch operation values s = .ok t.content s' := by
  have hconfirmed : t.confirmed = .ok t := Transaction.confirmed_eq_ok_iff.mpr ⟨hok, rfl⟩
  have hcarried : carryOut operation values none s = .ok t s' := by
    unfold carryOut
    rw [bind_of_ok h, hconfirmed]
    rfl
  unfold fetch
  rw [bind_of_ok hcarried]
  rfl

/-- The call of an exchange succeeds on every beginning of it, with the same response and with
the data that has come until then. -/
def SucceedsCut (operation : OperationCode) (params : OperationParams) (dataOut : Option Bytes)
    (t : Transaction) (e : Exchange) : Prop :=
  ∀ front, front <+: e.asides → ∀ (rest : Bytes) (s : Session), s.Expects (e.cutTo front) rest →
    ∃ u s', transact operation params.values dataOut s = .ok u s' ∧ s'.phase = .ready ∧
      u.response = t.response ∧
      u.content = (e.cutTo front).data.flatMap DataPacket.bytes ∧ u.content <+: t.content ∧
      (dataOut = none → t.isOk = true → fetch operation params.values s = .ok u.content s')

/-- The exchange of a call that has succeeded was accepted and gives the transaction. -/
theorem InStep.accepted (h : InStep operation params dataOut s (.ok t) s' e) :
    e.Accepted s.counter.advance.last ∧
      t = ⟨operation, s.counter.advance.last, e.response, e.content⟩ := by
  rcases h.result with ⟨haccepted, hresult⟩ | ⟨violation, -, -, hresult⟩
  · exact ⟨haccepted, Except.ok.inj hresult⟩
  · simp at hresult

/-- A call that has succeeded succeeds on every beginning of its exchange. -/
theorem InStep.succeedsCut (h : InStep operation params dataOut s (.ok t) s' e)
    (houtgoing : ∀ p ∈ Cycle.outgoing operation s.counter.advance.last params dataOut, p.Fits) :
    SucceedsCut operation params dataOut t e := by
  intro front hfront rest cut hcut
  obtain ⟨haccepted, rfl⟩ := h.accepted
  -- The response is the same, so the two calls have the same number.
  have hsame : cut.counter.advance.last = s.counter.advance.last := hcut.own.symm.trans h.own
  rw [← hsame] at haccepted houtgoing
  obtain ⟨cut', htransact, hphase⟩ := hcut.transact_ok operation params dataOut houtgoing
    (Exchange.fits_cutTo h.ran.fits hfront) (Exchange.accepted_cutTo haccepted hfront)
  refine ⟨_, cut', htransact, hphase, rfl, (e.cutTo front).content_bytes, ?_, ?_⟩
  · obtain ⟨back, hback⟩ := Exchange.data_cutTo hfront
    refine ⟨back.flatMap DataPacket.bytes, ?_⟩
    change (e.cutTo front).content.getD [] ++ _ = e.content.getD []
    rw [Exchange.content_bytes, Exchange.content_bytes, ← hback, List.flatMap_append]
  · intro hnone hok
    subst hnone
    exact fetch_of_transact htransact hok

/-- **A call does not ask for the end of its data.**  The data of a call that succeeds is what
came in its packets of data up to the response, and is whole where one of them was a last piece.
But had the responder left off earlier, behind whichever packet, the same call would have
succeeded as well. -/
theorem transact_ok_cut_short (hready : s.phase = .ready)
    (h : transact operation params.values dataOut s = .ok t s') :
    ∃ e, InStep operation params dataOut s (.ok t) s' e ∧
      (∀ before last after, e.data = before ++ last :: after → last.isLast = true →
        t.content = (before ++ [last]).flatMap DataPacket.bytes) ∧
      SucceedsCut operation params dataOut t e := by
  obtain ⟨⟨e, hin⟩, houtgoing⟩ := inStep_of_ok hready h
  refine ⟨e, hin, ?_, hin.succeedsCut houtgoing⟩
  intro before last after hdata hlast
  obtain ⟨haccepted, rfl⟩ := hin.accepted
  exact e.content_bytes.trans (Exchange.data_ended haccepted hdata hlast)

/-- Four bytes that come in two pieces behind their announcement. -/
def fourBytes : Exchange := firstDone
  [.data (.start ⟨1, 4⟩), .data (.piece ⟨1, [1, 2]⟩), .data (.last ⟨1, [3, 4]⟩)]

/-- An object of four bytes would have been given out with two of them as well. -/
theorem transact_ok_cut_short_fourBytes :
    (facing fourBytes.toBytes).phase = .ready ∧
      ∃ t s', transact .getObject [7] none (facing fourBytes.toBytes) = .ok t s' ∧
        t.content = [1, 2, 3, 4] ∧
        ∃ e, InStep .getObject ⟨[7], by decide⟩ none (facing fourBytes.toBytes) (.ok t) s' e ∧
          (∀ before last after, e.data = before ++ last :: after → last.isLast = true →
            t.content = (before ++ [last]).flatMap DataPacket.bytes) ∧
          SucceedsCut .getObject ⟨[7], by decide⟩ none t e := by
  have hexpects : (facing fourBytes.toBytes).Expects fourBytes [] := expects_facing _
  obtain ⟨s', htransact, -⟩ := hexpects.transact_ok .getObject ⟨[7], by decide⟩ none
    (by decide) (by decide) ⟨_, rfl⟩
  exact ⟨rfl, _, s', htransact, rfl, transact_ok_cut_short rfl htransact⟩

/-- **An object that is cut short is given out.**  Its announcement says four bytes, two of them
come, and no last piece does. -/
theorem getObject_twoOfFour :
    let cut := fourBytes.cutTo (fourBytes.asides.take 2)
    cut.data.any DataPacket.isStart = true ∧ cut.data.any DataPacket.isLast = false ∧
      (facing cut.toBytes).Expects cut [] ∧
      ∃ t s', transact .getObject [7] none (facing cut.toBytes) = .ok t s' ∧ t.isOk = true ∧
        perform (.getObject 7) (facing cut.toBytes) = .ok [1, 2] s' ∧ s'.phase = .ready := by
  intro cut
  have hexpects : (facing cut.toBytes).Expects cut [] := expects_facing _
  obtain ⟨s', htransact, hphase⟩ := hexpects.transact_ok .getObject ⟨[7], by decide⟩ none
    (by decide) (by decide) ⟨_, rfl⟩
  exact ⟨rfl, rfl, hexpects, _, s', htransact, rfl, fetch_of_transact htransact rfl, hphase⟩

end Session

end PictureTransfer
