import PictureTransfer.Proofs.Link.Writing
import PictureTransfer.Proofs.Session.Exchange
import PictureTransfer.Session.Basic

/-!
# One call, from its request to its response

A call sends its request, and its data if there is any, and then reads the
exchange that answers it.  `Session.transact_eq` says what a ready session makes
of a call, by the run of its cycle alone, and three lemmas say what that run
comes to:

* `Cycle.run_exchange` — the exchange of the call at the front of a clear line
  is read, and what stands behind it is left;
* `Cycle.run_ok` — a run that comes to an end has read such an exchange;
* `Cycle.run_error` — a run that fails has met a fault of a packet, or the
  response of another transaction.
-/

namespace PictureTransfer

namespace Cycle

/-- The packets that a call sends before it listens. -/
def outgoing (operation : OperationCode) (id : UInt32) (params : OperationParams)
    (dataOut : Option Bytes) : List Packet :=
  Body.toPacket .operationRequest
      ⟨if dataOut.isSome then .outward else .inward, operation, id, params⟩ ::
    dataOut.toList.map fun data => Body.toPacket .data ⟨id, data⟩

variable {operation : OperationCode} {id : UInt32} {params : OperationParams}
  {dataOut : Option Bytes}

/-- A request is its packets in a row. -/
theorem request_eq : request operation id params dataOut =
    Line.sendAll (outgoing operation id params dataOut) := by
  funext line
  unfold request outgoing
  rw [Line.sendAll]
  cases dataOut with
  | none => rfl
  | some data =>
      have hlast : Line.sendAll [Body.toPacket .data ⟨id, data⟩] =
          Line.send (Body.toPacket .data ⟨id, data⟩) := bind_pure _
      rw [Option.toList_some, List.map_singleton, hlast]

/-- A request that was sent is on the line in full, and nothing was read. -/
theorem request_ok {line line' : Line} {u : Unit}
    (h : request operation id params dataOut line = .ok u line') :
    Line.Wrote ((outgoing operation id params dataOut).flatMap Packet.toBytes) line line' := by
  unfold request at h
  obtain ⟨_, middle, hfirst, hrest⟩ := bind_ok_iff.mp h
  have hwrote := (Line.send_ok hfirst).2.2
  cases dataOut with
  | none =>
      obtain ⟨_, rfl⟩ := pure_ok_iff.mp hrest
      simpa [outgoing] using hwrote
  | some data => simpa [outgoing] using hwrote.append (Line.send_ok hrest).2.2

theorem request_error {line line' : Line} {e : Error}
    (h : request operation id params dataOut line = .error e line') : e.breaksStep = true := by
  unfold request at h
  rcases bind_error_iff.mp h with hfirst | ⟨_, middle, _, hrest⟩
  · exact Line.send_error_breaksStep hfirst
  · cases dataOut with
    | none => simp [pure, EStateM.pure] at hrest
    | some data => exact Line.send_error_breaksStep hrest

/-- A clear line takes a request whose packets fit. -/
theorem request_clear {line : Line} (hclear : line.Clear)
    (hfits : ∀ p ∈ outgoing operation id params dataOut, p.Fits) :
    request operation id params dataOut line = .ok () { line with
      sent := line.sent ++ (outgoing operation id params dataOut).flatMap Packet.toBytes } := by
  have hfirst := Line.send_clear hclear (hfits _ List.mem_cons_self)
  unfold request
  rw [bind_of_ok hfirst]
  cases dataOut with
  | none => simp [outgoing, pure, EStateM.pure]
  | some data =>
      have hdata : (Body.toPacket .data ⟨id, data⟩).Fits := hfits _ (by simp [outgoing])
      have hnext : Line.Clear { line with
          sent := line.sent ++ (Body.toPacket .operationRequest
            ⟨if (some data).isSome then .outward else .inward, operation, id, params⟩).toBytes } :=
        hclear
      have hsecond := Line.send_clear hnext hdata
      simp only [hsecond]
      simp [outgoing]

/-- The packets of a request that was sent fit. -/
theorem request_fits {line line' : Line} {u : Unit}
    (h : request operation id params dataOut line = .ok u line') :
    ∀ p ∈ outgoing operation id params dataOut, p.Fits := by
  unfold request at h
  obtain ⟨_, middle, hfirst, hrest⟩ := bind_ok_iff.mp h
  refine List.forall_mem_cons.mpr ⟨(Line.send_ok hfirst).1, fun p hp => ?_⟩
  cases dataOut with
  | none => simp at hp
  | some data =>
      obtain rfl : p = Body.toPacket .data ⟨id, data⟩ := by simpa using hp
      exact (Line.send_ok hrest).1

/-- A line after a call that came to an end: its request and the answers to the
probes are sent, and the exchange of the call is read. -/
structure Ran (operation : OperationCode) (id : UInt32) (params : OperationParams)
    (dataOut : Option Bytes) (e : Exchange) (line line' : Line) : Prop where
  fits : e.Fits
  queued : line.incoming.queued = e.toBytes ++ line'.incoming.queued
  sent : line'.sent =
    line.sent ++ (outgoing operation id params dataOut).flatMap Packet.toBytes ++ e.replies

/-- The request before an exchange. -/
theorem Ran.ofRequest {e : Exchange} {line middle line' : Line}
    (hwrote : Line.Wrote ((outgoing operation id params dataOut).flatMap Packet.toBytes) line
      middle) (h : Exchanged e middle line') : Ran operation id params dataOut e line line' where
  fits := h.fits
  queued := by rw [← hwrote.incoming, h.queued]
  sent := by rw [h.sent, hwrote.sent]

/-- Of the line behind, only what was sent and what is unread counts. -/
theorem Ran.left {e : Exchange} {line line' left : Line}
    (h : Ran operation id params dataOut e line line') (hsent : left.sent = line'.sent)
    (hincoming : left.incoming = line'.incoming) :
    Ran operation id params dataOut e line left where
  fits := h.fits
  queued := by rw [hincoming, h.queued]
  sent := by rw [hsent, h.sent]

/-- **A run that comes to an end** has read an exchange of its own. -/
theorem run_ok {line line' : Line} {cycle : Cycle}
    (h : run operation id params dataOut line = .ok cycle line') :
    ∃ e : Exchange, e.response.transactionId = id ∧ cycle = e.cycle (.ofTransaction id) ∧
      Ran operation id params dataOut e line line' := by
  unfold run at h
  obtain ⟨_, middle, hrequest, hrest⟩ := bind_ok_iff.mp h
  obtain ⟨found, last, hcollect, hcheck⟩ := bind_ok_iff.mp hrest
  obtain ⟨e, rfl, hexchanged⟩ := collect_ok hcollect
  unfold check at hcheck
  by_cases hid : (e.cycle (.ofTransaction id)).response.transactionId = id
  · rw [if_pos hid] at hcheck
    obtain ⟨rfl, rfl⟩ := pure_ok_iff.mp hcheck
    exact ⟨e, hid, rfl, .ofRequest (request_ok hrequest) hexchanged⟩
  · rw [if_neg hid] at hcheck
    exact absurd hcheck throw_ne_ok

/-- The packets of a run that came to an end fit. -/
theorem run_fits {line line' : Line} {cycle : Cycle}
    (h : run operation id params dataOut line = .ok cycle line') :
    ∀ p ∈ outgoing operation id params dataOut, p.Fits := by
  unfold run at h
  obtain ⟨_, _, hrequest, _⟩ := bind_ok_iff.mp h
  exact request_fits hrequest

/-- **A run that fails** has met a fault of a packet, or has read an exchange
whose response names another transaction. -/
theorem run_error {line line' : Line} {err : Error}
    (h : run operation id params dataOut line = .error err line') :
    err.breaksStep = true ∨ ∃ e : Exchange, e.response.transactionId ≠ id ∧
      err = .violation (.transactionMismatch id e.response.transactionId) ∧
      Ran operation id params dataOut e line line' := by
  unfold run at h
  rcases bind_error_iff.mp h with hrequest | ⟨_, middle, hrequest, hrest⟩
  · exact .inl (request_error hrequest)
  rcases bind_error_iff.mp hrest with hcollect | ⟨found, last, hcollect, hcheck⟩
  · exact .inl (collect_error hcollect)
  obtain ⟨e, rfl, hexchanged⟩ := collect_ok hcollect
  unfold check at hcheck
  by_cases hid : (e.cycle (.ofTransaction id)).response.transactionId = id
  · simp [hid, pure, EStateM.pure] at hcheck
  · rw [if_neg hid] at hcheck
    obtain ⟨rfl, rfl⟩ := throw_error_iff.mp hcheck
    exact .inr ⟨e, hid, rfl, .ofRequest (request_ok hrequest) hexchanged⟩

/-- **A run finds its exchange** at the front of a clear line, whatever stands
behind it. -/
theorem run_exchange {e : Exchange} {line : Line} {rest : Bytes} (hclear : line.Clear)
    (hfits : ∀ p ∈ outgoing operation id params dataOut, p.Fits) (hexchange : e.Fits)
    (hid : e.response.transactionId = id)
    (hqueued : line.incoming.queued = e.toBytes ++ rest) :
    run operation id params dataOut line = .ok (e.cycle (.ofTransaction id)) { line with
      incoming.queued := rest
      sent := line.sent ++ (outgoing operation id params dataOut).flatMap Packet.toBytes ++
        e.replies } := by
  have hsent : Line.Clear { line with
      sent := line.sent ++ (outgoing operation id params dataOut).flatMap Packet.toBytes } :=
    hclear
  have hcollect := collect_exchange (.ofTransaction id) hsent hexchange hqueued
  have hcheck : (e.cycle (.ofTransaction id)).check id = .ok (e.cycle (.ofTransaction id)) :=
    if_pos hid
  unfold run
  rw [bind_of_ok (request_clear hclear hfits), bind_of_ok hcollect]
  simp [hcheck, pure, EStateM.pure]

end Cycle

namespace Session

/-- How a step ends: with a value or an error, and with a session either way. -/
def ending {α : Type} (result : Except Error α) (s : Session) : EStateM.Result Error Session α :=
  match result with
  | .ok value => .ok value s
  | .error e => .error e s

/-- The session whose call has taken its number and left its line. -/
def numbered (s : Session) (line : Line) : Session :=
  { s with
    counter := s.counter.advance
    command := line }

/-- A ready session with bytes on its command connection that are still unread. -/
def facing (bytes : Bytes) : Session where
  command := { incoming := .ofBytes bytes }
  events := { channel := { line := .fresh } }
  phase := .ready
  responder := ⟨1, .zero, "", 0x00010000⟩

theorem requireReady_of_ready {s : Session} (h : s.phase = .ready) :
    requireReady s = .ok () s := if_pos h

/-- **What a ready session makes of a call**, by the run of its cycle. -/
theorem transact_eq {s : Session} (hready : s.phase = .ready) (operation : OperationCode)
    (params : OperationParams) (dataOut : Option Bytes) :
    transact operation params.values dataOut s =
      match Cycle.run operation s.counter.advance.last params dataOut s.command with
      | .error e line => .error e (s.numbered line).close
      | .ok cycle line =>
          match cycle.held with
          | some violation => .error (.violation violation) (s.numbered line)
          | none => .ok ⟨operation, s.counter.advance.last, cycle.response, cycle.data⟩
              (s.numbered line) := by
  have hparams : Params.ofList 5 params.values = .ok params := Params.ofList_ok_iff.mpr rfl
  unfold transact
  rw [bind_of_ok (requireReady_of_ready hready), hparams]
  have hgiven :
      given ((Except.ok params : Except Violation OperationParams).mapError .violation) s =
        .ok params s := rfl
  have hnext : nextTransaction s =
      .ok s.counter.advance.last { s with counter := s.counter.advance } := rfl
  rw [bind_of_ok hgiven, bind_of_ok hnext]
  cases hrun : Cycle.run operation s.counter.advance.last params dataOut s.command with
  | error e line =>
      have hcycle : closingOnError (onCommand (Cycle.run operation s.counter.advance.last params
          dataOut)) { s with counter := s.counter.advance } = .error e (s.numbered line).close := by
        simp [closingOnError, onCommand, hrun, numbered]
      rw [bind_of_error hcycle]
  | ok cycle line =>
      have hcycle : closingOnError (onCommand (Cycle.run operation s.counter.advance.last params
          dataOut)) { s with counter := s.counter.advance } = .ok cycle (s.numbered line) := by
        simp [closingOnError, onCommand, hrun, numbered]
      rw [bind_of_ok hcycle]
      cases hheld : cycle.held with
      | some v =>
          simp only [hheld]
          rfl
      | none =>
          simp only [hheld]
          rfl

/-- A call whose cycle has read an exchange ends as the exchange decides. -/
theorem transact_of_exchange {s : Session} (hready : s.phase = .ready)
    {operation : OperationCode} {params : OperationParams} {dataOut : Option Bytes}
    {e : Exchange} {line : Line}
    (hrun : Cycle.run operation s.counter.advance.last params dataOut s.command =
      .ok (e.cycle (.ofTransaction s.counter.advance.last)) line) :
    transact operation params.values dataOut s =
      ending (e.outcome operation s.counter.advance.last) (s.numbered line) := by
  rw [transact_eq hready, hrun, e.outcome_eq]
  dsimp only
  cases (e.cycle (.ofTransaction s.counter.advance.last)).held with
  | some violation => rfl
  | none => rfl

/-- **The exchange at the front of a clear line** decides how a call ends, whatever stands
behind it. -/
theorem transact_exchange {s : Session} (hready : s.phase = .ready) (hclear : s.command.Clear)
    {operation : OperationCode} {params : OperationParams} {dataOut : Option Bytes}
    (houtgoing : ∀ p ∈ Cycle.outgoing operation s.counter.advance.last params dataOut, p.Fits)
    {e : Exchange} (hfits : e.Fits) (hown : e.response.transactionId = s.counter.advance.last)
    {rest : Bytes} (hqueued : s.command.incoming.queued = e.toBytes ++ rest) :
    transact operation params.values dataOut s =
      ending (e.outcome operation s.counter.advance.last) (s.numbered { s.command with
        incoming.queued := rest
        sent := s.command.sent ++ (Cycle.outgoing operation s.counter.advance.last params
          dataOut).flatMap Packet.toBytes ++ e.replies }) :=
  transact_of_exchange hready (Cycle.run_exchange hclear houtgoing hfits hown hqueued)

/-- More parameters than an operation has are refused before anything is done. -/
theorem transact_tooMany {s : Session} (hready : s.phase = .ready) (operation : OperationCode)
    {params : List UInt32} (h : 5 < params.length) (dataOut : Option Bytes) :
    transact operation params dataOut s =
      .error (.violation (.tooManyParameters params.length 5)) s := by
  have hparams : Params.ofList 5 params = .error (.tooManyParameters params.length 5) :=
    dif_neg (Nat.not_le_of_lt h)
  have hgiven : given ((Params.ofList 5 params).mapError .violation) s =
      .error (.violation (.tooManyParameters params.length 5)) s := by
    rw [hparams]
    rfl
  unfold transact
  rw [bind_of_ok (requireReady_of_ready hready), bind_of_error hgiven]

end Session

end PictureTransfer
