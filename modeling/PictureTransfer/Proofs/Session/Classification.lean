import PictureTransfer.Proofs.Session.Closing
import PictureTransfer.Proofs.Session.Transact

/-!
# The two ends of a call

A call on a ready session that passes its parameter check takes one transaction
number and ends in one of two ways.  In step (`Session.InStep`): the exchange of
the call was read and nothing else, and the session stays ready, with the
transaction or with the violation of the first data packet that was refused.
Out of step (`Session.OutOfStep`): something is wrong with a packet, or the
response is that of another transaction, and both connections are shut down.

* `Exchange.outcome_cases` — what an exchange decides;
* `Session.inStep_of_run`, `Session.outOfStep_of_run` — the end of a call by the
  run of its cycle;
* `Session.transact_inStep_or_outOfStep` — every call has one of the two ends,
  and just one.
-/

namespace PictureTransfer

namespace Exchange

/-- The violation is that of the first packet of data that the phase of a
transaction refuses. -/
def Refused (id : UInt32) (e : Exchange) (violation : Violation) : Prop :=
  ∃ before packet after phase, e.data = before ++ packet :: after ∧
    (DataPhase.fresh id).acceptAll before = .ok phase ∧ phase.accept packet = .error violation

/-- The phase of a transaction accepts every packet of data. -/
def Accepted (id : UInt32) (e : Exchange) : Prop :=
  ∃ phase, (DataPhase.fresh id).acceptAll e.data = .ok phase

/-- **What an exchange decides**: the transaction if all data was accepted, the
first violation otherwise. -/
theorem outcome_cases (operation : OperationCode) (id : UInt32) (e : Exchange) :
    (e.Accepted id ∧ e.outcome operation id = .ok ⟨operation, id, e.response, e.content⟩) ∨
      ∃ violation, e.Refused id violation ∧ violation.isOfData = true ∧
        e.outcome operation id = .error (.violation violation) := by
  unfold outcome
  cases haccept : (DataPhase.fresh id).acceptAll e.data with
  | ok phase => exact .inl ⟨⟨phase, haccept⟩, rfl⟩
  | error v =>
      exact .inr ⟨v, DataPhase.acceptAll_error_iff.mp haccept, DataPhase.acceptAll_error haccept,
        rfl⟩

end Exchange

namespace Session

variable {operation : OperationCode} {params : OperationParams} {dataOut : Option Bytes}
  {s s' : Session} {result : Except Error Transaction} {t : Transaction} {e : Exchange}
  {rest : Bytes}

/-- A session whose next call is answered by an exchange. -/
structure Expects (e : Exchange) (rest : Bytes) (s : Session) : Prop where
  phase : s.phase = .ready
  clear : s.command.Clear
  own : e.response.transactionId = s.counter.advance.last
  queued : s.command.incoming.queued = e.toBytes ++ rest

/-- A call succeeds with what was sent for it, if all of that is accepted. -/
theorem Expects.transact_ok (h : s.Expects e rest) (operation : OperationCode)
    (params : OperationParams) (dataOut : Option Bytes)
    (houtgoing : ∀ p ∈ Cycle.outgoing operation s.counter.advance.last params dataOut, p.Fits)
    (hfits : e.Fits) (haccepted : e.Accepted s.counter.advance.last) :
    ∃ s', transact operation params.values dataOut s =
      .ok ⟨operation, s.counter.advance.last, e.response, e.content⟩ s' ∧ s'.phase = .ready := by
  have htransact := transact_exchange h.phase h.clear houtgoing hfits h.own h.queued
  obtain ⟨phase, hphase⟩ := haccepted
  have houtcome : e.outcome operation s.counter.advance.last =
      .ok ⟨operation, s.counter.advance.last, e.response, e.content⟩ := by
    unfold Exchange.outcome
    rw [hphase]
  rw [houtcome] at htransact
  exact ⟨_, htransact, h.phase⟩

/-- The exchange of a responder that carries the first operation out. -/
def firstDone (asides : List Aside) : Exchange := ⟨asides, ⟨.ok, 1, ⟨[], Nat.zero_le _⟩⟩⟩

/-- The session that has asked for nothing yet expects what it faces. -/
theorem expects_facing (asides : List Aside) :
    (facing (firstDone asides).toBytes).Expects (firstDone asides) [] :=
  ⟨rfl, ⟨rfl, rfl⟩, rfl, (List.append_nil _).symm⟩

/-- A call that stayed in step: the bytes up to its own response were read, and
the session is as ready as before. -/
structure InStep (operation : OperationCode) (params : OperationParams)
    (dataOut : Option Bytes) (s : Session) (result : Except Error Transaction) (s' : Session)
    (e : Exchange) : Prop where
  phase : s'.phase = .ready
  events : s'.events = s.events
  own : e.response.transactionId = s.counter.advance.last
  ran : Cycle.Ran operation s.counter.advance.last params dataOut e s.command s'.command
  result :
    (e.Accepted s.counter.advance.last ∧
      result = .ok ⟨operation, s.counter.advance.last, e.response, e.content⟩) ∨
    ∃ violation, e.Refused s.counter.advance.last violation ∧ violation.isOfData = true ∧
      result = .error (.violation violation)

/-- What is wrong where a call falls out of step: a packet, or the number in the
response that ended its exchange. -/
inductive Misstep (operation : OperationCode) (params : OperationParams)
    (dataOut : Option Bytes) (s s' : Session) : Error → Prop where
  | packet {err : Error} (h : err.breaksStep = true) : Misstep operation params dataOut s s' err
  | stranger (e : Exchange) (hid : e.response.transactionId ≠ s.counter.advance.last)
      (hran : Cycle.Ran operation s.counter.advance.last params dataOut e s.command s'.command) :
      Misstep operation params dataOut s s'
        (.violation (.transactionMismatch s.counter.advance.last e.response.transactionId))

/-- A call that fell out of step: the session is closed and both connections are
shut down.  On a line that takes whatever is written, there was no exchange of the
call to be read. -/
structure OutOfStep (operation : OperationCode) (params : OperationParams)
    (dataOut : Option Bytes) (s : Session) (result : Except Error Transaction)
    (s' : Session) : Prop where
  shut : s'.Shut
  result : ∃ err, result = .error err ∧ Misstep operation params dataOut s s' err
  nothing : s.command.Clear →
    (∀ p ∈ Cycle.outgoing operation s.counter.advance.last params dataOut, p.Fits) →
    ∀ e : Exchange, e.Fits → e.response.transactionId = s.counter.advance.last →
      ¬ e.toBytes <+: s.command.incoming.queued

/-- A session is not both ready and shut. -/
theorem InStep.not_outOfStep {e : Exchange}
    (h : InStep operation params dataOut s result s' e) :
    ¬ OutOfStep operation params dataOut s result s' := by
  intro hout
  have hready := h.phase
  rw [hout.shut.phase] at hready
  exact Phase.noConfusion hready

/-- The end of a call whose cycle came to an end. -/
theorem inStep_of_run (hready : s.phase = .ready) {cycle : Cycle} {line : Line}
    (hrun : Cycle.run operation s.counter.advance.last params dataOut s.command =
      .ok cycle line) :
    ∃ result e, transact operation params.values dataOut s = ending result (s.numbered line) ∧
      InStep operation params dataOut s result (s.numbered line) e := by
  obtain ⟨e, hid, rfl, hran⟩ := Cycle.run_ok hrun
  exact ⟨e.outcome operation s.counter.advance.last, e, transact_of_exchange hready hrun,
    hready, rfl, hid, hran, e.outcome_cases operation _⟩

/-- The end of a call whose cycle failed. -/
theorem outOfStep_of_run (hready : s.phase = .ready) {err : Error} {line : Line}
    (hrun : Cycle.run operation s.counter.advance.last params dataOut s.command =
      .error err line) :
    transact operation params.values dataOut s = ending (.error err) (s.numbered line).close ∧
      OutOfStep operation params dataOut s (.error err) (s.numbered line).close := by
  have hphase : (s.numbered line).phase ≠ .closed := by simp [numbered, hready]
  have hline := (s.numbered line).close_command
  constructor
  · rw [transact_eq hready, hrun]
    rfl
  · refine ⟨close_shut hphase, ⟨err, rfl, ?_⟩, ?_⟩
    · rcases Cycle.run_error hrun with hbreaks | ⟨e, hid, rfl, hran⟩
      · exact .packet hbreaks
      · exact .stranger e hid (hran.left hline.1 hline.2)
    · intro hclear houtgoing e hfits hid hprefix
      obtain ⟨rest, hqueued⟩ := hprefix
      have hfound := Cycle.run_exchange hclear houtgoing hfits hid hqueued.symm
      simp [hrun] at hfound

/-- **A call that succeeds** has sent its request and read an exchange. -/
theorem inStep_of_ok (hready : s.phase = .ready)
    (h : transact operation params.values dataOut s = .ok t s') :
    (∃ e, InStep operation params dataOut s (.ok t) s' e) ∧
      ∀ p ∈ Cycle.outgoing operation s.counter.advance.last params dataOut, p.Fits := by
  cases hrun : Cycle.run operation s.counter.advance.last params dataOut s.command with
  | error err line =>
      rw [(outOfStep_of_run hready hrun).1] at h
      simp [ending] at h
  | ok cycle line =>
      obtain ⟨result, e, htransact, hin⟩ := inStep_of_run hready hrun
      rw [htransact] at h
      cases result with
      | error err => simp [ending] at h
      | ok u =>
          obtain ⟨rfl, rfl⟩ := EStateM.Result.ok.inj h
          exact ⟨⟨e, hin⟩, Cycle.run_fits hrun⟩

/-- **A call that fails** has shut the session down, or was answered with data that breaks a
rule. -/
theorem transact_error_cases {err : Error} (hready : s.phase = .ready)
    (h : transact operation params.values dataOut s = .error err s') :
    s'.Shut ∨ ∃ violation, violation.isOfData = true ∧ err = .violation violation ∧
      s'.phase = .ready := by
  cases hrun : Cycle.run operation s.counter.advance.last params dataOut s.command with
  | error e line =>
      obtain ⟨htransact, hout⟩ := outOfStep_of_run hready hrun
      rw [htransact] at h
      obtain ⟨-, rfl⟩ := EStateM.Result.error.inj h
      exact .inl hout.shut
  | ok cycle line =>
      obtain ⟨result, e, htransact, hin⟩ := inStep_of_run hready hrun
      rw [htransact] at h
      rcases hin.result with ⟨-, rfl⟩ | ⟨violation, -, hdata, rfl⟩
      · simp [ending] at h
      · obtain ⟨rfl, rfl⟩ := EStateM.Result.error.inj h
        exact .inr ⟨violation, hdata, rfl, hin.phase⟩

/-- **The two ends of a call.**  More parameters than an operation has are refused
before anything is done.  Any other call of a ready session takes one transaction
number and ends either in step or out of step, whatever stands on its line. -/
theorem transact_inStep_or_outOfStep (hready : s.phase = .ready) (operation : OperationCode)
    (params : List UInt32) (dataOut : Option Bytes) :
    (5 < params.length → transact operation params dataOut s =
      .error (.violation (.tooManyParameters params.length 5)) s) ∧
    ∀ hparams : params.length ≤ 5, ∃ result s',
      transact operation params dataOut s = ending result s' ∧
      s'.counter = s.counter.advance ∧
      ((∃ e, InStep operation ⟨params, hparams⟩ dataOut s result s' e) ↔
        ¬ OutOfStep operation ⟨params, hparams⟩ dataOut s result s') := by
  constructor
  · intro hmany
    exact transact_tooMany hready operation hmany dataOut
  · intro hparams
    cases hrun : Cycle.run operation s.counter.advance.last ⟨params, hparams⟩ dataOut
        s.command with
    | ok cycle line =>
        obtain ⟨result, e, htransact, hin⟩ := inStep_of_run hready hrun
        refine ⟨result, _, htransact, rfl, ?_⟩
        constructor
        · intro _
          exact hin.not_outOfStep
        · intro _
          exact ⟨e, hin⟩
    | error err line =>
        obtain ⟨htransact, hout⟩ := outOfStep_of_run hready hrun
        refine ⟨.error err, _, htransact, close_counter _, ?_⟩
        constructor
        · intro h
          obtain ⟨e, hin⟩ := h
          exact hin.not_outOfStep
        · intro hnot
          exact absurd hout hnot

/-- Two bytes, and then the response that the operation was carried out. -/
def twoBytesDone : Exchange := firstDone [.data (.piece ⟨1, [10, 11]⟩)]

/-- A call that is answered so ends in step, with the two bytes. -/
theorem transact_inStep_or_outOfStep_twoBytes :
    (facing twoBytesDone.toBytes).phase = .ready ∧
      ∃ s' e, transact .getObject [5] none (facing twoBytesDone.toBytes) =
          .ok ⟨.getObject, 1, twoBytesDone.response, some [10, 11]⟩ s' ∧
        s'.counter.last = 1 ∧
        InStep .getObject ⟨[5], by decide⟩ none (facing twoBytesDone.toBytes)
          (.ok ⟨.getObject, 1, twoBytesDone.response, some [10, 11]⟩) s' e := by
  obtain ⟨last, hok, -⟩ := (expects_facing [.data (.piece ⟨1, [10, 11]⟩)]).transact_ok .getObject
    ⟨[5], by decide⟩ none (by decide) (by decide) ⟨_, rfl⟩
  obtain ⟨result, s', htransact, hcounter, hin⟩ :=
    (transact_inStep_or_outOfStep (s := facing twoBytesDone.toBytes) rfl .getObject [5] none).2
      (by decide)
  obtain ⟨rfl, rfl⟩ : result = .ok ⟨.getObject, 1, twoBytesDone.response, some [10, 11]⟩ ∧
      s' = last := by
    have hsame := htransact.symm.trans hok
    cases result with
    | error err => simp [ending] at hsame
    | ok t =>
        obtain ⟨rfl, rfl⟩ := EStateM.Result.ok.inj hsame
        exact ⟨rfl, rfl⟩
  have hnot : ¬ OutOfStep .getObject ⟨[5], by decide⟩ none (facing twoBytesDone.toBytes)
      (.ok ⟨.getObject, 1, twoBytesDone.response, some [10, 11]⟩) s' := by
    intro hout
    obtain ⟨err, herr, -⟩ := hout.result
    simp at herr
  obtain ⟨e, hinStep⟩ := hin.mpr hnot
  exact ⟨rfl, s', e, htransact, by rw [hcounter]; rfl, hinStep⟩

end Session

end PictureTransfer
