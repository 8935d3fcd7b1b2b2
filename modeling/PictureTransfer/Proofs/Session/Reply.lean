import PictureTransfer.Proofs.Dataset.Fault
import PictureTransfer.Session.Call

/-!
# What a call makes of its transaction

A call that asks for an operation has it run as a transaction, and then makes its answer of
what came of it: the responder must have carried it out, and the data or the parameter that the
call is about must be there.  `Call.request?` tells the operation, `Call.read` the answer, and
`Call.brings?` the number of the open session, if the answer brings one.

* `Session.perform_eq_read` — every such call is its transaction and what it reads in it;
* `Session.perform_error_iff` — so it fails with its transaction, or in reading it;
* `Call.read_error` — a transaction that does not read is no fault of the connection
  (`Error.OfReply`).
-/

namespace PictureTransfer

/-- An operation that the responder is asked for. -/
structure Request where
  operation : OperationCode
  params : OperationParams
  dataOut : Option Bytes := none

/-- The value that a decoder finds in the data of an operation that was carried out. -/
def Transaction.readAs {α : Type} (decoder : Decoder α) (t : Transaction) : Except Error α := do
  (decoder.ofBuffer (← t.confirmed).content).mapError .wire

namespace Call

/-- The operation that a call asks for, unless it has too many parameters. -/
def request? : Call → Option Request
  | transact operation params dataOut =>
      if h : params.length ≤ 5 then some ⟨operation, ⟨params, h⟩, dataOut⟩ else none
  | openSession id => some { operation := .openSession, params := ⟨[id], by simp⟩ }
  | closeSession => some { operation := .closeSession, params := ⟨[], by simp⟩ }
  | getDeviceInfo => some { operation := .getDeviceInfo, params := ⟨[], by simp⟩ }
  | getStorageIds => some { operation := .getStorageIds, params := ⟨[], by simp⟩ }
  | getStorageInfo storageId =>
      some { operation := .getStorageInfo, params := ⟨[storageId], by simp⟩ }
  | getNumObjects storageId format parent =>
      some { operation := .getNumObjects
             params := ⟨[storageId, format.toUInt32, parent], by simp⟩ }
  | getObjectHandles storageId format parent =>
      some { operation := .getObjectHandles
             params := ⟨[storageId, format.toUInt32, parent], by simp⟩ }
  | getObjectInfo handle => some { operation := .getObjectInfo, params := ⟨[handle], by simp⟩ }
  | getObject handle => some { operation := .getObject, params := ⟨[handle], by simp⟩ }
  | getThumb handle => some { operation := .getThumb, params := ⟨[handle], by simp⟩ }
  | deleteObject handle format =>
      some { operation := .deleteObject, params := ⟨[handle, format.toUInt32], by simp⟩ }
  | initiateCapture storageId format =>
      some { operation := .initiateCapture, params := ⟨[storageId, format.toUInt32], by simp⟩ }
  | getDevicePropValue prop =>
      some { operation := .getDevicePropValue, params := ⟨[prop.toUInt32], by simp⟩ }
  | setDevicePropValue prop value =>
      some { operation := .setDevicePropValue, params := ⟨[prop.toUInt32], by simp⟩
             dataOut := some value }
  | sendCancel _ | probe | close => none

/-- An operation that is not asked for has too many parameters. -/
theorem length_of_request? {operation : OperationCode} {params : List UInt32}
    {dataOut : Option Bytes} (h : (transact operation params dataOut).request? = none) :
    5 < params.length := by
  refine Nat.lt_of_not_le fun hparams => ?_
  simp [request?, hparams] at h

/-- What a call makes of its transaction. -/
def read : (call : Call) → Transaction → Except Error call.Answer
  | transact .., t => .ok t
  | openSession _, t | closeSession, t | deleteObject .., t | setDevicePropValue .., t => do
      let _ ← t.confirmed
  | getDeviceInfo, t => t.readAs DeviceInfo.decoder
  | getStorageIds, t | getObjectHandles .., t => t.readAs Session.wordsDecoder
  | getStorageInfo _, t => t.readAs StorageInfo.decoder
  | getNumObjects .., t => do ((← t.confirmed).param 0).mapError .violation
  | getObjectInfo _, t => t.readAs ObjectInfo.decoder
  | getObject _, t | getThumb _, t | getDevicePropValue _, t => do
      return (← t.confirmed).content
  | initiateCapture .., t => do return (← t.confirmed).id
  | sendCancel _, _ | probe, _ | close, _ => .ok ()

/-- The number of the open session that the answer of a call brings: its own once it is open,
zero once it is closed. -/
def brings? : (call : Call) → Except Error call.Answer → Option UInt32
  | openSession id, .ok () => some id
  | closeSession, .ok () => some 0
  | _, _ => none

/-- An error brings none. -/
theorem brings?_error (call : Call) (e : Error) : call.brings? (.error e) = none := by
  cases call <;> rfl

/-- Nor does the answer of a call that asks for no operation. -/
theorem brings?_of_request? {call : Call} (h : call.request? = none)
    (result : Except Error call.Answer) : call.brings? result = none := by
  cases call with
  | openSession | closeSession => simp [request?] at h
  | _ => rfl

end Call

/-- An error of a transaction that has come to an end, and so of its reply. -/
inductive Error.OfReply : Error → Prop where
  /-- The responder did not carry the operation out. -/
  | notOk (operation : OperationCode) (code : ResponseCode) : OfReply (.notOk operation code)
  /-- The response lacks what the call is about. -/
  | noParameter (index : Nat) : OfReply (.violation (.missingResponseParameter index))
  /-- The data does not read. -/
  | data {cause : WireError} (h : cause.OfData) : OfReply (.wire cause)

namespace Error.OfReply

variable {err : Error}

/-- Such an error leaves the connection in step. -/
theorem inStep (h : err.OfReply) : err.breaksStep = false := by
  cases h with
  | notOk | noParameter => rfl
  | data h => exact h.inStep

/-- It passes for fatal all the same where the data ended early. -/
theorem isFatal_iff (h : err.OfReply) :
    err.isFatal = true ↔ ∃ what, err = .wire (.endOfStream what) := by
  cases h with
  | notOk | noParameter => simp [isFatal, Violation.breaksFraming]
  | data h => simpa [isFatal] using h.isFatal_iff

end Error.OfReply

variable {α : Type} {t : Transaction} {err : Error}

theorem Transaction.confirmed_error (h : t.confirmed = .error err) : err.OfReply := by
  unfold confirmed at h
  split at h
  · simp at h
  · simp only [Except.error.injEq] at h
    exact h ▸ .notOk _ _

theorem Transaction.param_error {index : Nat} {violation : Violation}
    (h : t.param index = .error violation) : (Error.violation violation).OfReply := by
  unfold param at h
  split at h
  · simp at h
  · simp only [Except.error.injEq] at h
    exact h ▸ .noParameter index

theorem Transaction.readAs_error {decoder : Decoder α} (hdecoder : decoder.FailsInData)
    (h : t.readAs decoder = .error err) : err.OfReply := by
  rcases except_bind_error_iff.mp h with hconfirmed | ⟨u, -, hread⟩
  · exact confirmed_error hconfirmed
  · obtain ⟨cause, hbuffer, rfl⟩ := except_mapError_error_iff.mp hread
    exact .data (Decoder.ofBuffer_error hdecoder hbuffer)

/-- **A transaction that does not read** is none of the connection's faults. -/
theorem Call.read_error {call : Call} (h : call.read t = .error err) : err.OfReply := by
  have hparts := Decoder.failsInData_inherited
  cases call with
  | transact => simp [read] at h
  | openSession | closeSession | deleteObject | setDevicePropValue | getObject | getThumb
  | getDevicePropValue | initiateCapture =>
      rcases except_bind_error_iff.mp h with hconfirmed | ⟨u, -, hread⟩
      · exact Transaction.confirmed_error hconfirmed
      · simp [pure, Except.pure] at hread
  | getNumObjects =>
      rcases except_bind_error_iff.mp h with hconfirmed | ⟨u, -, hread⟩
      · exact Transaction.confirmed_error hconfirmed
      · obtain ⟨violation, hparam, rfl⟩ := except_mapError_error_iff.mp hread
        exact Transaction.param_error hparam
  | getDeviceInfo => exact Transaction.readAs_error hparts.deviceInfo h
  | getStorageIds | getObjectHandles =>
      exact Transaction.readAs_error (hparts.sequence hparts.uint32) h
  | getStorageInfo => exact Transaction.readAs_error hparts.storageInfo h
  | getObjectInfo => exact Transaction.readAs_error hparts.objectInfo h
  | sendCancel | probe | close => simp [read] at h

/-- What is said of the data is said of an operation that was carried out. -/
theorem Call.isOk_of_read {call : Call} {cause : WireError}
    (h : call.read t = .error (.wire cause)) : t.isOk = true := by
  refine Decidable.byContradiction fun hnot => ?_
  have hconfirmed : t.confirmed = .error (.notOk t.operation t.response.code) := if_neg hnot
  cases call <;> simp [read, Transaction.readAs, hconfirmed, bind, Except.bind] at h

namespace Session

variable {β : Type} {s s' : Session} {call : Call} {r : Request}

/-- Keeps the number that an answer brings. -/
def keep : Option UInt32 → SessionM Unit
  | some number => setSessionId number
  | none => pure ()

theorem given_ok (a : α) : given (.ok a) = (pure a : SessionM α) := rfl

theorem given_pure (a : α) : given (pure a) = (pure a : SessionM α) := rfl

theorem given_bind (x : Except Error α) (f : α → Except Error β) :
    given (x >>= f) = given x >>= fun a => given (f a) := by
  cases x with
  | ok a => rfl
  | error e => rfl

theorem given_error_iff {x : Except Error α} :
    given x s = .error err s' ↔ x = .error err ∧ s' = s := by
  cases x with
  | ok a => simp [given, pure, EStateM.pure]
  | error e =>
      refine throw_error_iff.trans ?_
      rw [Except.error.injEq, @eq_comm _ s']

/-- **A call that asks for an operation** is its transaction and what it reads in it. -/
theorem perform_eq_read (h : call.request? = some r) :
    perform call = (do
      let t ← transact r.operation r.params.values r.dataOut
      let answer ← given (call.read t)
      keep (call.brings? (.ok answer))
      pure answer) := by
  cases call with
  | transact operation params dataOut =>
      by_cases hparams : params.length ≤ 5
      · obtain rfl := Option.some.inj ((dif_pos hparams).symm.trans h)
        simp only [perform, Call.read, Call.brings?, keep, given_ok, pure_bind, bind_pure]
      · simp [Call.request?, hparams] at h
  | openSession | closeSession =>
      obtain rfl := Option.some.inj h
      simp only [perform, carryOut, Call.read, Call.brings?, keep, given_bind, given_pure,
        bind_assoc, pure_bind, bind_pure_unit]
  | getNumObjects | deleteObject | initiateCapture | setDevicePropValue | getDeviceInfo
  | getStorageIds | getStorageInfo | getObjectHandles | getObjectInfo | getObject | getThumb
  | getDevicePropValue =>
      obtain rfl := Option.some.inj h
      simp only [perform, fetchAs, fetch, carryOut, Call.read, Transaction.readAs, given_bind,
        given_pure, Call.brings?, keep, bind_assoc, pure_bind, bind_pure]
  | sendCancel | probe | close => simp [Call.request?] at h

theorem keep_ne_error {number : Option UInt32} : keep number s ≠ .error err s' := by
  cases number with
  | none => simp [keep, pure, EStateM.pure]
  | some number =>
      intro h
      have hsame : (EStateM.Result.ok () { s with events.sessionId := number } :
        EStateM.Result Error Session Unit) = .error err s' := h
      simp at hsame

/-- **How such a call fails**: its transaction does, or it does not read what came of it. -/
theorem perform_error_iff (h : call.request? = some r) :
    perform call s = .error err s' ↔
      transact r.operation r.params.values r.dataOut s = .error err s' ∨
        ∃ t, transact r.operation r.params.values r.dataOut s = .ok t s' ∧
          call.read t = .error err := by
  rw [perform_eq_read h, bind_error_iff]
  refine or_congr_right ⟨fun hcame => ?_, fun hcame => ?_⟩
  · obtain ⟨t, middle, htransact, hrest⟩ := hcame
    rcases bind_error_iff.mp hrest with hgiven | ⟨answer, _, _, hkeep⟩
    · obtain ⟨hread, rfl⟩ := given_error_iff.mp hgiven
      exact ⟨t, htransact, hread⟩
    · rcases bind_error_iff.mp hkeep with hkept | ⟨_, _, _, hpure⟩
      · exact absurd hkept keep_ne_error
      · simp [pure, EStateM.pure] at hpure
  · obtain ⟨t, htransact, hread⟩ := hcame
    exact ⟨t, s', htransact, bind_of_error (given_error_iff.mpr ⟨hread, rfl⟩) _⟩

end Session

end PictureTransfer
