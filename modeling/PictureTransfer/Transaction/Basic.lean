import PictureTransfer.Packet.Body

/-!
# Transactions

What came of one operation: the response, and the data that preceded it if
there was any.
-/

namespace PictureTransfer

/-- The outcome of one operation. -/
structure Transaction where
  operation : OperationCode
  id : UInt32
  response : OperationResponse
  /-- The data that the responder sent, if it sent any packet of it. -/
  data : Option Bytes
  deriving DecidableEq

namespace Transaction

/-- True when the responder carried the operation out. -/
def isOk (t : Transaction) : Bool := t.response.code.isOk

/-- The transaction, if the responder carried the operation out. -/
def confirmed (t : Transaction) : Except Error Transaction :=
  if t.isOk then .ok t else .error (.notOk t.operation t.response.code)

/-- The parameter of the response at an index. -/
def param (t : Transaction) (index : Nat) : Except Violation UInt32 :=
  match t.response.params.get? index with
  | some value => .ok value
  | none => .error (.missingResponseParameter index)

/-- The data, empty when there was none. -/
def content (t : Transaction) : Bytes := t.data.getD []

theorem confirmed_eq_ok_iff {t u : Transaction} : t.confirmed = .ok u ↔ t.isOk ∧ u = t := by
  unfold confirmed
  by_cases h : t.isOk
  · simp only [h, if_true, Except.ok.injEq, true_and]
    exact eq_comm
  · simp [h]

end Transaction

end PictureTransfer
