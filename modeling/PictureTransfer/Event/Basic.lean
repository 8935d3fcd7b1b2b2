import PictureTransfer.Packet.Body

/-!
# Events and what listeners are told of them

A responder reports events on a connection of their own.  An event packet does
not say which session it belongs to, so the session number is put in when the
packet is taken off the line.  Each event becomes one notice, told by its code:

* `notice_error_nonfatal` — an event that lacks the parameter its notice needs
  is a fault of that event alone, not of the connection.
-/

namespace PictureTransfer

/-- An event, with the session it belongs to, zero when none is open. -/
structure Event where
  code : EventCode
  sessionId : UInt32
  transactionId : UInt32
  params : EventParams
  deriving DecidableEq

/-- The event that a packet reports in a session. -/
def EventNotice.stamp (packet : EventNotice) (sessionId : UInt32) : Event where
  code := packet.code
  sessionId := sessionId
  transactionId := packet.transactionId
  params := packet.params

/-- What a listener is told. -/
inductive Notice where
  | cancelTransaction (transactionId : UInt32)
  | objectAdded (handle : UInt32)
  | objectRemoved (handle : UInt32)
  | storeAdded (storageId : UInt32)
  | storeRemoved (storageId : UInt32)
  | devicePropChanged (prop : UInt16)
  | objectInfoChanged (handle : UInt32)
  | deviceInfoChanged
  | requestObjectTransfer (handle : UInt32)
  | storeFull (storageId : UInt32)
  | deviceReset
  | storageInfoChanged (storageId : UInt32)
  | captureComplete (transactionId : UInt32)
  | unreportedStatus
  /-- An event without a notice of its own. -/
  | vendorEvent (event : Event)
  /-- An event or the connection went wrong. -/
  | error (cause : Error)
  deriving DecidableEq

namespace Event

/-- The parameter at an index, if there is one. -/
def param (event : Event) (index : Nat) : Option UInt32 := event.params.get? index

/-- The parameter at an index, which the event has to have. -/
def required (event : Event) (index : Nat) : Except Violation UInt32 :=
  match event.param index with
  | some value => .ok value
  | none => .error (.missingEventParameter event.code index)

/-- The 16-bit parameter at an index, which the event has to have. -/
def required16 (event : Event) (index : Nat) : Except Violation UInt16 := do
  let value ← event.required index
  if value.toNat < 65536 then pure value.toUInt16
  else throw (.eventParameterOutOfRange event.code index value)

/-- The notice that an event becomes. -/
def notice (event : Event) : Except Violation Notice :=
  match event.code.value with
  | 0x4001 => .ok (.cancelTransaction event.transactionId)
  | 0x4002 => .objectAdded <$> event.required 0
  | 0x4003 => .objectRemoved <$> event.required 0
  | 0x4004 => .storeAdded <$> event.required 0
  | 0x4005 => .storeRemoved <$> event.required 0
  | 0x4006 => .devicePropChanged <$> event.required16 0
  | 0x4007 => .objectInfoChanged <$> event.required 0
  | 0x4008 => .ok .deviceInfoChanged
  | 0x4009 => .requestObjectTransfer <$> event.required 0
  | 0x400A => .storeFull <$> event.required 0
  | 0x400B => .ok .deviceReset
  | 0x400C => .storageInfoChanged <$> event.required 0
  | 0x400D => .ok (.captureComplete event.transactionId)
  | 0x400E => .ok .unreportedStatus
  | _ => .ok (.vendorEvent event)

end Event

/-- What the reader of the event connection passes on. -/
inductive Task where
  | event (event : Event)
  | failure (cause : Error)
  deriving DecidableEq

/-- The notice that each listener gets for a task. -/
def Task.notice : Task → Notice
  | event e =>
      match e.notice with
      | .ok notice => notice
      | .error violation => .error (.violation violation)
  | failure cause => .error cause

namespace Event

theorem required_error_nonfatal {event : Event} {index : Nat} {v : Violation}
    (h : event.required index = .error v) : v.breaksFraming = false := by
  unfold required at h
  split at h
  · simp at h
  · simp only [Except.error.injEq] at h
    rw [← h]
    rfl

theorem required16_error_nonfatal {event : Event} {index : Nat} {v : Violation}
    (h : event.required16 index = .error v) : v.breaksFraming = false := by
  unfold required16 at h
  cases hr : event.required index with
  | error w =>
      simp only [hr, bind, Except.bind, Except.error.injEq] at h
      exact h ▸ required_error_nonfatal hr
  | ok value =>
      simp only [hr, bind, Except.bind] at h
      split at h
      · simp [pure, Except.pure] at h
      · simp only [throw, throwThe, MonadExceptOf.throw, Except.error.injEq] at h
        rw [← h]
        rfl

/-- No event ends the connection that it came on. -/
theorem notice_error_nonfatal {event : Event} {v : Violation}
    (h : event.notice = .error v) : (Error.violation v).isFatal = false := by
  have hmap : ∀ {α : Type} {f : α → Notice} {x : Except Violation α},
      f <$> x = .error v → x = .error v := by
    intro α f x hx
    cases x with
    | error w => simpa [Functor.map, Except.map] using hx
    | ok a => simp [Functor.map, Except.map] at hx
  unfold notice at h
  split at h <;> first
    | exact required_error_nonfatal (hmap h)
    | exact required16_error_nonfatal (hmap h)
    | simp at h

end Event

end PictureTransfer
