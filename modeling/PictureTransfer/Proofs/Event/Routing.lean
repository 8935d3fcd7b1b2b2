import PictureTransfer.Proofs.Event.Isolation
import PictureTransfer.Proofs.Event.Reading

/-!
# What a listener is told of an event

The code of an event decides what listeners are told of it.  Two codes stand for something that
happened to a transaction, three for something that there is no more to say of, and nine for
something that the first parameter tells, which for one of them has to be a code itself, of 16
bits.  Any other code is passed on with the event as it came.  An event without the parameter
that its notice needs is an error of that event, and of nothing else.

* `Event.Routed` — what is told of an event, by its code and its parameters;
* `Event.routed_iff` — each event is told in just one way, the one that listeners hear;
* `Event.name_of_routed` — under the name that the table of codes has for it;
* `Roster.event_told_once` — a listener is told once, and no event ends the connection.
-/

namespace PictureTransfer

namespace Event

/-- The codes of what happened to a transaction, and how it is told. -/
def ofTransaction : List (UInt16 × (UInt32 → Notice)) :=
  [(0x4001, .cancelTransaction), (0x400D, .captureComplete)]

/-- The codes of what there is no more to say of. -/
def ofNothing : List (UInt16 × Notice) :=
  [(0x4008, .deviceInfoChanged), (0x400B, .deviceReset), (0x400E, .unreportedStatus)]

/-- The codes of what the first parameter tells. -/
def ofParameter : List (UInt16 × (UInt32 → Notice)) :=
  [(0x4002, .objectAdded), (0x4003, .objectRemoved), (0x4004, .storeAdded),
    (0x4005, .storeRemoved), (0x4007, .objectInfoChanged), (0x4009, .requestObjectTransfer),
    (0x400A, .storeFull), (0x400C, .storageInfoChanged)]

/-- The code of a property that changed, which the first parameter names by 16 bits. -/
def ofProperty : UInt16 := 0x4006

/-- The codes that need a parameter. -/
def needing : List UInt16 := ofProperty :: ofParameter.map Prod.fst

/-- What is told of an event. -/
inductive Routed (event : Event) : Notice → Prop
  | transaction {code : UInt16} {notice : UInt32 → Notice} (hcode : event.code.value = code)
      (htable : (code, notice) ∈ ofTransaction) : Routed event (notice event.transactionId)
  | nothing {code : UInt16} {notice : Notice} (hcode : event.code.value = code)
      (htable : (code, notice) ∈ ofNothing) : Routed event notice
  | parameter {code : UInt16} {notice : UInt32 → Notice} {value : UInt32}
      (hcode : event.code.value = code) (htable : (code, notice) ∈ ofParameter)
      (hparam : event.params.values.head? = some value) : Routed event (notice value)
  | property {value : UInt32} (hcode : event.code.value = ofProperty)
      (hparam : event.params.values.head? = some value) (hfits : value.toNat ≤ 0xFFFF) :
      Routed event (.devicePropChanged value.toUInt16)
  | missing (hcode : event.code.value ∈ needing) (hparam : event.params.values.head? = none) :
      Routed event (.error (.violation (.missingEventParameter event.code 0)))
  | wide {value : UInt32} (hcode : event.code.value = ofProperty)
      (hparam : event.params.values.head? = some value) (hwide : 0xFFFF < value.toNat) :
      Routed event (.error (.violation (.eventParameterOutOfRange event.code 0 value)))
  | vendor (hcode : event.code.value.toNat < 0x4001 ∨ 0x400E < event.code.value.toNat) :
      Routed event (.vendorEvent event)

variable {event : Event} {code : UInt16} {notice : Notice}

theorem param_zero (event : Event) : event.param 0 = event.params.values.head? :=
  List.head?_eq_getElem?.symm

theorem required_of_some {value : UInt32} (h : event.params.values.head? = some value) :
    event.required 0 = .ok value := by
  rw [required, param_zero, h]

theorem required_of_none (h : event.params.values.head? = none) :
    event.required 0 = .error (.missingEventParameter event.code 0) := by
  rw [required, param_zero, h]

/-- A table of notices holds for the events of its codes. -/
theorem notice_of_transaction {tell : UInt32 → Notice} (hcode : event.code.value = code)
    (htable : (code, tell) ∈ ofTransaction) : event.notice = .ok (tell event.transactionId) := by
  simp only [ofTransaction, List.mem_cons, Prod.mk.injEq, List.not_mem_nil, or_false] at htable
  rcases htable with ⟨rfl, rfl⟩ | ⟨rfl, rfl⟩
  · simp only [Event.notice, hcode]
  · simp only [Event.notice, hcode]

theorem notice_of_nothing (hcode : event.code.value = code) (htable : (code, notice) ∈ ofNothing) :
    event.notice = .ok notice := by
  simp only [ofNothing, List.mem_cons, Prod.mk.injEq, List.not_mem_nil, or_false] at htable
  rcases htable with ⟨rfl, rfl⟩ | ⟨rfl, rfl⟩ | ⟨rfl, rfl⟩
  all_goals simp only [Event.notice, hcode]

theorem notice_of_parameter {tell : UInt32 → Notice} (hcode : event.code.value = code)
    (htable : (code, tell) ∈ ofParameter) : event.notice = tell <$> event.required 0 := by
  simp only [ofParameter, List.mem_cons, Prod.mk.injEq, List.not_mem_nil, or_false] at htable
  rcases htable with ⟨rfl, rfl⟩ | ⟨rfl, rfl⟩ | ⟨rfl, rfl⟩ | ⟨rfl, rfl⟩ | ⟨rfl, rfl⟩ | ⟨rfl, rfl⟩ |
    ⟨rfl, rfl⟩ | ⟨rfl, rfl⟩
  all_goals simp only [Event.notice, hcode]

theorem notice_of_property (hcode : event.code.value = ofProperty) :
    event.notice = .devicePropChanged <$> event.required16 0 := by
  simp only [Event.notice, hcode, ofProperty]

theorem notice_of_vendor
    (hcode : event.code.value.toNat < 0x4001 ∨ 0x400E < event.code.value.toNat) :
    event.notice = .ok (.vendorEvent event) := by
  unfold Event.notice
  split
  case h_15 => rfl
  all_goals
    rename_i hlisted
    rw [hlisted] at hcode
    exact absurd hcode (by decide)

theorem required16_of_fits {value : UInt32} (hparam : event.params.values.head? = some value)
    (hfits : value.toNat ≤ 0xFFFF) : event.required16 0 = .ok value.toUInt16 := by
  rw [required16, required_of_some hparam]
  exact if_pos (by omega)

theorem required16_of_wide {value : UInt32} (hparam : event.params.values.head? = some value)
    (hwide : 0xFFFF < value.toNat) :
    event.required16 0 = .error (.eventParameterOutOfRange event.code 0 value) := by
  rw [required16, required_of_some hparam]
  exact if_neg (by omega)

theorem task_notice_of_ok (h : event.notice = .ok notice) : (Task.event event).notice = notice := by
  simp only [Task.notice, h]

theorem task_notice_of_error {violation : Violation} (h : event.notice = .error violation) :
    (Task.event event).notice = .error (.violation violation) := by
  simp only [Task.notice, h]

/-- **What is told of an event** is what listeners hear. -/
theorem notice_of_routed (h : event.Routed notice) : (Task.event event).notice = notice := by
  cases h with
  | transaction hcode htable => exact task_notice_of_ok (notice_of_transaction hcode htable)
  | nothing hcode htable => exact task_notice_of_ok (notice_of_nothing hcode htable)
  | parameter hcode htable hparam =>
      apply task_notice_of_ok
      rw [notice_of_parameter hcode htable, required_of_some hparam]
      rfl
  | property hcode hparam hfits =>
      apply task_notice_of_ok
      rw [notice_of_property hcode, required16_of_fits hparam hfits]
      rfl
  | missing hcode hparam =>
      apply task_notice_of_error
      rcases List.mem_cons.mp hcode with hproperty | hparameter
      · rw [notice_of_property hproperty, required16, required_of_none hparam]
        rfl
      · obtain ⟨⟨code, tell⟩, htable, hsame⟩ := List.mem_map.mp hparameter
        rw [notice_of_parameter hsame.symm htable, required_of_none hparam]
        rfl
  | wide hcode hparam hwide =>
      apply task_notice_of_error
      rw [notice_of_property hcode, required16_of_wide hparam hwide]
      rfl
  | vendor hcode => exact task_notice_of_ok (notice_of_vendor hcode)

/-- A code from the first to the last of those that are told apart is in one of the tables. -/
theorem mem_tables (hleast : 0x4001 ≤ code.toNat) (hmost : code.toNat ≤ 0x400E) :
    code ∈ ofTransaction.map Prod.fst ++ (ofNothing.map Prod.fst ++ needing) := by
  have hall : ∀ n < 14, UInt16.ofNat (0x4001 + n) ∈
      ofTransaction.map Prod.fst ++ (ofNothing.map Prod.fst ++ needing) := by decide
  have hcode : UInt16.ofNat (0x4001 + (code.toNat - 0x4001)) = code := by
    rw [Nat.add_sub_cancel' hleast]
    exact UInt16.ofNat_toNat
  have hmem := hall (code.toNat - 0x4001) (by omega)
  rwa [hcode] at hmem

/-- Something is told of every event. -/
theorem exists_routed (event : Event) : ∃ notice, event.Routed notice := by
  by_cases hvendor : event.code.value.toNat < 0x4001 ∨ 0x400E < event.code.value.toNat
  · exact ⟨_, .vendor hvendor⟩
  · have htables := @mem_tables event.code.value (by omega) (by omega)
    rcases List.mem_append.mp htables with htransaction | hothers
    · obtain ⟨⟨code, tell⟩, htable, hsame⟩ := List.mem_map.mp htransaction
      exact ⟨_, .transaction hsame.symm htable⟩
    rcases List.mem_append.mp hothers with hnothing | hneeding
    · obtain ⟨⟨code, told⟩, htable, hsame⟩ := List.mem_map.mp hnothing
      exact ⟨_, .nothing hsame.symm htable⟩
    cases hparam : event.params.values.head? with
    | none => exact ⟨_, .missing hneeding hparam⟩
    | some value =>
        rcases List.mem_cons.mp hneeding with hproperty | hparameter
        · by_cases hfits : value.toNat ≤ 0xFFFF
          · exact ⟨_, .property hproperty hparam hfits⟩
          · exact ⟨_, .wide hproperty hparam (by omega)⟩
        · obtain ⟨⟨code, tell⟩, htable, hsame⟩ := List.mem_map.mp hparameter
          exact ⟨_, .parameter hsame.symm htable hparam⟩

/-- **Each event is told in just one way.** -/
theorem routed_iff : event.Routed notice ↔ notice = (Task.event event).notice := by
  constructor
  · intro h
    exact (notice_of_routed h).symm
  · intro h
    obtain ⟨told, htold⟩ := exists_routed event
    rwa [h, notice_of_routed htold]

theorem code_eq_mk (hcode : event.code.value = code) : event.code = ⟨code⟩ := by
  rw [← hcode]

/-- **Under its name.**  What is neither passed on as it came nor an error goes under the name that
the table of codes has for the code of the event. -/
theorem name_of_routed (h : event.Routed notice) :
    notice = .vendorEvent event ∨ (∃ cause, notice = .error cause) ∨
      event.code.name? = some (LogLine.ofNotice notice).message := by
  cases h with
  | transaction hcode htable =>
      rw [code_eq_mk hcode]
      simp only [ofTransaction, List.mem_cons, Prod.mk.injEq, List.not_mem_nil, or_false] at htable
      rcases htable with ⟨rfl, rfl⟩ | ⟨rfl, rfl⟩
      all_goals exact .inr (.inr rfl)
  | nothing hcode htable =>
      rw [code_eq_mk hcode]
      simp only [ofNothing, List.mem_cons, Prod.mk.injEq, List.not_mem_nil, or_false] at htable
      rcases htable with ⟨rfl, rfl⟩ | ⟨rfl, rfl⟩ | ⟨rfl, rfl⟩
      all_goals exact .inr (.inr rfl)
  | parameter hcode htable hparam =>
      rw [code_eq_mk hcode]
      simp only [ofParameter, List.mem_cons, Prod.mk.injEq, List.not_mem_nil, or_false] at htable
      rcases htable with ⟨rfl, rfl⟩ | ⟨rfl, rfl⟩ | ⟨rfl, rfl⟩ | ⟨rfl, rfl⟩ | ⟨rfl, rfl⟩ |
        ⟨rfl, rfl⟩ | ⟨rfl, rfl⟩ | ⟨rfl, rfl⟩
      all_goals exact .inr (.inr rfl)
  | property hcode hparam hfits =>
      rw [code_eq_mk hcode]
      exact .inr (.inr rfl)
  | missing hcode hparam => exact .inr (.inl ⟨_, rfl⟩)
  | wide hcode hparam hwide => exact .inr (.inl ⟨_, rfl⟩)
  | vendor hcode => exact .inl rfl

end Event

/-- **An event is told once**, to a listener of any manner: what its code and its parameters say,
under the name that the table of codes has for it, and nothing that ends the connection.  A
listener that remembers nothing leaves in the journal what it does with that one notice. -/
theorem Roster.event_told_once (event : Event) (listener : Listener) :
    ∃ notice,
      (∀ manner, (ofList [listener]).dispatch manner [.event event] [] =
        .ok () [⟨listener, notice, manner listener [] notice⟩]) ∧
      (ofList [listener]).deliver [.event event] = (listener.react notice).entries ∧
      (∀ other, event.Routed other ↔ other = notice) ∧
      (notice = .vendorEvent event ∨ (∃ cause, notice = .error cause) ∨
        event.code.name? = some (LogLine.ofNotice notice).message) ∧
      ∀ cause, notice = .error cause → cause.isFatal = false := by
  refine ⟨(Task.event event).notice, ?dispatched, ?delivered, fun _ => Event.routed_iff,
    Event.name_of_routed (Event.routed_iff.mpr rfl), ?nonfatal⟩
  case dispatched =>
    intro manner
    exact dispatch_eq (fun _ _ => rfl) [.event event]
  case delivered =>
    have hone : (ofList [listener]).deliver [.event event] =
        (listener.react (Task.event event).notice).entries ++ [] ++ [] := rfl
    rw [hone, List.append_nil, List.append_nil]
  case nonfatal =>
    intro cause hcause
    have hevent := Task.event_nonfatal event
    rwa [Task.isFatal, hcause] at hevent

end PictureTransfer
