/-!
# Outcomes of steps in a row

When a computation made of two steps succeeds, and when it fails, for steps
that give a value or an error (`Except`) and for those that also leave a state
(`EStateM`).  The proofs about decoders, lines and sessions take their steps
apart with these.

`FailsOnly` says which errors a computation fails with, `StepSafe` which ones a
step fails with on states of a kind that it keeps to, and `StepRelates` what a
step does to the state at most.  All three carry over from the steps to the whole.
-/

namespace PictureTransfer

section Values

variable {ε α β : Type}

theorem except_pure_ok_iff {a b : α} : (pure a : Except ε α) = .ok b ↔ a = b := by
  simp [pure, Except.pure]

/-- A step behind another succeeds just when both do. -/
theorem except_bind_ok_iff {x : Except ε α} {f : α → Except ε β} {b : β} :
    (x >>= f) = .ok b ↔ ∃ a, x = .ok a ∧ f a = .ok b := by
  cases x with
  | error e => simp [bind, Except.bind]
  | ok a => simp [bind, Except.bind]

theorem except_bind_error_iff {x : Except ε α} {f : α → Except ε β} {e : ε} :
    (x >>= f) = .error e ↔ x = .error e ∨ ∃ a, x = .ok a ∧ f a = .error e := by
  cases x with
  | error e => simp [bind, Except.bind]
  | ok a => simp [bind, Except.bind]

theorem except_map_ok_iff {x : Except ε α} {f : α → β} {b : β} :
    f <$> x = .ok b ↔ ∃ a, x = .ok a ∧ f a = b := by
  cases x with
  | error e => simp [Functor.map, Except.map]
  | ok a => simp [Functor.map, Except.map]

theorem except_map_error_iff {x : Except ε α} {f : α → β} {e : ε} :
    f <$> x = .error e ↔ x = .error e := by
  cases x with
  | error e => simp [Functor.map, Except.map]
  | ok a => simp [Functor.map, Except.map]

theorem except_mapError_error_iff {δ : Type} {x : Except ε α} {f : ε → δ} {e : δ} :
    x.mapError f = .error e ↔ ∃ cause, x = .error cause ∧ f cause = e := by
  constructor
  · intro h
    cases x with
    | error cause => exact ⟨cause, rfl, Except.error.inj h⟩
    | ok a =>
        have hsame : (Except.ok a : Except δ α) = .error e := h
        simp at hsame
  · intro h
    obtain ⟨cause, rfl, rfl⟩ := h
    rfl

/-- The value fails with errors of a kind only. -/
structure FailsOnly (kind : ε → Prop) (x : Except ε α) : Prop where
  error : ∀ {e : ε}, x = .error e → kind e

theorem FailsOnly.ok {kind : ε → Prop} (a : α) : FailsOnly kind (.ok a : Except ε α) where
  error h := by simp at h

theorem FailsOnly.bind {kind : ε → Prop} {x : Except ε α} {f : α → Except ε β}
    (hx : FailsOnly kind x) (hf : ∀ a, FailsOnly kind (f a)) : FailsOnly kind (x >>= f) where
  error h := by
    rcases except_bind_error_iff.mp h with hfirst | ⟨a, _, hnext⟩
    · exact hx.error hfirst
    · exact (hf a).error hnext

end Values

section States

variable {ε σ α β : Type}

theorem pure_ok_iff {a b : α} {s s' : σ} :
    (pure a : EStateM ε σ α) s = .ok b s' ↔ b = a ∧ s' = s := by
  simp only [pure, EStateM.pure, EStateM.Result.ok.injEq]
  exact ⟨fun h => ⟨h.1.symm, h.2.symm⟩, fun h => ⟨h.1.symm, h.2.symm⟩⟩

theorem throw_error_iff {e e' : ε} {s s' : σ} :
    (throw e : EStateM ε σ α) s = .error e' s' ↔ e = e' ∧ s = s' := by
  constructor
  · intro h
    exact EStateM.Result.error.inj h
  · intro h
    obtain ⟨rfl, rfl⟩ := h
    rfl

theorem throw_ne_ok {e : ε} {a : α} {s s' : σ} : (throw e : EStateM ε σ α) s ≠ .ok a s' := by
  intro h
  have hsame : (EStateM.Result.error e s : EStateM.Result ε σ α) = .ok a s' := h
  simp at hsame

/-- A step behind one that succeeds. -/
theorem bind_of_ok {x : EStateM ε σ α} {s middle : σ} {a : α} (h : x s = .ok a middle)
    (f : α → EStateM ε σ β) : (x >>= f) s = f a middle := by
  simp [bind, EStateM.bind, h]

/-- A step behind one that fails is not taken. -/
theorem bind_of_error {x : EStateM ε σ α} {s middle : σ} {e : ε} (h : x s = .error e middle)
    (f : α → EStateM ε σ β) : (x >>= f) s = .error e middle := by
  simp [bind, EStateM.bind, h]

/-- A step behind another succeeds just when both do. -/
theorem bind_ok_iff {x : EStateM ε σ α} {f : α → EStateM ε σ β} {s s' : σ} {b : β} :
    (x >>= f) s = .ok b s' ↔ ∃ a middle, x s = .ok a middle ∧ f a middle = .ok b s' := by
  constructor
  · intro h
    cases hx : x s with
    | error e middle => simp [bind_of_error hx] at h
    | ok a middle => exact ⟨a, middle, rfl, by rwa [bind_of_ok hx] at h⟩
  · intro h
    obtain ⟨a, middle, hx, hf⟩ := h
    rwa [bind_of_ok hx]

/-- Two steps fail when the first does, or the second behind it. -/
theorem bind_error_iff {x : EStateM ε σ α} {f : α → EStateM ε σ β} {s s' : σ} {e : ε} :
    (x >>= f) s = .error e s' ↔
      x s = .error e s' ∨ ∃ a middle, x s = .ok a middle ∧ f a middle = .error e s' := by
  constructor
  · intro h
    cases hx : x s with
    | error e middle =>
        rw [bind_of_error hx] at h
        simp only [EStateM.Result.error.injEq] at h
        obtain ⟨rfl, rfl⟩ := h
        exact .inl rfl
    | ok a middle => exact .inr ⟨a, middle, rfl, by rwa [bind_of_ok hx] at h⟩
  · intro h
    rcases h with hx | ⟨a, middle, hx, hf⟩
    · exact bind_of_error hx f
    · rwa [bind_of_ok hx]

theorem map_ok_iff {x : EStateM ε σ α} {f : α → β} {s s' : σ} {b : β} :
    (f <$> x) s = .ok b s' ↔ ∃ a, x s = .ok a s' ∧ f a = b := by
  cases h : x s with
  | error e middle => simp [Functor.map, EStateM.map, h]
  | ok a middle =>
      simp only [Functor.map, EStateM.map, h, EStateM.Result.ok.injEq]
      constructor
      · intro h
        obtain ⟨rfl, rfl⟩ := h
        exact ⟨a, ⟨rfl, rfl⟩, rfl⟩
      · intro h
        obtain ⟨c, ⟨rfl, rfl⟩, rfl⟩ := h
        exact ⟨rfl, rfl⟩

theorem map_error_iff {x : EStateM ε σ α} {f : α → β} {s s' : σ} {e : ε} :
    (f <$> x) s = .error e s' ↔ x s = .error e s' := by
  cases h : x s with
  | error e middle => simp [Functor.map, EStateM.map, h]
  | ok a middle => simp [Functor.map, EStateM.map, h]

/-- On the states of an invariant the step keeps to it, and fails with errors of a kind
only. -/
structure StepSafe (inv : σ → Prop) (kind : ε → Prop) (x : EStateM ε σ α) : Prop where
  ok : ∀ {s s' : σ} {a : α}, inv s → x s = .ok a s' → inv s'
  error : ∀ {s s' : σ} {e : ε}, inv s → x s = .error e s' → kind e

theorem StepSafe.pure {inv : σ → Prop} {kind : ε → Prop} (a : α) :
    StepSafe inv kind (Pure.pure a : EStateM ε σ α) where
  ok hs h := (pure_ok_iff.mp h).2 ▸ hs
  error _ h := by simp [Pure.pure, EStateM.pure] at h

theorem StepSafe.throw {inv : σ → Prop} {kind : ε → Prop} {e : ε} (he : kind e) :
    StepSafe inv kind (throw e : EStateM ε σ α) where
  ok _ h := absurd h throw_ne_ok
  error _ h := (throw_error_iff.mp h).1 ▸ he

theorem StepSafe.bind {inv : σ → Prop} {kind : ε → Prop} {x : EStateM ε σ α}
    {f : α → EStateM ε σ β} (hx : StepSafe inv kind x) (hf : ∀ a, StepSafe inv kind (f a)) :
    StepSafe inv kind (x >>= f) where
  ok hs h := by
    obtain ⟨a, middle, hfirst, hnext⟩ := bind_ok_iff.mp h
    exact (hf a).ok (hx.ok hs hfirst) hnext
  error hs h := by
    rcases bind_error_iff.mp h with hfirst | ⟨a, middle, hfirst, hnext⟩
    · exact hx.error hs hfirst
    · exact (hf a).error (hx.ok hs hfirst) hnext

/-- The step takes every state to one that is related to it, whether it succeeds
or fails. -/
structure StepRelates (rel : σ → σ → Prop) (x : EStateM ε σ α) : Prop where
  ok : ∀ {s s' : σ} {a : α}, x s = .ok a s' → rel s s'
  error : ∀ {s s' : σ} {e : ε}, x s = .error e s' → rel s s'

/-- The state that a step leaves. -/
def stateOf : EStateM.Result ε σ α → σ
  | .ok _ s => s
  | .error _ s => s

/-- What a step comes to, its state aside. -/
def verdictOf : EStateM.Result ε σ α → Except ε α
  | .ok a _ => .ok a
  | .error e _ => .error e

/-- A step is known by the state that it leaves. -/
theorem StepRelates.of_stateOf {rel : σ → σ → Prop} {x : EStateM ε σ α}
    (h : ∀ s, rel s (stateOf (x s))) : StepRelates rel x where
  ok {s _ _} hx := by
    have hleft := h s
    rwa [hx] at hleft
  error {s _ _} hx := by
    have hleft := h s
    rwa [hx] at hleft

theorem StepRelates.left {rel : σ → σ → Prop} {x : EStateM ε σ α} (h : StepRelates rel x)
    (s : σ) : rel s (stateOf (x s)) := by
  cases hx : x s with
  | ok a s' => exact h.ok hx
  | error e s' => exact h.error hx

theorem StepRelates.pure {rel : σ → σ → Prop} (hrefl : ∀ s, rel s s) (a : α) :
    StepRelates rel (Pure.pure a : EStateM ε σ α) := .of_stateOf hrefl

theorem StepRelates.throw {rel : σ → σ → Prop} (hrefl : ∀ s, rel s s) (e : ε) :
    StepRelates rel (throw e : EStateM ε σ α) := .of_stateOf hrefl

theorem StepRelates.bind {rel : σ → σ → Prop}
    (htrans : ∀ {s middle s'}, rel s middle → rel middle s' → rel s s')
    {x : EStateM ε σ α} {f : α → EStateM ε σ β} (hx : StepRelates rel x)
    (hf : ∀ a, StepRelates rel (f a)) : StepRelates rel (x >>= f) where
  ok h := by
    obtain ⟨a, middle, hfirst, hnext⟩ := bind_ok_iff.mp h
    exact htrans (hx.ok hfirst) ((hf a).ok hnext)
  error h := by
    rcases bind_error_iff.mp h with hfirst | ⟨a, middle, hfirst, hnext⟩
    · exact hx.error hfirst
    · exact htrans (hx.ok hfirst) ((hf a).error hnext)

end States

end PictureTransfer
