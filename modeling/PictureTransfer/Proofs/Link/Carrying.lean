import PictureTransfer.Link.Handle

/-!
# What a duplex carries

A duplex is two pipes, one to each end, and every act but a shutdown touches one of them at
most: a write puts bytes into the pipe to the other end, a read takes some out of the pipe to
its own.  So what has arrived at an end, and behind it what is still on its way, is what the
other end has sent, whatever else was done, with whatever handles and in whatever order.  The
other way is only felt when the duplex is shut down, which closes both pipes for good.

* `Shared.step_cases` — all that one act can do (`Shared.Step`), each time to one pipe;
* `Shared.Step.carried`, `Shared.Step.closed` — what it does to the pipe to an end;
* `Shared.carried_run`, `Shared.closed_run` — what a run of acts does to it;
* `Shared.aligned_run` — a run is the same to an end without the acts that are about the other;
* `Shared.carried_faithfully` — all of it, for a new duplex.
-/

namespace PictureTransfer

@[simp] theorem Side.other_other (side : Side) : side.other.other = side := by
  cases side <;> rfl

theorem Side.ne_other_iff {side side' : Side} : side ≠ side'.other ↔ side = side' := by
  cases side <;> cases side' <;> decide

namespace Duplex

/-- What has yet to be read at an end. -/
def queued (d : Duplex) (side : Side) : Bytes := (d.incoming side).queued

/-- The duplex with another pipe to an end. -/
def withIncoming (side : Side) (pipe : Pipe) (d : Duplex) : Duplex :=
  match side with
  | .a => { d with bToA := pipe }
  | .b => { d with aToB := pipe }

theorem incoming_withIncoming (side side' : Side) (pipe : Pipe) (d : Duplex) :
    (d.withIncoming side' pipe).incoming side = if side = side' then pipe else d.incoming side := by
  cases side <;> cases side' <;> rfl

@[simp] theorem incoming_shutdown (side : Side) (d : Duplex) :
    d.shutdown.incoming side = (d.incoming side).close := by
  cases side <;> rfl

/-- A write is one into the pipe to the other end. -/
theorem write_eq (side : Side) (bytes : Bytes) (d : Duplex) :
    d.write side bytes =
      match (d.incoming side.other).write bytes with
      | .ok pipe => .ok (d.withIncoming side.other pipe)
      | .error fault => .error fault := by
  cases side with
  | a =>
      simp only [write, incoming, Side.other]
      cases d.aToB.write bytes <;> rfl
  | b =>
      simp only [write, incoming, Side.other]
      cases d.bToA.write bytes <;> rfl

/-- A read is one from the pipe to the end. -/
theorem read_eq (side : Side) (most : Nat) (d : Duplex) :
    d.read side most =
      ((d.incoming side).read most).map fun got => (got.1, d.withIncoming side got.2) := by
  cases side <;> rfl

/-- A read at an end has to wait. -/
def Waits (d : Duplex) (side : Side) (most : Nat) : Prop :=
  most ≠ 0 ∧ d.queued side = [] ∧ (d.incoming side).closed = false

instance (d : Duplex) (side : Side) (most : Nat) : Decidable (d.Waits side most) :=
  inferInstanceAs (Decidable (_ ∧ _))

/-- The bytes that an act sent from an end: of those to be written, as many as were taken. -/
def sentBy (side : Side) : Act × Answer → Bytes
  | (⟨handle, .write bytes⟩, .wrote count) => if handle.side = side then bytes.take count else []
  | _ => []

/-- The bytes that arrived at an end with an act. -/
def arrivedBy (side : Side) : Act × Answer → Bytes
  | (act, .read bytes) => if act.handle.side = side then bytes else []
  | _ => []

/-- All that was sent from an end. -/
def sent (side : Side) (record : List (Act × Answer)) : Bytes := record.flatMap (sentBy side)

/-- All that arrived at an end. -/
def arrived (side : Side) (record : List (Act × Answer)) : Bytes := record.flatMap (arrivedBy side)

/-- An act that shut the duplex down, at whichever end. -/
def Shuts (done : Act × Answer) : Prop := done.1.deed = .shutdown ∧ done.2 = .done

/-- The duplex was shut down. -/
def WasShut (record : List (Act × Answer)) : Prop := ∃ done ∈ record, Shuts done

/-- True of an act that is about the pipe to an end, or about the duplex and its handles. -/
def Act.concerns (side : Side) (act : Act) : Bool :=
  match act.deed with
  | .write _ => act.handle.side.other = side
  | .read _ => act.handle.side = side
  | .flush | .clone | .shutdown => true

namespace Shared

variable {s : Shared} {handle : Handle}

/-- The shared duplex with another pipe to an end. -/
def withIncoming (side : Side) (pipe : Pipe) (s : Shared) : Shared :=
  { s with duplex := s.duplex.withIncoming side pipe }

/-! ## Acts on one pipe -/

theorem step_nobody {act : Act} (h : act.handle ∉ s.handles) : s.step act = (.nobody, s) :=
  if_neg h

theorem step_write (h : handle ∈ s.handles) (bytes : Bytes) :
    s.step ⟨handle, .write bytes⟩ =
      if (s.duplex.incoming handle.side.other).closed then (.broken Pipe.broken, s)
      else (.wrote bytes.length,
        s.withIncoming handle.side.other ⟨s.duplex.queued handle.side.other ++ bytes, false⟩) := by
  simp only [step, h, if_true, write_eq, Pipe.write]
  cases hclosed : (s.duplex.incoming handle.side.other).closed <;> rfl

theorem step_read (h : handle ∈ s.handles) (most : Nat) :
    s.step ⟨handle, .read most⟩ =
      if s.duplex.Waits handle.side most then (.waits, s)
      else (.read ((s.duplex.queued handle.side).take most),
        s.withIncoming handle.side ⟨(s.duplex.queued handle.side).drop most,
          (s.duplex.incoming handle.side).closed⟩) := by
  simp only [step, h, if_true, read_eq, Pipe.read, Waits, queued]
  by_cases hmost : most = 0
  · simp [hmost, withIncoming]
  · by_cases hwaits : (s.duplex.incoming handle.side).queued = [] ∧
        (s.duplex.incoming handle.side).closed = false
    · simp [hmost, hwaits]
    · have hready : ((s.duplex.incoming handle.side).queued.isEmpty &&
          !(s.duplex.incoming handle.side).closed) = false := by
        simpa [List.isEmpty_iff] using hwaits
      simp [hmost, hwaits, hready, withIncoming]

theorem step_flush (h : handle ∈ s.handles) : s.step ⟨handle, .flush⟩ = (.done, s) :=
  if_pos h

theorem step_clone (h : handle ∈ s.handles) :
    s.step ⟨handle, .clone⟩ = (.cloned ⟨handle.side, s.handles.length⟩,
      { s with handles := s.handles ++ [⟨handle.side, s.handles.length⟩] }) :=
  if_pos h

theorem step_shutdown (h : handle ∈ s.handles) :
    s.step ⟨handle, .shutdown⟩ = (.done, { s with duplex := s.duplex.shutdown }) :=
  if_pos h

/-- All that can come of a deed with a handle: the answer, and what is left. -/
inductive Step (s : Shared) (handle : Handle) : Deed → Answer → Shared → Prop
  | wrote {bytes : Bytes} (hopen : (s.duplex.incoming handle.side.other).closed = false) :
      Step s handle (.write bytes) (.wrote bytes.length)
        (s.withIncoming handle.side.other ⟨s.duplex.queued handle.side.other ++ bytes, false⟩)
  | refused {bytes : Bytes} (hclosed : (s.duplex.incoming handle.side.other).closed = true) :
      Step s handle (.write bytes) (.broken Pipe.broken) s
  | got {most : Nat} (hready : ¬ s.duplex.Waits handle.side most) :
      Step s handle (.read most) (.read ((s.duplex.queued handle.side).take most))
        (s.withIncoming handle.side ⟨(s.duplex.queued handle.side).drop most,
          (s.duplex.incoming handle.side).closed⟩)
  | waited {most : Nat} (hwaits : s.duplex.Waits handle.side most) :
      Step s handle (.read most) .waits s
  | flushed : Step s handle .flush .done s
  | cloned : Step s handle .clone (.cloned ⟨handle.side, s.handles.length⟩)
      { s with handles := s.handles ++ [⟨handle.side, s.handles.length⟩] }
  | shut : Step s handle .shutdown .done { s with duplex := s.duplex.shutdown }
  | nobody {deed : Deed} (hnobody : handle ∉ s.handles) : Step s handle deed .nobody s

/-- **What one act can do.** -/
theorem step_cases (s : Shared) (act : Act) :
    Step s act.handle act.deed (s.step act).1 (s.step act).2 := by
  obtain ⟨handle, deed⟩ := act
  by_cases h : handle ∈ s.handles
  · cases deed with
    | write bytes =>
        rw [step_write h]
        split
        · rename_i hclosed
          exact .refused hclosed
        · rename_i hopen
          exact .wrote (Bool.not_eq_true _ ▸ hopen)
    | read most =>
        rw [step_read h]
        split
        · rename_i hwaits
          exact .waited hwaits
        · rename_i hready
          exact .got hready
    | flush => exact step_flush h ▸ .flushed
    | clone => exact step_clone h ▸ .cloned
    | shutdown => exact step_shutdown h ▸ .shut
  · have hnobody : s.step ⟨handle, deed⟩ = (.nobody, s) := step_nobody h
    exact hnobody ▸ .nobody h

/-! ## One act -/

variable {deed : Deed} {answer : Answer} {s' : Shared} {side : Side}

/-- **What one act carries.**  What has arrived at an end with it, and what is queued there then,
is what was queued there before and what the other end has sent with it. -/
theorem Step.carried (h : Step s handle deed answer s') (side : Side) :
    arrivedBy side (⟨handle, deed⟩, answer) ++ s'.duplex.queued side =
      s.duplex.queued side ++ sentBy side.other (⟨handle, deed⟩, answer) := by
  cases h with
  | @wrote bytes =>
      by_cases hside : side = handle.side.other
      · subst hside
        simp [arrivedBy, sentBy, withIncoming, queued, incoming_withIncoming]
      · have hnot : handle.side ≠ side.other := by
          rw [Side.ne_other_iff]
          exact (Side.ne_other_iff.mp hside).symm
        simp [arrivedBy, sentBy, hside, hnot, withIncoming, queued, incoming_withIncoming]
  | @got most =>
      by_cases hside : side = handle.side
      · subst hside
        simp [arrivedBy, sentBy, withIncoming, queued, incoming_withIncoming]
      · simp [arrivedBy, sentBy, hside, Ne.symm hside, withIncoming, queued,
          incoming_withIncoming]
  | refused => simp [arrivedBy, sentBy]
  | waited => simp [arrivedBy, sentBy]
  | flushed => simp [arrivedBy, sentBy]
  | cloned => simp [arrivedBy, sentBy]
  | shut => simp [arrivedBy, sentBy, queued, Pipe.close]
  | nobody => simp [arrivedBy, sentBy]

/-- **What one act closes.**  The pipe to an end is closed behind it if it was closed before, or
if the act shut the duplex down. -/
theorem Step.closed (h : Step s handle deed answer s') (side : Side) :
    (s'.duplex.incoming side).closed = true ↔
      (s.duplex.incoming side).closed = true ∨ Shuts (⟨handle, deed⟩, answer) := by
  cases h with
  | wrote hopen =>
      by_cases hside : side = handle.side.other
      · subst hside
        simp [Shuts, withIncoming, incoming_withIncoming, hopen]
      · simp [Shuts, hside, withIncoming, incoming_withIncoming]
  | got =>
      by_cases hside : side = handle.side
      · subst hside
        simp [Shuts, withIncoming, incoming_withIncoming]
      · simp [Shuts, hside, withIncoming, incoming_withIncoming]
  | refused => simp [Shuts]
  | waited => simp [Shuts]
  | flushed => simp [Shuts]
  | cloned => simp [Shuts]
  | shut => simp [Shuts, Pipe.close]
  | nobody => simp [Shuts]

/-- Handles are there to stay. -/
theorem Step.handles (h : Step s handle deed answer s') : s.handles ⊆ s'.handles := by
  cases h with
  | cloned => exact List.subset_append_left ..
  | _ => exact List.Subset.refl _

/-- Two shared duplexes that are alike to those who look at one end. -/
structure Alike (side : Side) (s t : Shared) : Prop where
  handles : s.handles = t.handles
  incoming : s.duplex.incoming side = t.duplex.incoming side

theorem Alike.refl (side : Side) (s : Shared) : Alike side s s := ⟨rfl, rfl⟩

theorem Alike.trans {side : Side} {s t u : Shared} (h : Alike side s t) (h' : Alike side t u) :
    Alike side s u :=
  ⟨h.handles.trans h'.handles, h.incoming.trans h'.incoming⟩

variable {t : Shared}

/-- The same pipe to an end keeps two alike to that end. -/
theorem Alike.withIncoming (h : Alike side s t) (pipe : Pipe) :
    Alike side (s.withIncoming side pipe) (t.withIncoming side pipe) where
  handles := h.handles
  incoming := by simp [Shared.withIncoming, incoming_withIncoming]

/-- An act that is about the pipe to an end, or about the whole, comes to the same where the two
are alike. -/
theorem Alike.step (h : Alike side s t) {act : Act} (hact : act.concerns side = true) :
    (s.step act).1 = (t.step act).1 ∧ Alike side (s.step act).2 (t.step act).2 := by
  obtain ⟨handle, deed⟩ := act
  by_cases hs : handle ∈ s.handles
  · have ht : handle ∈ t.handles := h.handles ▸ hs
    cases deed with
    | write bytes =>
        obtain rfl : handle.side.other = side := of_decide_eq_true hact
        have hqueued : s.duplex.queued handle.side.other = t.duplex.queued handle.side.other :=
          congrArg Pipe.queued h.incoming
        rw [step_write hs, step_write ht, h.incoming, hqueued]
        split
        · exact ⟨rfl, h⟩
        · exact ⟨rfl, h.withIncoming _⟩
    | read most =>
        obtain rfl : handle.side = side := of_decide_eq_true hact
        have hqueued : s.duplex.queued handle.side = t.duplex.queued handle.side :=
          congrArg Pipe.queued h.incoming
        have hwaits : s.duplex.Waits handle.side most ↔ t.duplex.Waits handle.side most := by
          rw [Waits, Waits, hqueued, h.incoming]
        rw [step_read hs, step_read ht, h.incoming, hqueued]
        simp only [hwaits]
        split
        · exact ⟨rfl, h⟩
        · exact ⟨rfl, h.withIncoming _⟩
    | flush =>
        rw [step_flush hs, step_flush ht]
        exact ⟨rfl, h⟩
    | clone =>
        rw [step_clone hs, step_clone ht, h.handles]
        exact ⟨rfl, rfl, h.incoming⟩
    | shutdown =>
        rw [step_shutdown hs, step_shutdown ht]
        refine ⟨rfl, h.handles, ?_⟩
        rw [incoming_shutdown, incoming_shutdown, h.incoming]
  · have ht : handle ∉ t.handles := h.handles ▸ hs
    have hnobody : s.step ⟨handle, deed⟩ = (.nobody, s) := step_nobody hs
    have hnobody' : t.step ⟨handle, deed⟩ = (.nobody, t) := step_nobody ht
    rw [hnobody, hnobody']
    exact ⟨rfl, h⟩

/-- Any other act leaves what it was done to alike to that end. -/
theorem Step.alike (h : Step s handle deed answer s')
    (hact : Act.concerns side ⟨handle, deed⟩ = false) : Alike side s' s := by
  cases h with
  | wrote =>
      have hother : side ≠ handle.side.other := Ne.symm (of_decide_eq_false hact)
      exact ⟨rfl, by simp [Shared.withIncoming, incoming_withIncoming, hother]⟩
  | got =>
      have hother : side ≠ handle.side := Ne.symm (of_decide_eq_false hact)
      exact ⟨rfl, by simp [Shared.withIncoming, incoming_withIncoming, hother]⟩
  | refused => exact .refl side s
  | waited => exact .refl side s
  | nobody => exact .refl side s
  | flushed => exact Bool.noConfusion hact
  | cloned => exact Bool.noConfusion hact
  | shut => exact Bool.noConfusion hact

/-! ## Acts in a row -/

/-- **What a run of acts carries.** -/
theorem carried_run (s : Shared) (acts : List Act) (side : Side) :
    arrived side (s.record acts) ++ (s.after acts).duplex.queued side =
      s.duplex.queued side ++ sent side.other (s.record acts) := by
  induction acts generalizing s with
  | nil => simp [arrived, sent, record, after]
  | cons act acts ih =>
      have hstep := (step_cases s act).carried side
      have hrun := ih (s.step act).2
      simp only [arrived, sent, record, after, List.flatMap_cons] at hrun ⊢
      calc arrivedBy side (act, (s.step act).1) ++
              ((s.step act).2.record acts).flatMap (arrivedBy side) ++
              ((s.step act).2.after acts).duplex.queued side
          = arrivedBy side (act, (s.step act).1) ++ ((s.step act).2.duplex.queued side ++
              ((s.step act).2.record acts).flatMap (sentBy side.other)) := by
            rw [List.append_assoc, hrun]
        _ = s.duplex.queued side ++ (sentBy side.other (act, (s.step act).1) ++
              ((s.step act).2.record acts).flatMap (sentBy side.other)) := by
            rw [← List.append_assoc, hstep, List.append_assoc]

/-- **What a run of acts closes.** -/
theorem closed_run (s : Shared) (acts : List Act) (side : Side) :
    ((s.after acts).duplex.incoming side).closed = true ↔
      (s.duplex.incoming side).closed = true ∨ WasShut (s.record acts) := by
  induction acts generalizing s with
  | nil => simp [after, record, WasShut]
  | cons act acts ih =>
      rw [after, ih, (step_cases s act).closed side, or_assoc]
      simp [record, WasShut]

/-- **What a run of acts is to one end.**  Acts that are only about the pipe to the other end may
as well not have been done. -/
theorem aligned_run (h : Alike side s t) (acts : List Act) :
    (s.record acts).filter (fun done => done.1.concerns side) =
        t.record (acts.filter fun act => act.concerns side) ∧
      Alike side (s.after acts) (t.after (acts.filter fun act => act.concerns side)) := by
  induction acts generalizing s t with
  | nil => exact ⟨rfl, h⟩
  | cons act acts ih =>
      cases hact : act.concerns side with
      | true =>
          obtain ⟨hanswer, hnext⟩ := h.step hact
          have hrest := ih hnext
          simp only [record, after, List.filter_cons, hact, if_true]
          exact ⟨by rw [hanswer, hrest.1], hrest.2⟩
      | false =>
          have hrest := ih (((step_cases s act).alike hact).trans h)
          simpa [record, after, List.filter_cons, hact] using hrest

theorem handles_run (s : Shared) (acts : List Act) : s.handles ⊆ (s.after acts).handles := by
  induction acts generalizing s with
  | nil => exact fun _ h => h
  | cons act acts ih => exact fun _ h => ih _ ((step_cases s act).handles h)

/-! ## A new duplex -/

/-- A duplex that is open: all that is written is taken, and a read gets what is there, or waits
for something to be there. -/
structure Flows (s : Shared) : Prop where
  takes : ∀ handle ∈ s.handles, ∀ bytes,
    (s.step ⟨handle, .write bytes⟩).1 = .wrote bytes.length
  gives : ∀ handle ∈ s.handles, ∀ most,
    (s.step ⟨handle, .read most⟩).1 =
      if most ≠ 0 ∧ s.duplex.queued handle.side = [] then .waits
      else .read ((s.duplex.queued handle.side).take most)

/-- A duplex that is shut: nothing that is written is taken, and what is queued can still be
read, until reads get no bytes. -/
structure Drains (s : Shared) : Prop where
  refuses : ∀ handle ∈ s.handles, ∀ bytes,
    s.step ⟨handle, .write bytes⟩ = (.broken Pipe.broken, s)
  gives : ∀ handle ∈ s.handles, ∀ most,
    (s.step ⟨handle, .read most⟩).1 = .read ((s.duplex.queued handle.side).take most) ∧
      (s.step ⟨handle, .read most⟩).2.duplex.queued handle.side =
        (s.duplex.queued handle.side).drop most

theorem flows_of_open (h : ∀ side, (s.duplex.incoming side).closed = false) : s.Flows where
  takes handle hheld bytes := by simp [step_write hheld, h]
  gives handle hheld most := by
    have hwaits : s.duplex.Waits handle.side most ↔
        most ≠ 0 ∧ s.duplex.queued handle.side = [] := by simp [Waits, h]
    rw [step_read hheld]
    simp only [hwaits]
    split <;> rfl

theorem drains_of_closed (h : ∀ side, (s.duplex.incoming side).closed = true) : s.Drains where
  refuses handle hheld bytes := by simp [step_write hheld, h]
  gives handle hheld most := by
    have hready : ¬ s.duplex.Waits handle.side most := by simp [Waits, h]
    rw [step_read hheld, if_neg hready]
    exact ⟨rfl, by simp [withIncoming, queued, incoming_withIncoming]⟩

/-- What a new duplex has done and will do behind acts in a row. -/
structure Faithful (acts : List Act) : Prop where
  /-- Nothing is lost on the way to an end, nothing comes twice, and all comes in order. -/
  carried : ∀ side, arrived side (new.record acts) ++ (new.after acts).duplex.queued side =
    sent side.other (new.record acts)
  /-- What is done on the way to one end makes no difference to the way to the other. -/
  apart : ∀ side,
    (new.record acts).filter (fun done => done.1.concerns side) =
        new.record (acts.filter fun act => act.concerns side) ∧
      (new.after acts).duplex.incoming side =
        (new.after (acts.filter fun act => act.concerns side)).duplex.incoming side
  /-- Either end is closed just when the duplex was shut down, with whatever handle. -/
  closed_iff : ∀ side, (new.after acts).duplex.isClosed side = true ↔ WasShut (new.record acts)
  flows : ¬ WasShut (new.record acts) → (new.after acts).Flows
  drains : WasShut (new.record acts) → (new.after acts).Drains
  /-- Each end has a handle, and a handle can be cloned for the same end. -/
  held : ∀ side, Handle.first side ∈ (new.after acts).handles
  cloned : ∀ handle ∈ (new.after acts).handles, ∃ twin : Handle, twin.side = handle.side ∧
    (new.after acts).step ⟨handle, .clone⟩ =
      (.cloned twin, ⟨(new.after acts).duplex, (new.after acts).handles ++ [twin]⟩)

/-- **A duplex is faithful**, whatever is done with it. -/
theorem carried_faithfully (acts : List Act) : Faithful acts := by
  have hclosed : ∀ side, ((new.after acts).duplex.incoming side).closed = true ↔
      WasShut (new.record acts) := by
    intro side
    have hopen : (new.duplex.incoming side).closed ≠ true := by cases side <;> decide
    rw [closed_run, or_iff_right hopen]
  constructor
  case carried =>
    intro side
    have hnothing : new.duplex.queued side = [] := by cases side <;> rfl
    rw [carried_run, hnothing, List.nil_append]
  case apart =>
    intro side
    have hrun := aligned_run (.refl side new) acts
    exact ⟨hrun.1, hrun.2.incoming⟩
  case closed_iff => exact hclosed
  case flows =>
    intro hnot
    apply flows_of_open
    intro side
    rw [← Bool.not_eq_true, hclosed]
    exact hnot
  case drains =>
    intro hshut
    apply drains_of_closed
    intro side
    rw [hclosed]
    exact hshut
  case held =>
    intro side
    apply handles_run
    cases side <;> decide
  case cloned =>
    intro handle hheld
    exact ⟨⟨handle.side, (new.after acts).handles.length⟩, rfl, step_clone hheld⟩

/-- A shutdown with bytes on the way: they are still read, a clone of the handle that shut is
refused, and then there is nothing more. -/
example :
    (new.record [⟨.first .a, .write [1, 2, 3]⟩, ⟨.first .b, .read 2⟩, ⟨.first .a, .clone⟩,
        ⟨.first .b, .shutdown⟩, ⟨⟨.a, 2⟩, .write [4]⟩, ⟨.first .b, .read 9⟩,
        ⟨.first .b, .read 9⟩]).map Prod.snd =
      [.wrote 3, .read [1, 2], .cloned ⟨.a, 2⟩, .done, .broken Pipe.broken, .read [3],
        .read []] := by
  decide

end Shared

end Duplex

end PictureTransfer
