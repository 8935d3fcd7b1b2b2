import PictureTransfer.Event.Roster

/-!
# Who is on a roster, and in which order

A roster is changed by enrolling and dismissing listeners, and each change tells whether it made
a difference.  Whatever changes are made in a row, the last one that made a difference to a
listener decides: the listeners on the roster are those for which it enrolled them, and they
stand in the order of these changes.  A listener that is dismissed and enrolled again so comes
to stand last.

* `apply_unchanged`, `apply_changed` — one change is as it tells;
* `untouched_add`, `untouched_remove` — what one change does to those before it;
* `members_after` — a run of changes, on any roster;
* `mem_standing_iff` — who stands in the end;
* `kept_in_order` — all of it, for a roster that was empty.
-/

namespace PictureTransfer

namespace Roster

/-- The last change to the listener of a name that made a difference. -/
def lastChange (name : String) : List (Change × Bool) → Option Change
  | [] => none
  | (change, changed) :: later =>
      (lastChange name later).or (if changed && change.name = name then some change else none)

/-- The listeners that were enrolled by the last change that made a difference to them, in the
order of these changes. -/
def standing : List (Change × Bool) → List Listener
  | [] => []
  | (.add listener, true) :: later =>
      if (lastChange listener.name later).isNone then listener :: standing later
      else standing later
  | (.add _, false) :: later | (.remove _, _) :: later => standing later

/-- Those of some listeners to whom no change made a difference. -/
def untouched (done : List (Change × Bool)) (members : List Listener) : List Listener :=
  members.filter fun member => (lastChange member.name done).isNone

variable {roster : Roster} {listener : Listener} {name : String}

/-! ## One change -/

theorem apply_add_of_mem (h : listener.name ∈ roster.names) :
    roster.apply (.add listener) = (false, roster) := by
  simp [apply, h, enroll_of_mem h]

theorem apply_add_of_not_mem (h : listener.name ∉ roster.names) :
    roster.apply (.add listener) = (true, roster.enroll listener) := by
  simp [apply, h]

theorem members_enroll (h : listener.name ∉ roster.names) :
    (roster.enroll listener).members = roster.members ++ [listener] := by
  simp [enroll, h]

theorem members_dismiss (name : String) (roster : Roster) :
    (roster.dismiss name).members = roster.members.filter (·.name ≠ name) := rfl

theorem dismiss_of_not_mem (h : name ∉ roster.names) : roster.dismiss name = roster := by
  have hsame : roster.members.filter (·.name ≠ name) = roster.members := by
    rw [List.filter_eq_self]
    intro member hmember
    have hne : member.name ≠ name := fun heq => h (heq ▸ List.mem_map_of_mem hmember)
    simpa using hne
  cases roster
  simp only [dismiss, hsame]

/-- Who is dismissed is not counted any more. -/
theorem size_dismiss_ne_iff : (roster.dismiss name).size ≠ roster.size ↔ name ∈ roster.names := by
  constructor
  · intro hne
    refine Decidable.byContradiction fun hnot => ?_
    rw [dismiss_of_not_mem hnot] at hne
    exact hne rfl
  · intro hmem hsize
    obtain ⟨member, hmember, rfl⟩ := List.mem_map.mp hmem
    have hall := List.length_filter_eq_length_iff.mp hsize member hmember
    simp at hall

theorem apply_remove (name : String) (roster : Roster) :
    roster.apply (.remove name) = (decide (name ∈ roster.names), roster.dismiss name) := by
  refine Prod.ext ?_ rfl
  rw [Bool.eq_iff_iff, decide_eq_true_iff, ← size_dismiss_ne_iff]
  exact bne_iff_ne

/-- A change that tells of no difference made none. -/
theorem apply_unchanged {change : Change} (h : (roster.apply change).1 = false) :
    (roster.apply change).2 = roster := by
  cases change with
  | add listener =>
      by_cases hmem : listener.name ∈ roster.names
      · rw [apply_add_of_mem hmem]
      · simp [apply_add_of_not_mem hmem] at h
  | remove name =>
      rw [apply_remove] at h ⊢
      exact dismiss_of_not_mem (of_decide_eq_false h)

/-- A change that tells of a difference made one, which is seen by the count. -/
theorem apply_changed {change : Change} (h : (roster.apply change).1 = true) :
    (roster.apply change).2.size ≠ roster.size := by
  cases change with
  | add listener =>
      by_cases hmem : listener.name ∈ roster.names
      · simp [apply_add_of_mem hmem] at h
      · simp [apply_add_of_not_mem hmem, size, members_enroll hmem]
  | remove name =>
      rw [apply_remove] at h ⊢
      exact size_dismiss_ne_iff.mpr (of_decide_eq_true h)

/-! ## Changes in a row -/

/-- No difference, no trace. -/
theorem lastChange_cons_false (name : String) (change : Change) (later : List (Change × Bool)) :
    lastChange name ((change, false) :: later) = lastChange name later := by
  simp [lastChange]

theorem lastChange_cons_of_ne {change : Change} (h : change.name ≠ name)
    (changed : Bool) (later : List (Change × Bool)) :
    lastChange name ((change, changed) :: later) = lastChange name later := by
  simp [lastChange, h]

theorem lastChange_cons_self (change : Change) (later : List (Change × Bool)) :
    lastChange change.name ((change, true) :: later) =
      (lastChange change.name later).or (some change) := by
  simp [lastChange]

/-- Who is new on a roster is nobody of those before. -/
theorem untouched_add (h : listener.name ∉ roster.names) (later : List (Change × Bool)) :
    untouched ((.add listener, true) :: later) roster.members =
      untouched later roster.members := by
  apply List.filter_congr
  intro member hmember
  have hne : (Change.add listener).name ≠ member.name := by
    intro heq
    have hname : listener.name = member.name := heq
    exact h (hname ▸ List.mem_map_of_mem hmember)
  rw [lastChange_cons_of_ne hne]

/-- Who is dismissed is not untouched, and the others are as they would be without. -/
theorem untouched_remove (name : String) (later : List (Change × Bool)) (roster : Roster) :
    untouched ((.remove name, true) :: later) roster.members =
      untouched later (roster.dismiss name).members := by
  rw [untouched, untouched, members_dismiss, List.filter_filter]
  apply List.filter_congr
  intro member _
  by_cases heq : member.name = name
  · subst heq
    have hlast : lastChange member.name ((.remove member.name, true) :: later) =
        (lastChange member.name later).or (some (.remove member.name)) :=
      lastChange_cons_self (.remove member.name) later
    simp [hlast]
  · have hne : (Change.remove name).name ≠ member.name := Ne.symm heq
    rw [lastChange_cons_of_ne hne]
    simp [heq]

/-- **Who is on a roster behind changes in a row**: those who were and to whom none made a
difference, and behind them those who were enrolled last. -/
theorem members_after (roster : Roster) (changes : List Change) :
    (roster.after changes).members =
      untouched (roster.record changes) roster.members ++ standing (roster.record changes) := by
  induction changes generalizing roster with
  | nil =>
      have hall : untouched [] roster.members = roster.members :=
        List.filter_eq_self.mpr fun _ _ => rfl
      rw [record, hall, standing, List.append_nil]
      rfl
  | cons change changes ih =>
      rw [after, record, ih]
      cases change with
      | add listener =>
          by_cases hmem : listener.name ∈ roster.names
          · rw [apply_add_of_mem hmem, standing]
            simp only [untouched, lastChange_cons_false]
          · rw [apply_add_of_not_mem hmem, untouched_add hmem, members_enroll hmem, standing,
              untouched, List.filter_append, List.append_assoc]
            simp only [List.filter_cons, List.filter_nil]
            split <;> rfl
      | remove name =>
          by_cases hmem : name ∈ roster.names
          · rw [apply_remove, decide_eq_true hmem, untouched_remove, standing]
          · rw [apply_remove, decide_eq_false hmem, dismiss_of_not_mem hmem, standing]
            simp only [untouched, lastChange_cons_false]

/-- **Who stands in the end**: the listeners that the last change to them enrolled. -/
theorem mem_standing_iff {done : List (Change × Bool)} :
    listener ∈ standing done ↔ lastChange listener.name done = some (.add listener) := by
  induction done with
  | nil => simp [standing, lastChange]
  | cons first later ih =>
      obtain ⟨change, changed⟩ := first
      cases changed with
      | false =>
          rw [lastChange_cons_false, ← ih]
          cases change <;> rfl
      | true =>
          by_cases hname : change.name = listener.name
          · have hlast := lastChange_cons_self change later
            rw [hname] at hlast
            rw [hlast]
            cases change with
            | remove name =>
                rw [standing, ih]
                cases lastChange listener.name later <;> simp
            | add other =>
                have hsame : other.name = listener.name := hname
                rw [standing, hsame]
                cases hlater : lastChange listener.name later with
                | none => simp [ih, hlater, eq_comm]
                | some change => simp [ih, hlater]
          · rw [lastChange_cons_of_ne hname, ← ih]
            cases change with
            | remove name => rfl
            | add other =>
                have hne : listener ≠ other := by
                  rintro rfl
                  exact hname rfl
                rw [standing]
                split
                · simp [hne]
                · rfl

/-! ## A roster that was empty -/

/-- What changes in a row make of an empty roster, and what one more change tells. -/
structure KeptInOrder (changes : List Change) : Prop where
  /-- Nobody is on the roster twice. -/
  distinct : (empty.after changes).names.Nodup
  /-- On it are those for whom the last change that made a difference was to enroll them. -/
  mem_iff : ∀ listener, listener ∈ (empty.after changes).members ↔
    lastChange listener.name (empty.record changes) = some (.add listener)
  /-- They stand in the order of these changes. -/
  order : (empty.after changes).members = standing (empty.record changes)
  /-- Who is new is enrolled behind those who are there, and that is told. -/
  added : ∀ listener, listener.name ∉ (empty.after changes).names →
    ((empty.after changes).apply (.add listener)).1 = true ∧
      ((empty.after changes).apply (.add listener)).2.members =
        (empty.after changes).members ++ [listener]
  /-- Who is there is not enrolled again. -/
  known : ∀ listener, listener.name ∈ (empty.after changes).names →
    (empty.after changes).apply (.add listener) = (false, empty.after changes)
  /-- A change tells that it made a difference just when it did. -/
  changed_iff : ∀ change, ((empty.after changes).apply change).1 = true ↔
    ((empty.after changes).apply change).2.members ≠ (empty.after changes).members
  /-- If it tells that it made none, nothing is different. -/
  unchanged : ∀ change, ((empty.after changes).apply change).1 = false →
    ((empty.after changes).apply change).2 = empty.after changes
  /-- Who is dismissed is gone, which is told of those who were there, and the others stand as they
  stood. -/
  removed : ∀ name,
    (((empty.after changes).apply (.remove name)).1 = true ↔ name ∈ (empty.after changes).names) ∧
    (∀ listener, listener ∈ ((empty.after changes).apply (.remove name)).2.members ↔
      listener ∈ (empty.after changes).members ∧ listener.name ≠ name) ∧
    ((empty.after changes).apply (.remove name)).2.members.Sublist (empty.after changes).members
  /-- As many are counted as there are. -/
  counted : (empty.after changes).size = (empty.after changes).members.length

/-- **A roster is kept in order**, whatever changes are made to it. -/
theorem kept_in_order (changes : List Change) : KeptInOrder changes := by
  have horder : (empty.after changes).members = standing (empty.record changes) := by
    rw [members_after]
    rfl
  constructor
  case distinct => exact (empty.after changes).distinct
  case mem_iff =>
    intro listener
    rw [horder, mem_standing_iff]
  case order => exact horder
  case added =>
    intro listener hnew
    rw [apply_add_of_not_mem hnew]
    exact ⟨rfl, members_enroll hnew⟩
  case known => exact fun listener hmem => apply_add_of_mem hmem
  case changed_iff =>
    intro change
    constructor
    · intro htold hsame
      exact apply_changed htold (congrArg List.length hsame)
    · intro hdiffers
      rw [← Bool.not_eq_false]
      intro htold
      exact hdiffers (congrArg members (apply_unchanged htold))
  case unchanged => exact fun change htold => apply_unchanged htold
  case removed =>
    intro name
    rw [apply_remove, members_dismiss]
    refine ⟨decide_eq_true_iff, fun listener => ?_, List.filter_sublist⟩
    rw [List.mem_filter, decide_eq_true_iff]
  case counted => rfl

/-- Who is dismissed and enrolled again stands last, and who is enrolled twice stays in place. -/
example :
    let one : Listener := ⟨"one", fun _ => {}⟩
    let two : Listener := ⟨"two", fun _ => {}⟩
    let changes := [.add one, .add two, .add one, .remove "one", .remove "one", .add one]
    (empty.after changes).names = ["two", "one"] ∧
      (empty.record changes).map Prod.snd = [true, true, false, true, false, true] := by
  decide

end Roster

end PictureTransfer
