import PictureTransfer.Event.Listener

/-!
# The roster of listeners

Listeners are told of events in the order in which they were enrolled, each
once.  Enrolling a listener that is enrolled, or dismissing one that is not,
changes nothing.

`apply` makes either change and tells whether it made a difference.

* `names_enroll`, `names_dismiss` — what the two do to the list of names;
* `deliver_cons` — tasks are delivered one after the other, and each to all
  listeners before the next.
-/

namespace PictureTransfer

/-- The listeners enrolled, in order and each once. -/
structure Roster where
  members : List Listener := []
  distinct : (members.map Listener.name).Nodup := by simp

namespace Roster

/-- The roster without listeners. -/
def empty : Roster := {}

/-- The names of the listeners in order. -/
def names (roster : Roster) : List String := roster.members.map Listener.name

/-- The count of listeners. -/
def size (roster : Roster) : Nat := roster.members.length

/-- A roster as text, which tells the count alone. -/
def shown (roster : Roster) : String :=
  "ListenerSet \x7b len: " ++ toString roster.size ++ " \x7d"

/-- The roster with a listener at its end, unless the listener is in it. -/
def enroll (listener : Listener) (roster : Roster) : Roster :=
  if h : listener.name ∈ roster.names then roster
  else
    { members := roster.members ++ [listener]
      distinct := by
        rw [List.map_append, List.nodup_append]
        refine ⟨roster.distinct, by simp, ?_⟩
        intro a ha b hb hab
        simp only [List.map_cons, List.map_nil, List.mem_singleton] at hb
        exact h (hb ▸ hab ▸ ha) }

/-- The roster without the listener of a name. -/
def dismiss (name : String) (roster : Roster) : Roster where
  members := roster.members.filter (·.name ≠ name)
  distinct := roster.distinct.sublist (List.Sublist.map _ List.filter_sublist)

/-- What is to change on a roster. -/
inductive Change where
  | add (listener : Listener)
  | remove (name : String)

/-- The name of the listener that a change is about. -/
def Change.name : Change → String
  | add listener => listener.name
  | remove name => name

/-- Makes a change, and tells whether it made a difference. -/
def apply (change : Change) (roster : Roster) : Bool × Roster :=
  match change with
  | .add listener => (listener.name ∉ roster.names, roster.enroll listener)
  | .remove name =>
      let left := roster.dismiss name
      (left.size != roster.size, left)

/-- The roster behind changes in a row. -/
def after (roster : Roster) : List Change → Roster
  | [] => roster
  | change :: changes => (roster.apply change).2.after changes

/-- Changes in a row, and of each whether it made a difference. -/
def record (roster : Roster) : List Change → List (Change × Bool)
  | [] => []
  | change :: changes =>
      (change, (roster.apply change).1) :: (roster.apply change).2.record changes

/-- The roster of the listeners in a list, the first of each name. -/
def ofList (listeners : List Listener) : Roster :=
  listeners.foldl (fun roster listener => roster.enroll listener) empty

/-- What delivering one task leaves in the journal. -/
def deliverOne (roster : Roster) (task : Task) : List Entry :=
  roster.members.flatMap fun listener => (listener.react task.notice).entries

/-- What delivering tasks in order leaves in the journal. -/
def deliver (roster : Roster) (tasks : List Task) : List Entry :=
  tasks.flatMap roster.deliverOne

theorem names_enroll (listener : Listener) (roster : Roster) :
    (roster.enroll listener).names =
      if listener.name ∈ roster.names then roster.names
      else roster.names ++ [listener.name] := by
  unfold enroll
  split
  · rfl
  · simp [names]

theorem enroll_of_mem {listener : Listener} {roster : Roster} (h : listener.name ∈ roster.names) :
    roster.enroll listener = roster :=
  dif_pos h

theorem names_dismiss (name : String) (roster : Roster) :
    (roster.dismiss name).names = roster.names.filter (· ≠ name) := by
  simp only [dismiss, names, List.filter_map]
  rfl

@[simp] theorem deliver_nil (roster : Roster) : roster.deliver [] = [] := rfl

@[simp] theorem deliver_cons (roster : Roster) (task : Task) (tasks : List Task) :
    roster.deliver (task :: tasks) = roster.deliverOne task ++ roster.deliver tasks :=
  List.flatMap_cons

@[simp] theorem deliver_append (roster : Roster) (tasks more : List Task) :
    roster.deliver (tasks ++ more) = roster.deliver tasks ++ roster.deliver more :=
  List.flatMap_append

end Roster

end PictureTransfer
