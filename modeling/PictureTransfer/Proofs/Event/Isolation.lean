import Mathlib.Data.List.Forall2
import PictureTransfer.Event.Roster
import PictureTransfer.Proofs.Outcome

/-!
# No listener comes between another and its notices

Tasks are dispatched one after the other, each to all listeners in the order in which they
were enrolled.  A listener may break down whenever it is told something; that ends what it
was doing, and nothing else, so the loop goes on with the next listener.  `Roster.dispatch`
is this loop, step by step, with listeners that remember what they were told before and
behave in any manner.  It comes to `Roster.deliver`, which has no loop and no breakdowns.

* `Listener.attend_eq` — for each task a listener is told one thing, also where an event is
  not what its notice needs;
* `Roster.dispatch_eq` — the whole loop: who is told what, and what each does with it;
* `Roster.filter_occasions` — what a listener is told is what it would be told alone;
* `Roster.dispatch_isolated` — who is told what does not depend on who breaks down, and a
  breakdown costs no more than the rest of what the listener was doing.
-/

namespace PictureTransfer

/-- Who is told what of tasks in a row: every listener of each in its turn, whatever
becomes of it. -/
def Roster.calls (roster : Roster) (tasks : List Task) : List (Listener × Notice) :=
  tasks.flatMap fun task => roster.members.map fun listener => (listener, task.notice)

theorem Roster.calls_append (roster : Roster) (tasks more : List Task) :
    roster.calls (tasks ++ more) = roster.calls tasks ++ roster.calls more :=
  List.flatMap_append

/-- What listeners leave in the journal when they are told. -/
def Listener.traces (calls : List (Listener × Notice)) : List Entry :=
  calls.flatMap fun call => (call.1.react call.2).entries

theorem Roster.deliver_eq_traces (roster : Roster) (tasks : List Task) :
    roster.deliver tasks = Listener.traces (roster.calls tasks) := by
  simp only [Roster.deliver, Listener.traces, Roster.calls, List.flatMap_assoc, List.flatMap_map]
  rfl

/-- A name is on a roster once at most. -/
theorem Roster.countP_name_le_one (roster : Roster) (name : String) :
    roster.members.countP (fun listener => listener.name = name) ≤ 1 := by
  have hcount := List.nodup_iff_count.mp roster.distinct name
  rwa [List.count, List.countP_map] at hcount

/-- A listener was told something, and did something with it. -/
structure Told where
  listener : Listener
  notice : Notice
  reaction : Reaction

/-- What each listener does with a notice, given what it was told before. -/
abbrev Manner := Listener → List Notice → Notice → Reaction

/-- A step of a delivery: it may break down, and leaves the record either way. -/
abbrev DeliveryM := EStateM Unit (List Told)

namespace Listener

/-- The manner in which nobody remembers anything. -/
def plain : Manner := fun listener _ notice => listener.react notice

/-- The part of a record that is about a listener. -/
def share (listener : Listener) (record : List Told) : List Told :=
  record.filter fun told => told.listener.name = listener.name

/-- Tells a listener something. -/
def tell (manner : Manner) (notice : Notice) (listener : Listener) : DeliveryM Unit :=
  fun record =>
    let reaction := manner listener ((listener.share record).map Told.notice) notice
    let told : Told := ⟨listener, notice, reaction⟩
    if reaction.broken then .error () (record ++ [told]) else .ok () (record ++ [told])

/-- Tells a listener of an event, unless the event is not what its notice needs. -/
def hear (manner : Manner) (event : Event) (listener : Listener) :
    DeliveryM (Except Violation Unit) :=
  match event.notice with
  | .ok notice => .ok <$> listener.tell manner notice
  | .error violation => pure (.error violation)

/-- Tells a listener of a task: of an event, or of what is wrong with it, or of an error. -/
def attend (manner : Manner) (task : Task) (listener : Listener) : DeliveryM Unit :=
  match task with
  | .event event => do
      match ← listener.hear manner event with
      | .ok () => pure ()
      | .error violation => listener.tell manner (.error (.violation violation))
  | .failure cause => listener.tell manner (.error cause)

end Listener

/-- Tells all listeners of tasks, whoever breaks down. -/
def Roster.dispatch (manner : Manner) (tasks : List Task) (roster : Roster) : DeliveryM Unit :=
  tasks.forM fun task => roster.members.forM fun listener =>
    try listener.attend manner task catch _ => pure ()

/-- An occasion on which a listener is told something, and what it was told before. -/
structure Occasion where
  listener : Listener
  earlier : List Notice
  notice : Notice

/-- What came of an occasion. -/
def Occasion.told (manner : Manner) (o : Occasion) : Told :=
  ⟨o.listener, o.notice, manner o.listener o.earlier o.notice⟩

/-- The occasions of tasks, behind earlier ones. -/
def Roster.occasions (roster : Roster) (earlier : List Notice) : List Task → List Occasion
  | [] => []
  | task :: tasks =>
      (roster.members.map fun listener => ⟨listener, earlier, task.notice⟩) ++
        roster.occasions (earlier ++ [task.notice]) tasks

namespace Listener

variable {manner : Manner} {listener : Listener} {record : List Told}

theorem share_append (listener : Listener) (record more : List Told) :
    listener.share (record ++ more) = listener.share record ++ listener.share more :=
  List.filter_append ..

/-- **One thing for each task.**  A listener is told of an event, or else of its fault. -/
theorem attend_eq (manner : Manner) (task : Task) (listener : Listener) :
    listener.attend manner task = listener.tell manner task.notice := by
  cases task with
  | failure cause => rfl
  | event event =>
      simp only [attend, hear, Task.notice]
      cases event.notice with
      | error violation => rfl
      | ok notice =>
          funext record
          cases htell : listener.tell manner notice record with
          | ok u record' => exact bind_of_ok (map_ok_iff.mpr ⟨u, htell, rfl⟩) _
          | error u record' => exact bind_of_error (map_error_iff.mpr htell) _

/-- Whether it breaks down or not, it was told. -/
theorem attend_caught (manner : Manner) (task : Task) (listener : Listener)
    (record : List Told) :
    (try listener.attend manner task catch _ => pure () : DeliveryM Unit) record =
      .ok () (record ++ [Occasion.told manner
        ⟨listener, (listener.share record).map Told.notice, task.notice⟩]) := by
  have hcaught : ∀ x : DeliveryM Unit, (try x catch _ => pure () : DeliveryM Unit) record =
      .ok () (stateOf (x record)) := by
    intro x
    simp only [tryCatch, tryCatchThe, MonadExceptOf.tryCatch, EStateM.tryCatch]
    cases x record with
    | ok => rfl
    | error => rfl
  rw [hcaught, attend_eq, tell]
  split
  · rfl
  · rfl

/-- What another listener is told is not in its share. -/
theorem share_others {others : List Listener} (h : listener.name ∉ others.map Listener.name)
    (earlier : List Notice) (notice : Notice) :
    listener.share (others.map fun other =>
      Occasion.told manner ⟨other, earlier, notice⟩) = [] := by
  rw [share, List.filter_eq_nil_iff]
  intro told htold
  obtain ⟨other, hother, rfl⟩ := List.mem_map.mp htold
  have hne : other.name ≠ listener.name := fun hsame =>
    h (hsame ▸ List.mem_map_of_mem hother)
  exact hne ∘ of_decide_eq_true

/-- **All listeners are told of one task**, each behind what it was told before. -/
theorem forM_attend {listeners : List Listener} {earlier : List Notice}
    (hnames : (listeners.map Listener.name).Nodup)
    (hearlier : ∀ listener ∈ listeners, (listener.share record).map Told.notice = earlier)
    (task : Task) :
    (listeners.forM fun listener =>
        (try listener.attend manner task catch _ => pure () : DeliveryM Unit)) record =
      .ok () (record ++ listeners.map fun listener =>
        Occasion.told manner ⟨listener, earlier, task.notice⟩) := by
  -- By induction on the listeners that are still to come, none of which is told meanwhile.
  induction listeners generalizing record with
  | nil => simp [pure, EStateM.pure]
  | cons first others ih =>
      obtain ⟨hfirst, hothers⟩ := List.nodup_cons.mp hnames
      have htold := attend_caught manner task first record
      rw [hearlier first List.mem_cons_self] at htold
      refine (bind_of_ok htold _).trans ((ih hothers ?_).trans ?_)
      · intro listener hlistener
        have hother : listener.name ∉ [first].map Listener.name := by
          simpa using fun hsame : listener.name = first.name =>
            hfirst (hsame ▸ List.mem_map_of_mem hlistener)
        have hnothing : listener.share [Occasion.told manner ⟨first, earlier, task.notice⟩] = [] :=
          share_others hother earlier task.notice
        rw [share_append, hnothing, List.append_nil]
        exact hearlier listener (List.mem_cons_of_mem _ hlistener)
      · rw [List.append_assoc]
        rfl

end Listener

namespace Roster

variable {roster : Roster} {manner faltering : Manner} {listener : Listener}

/-- A name is that of one listener. -/
theorem filter_name (h : listener ∈ roster.members) :
    roster.members.filter (fun other => other.name = listener.name) = [listener] := by
  have hmost := roster.countP_name_le_one listener.name
  rw [List.countP_eq_length_filter] at hmost
  have hmem : listener ∈ roster.members.filter fun other => other.name = listener.name :=
    List.mem_filter.mpr ⟨h, decide_eq_true rfl⟩
  obtain ⟨other, hother⟩ :=
    List.length_eq_one_iff.mp (Nat.le_antisymm hmost (List.length_pos_of_mem hmem))
  rw [hother] at hmem ⊢
  rw [List.mem_singleton.mp hmem]

/-- What a listener is told of one task is its share of that task. -/
theorem share_told (h : listener ∈ roster.members) (earlier : List Notice) (notice : Notice) :
    listener.share (roster.members.map fun other =>
      Occasion.told manner ⟨other, earlier, notice⟩) =
        [Occasion.told manner ⟨listener, earlier, notice⟩] := by
  rw [Listener.share, List.filter_map]
  exact congrArg (List.map _) (filter_name h)

/-- **The whole loop**, behind what was told before: nobody breaks it off. -/
theorem dispatch_eq {earlier : List Notice} {record : List Told}
    (hearlier : ∀ listener ∈ roster.members,
      (listener.share record).map Told.notice = earlier) (tasks : List Task) :
    roster.dispatch manner tasks record =
      .ok () (record ++ (roster.occasions earlier tasks).map (Occasion.told manner)) := by
  induction tasks generalizing record earlier with
  | nil => simp [dispatch, occasions, pure, EStateM.pure]
  | cons task tasks ih =>
      refine (bind_of_ok (Listener.forM_attend roster.distinct hearlier task) _).trans
        ((@ih (earlier ++ [task.notice]) _ ?_).trans ?_)
      · intro listener hlistener
        rw [Listener.share_append, share_told hlistener, List.map_append,
          hearlier listener hlistener]
        rfl
      · rw [occasions, List.map_append, List.map_map, List.append_assoc]
        rfl

/-- Who is told what, on each occasion. -/
theorem occasions_calls (roster : Roster) (earlier : List Notice) (tasks : List Task) :
    (roster.occasions earlier tasks).map (fun o => (o.listener, o.notice)) =
      roster.calls tasks := by
  induction tasks generalizing earlier with
  | nil => rfl
  | cons task tasks ih =>
      rw [occasions, List.map_append, List.map_map, ih]
      rfl

/-- **As if alone.**  The occasions of a listener are those of a roster that has no other. -/
theorem filter_occasions (h : listener ∈ roster.members) (earlier : List Notice)
    (tasks : List Task) :
    (roster.occasions earlier tasks).filter (fun o => o.listener.name = listener.name) =
      (ofList [listener]).occasions earlier tasks := by
  induction tasks generalizing earlier with
  | nil => rfl
  | cons task tasks ih =>
      have hone : ((fun o : Occasion => decide (o.listener.name = listener.name)) ∘
          fun other => ⟨other, earlier, task.notice⟩) =
          fun other => decide (other.name = listener.name) := rfl
      rw [occasions, List.filter_append, List.filter_map, hone, filter_name h, ih]
      rfl

/-- On a roster that has no other, a listener is told one thing for each task. -/
theorem occasions_alone (listener : Listener) (earlier : List Notice) (tasks : List Task) :
    ((ofList [listener]).occasions earlier tasks).map Occasion.notice =
      tasks.map Task.notice := by
  induction tasks generalizing earlier with
  | nil => rfl
  | cons task tasks ih => exact congrArg (List.cons task.notice) (ih _)

/-- What listeners leave that remember nothing. -/
theorem entries_plain (roster : Roster) (tasks : List Task) :
    (((roster.occasions [] tasks).map (Occasion.told Listener.plain)).flatMap
      fun told => told.reaction.entries) = roster.deliver tasks := by
  rw [deliver_eq_traces, ← occasions_calls roster [], Listener.traces, List.flatMap_map,
    List.flatMap_map]
  rfl

/-- No listener comes between another and its notices: they are told task by task, and of each
task in the order in which they were enrolled; of each task, each of them is told one thing;
and each is told, and does, what it would if it were the only one. -/
structure Isolated (roster : Roster) (manner : Manner) (tasks : List Task)
    (record : List Told) : Prop where
  order : record.map (fun told => (told.listener, told.notice)) = roster.calls tasks
  once : ∀ listener ∈ roster.members,
    (listener.share record).map Told.notice = tasks.map Task.notice
  alone : ∀ listener ∈ roster.members,
    (ofList [listener]).dispatch manner tasks [] = .ok () (listener.share record)

theorem isolated_occasions (roster : Roster) (manner : Manner) (tasks : List Task) :
    roster.Isolated manner tasks ((roster.occasions [] tasks).map (Occasion.told manner)) := by
  have hshare : ∀ listener ∈ roster.members,
      listener.share ((roster.occasions [] tasks).map (Occasion.told manner)) =
        ((ofList [listener]).occasions [] tasks).map (Occasion.told manner) := by
    intro listener hlistener
    rw [Listener.share, List.filter_map, ← filter_occasions hlistener]
    rfl
  refine ⟨?_, fun listener hlistener => ?_, fun listener hlistener => ?_⟩
  · rw [← occasions_calls roster [], List.map_map]
    rfl
  · rw [hshare listener hlistener, ← occasions_alone listener [], List.map_map]
    rfl
  · rw [hshare listener hlistener, dispatch_eq (fun _ _ => rfl), List.nil_append]

end Roster

/-- In the second manner listeners do as in the first, but may break down, and then leave only
a front part of what they would have left. -/
def Manner.Falters (manner faltering : Manner) : Prop :=
  ∀ listener earlier notice, faltering listener earlier notice = manner listener earlier notice ∨
    (faltering listener earlier notice).broken = true ∧
      (faltering listener earlier notice).entries <+: (manner listener earlier notice).entries

/-- The same listener was told the same, and did the same with it, or broke down over it. -/
inductive Told.CutShort : Told → Told → Prop where
  | kept (told : Told) : CutShort told told
  | broken (listener : Listener) (notice : Notice) {reaction cut : Reaction}
      (hbroken : cut.broken = true) (hpart : cut.entries <+: reaction.entries) :
      CutShort ⟨listener, notice, reaction⟩ ⟨listener, notice, cut⟩

namespace Roster

/-- **No listener comes between another and its notices.**  All tasks are dispatched to all
listeners, in whatever manner these behave.  Where listeners break down that would not
otherwise, all of them are told the same in the same order, and what is lost is the rest of
what those listeners were doing.  What is left in the journal, where the listeners remember
nothing, is what `deliver` says. -/
theorem dispatch_isolated (roster : Roster) (tasks : List Task) :
    (∀ manner, ∃ record, roster.dispatch manner tasks [] = .ok () record ∧
      roster.Isolated manner tasks record ∧
      ∀ faltering, Manner.Falters manner faltering →
        ∃ cut, roster.dispatch faltering tasks [] = .ok () cut ∧
          List.Forall₂ Told.CutShort record cut) ∧
    ∃ record, roster.dispatch Listener.plain tasks [] = .ok () record ∧
      (record.flatMap fun told => told.reaction.entries) = roster.deliver tasks := by
  have hdispatch : ∀ manner, roster.dispatch manner tasks [] =
      .ok () ((roster.occasions [] tasks).map (Occasion.told manner)) := fun manner => by
    rw [dispatch_eq (fun _ _ => rfl), List.nil_append]
  refine ⟨fun manner => ⟨_, hdispatch manner, isolated_occasions roster manner tasks, ?_⟩,
    _, hdispatch _, entries_plain roster tasks⟩
  intro faltering hfalters
  refine ⟨_, hdispatch faltering, ?_⟩
  rw [List.forall₂_map_left_iff, List.forall₂_map_right_iff, List.forall₂_same]
  intro o _
  rcases hfalters o.listener o.earlier o.notice with hsame | ⟨hbroken, hpart⟩
  · rw [Occasion.told, Occasion.told, hsame]
    exact .kept _
  · exact .broken _ _ hbroken hpart

/-- A listener that breaks down each time, and one behind it that does not. -/
def displayAndLog : Roster := .ofList [.breaking "display", .recording "log"]

/-- An event that lacks the handle of its object, and an error of the connection. -/
def faults : List Task :=
  [.event ⟨⟨0x4002⟩, 1, 0, ⟨[], by decide⟩⟩, .failure (.violation (.invalidLength 3))]

/-- The second listener is told of both, whether the first breaks down or not. -/
theorem dispatch_isolated_breaking :
    Listener.recording "log" ∈ displayAndLog.members ∧
      Manner.Falters (fun listener _ notice => ⟨(listener.react notice).entries, false⟩)
        Listener.plain ∧
      ∃ record cut,
        displayAndLog.dispatch (fun listener _ notice => ⟨(listener.react notice).entries, false⟩)
          faults [] = .ok () record ∧
        displayAndLog.dispatch Listener.plain faults [] = .ok () cut ∧
        List.Forall₂ Told.CutShort record cut ∧
        ((Listener.recording "log").share record).map Told.notice =
          [.error (.violation (.missingEventParameter ⟨0x4002⟩ 0)),
            .error (.violation (.invalidLength 3))] := by
  have hlog : Listener.recording "log" ∈ displayAndLog.members :=
    List.mem_cons_of_mem _ List.mem_cons_self
  have hfalters : Manner.Falters
      (fun listener _ notice => ⟨(listener.react notice).entries, false⟩) Listener.plain := by
    intro listener _ notice
    cases hbroken : (listener.react notice).broken with
    | true => exact .inr ⟨hbroken, List.prefix_rfl⟩
    | false => exact .inl (by rw [Listener.plain, ← hbroken])
  obtain ⟨record, hrecord, hisolated, hcut⟩ := (dispatch_isolated displayAndLog faults).1 _
  obtain ⟨cut, hdispatch, hsame⟩ := hcut _ hfalters
  exact ⟨hlog, hfalters, record, cut, hrecord, hdispatch, hsame, hisolated.once _ hlog⟩

end Roster

end PictureTransfer
