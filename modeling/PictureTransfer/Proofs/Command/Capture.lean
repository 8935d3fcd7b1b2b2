import Mathlib.Data.List.TakeWhile
import PictureTransfer.Proofs.Command.Bracket
import PictureTransfer.Proofs.Session.EventSide

/-!
# Captures

The watcher of a capture is enrolled before the capture is asked for, and whoever is enrolled is
told everything from then on.  So it makes no difference to the watch whether the responder
reports the capture complete before or behind the response that gives the capture its number: the
watch follows all that was delivered, up to the first completion with that number.

* `Watch.follow_eq` — what a watch sees in notices, whatever their order;
* `Arrival.exists_parted`, `Arrival.Parted.inTime_eq` — what arrives before a deadline;
* `Session.journal_traffic` — what is left in the journal by calls and by what arrives;
* `Session.told_run` — a watcher that is alone has been told all that was passed on;
* `Session.seen_await` — a watch sees what it would see had it waited until its time is over;
* `Command.capture_followed` — the outcome of a capture that the responder agreed to.

A capture that is to wait past all that the clock can show never comes to its watch: it breaks
down once the responder has agreed to it.
-/

namespace PictureTransfer

/-! ## What a watch sees -/

/-- The lines on the objects that notices tell of. -/
def Report.newObjects (notices : List Notice) : List String :=
  notices.filterMap fun
    | .objectAdded handle => some (newObject handle)
    | _ => none

/-- **What a watch sees** are the objects before the first completion of its capture. -/
theorem Watch.follow_eq (w : Watch) (notices : List Notice) :
    w.follow notices =
      { lines := Report.newObjects
          (notices.takeWhile fun notice => notice ≠ .captureComplete w.transactionId)
        complete := .captureComplete w.transactionId ∈ notices } := by
  induction notices with
  | nil => rfl
  | cons notice rest ih =>
      cases notice with
      | captureComplete id =>
          by_cases hid : id = w.transactionId
          · simp [follow, hid, Report.newObjects]
          · have hother : w.transactionId ≠ id := fun h => hid h.symm
            simp [follow, hid, hother, ih, Report.newObjects]
      | objectAdded handle => simp [follow, ih, Report.newObjects]
      | _ => simp [follow, ih, Report.newObjects]

/-! ## What arrives in time -/

namespace Arrival

/-- What the clock shows when the last of some arrivals is there. -/
def clock (now : Instant) (arrivals : List Arrival) : Nat :=
  arrivals.foldl (fun time arrival => time + arrival.delay) now.nanoseconds

/-- Arrivals parted at a deadline: those that are there before it, and the others. -/
structure Parted (deadline now : Instant) (arrivals early late : List Arrival) : Prop where
  parted : arrivals = early ++ late
  before : ∀ front arrival back, early = front ++ arrival :: back →
    clock now (front ++ [arrival]) < deadline.nanoseconds
  behind : ∀ front arrival back, late = front ++ arrival :: back →
    deadline.nanoseconds ≤ clock now (early ++ front ++ [arrival])

variable {deadline now : Instant} {arrivals early late : List Arrival}

/-- Time does not go back. -/
theorem le_clock (now : Instant) (arrivals : List Arrival) :
    now.nanoseconds ≤ clock now arrivals := by
  induction arrivals generalizing now with
  | nil => exact Nat.le_refl _
  | cons arrival later ih => exact Nat.le_trans (Nat.le_add_right ..) (ih _)

/-- One more arrival in time. -/
theorem Parted.cons {arrival : Arrival}
    (hearly : now.nanoseconds + arrival.delay < deadline.nanoseconds)
    (h : Parted deadline ⟨now.nanoseconds + arrival.delay⟩ arrivals early late) :
    Parted deadline now (arrival :: arrivals) (arrival :: early) late where
  parted := congrArg (List.cons arrival) h.parted
  before front last back hsplit := by
    rcases List.cons_eq_append_iff.mp hsplit with ⟨rfl, hfirst⟩ | ⟨rest, rfl, hrest⟩
    · obtain rfl := (List.cons.inj hfirst).1
      exact hearly
    · exact h.before rest last back hrest
  behind := h.behind

/-- Nothing comes in time behind what is too late. -/
theorem parted_late {arrival : Arrival} (later : List Arrival)
    (hlate : deadline.nanoseconds ≤ now.nanoseconds + arrival.delay) :
    Parted deadline now (arrival :: later) [] (arrival :: later) where
  parted := rfl
  before _ _ _ hsplit := absurd hsplit (by simp)
  behind front last back hsplit := by
    rcases List.cons_eq_append_iff.mp hsplit with ⟨rfl, hfirst⟩ | ⟨rest, rfl, -⟩
    · obtain rfl := (List.cons.inj hfirst).1
      exact hlate
    · exact Nat.le_trans hlate (le_clock ⟨now.nanoseconds + arrival.delay⟩ (rest ++ [last]))

/-- A deadline parts all arrivals. -/
theorem exists_parted (deadline now : Instant) (arrivals : List Arrival) :
    ∃ early late, Parted deadline now arrivals early late := by
  induction arrivals generalizing now with
  | nil => exact ⟨[], [], ⟨rfl, by simp, by simp⟩⟩
  | cons arrival later ih =>
      by_cases hearly : now.nanoseconds + arrival.delay < deadline.nanoseconds
      · obtain ⟨early, late, hparted⟩ := ih ⟨now.nanoseconds + arrival.delay⟩
        exact ⟨arrival :: early, late, hparted.cons hearly⟩
      · exact ⟨[], arrival :: later, parted_late later (Nat.le_of_not_lt hearly)⟩

/-- Behind an arrival in time the others are parted likewise. -/
theorem Parted.tail {arrival : Arrival}
    (h : Parted deadline now (arrival :: arrivals) (arrival :: early) late) :
    Parted deadline ⟨now.nanoseconds + arrival.delay⟩ arrivals early late where
  parted := (List.cons.inj h.parted).2
  before front last back hsplit :=
    h.before (arrival :: front) last back (congrArg (List.cons arrival) hsplit)
  behind := h.behind

/-- **What arrives in time** are the arrivals before the deadline. -/
theorem Parted.inTime_eq (h : Parted deadline now arrivals early late) :
    inTime deadline now arrivals = early.map Arrival.feed := by
  induction arrivals generalizing now early with
  | nil =>
      obtain ⟨rfl, -⟩ := List.append_eq_nil_iff.mp h.parted.symm
      rfl
  | cons arrival later ih =>
      cases early with
      | nil => exact if_neg (Nat.not_lt.mpr (h.behind [] arrival later h.parted.symm))
      | cons first rest =>
          obtain rfl : arrival = first := (List.cons.inj h.parted).1
          have hrest := ih h.tail
          exact (if_pos (h.before [] arrival rest rfl)).trans
            (congrArg (List.cons arrival.feed) hrest)

end Arrival

/-! ## What is delivered -/

/-- Where nobody is enrolled, nothing is left in the journal. -/
theorem Roster.deliver_empty (tasks : List Task) : Roster.empty.deliver tasks = [] := by
  simp [deliver, deliverOne, empty]

/-- Calls, and what the responder's side does. -/
def Move.IsTraffic : Move → Prop
  | .call _ | .feedCommand _ | .feedEvent _ => True
  | .enroll _ | .dismiss _ => False

namespace Session

/-- The tasks that the reader passes on during moves, in order. -/
def passedOf (s : Session) : List Move → List Task
  | [] => []
  | move :: moves => s.passed move ++ (s.after move).passedOf moves

/-- The notices of these. -/
def notices (s : Session) (moves : List Move) : List Notice :=
  (s.passedOf moves).map Task.notice

variable {s : Session}

theorem notices_append (s : Session) (before later : List Move) :
    s.notices (before ++ later) = s.notices before ++ (s.run before).notices later := by
  induction before generalizing s with
  | nil => rfl
  | cons move before ih =>
      have hlater := ih (s.after move)
      rw [notices, notices] at hlater
      simp only [notices, List.cons_append, passedOf, List.map_append, List.append_assoc, hlater]
      rfl

/-- A call or an arrival changes nothing about who is enrolled. -/
theorem roster_after {move : Move} (h : move.IsTraffic) :
    (s.after move).events.roster = s.events.roster := by
  cases move with
  | call call =>
      cases eventsLeft_after_call s call with
      | kept _ hevents => rw [hevents]
      | closed _ _ hevents =>
          obtain ⟨id, hevents⟩ := hevents
          rw [hevents]
          rfl
  | feedCommand | feedEvent => rfl
  | enroll | dismiss => exact h.elim

/-- **All that is passed on is delivered** to those who are enrolled, and nothing else. -/
theorem journal_traffic (h : s.Attended) {moves : List Move}
    (hmoves : ∀ move ∈ moves, move.IsTraffic) :
    (s.run moves).events.roster = s.events.roster ∧
      (s.run moves).events.journal =
        s.events.journal ++ s.events.roster.deliver (s.passedOf moves) := by
  -- By induction on the moves; between them the reader waits or has ended.
  induction moves generalizing s with
  | nil => exact ⟨rfl, (List.append_nil _).symm⟩
  | cons move moves ih =>
      have hroster : (s.after move).events.roster = s.events.roster :=
        roster_after (hmoves move List.mem_cons_self)
      obtain ⟨hlast, hjournal⟩ :=
        ih (attended_after h move) fun later hlater => hmoves later (List.mem_cons_of_mem _ hlater)
      refine ⟨hlast.trans hroster, ?_⟩
      calc ((s.after move).run moves).events.journal
          = (s.after move).events.journal ++
              s.events.roster.deliver ((s.after move).passedOf moves) := hroster ▸ hjournal
        _ = s.events.journal ++ s.events.roster.deliver (s.passedOf (move :: moves)) := by
            rw [journal_after h move, callbacks, ← Roster.deliver_eq_traces, passedOf,
              Roster.deliver_append, List.append_assoc]

/-- A session that a watcher alone listens to. -/
structure Watched (name : String) (s : Session) : Prop where
  attended : s.Attended
  members : s.events.roster.members = [.recording name]

/-- **A watcher that is alone** has been told all that was passed on. -/
theorem told_run {name : String} (h : s.Watched name) {moves : List Move}
    (hmoves : ∀ move ∈ moves, move.IsTraffic) :
    (s.run moves).events.told name = s.events.told name ++ s.notices moves ∧
      (s.run moves).Watched name := by
  obtain ⟨hroster, hjournal⟩ := journal_traffic h.attended hmoves
  refine ⟨?_, attended_run h.attended moves, hroster ▸ h.members⟩
  have hdeliver : s.events.roster.deliver (s.passedOf moves) =
      (s.notices moves).map (.told name) := by
    have hone : s.events.roster.deliverOne = fun task => [.told name task.notice] := by
      funext task
      simp [Roster.deliverOne, h.members, Listener.recording]
    rw [Roster.deliver, hone, notices, List.map_map, List.map_eq_flatMap]
    rfl
  rw [EventDesk.told, hjournal, hdeliver, List.filterMap_append, List.filterMap_map]
  exact congrArg _ (by simp)

/-- **A watch misses nothing and sees nothing else**: while it waits it sees what has been
delivered, and what comes behind the completion would have made no difference. -/
theorem seen_await {w : Watch} (h : s.Watched w.listener) (arriving : List Feed) :
    w.seen (s.await w arriving) =
      w.follow (s.events.told w.listener ++ s.notices (arriving.map .feedEvent)) := by
  induction arriving generalizing s with
  | nil => exact congrArg w.follow (List.append_nil _).symm
  | cons feed later ih =>
      obtain ⟨htold, hwatched⟩ := @told_run s _ h [.feedEvent feed] (by simp [Move.IsTraffic])
      unfold await
      split
      · rename_i hcomplete
        have hfollow := w.follow_append (s.events.told w.listener)
          (s.notices ((feed :: later).map .feedEvent))
        exact (hfollow.trans (if_pos hcomplete)).symm
      · refine (ih hwatched).trans (congrArg w.follow ?_)
        rw [htold, List.append_assoc]
        exact congrArg _ (s.notices_append [.feedEvent feed] (later.map .feedEvent)).symm

end Session

/-! ## The course of a capture -/

namespace Stage

/-- The stage with a listener enrolled. -/
def enroll (listener : Listener) (stage : Stage) : Stage :=
  { stage with session := stage.session.enroll listener }

theorem isTraffic_callMoves (c : Call) (stage : Stage) :
    ∀ move ∈ stage.callMoves c, move.IsTraffic := by
  have hfeed : ∀ {move : Move}, Session.IsFeed move → move.IsTraffic := by
    intro move h
    cases move with
    | feedCommand | feedEvent => exact trivial
    | call | enroll | dismiss => exact h.elim
  intro move hmove
  simp only [callMoves, List.mem_append, List.mem_cons] at hmove
  rcases hmove with hbefore | rfl | hbehind
  · exact hfeed (stage.isFeed_before c move hbefore)
  · exact trivial
  · exact hfeed (stage.isFeed_behind c move hbehind)

end Stage

namespace Command

variable {around : Surroundings} {responder : InitCommandAck} {opened : Stage}
  {storageId id : UInt32} {seconds : UInt64}

/-- The watch over a capture with a number. -/
def watchOver (id : UInt32) : Watch := ⟨watcher.name, id⟩

/-- What is delivered once the watcher is enrolled: what the responder reports until the capture
was asked for and answered, and then what it reports by itself. -/
def delivered (storageId : UInt32) (opened : Stage) (arrived : List Feed) : List Notice :=
  let watched := opened.enroll watcher
  let asking := Call.initiateCapture storageId 0
  watched.session.notices (watched.callMoves asking) ++
    (watched.call asking).2.session.notices (arrived.map .feedEvent)

/-- Behind a capture that the responder agreed to, whatever work there is. -/
theorem play_asked {α : Type} (more : UInt32 → Work α) {asked : Stage}
    (h : (opened.enroll watcher).call (.initiateCapture storageId 0) = (.ok id, asked)) :
    Procedure.play around (Work.perform (.enroll watcher) >>= fun _ =>
        Work.call (.initiateCapture storageId 0) >>= more).run opened =
      (more id).run.play around asked := by
  have henroll : opened.perform around (.enroll watcher) = ((), opened.enroll watcher) := rfl
  refine (Work.play_bind (Work.perform (.enroll watcher)) _ opened).trans ?_
  rw [Work.play_perform, henroll]
  refine (Work.play_bind (Work.call (.initiateCapture storageId 0)) _ _).trans ?_
  rw [Work.play_call, h]
  rfl

/-- **The work of a capture** that the responder agreed to goes on with its watch, -/
theorem play_capture {asked : Stage} {deadline : Instant}
    (h : (opened.enroll watcher).call (.initiateCapture storageId 0) = (.ok id, asked))
    (hlater : around.now.later? seconds = some deadline) :
    (work responder (capture storageId seconds)).run.play around opened =
      (watchUntil deadline id seconds).run.play around asked :=
  (play_asked (fun id => Work.deadline seconds >>= fun deadline =>
    watchUntil deadline id seconds) h).trans (Work.play_in_time hlater _ asked)

/-- unless no clock can show its deadline. -/
theorem play_capture_too_late {asked : Stage}
    (h : (opened.enroll watcher).call (.initiateCapture storageId 0) = (.ok id, asked))
    (hlater : around.now.later? seconds = none) :
    (work responder (capture storageId seconds)).run.play around opened =
      (.error .endOfTime, asked) :=
  (play_asked (fun id => Work.deadline seconds >>= fun deadline =>
    watchUntil deadline id seconds) h).trans (Work.play_too_late hlater _ asked)

/-- **The watch of a capture** comes to what it sees. -/
theorem play_watchUntil (deadline : Instant) (asked : Stage) :
    (watchUntil deadline id seconds).run.play around asked =
      let session := asked.session.await (watchOver id) (around.inTime deadline)
      let seen := (watchOver id).seen session
      let watched : Stage := { asked with session := session.dismiss watcher.name }.print seen.lines
      if seen.complete then (.ok (.ok ()), watched.print [Report.captured])
      else (.ok (.error (.noCompletion seconds)), watched) := by
  have hwatch : asked.perform around (.watch (watchOver id) deadline) =
      let session := asked.session.await (watchOver id) (around.inTime deadline)
      let seen := (watchOver id).seen session
      (seen.complete, { asked with session := session }.print seen.lines) := rfl
  refine (Work.play_bind (Work.perform (.watch (watchOver id) deadline)) _ asked).trans ?_
  rw [Work.play_perform, hwatch]
  refine (Work.play_bind (Work.perform (.dismiss watcher.name)) _ _).trans ?_
  rw [Work.play_perform]
  by_cases hcomplete : (Watch.seen (watchOver id)
      (asked.session.await (watchOver id) (around.inTime deadline))).complete = true
  · simp only [hcomplete, if_true]
    rfl
  · simp only [hcomplete]
    rfl

variable {settings : Settings} {session : Session}

/-- **Nobody listens to a session that was reached**, and nothing was noted down. -/
theorem unheard_of_reach (h : settings.reach around = .ok session) :
    session.Attended ∧ session.events.roster = .empty ∧ session.events.journal = [] := by
  obtain ⟨_, _, hconnect⟩ := (Invocation.begins_of_reach h probe).1
  obtain ⟨command, event, ack, _, rfl⟩ := Connected.opened_of_connect hconnect
  refine ⟨Session.attended_opened .., rfl, ?_⟩
  rw [Session.journal_feedEvent (Session.opened_listening ..), Session.callbacks,
    ← Roster.deliver_eq_traces]
  exact Roster.deliver_empty _

/-- **The watcher listens alone** once it is enrolled, and was told nothing before. -/
theorem watched_of_reach (h : settings.reach around = .ok session) {c : Call}
    (hopened : ((around.first session).call c).2 = opened) :
    (opened.enroll watcher).session.Watched watcher.name ∧
      (opened.enroll watcher).session.events.told watcher.name = [] := by
  obtain ⟨hattended, hroster, hjournal⟩ := unheard_of_reach h
  have hmoves : opened.session = session.run ((around.first session).callMoves c) :=
    hopened ▸ Stage.call_session c (around.first session)
  obtain ⟨hsame, hleft⟩ := Session.journal_traffic hattended
    (Stage.isTraffic_callMoves c (around.first session))
  rw [← hmoves, hroster] at hsame
  rw [← hmoves, hroster, hjournal, Roster.deliver_empty] at hleft
  have hopen : opened.session.Attended := hmoves ▸ Session.attended_run hattended _
  refine ⟨⟨Session.attended_after hopen (.enroll watcher), ?_⟩, ?_⟩
  · exact congrArg (fun roster => (roster.enroll watcher).members) hsame
  · exact congrArg (List.filterMap _) hleft

/-- **The watch follows what was delivered.** -/
theorem seen_delivered {asked : Stage}
    (hwatched : (opened.enroll watcher).session.Watched watcher.name)
    (htold : (opened.enroll watcher).session.events.told watcher.name = [])
    (h : (opened.enroll watcher).call (.initiateCapture storageId 0) = (.ok id, asked))
    (deadline : Instant) :
    (watchOver id).seen (asked.session.await (watchOver id) (around.inTime deadline)) =
      (watchOver id).follow (delivered storageId opened (around.inTime deadline)) := by
  have hsession : (opened.enroll watcher).session.run
      ((opened.enroll watcher).callMoves (.initiateCapture storageId 0)) = asked.session :=
    (Stage.call_session _ _).symm.trans (congrArg (fun called => called.2.session) h)
  obtain ⟨hbefore, hstill⟩ := Session.told_run hwatched
    (Stage.isTraffic_callMoves (.initiateCapture storageId 0) (opened.enroll watcher))
  rw [hsession] at hbefore hstill
  rw [htold, List.nil_append] at hbefore
  refine (@Session.seen_await _ (watchOver id) hstill (around.inTime deadline)).trans
    (congrArg (watchOver id).follow ?_)
  rw [delivered, h]
  exact congrArg (fun before => before ++ _) hbefore

/-- Nothing is printed until the capture was asked for. -/
theorem printed_asked {asked : Stage} {answer : Except Error Unit} {agreement : Except Error UInt32}
    (hopen : (around.first session).call (.openSession settings.openedSession) = (answer, opened))
    (hasked : (opened.enroll watcher).call (.initiateCapture storageId 0) = (agreement, asked)) :
    asked.printed = [] := by
  calc asked.printed
      = (opened.enroll watcher).printed :=
        (congrArg (fun called => called.2.printed) hasked).symm.trans (Stage.call_output _ _).1
    _ = [] := (congrArg (fun called => called.2.printed) hopen).symm.trans
        (Stage.call_output _ _).1

/-- **The outcome of a capture** that the responder agreed to is what its watch sees in what was
delivered, -/
theorem rehearse_capture (hreach : settings.reach around = .ok session)
    (hopen : (around.first session).call (.openSession settings.openedSession) = (.ok (), opened))
    (hcapture : ((opened.enroll watcher).call (.initiateCapture storageId 0)).1 = .ok id)
    {deadline : Instant} (hlater : around.now.later? seconds = some deadline) :
    let seen := (watchOver id).follow (delivered storageId opened (around.inTime deadline))
    let outcome := (Invocation.run settings (.capture storageId seconds)).rehearse around
    (outcome.exit, outcome.failure, outcome.crash, outcome.printed) =
      if seen.complete then (0, none, none, seen.lines ++ [Report.captured])
      else (1, some (.noCompletion seconds), none, seen.lines) := by
  obtain ⟨hwatched, htold⟩ := watched_of_reach hreach (congrArg Prod.snd hopen)
  rcases hasked : (opened.enroll watcher).call (.initiateCapture storageId 0) with ⟨answer, asked⟩
  obtain rfl : answer = .ok id := (congrArg Prod.fst hasked).symm.trans hcapture
  have hprinted := printed_asked hopen hasked
  have hplay := @play_capture around session.responder opened storageId id seconds asked deadline
    hasked hlater
  rw [play_watchUntil] at hplay
  dsimp only at hplay ⊢
  rw [seen_delivered hwatched htold hasked deadline] at hplay
  rw [(Invocation.begins_of_reach hreach _).2, procedure_of_needsSession rfl]
  by_cases hcomplete : ((watchOver id).follow
      (delivered storageId opened (around.inTime deadline))).complete = true
  · rw [if_pos hcomplete] at hplay ⊢
    rw [(bracket_done hopen hplay).1]
    simp only [Outcome.ofStage, (Stage.call_output _ _).1, Stage.print, hprinted, List.nil_append]
    rfl
  · rw [if_neg hcomplete] at hplay ⊢
    rw [(bracket_done hopen hplay).1]
    simp only [Outcome.ofStage, (Stage.call_output _ _).1, Stage.print, hprinted, List.nil_append]
    rfl

/-- unless no clock can show its deadline. -/
theorem rehearse_capture_too_late (hreach : settings.reach around = .ok session)
    (hopen : (around.first session).call (.openSession settings.openedSession) = (.ok (), opened))
    (hcapture : ((opened.enroll watcher).call (.initiateCapture storageId 0)).1 = .ok id)
    (hlater : around.now.later? seconds = none) :
    let outcome := (Invocation.run settings (.capture storageId seconds)).rehearse around
    outcome.exit = 101 ∧ outcome.failure = none ∧ outcome.crash = some .endOfTime ∧
      outcome.printed = [] := by
  rcases hasked : (opened.enroll watcher).call (.initiateCapture storageId 0) with ⟨answer, asked⟩
  obtain rfl : answer = .ok id := (congrArg Prod.fst hasked).symm.trans hcapture
  have hplay := @play_capture_too_late around session.responder opened storageId id seconds asked
    hasked hlater
  dsimp only
  rw [(Invocation.begins_of_reach hreach _).2, procedure_of_needsSession rfl,
    bracket_crashed hopen hplay]
  exact ⟨rfl, rfl, rfl, printed_asked hopen hasked⟩

/-- **A capture never loses its completion.**  Once the responder has agreed to a capture, the
watcher follows all that is delivered from its enrolment on and before the deadline, and the
response stands where it may among it: if the completion of this capture is delivered, the command
succeeds, and it prints the objects that were added before the first such completion, in order.  No
other completion ends the watch, and without this one the command fails.  Where no clock can show
the deadline, the command breaks down and prints nothing. -/
theorem capture_followed (hreach : settings.reach around = .ok session)
    (hopen : (around.first session).call (.openSession settings.openedSession) = (.ok (), opened))
    (hcapture : ((opened.enroll watcher).call (.initiateCapture storageId 0)).1 = .ok id) :
    let outcome := (Invocation.run settings (.capture storageId seconds)).rehearse around
    (∀ deadline, around.now.later? seconds = some deadline →
      ∃ early late, Arrival.Parted deadline around.now around.meanwhile early late ∧
        let notices := delivered storageId opened (early.map Arrival.feed)
        outcome.crash = none ∧
        (.captureComplete id ∈ notices →
          outcome.exit = 0 ∧ outcome.failure = none ∧
            outcome.printed =
              Report.newObjects (notices.takeWhile fun notice => notice ≠ .captureComplete id) ++
                [Report.captured]) ∧
        (.captureComplete id ∉ notices →
          outcome.exit = 1 ∧ outcome.failure = some (.noCompletion seconds) ∧
            outcome.printed = Report.newObjects notices)) ∧
    (around.now.later? seconds = none →
      outcome.exit = 101 ∧ outcome.failure = none ∧ outcome.crash = some .endOfTime ∧
        outcome.printed = []) := by
  refine ⟨fun deadline hlater => ?_, fun hlater => ?_⟩
  · have houtcome := rehearse_capture hreach hopen hcapture hlater
    obtain ⟨early, late, hparted⟩ :=
      Arrival.exists_parted deadline around.now around.meanwhile
    refine ⟨early, late, hparted, ?_⟩
    dsimp only
    rw [Watch.follow_eq, Surroundings.inTime, hparted.inTime_eq] at houtcome
    by_cases hmem : .captureComplete id ∈ delivered storageId opened (early.map Arrival.feed)
    · have hdone := houtcome.trans (if_pos (decide_eq_true hmem))
      obtain ⟨hexit, hrest⟩ := Prod.mk.inj hdone
      obtain ⟨hfailure, hrest⟩ := Prod.mk.inj hrest
      obtain ⟨hcrash, hprinted⟩ := Prod.mk.inj hrest
      exact ⟨hcrash, fun _ => ⟨hexit, hfailure, hprinted⟩, fun hnot => absurd hmem hnot⟩
    · have hnone := houtcome.trans (if_neg fun hcomplete => hmem (of_decide_eq_true hcomplete))
      obtain ⟨hexit, hrest⟩ := Prod.mk.inj hnone
      obtain ⟨hfailure, hrest⟩ := Prod.mk.inj hrest
      obtain ⟨hcrash, hprinted⟩ := Prod.mk.inj hrest
      refine ⟨hcrash, fun hin => absurd hin hmem, fun _ => ⟨hexit, hfailure, ?_⟩⟩
      refine hprinted.trans (congrArg Report.newObjects ?_)
      refine List.takeWhile_eq_self_iff.mpr fun notice hnotice => ?_
      exact decide_eq_true fun hsame => hmem (hsame ▸ hnotice)
  · exact rehearse_capture_too_late hreach hopen hcapture hlater

/-- The packet of an event on a transaction, with a parameter or without. -/
def reported (code : UInt16) (transactionId : UInt32) (param : Option UInt32) : Bytes :=
  (Body.toPacket .event ⟨⟨code⟩, transactionId, param.toList, by cases param <;> simp⟩).toBytes

/-- A responder that agrees to a capture, having reported an object and that another capture is
complete.  A second later it reports that this one is, and one more object at once; and it reports
yet another when ten seconds are over. -/
def obliging : Surroundings :=
  { replying
      [{ command := agreed 1 },
        { event := reported 0x4002 2 (some 8192) ++ reported 0x400D 1 none
          command := agreed 2 }] with
    meanwhile :=
      [{ delay := 1000000000, feed := { bytes := reported 0x400D 2 none } },
        { feed := { bytes := reported 0x4002 2 (some 8193) } },
        { delay := 9000000000, feed := { bytes := reported 0x4002 2 (some 8194) } }] }

/-- The object that comes after the completion is not told about. -/
theorem capture_followed_obliging :
    ∃ session opened deadline early late, Settings.reach {} obliging = .ok session ∧
      (obliging.first session).call (.openSession 1) = (.ok (), opened) ∧
      ((opened.enroll watcher).call (.initiateCapture 0 0)).1 = .ok 2 ∧
      obliging.now.later? 10 = some deadline ∧
      Arrival.Parted deadline obliging.now obliging.meanwhile early late ∧
      delivered 0 opened (early.map Arrival.feed) =
        [.objectAdded 8192, .captureComplete 1, .captureComplete 2, .objectAdded 8193] ∧
      ((Invocation.run {} (.capture 0 10)).rehearse obliging).exit = 0 ∧
      ((Invocation.run {} (.capture 0 10)).rehearse obliging).printed =
        [Report.newObject 8192, Report.captured] := by
  have hcourse : (match Settings.reach {} obliging with
      | .error _ => false
      | .ok session =>
          match (obliging.first session).call (.openSession 1) with
          | (.error _, _) => false
          | (.ok _, opened) =>
              match ((opened.enroll watcher).call (.initiateCapture 0 0)).1 with
              | .error _ => false
              | .ok id => decide (id = 2 ∧
                  delivered 0 opened
                      (Arrival.inTime ⟨10000000000⟩ obliging.now obliging.meanwhile) =
                    [.objectAdded 8192, .captureComplete 1, .captureComplete 2,
                      .objectAdded 8193])) = true := by decide +kernel
  have hlater : obliging.now.later? 10 = some ⟨10000000000⟩ := by decide
  split at hcourse
  · exact absurd hcourse (by decide)
  · rename_i session hreach
    split at hcourse
    · exact absurd hcourse (by decide)
    · rename_i opened hopen
      split at hcourse
      · exact absurd hcourse (by decide)
      · rename_i id hcapture
        obtain ⟨rfl, hdelivered⟩ := of_decide_eq_true hcourse
        obtain ⟨early, late, hparted, -, hcomplete, -⟩ := (@capture_followed obliging opened 0 2
          10 {} session hreach hopen hcapture).1 ⟨10000000000⟩ hlater
        rw [hparted.inTime_eq] at hdelivered
        have hmem : .captureComplete 2 ∈ delivered 0 opened (early.map Arrival.feed) := by
          rw [hdelivered]
          decide
        obtain ⟨hexit, -, hprinted⟩ := hcomplete hmem
        rw [hdelivered] at hprinted
        exact ⟨session, opened, _, early, late, hreach, hopen, hcapture, hlater, hparted,
          hdelivered, hexit, hprinted⟩

end Command

end PictureTransfer
