import PictureTransfer.Proofs.Session.Closing
import PictureTransfer.Proofs.Session.EventSide
import PictureTransfer.Proofs.Session.NoCrossTalk

/-!
# The last report on the event connection

Whatever happens to a session, its listeners are told once at most that its event
connection can deliver nothing more: when the line first breaks off while the session is
open.  Those that are enrolled then are told, after everything else that they are told, and
from then on nobody is told anything and nothing is sent on the connection.  A session that
is closed before is closed without a word.

* `Session.BreaksOffAt`, `Session.HasBrokenOff` — the moment, and that it has passed;
* `Session.LastReport` — what the listeners are told then;
* `Session.standing_after`, `Session.standing_run` — where a session stands, after one move and
  after a run;
* `Session.ReportedAt.of_standing` — what is told with a move follows from it;
* `Session.reported_once` — the whole life of any session that was connected.
-/

namespace PictureTransfer

namespace Session

/-- With this move the event line of an open session breaks off. -/
def BreaksOffAt (s : Session) : Move → Prop
  | .feedEvent feed => s.phase ≠ .closed ∧ (s.events.channel.line.feed feed).BreaksOff
  | _ => False

/-- During some moves, the event line broke off while the session was open. -/
def HasBrokenOff (s : Session) : List Move → Prop
  | [] => False
  | move :: moves => s.BreaksOffAt move ∨ (s.after move).HasBrokenOff moves

/-- All listeners that are enrolled are told, behind whatever else, that nothing more can
be delivered. -/
def LastReport (s : Session) (move : Move) : Prop :=
  ∃ told e, e.isFatal = true ∧ (∀ call ∈ told, call.2.isFatal = false) ∧
    s.callbacks move =
      told ++ s.events.roster.members.map fun listener => (listener, .error e)

/-- Nobody is told that nothing more can be delivered. -/
def NoLastReport (s : Session) (move : Move) : Prop :=
  ∀ call ∈ s.callbacks move, call.2.isFatal = false

/-- What is told with a move, where `broken` says that the event line broke off before: all
listeners get the last report with the move that breaks the line off first, and nobody gets one
with any other move; and no call has anybody told anything. -/
structure ReportedAt (broken : Prop) (s : Session) (move : Move) : Prop where
  first : s.BreaksOffAt move → ¬ broken → s.LastReport move
  only : ¬ s.BreaksOffAt move ∨ broken → s.NoLastReport move
  call : ∀ call, move = .call call → s.callbacks move = []

/-- From a session on, through a life of moves: the last report is made when the event line
first breaks off while the session is open, and at no other moment; each listener gets one at
most; and after that moment, or once the session is closed, nobody is told anything and nothing
is sent. -/
structure ReportedOnce (s : Session) (life : List Move) : Prop where
  moments : ∀ before move later, life = before ++ move :: later →
    ReportedAt (s.HasBrokenOff before) (s.run before) move
  once : ∀ name,
    (s.callbacksOf life).countP (fun call => call.1.name = name && call.2.isFatal) ≤ 1
  silence : ∀ before later, life = before ++ later →
    s.HasBrokenOff before ∨ (s.run before).phase = .closed →
      (s.run before).callbacksOf later = [] ∧ Silent (s.run before) ((s.run before).run later)

/-- Where a session stands, as far as its last report goes: its reader waits, and the line has
not broken off, or it has ended, since the line broke off or the session was closed. -/
inductive Standing (broken : Prop) (s : Session) : Prop where
  | going (waiting : s.Waiting) (hnot : ¬ broken)
  | finished (ended : s.events.channel.ended = true) (why : broken ∨ s.phase = .closed)

variable {s : Session} {broken : Prop}

theorem callbacks_of_ended (h : s.events.channel.ended = true) (move : Move) :
    s.callbacks move = [] := by
  rw [callbacks, (after_ended h move).1]
  rfl

theorem callbacks_call (h : s.Attended) (call : Call) : s.callbacks (.call call) = [] := by
  rw [callbacks, passed_call h call]
  rfl

theorem noLastReport_of_nil {move : Move} (h : s.callbacks move = []) : s.NoLastReport move := by
  rw [NoLastReport, h]
  simp

theorem calls_nonfatal {roster : Roster} {tasks : List Task}
    (h : ∀ task ∈ tasks, task.isFatal = false) :
    ∀ call ∈ roster.calls tasks, call.2.isFatal = false := by
  intro call hcall
  obtain ⟨task, htask, hmember⟩ := List.mem_flatMap.mp hcall
  obtain ⟨listener, _, rfl⟩ := List.mem_map.mp hmember
  exact h task htask

/-- Where the line goes on, nothing fatal is told. -/
theorem noLastReport_of_goes (h : s.Listening) {feed : Feed}
    (hgoes : ¬ (s.events.channel.line.feed feed).BreaksOff) :
    s.NoLastReport (.feedEvent feed) := by
  have htold := EventChannel.readOn_told s.sessionId (s.events.channel.line.feed feed)
  refine calls_nonfatal ?_
  rw [(feedEvent_events h feed).1]
  refine htold.of_going ?_
  rw [← Bool.not_eq_true, EventChannel.readOn_ended_iff]
  exact hgoes

/-- Where the line breaks off, it is told, and last. -/
theorem lastReport_of_breaksOff (h : s.Listening) {feed : Feed}
    (hbreaks : (s.events.channel.line.feed feed).BreaksOff) :
    s.LastReport (.feedEvent feed) := by
  have hread := EventChannel.readOn_told s.sessionId (s.events.channel.line.feed feed)
  obtain ⟨told, e, htasks, htold, he⟩ := hread.of_ended (EventChannel.readOn_ended_iff.mpr hbreaks)
  refine ⟨s.events.roster.calls told, e, he, calls_nonfatal htold, ?_⟩
  rw [callbacks, (feedEvent_events h feed).1, htasks, Roster.calls_append]
  simp [Roster.calls, Task.notice]

/-- Each listener gets a last report once. -/
theorem LastReport.once {move : Move} (h : s.LastReport move) (name : String) :
    (s.callbacks move).countP (fun call => call.1.name = name && call.2.isFatal) ≤ 1 := by
  obtain ⟨told, e, he, htold, hcallbacks⟩ := h
  have hzero : told.countP (fun call => call.1.name = name && call.2.isFatal) = 0 :=
    List.countP_eq_zero.mpr fun call hmem => by simp [htold call hmem]
  have hlast : (s.events.roster.members.map fun listener => (listener, Notice.error e)).countP
      (fun call => call.1.name = name && call.2.isFatal) =
      s.events.roster.members.countP fun listener => listener.name = name := by
    rw [List.countP_map]
    refine List.countP_congr fun listener _ => ?_
    simp [Notice.isFatal, he]
  rw [hcallbacks, List.countP_append, hzero, Nat.zero_add, hlast]
  exact s.events.roster.countP_name_le_one name

/-- **The responder's side acts** while the reader goes on. -/
theorem reportedAt_feedEvent (h : s.Listening) (hnot : ¬ broken) (feed : Feed) :
    ReportedAt broken s (.feedEvent feed) where
  first hbreaks _ := lastReport_of_breaksOff h hbreaks.2
  only hwhen := by
    have hgoes := hwhen.resolve_right hnot
    exact noLastReport_of_goes h fun hbreaks => hgoes ⟨by simp [h.phase], hbreaks⟩
  call _ hcall := by simp at hcall

theorem standing_feedEvent (h : s.Listening) (hnot : ¬ broken) (feed : Feed) :
    Standing (broken ∨ s.BreaksOffAt (.feedEvent feed)) (s.after (.feedEvent feed)) := by
  by_cases hbreaks : (s.events.channel.line.feed feed).BreaksOff
  · exact .finished (ended_after_feedEvent h hbreaks) (.inl (.inr ⟨by simp [h.phase], hbreaks⟩))
  · exact .going (waiting_after_feedEvent h hbreaks)
      (not_or.mpr ⟨hnot, fun hat => hbreaks hat.2⟩)

/-- **What is told** follows from where the session stands. -/
theorem ReportedAt.of_standing (h : Standing broken s) (move : Move) :
    ReportedAt broken s move := by
  cases h with
  | finished ended why =>
      have hnobody := callbacks_of_ended ended move
      refine ⟨fun hbreaks hnot => ?_, fun _ => noLastReport_of_nil hnobody, fun _ _ => hnobody⟩
      have hclosed := why.resolve_left hnot
      cases move with
      | feedEvent => exact absurd hclosed hbreaks.1
      | call | feedCommand | enroll | dismiss => exact hbreaks.elim
  | going waiting hnot =>
      cases move with
      | feedEvent feed => exact reportedAt_feedEvent waiting.toListening hnot feed
      | call call =>
          have hnobody := callbacks_call (.inl waiting) call
          exact ⟨fun hbreaks => hbreaks.elim, fun _ => noLastReport_of_nil hnobody,
            fun _ _ => hnobody⟩
      | feedCommand | enroll | dismiss =>
          exact ⟨fun hbreaks => hbreaks.elim, fun _ => noLastReport_of_nil rfl, fun _ _ => rfl⟩

/-- **One move** changes where the session stands if the line breaks off with it, or if it is a
call that closes the session. -/
theorem standing_after (h : Standing broken s) (move : Move) :
    Standing (broken ∨ s.BreaksOffAt move) (s.after move) := by
  cases h with
  | finished ended why =>
      refine .finished (after_ended ended move).2.2 ?_
      exact why.imp .inl fun hclosed => (run_closed hclosed [move]).phase
  | going waiting hnot =>
      have hstill : ¬ (broken ∨ False) := by simpa using hnot
      -- Besides the responder's side, only a call that closes the session ends the reader.
      cases move with
      | feedEvent feed => exact standing_feedEvent waiting.toListening hnot feed
      | call call =>
          rcases (after_call (.inl waiting) call).2 with ⟨hphase, hchannel⟩ | ⟨hphase, hended⟩
          · exact .going (waiting.of_channel hphase hchannel) hstill
          · exact .finished hended (.inr hphase)
      | feedCommand | enroll | dismiss => exact .going (waiting.of_channel rfl rfl) hstill

/-- **A run of moves.** -/
theorem standing_run (h : Standing broken s) (moves : List Move) :
    Standing (broken ∨ s.HasBrokenOff moves) (s.run moves) := by
  induction moves generalizing s broken with
  | nil => exact (or_false broken).symm ▸ h
  | cons move moves ih =>
      rw [HasBrokenOff, ← or_assoc]
      exact ih (standing_after h move)

theorem silence_of_standing (h : Standing broken s) (hwhen : broken ∨ s.phase = .closed)
    (moves : List Move) : s.callbacksOf moves = [] ∧ Silent s (s.run moves) := by
  cases h with
  | going waiting hnot => simp [hnot, waiting.phase] at hwhen
  | finished ended =>
      obtain ⟨hnobody, hsilent, _⟩ := run_ended ended moves
      exact ⟨hnobody, hsilent⟩

/-- One move more in front of a run: with the last report, nothing follows. -/
theorem once_cons {move : Move} {moves : List Move} {name : String}
    (h : ReportedAt broken s move) (hafter : Standing (broken ∨ s.BreaksOffAt move) (s.after move))
    (hothers : ((s.after move).callbacksOf moves).countP
      (fun call => call.1.name = name && call.2.isFatal) ≤ 1) :
    (s.callbacksOf (move :: moves)).countP
      (fun call => call.1.name = name && call.2.isFatal) ≤ 1 := by
  rw [callbacksOf, List.countP_append]
  by_cases hwhen : ¬ s.BreaksOffAt move ∨ broken
  · have hnone := h.only hwhen
    have hzero : (s.callbacks move).countP
        (fun call => call.1.name = name && call.2.isFatal) = 0 :=
      List.countP_eq_zero.mpr fun call hmem => by simp [hnone call hmem]
    rw [hzero, Nat.zero_add]
    exact hothers
  · -- This is the moment, and whoever was told now is not told again.
    obtain ⟨hbreaks, hnot⟩ := not_or.mp hwhen
    have hat := Classical.not_not.mp hbreaks
    rw [(silence_of_standing hafter (.inl (.inr hat)) moves).1]
    exact (h.first hat hnot).once name

/-- **Each listener gets one last report at most.** -/
theorem once_of_standing (h : Standing broken s) (moves : List Move) (name : String) :
    (s.callbacksOf moves).countP (fun call => call.1.name = name && call.2.isFatal) ≤ 1 := by
  induction moves generalizing s broken with
  | nil => exact Nat.zero_le _
  | cons move moves ih =>
      have hafter := standing_after h move
      exact once_cons (.of_standing h move) hafter (ih hafter)

/-- **The life of a session** from its reader's first reading on. -/
theorem reportedOnce_feedEvent (h : s.Listening) (feed : Feed) (moves : List Move) :
    s.ReportedOnce (.feedEvent feed :: moves) := by
  have hfirst := @reportedAt_feedEvent s False h id feed
  have hfed := @standing_feedEvent s False h id feed
  have hlater : ∀ before, Standing (s.HasBrokenOff (.feedEvent feed :: before))
      (s.run (.feedEvent feed :: before)) := by
    intro before
    have hstanding := standing_run hfed before
    rwa [false_or] at hstanding
  refine ⟨?_, fun name => once_cons hfirst hfed (once_of_standing hfed moves name), ?_⟩
  · intro before move later hlife
    cases before with
    | nil =>
        obtain ⟨rfl, _⟩ := List.cons.inj hlife
        exact hfirst
    | cons head before =>
        obtain ⟨rfl, _⟩ := List.cons.inj hlife
        exact .of_standing (hlater before) move
  · intro before later hlife hwhen
    cases before with
    | nil => exact absurd hwhen (by simp [HasBrokenOff, run, h.phase])
    | cons head before =>
        obtain ⟨rfl, _⟩ := List.cons.inj hlife
        exact silence_of_standing (hlater before) hwhen later

/-- The reader of a session that is closed has ended. -/
theorem ended_close (h : s.Attended) : s.close.events.channel.ended = true := by
  rcases (after_call h .close).2 with ⟨hphase, hchannel⟩ | ⟨_, hended⟩
  · rcases h with hwaiting | hended
    · have hclosed : (s.after (.call .close)).phase = .closed := s.close_phase
      rw [hphase, hwaiting.phase] at hclosed
      exact Phase.noConfusion hclosed
    · exact (congrArg EventChannel.ended hchannel).trans hended
  · exact hended

/-- **The last report on the event connection**, over the whole life of any session that was
connected, from its opening on.  The journal follows from who was told what, and closing the
session, at any time, has nobody told anything, then or later. -/
theorem reported_once {config : Config} {roster : Roster} {waiting left : List Line}
    (h : connect config roster waiting = (.session s, left)) :
    ∃ command event ack, Connected.Opened config waiting left command event ack ∧
      s = (opened command event roster ack).after (.feedEvent {}) ∧
      (∀ moves, (opened command event roster ack).ReportedOnce (.feedEvent {} :: moves) ∧
        (s.run moves).events.journal = Listener.traces
          ((opened command event roster ack).callbacksOf (.feedEvent {} :: moves))) ∧
      ∀ moves, (s.run moves).callbacks (.call .close) = [] ∧
        Silent (s.run moves) (s.run moves).close ∧
        ∀ later, (s.run moves).close.callbacksOf later = [] ∧
          Silent (s.run moves).close ((s.run moves).close.run later) := by
  obtain ⟨command, event, ack, hlines, rfl⟩ := Connected.opened_of_connect h
  have hopened := opened_listening command event roster ack
  have hattended := attended_opened command event roster ack
  refine ⟨command, event, ack, hlines, rfl, fun moves => ⟨?_, ?_⟩, fun moves => ?_⟩
  · exact reportedOnce_feedEvent hopened {} moves
  · rw [journal_run hattended moves, journal_feedEvent hopened, callbacksOf, Listener.traces,
      Listener.traces, Listener.traces, List.flatMap_append, List.append_assoc]
    rfl
  · have hnow := attended_run hattended moves
    refine ⟨callbacks_call hnow .close, (after_call hnow .close).1, fun later => ?_⟩
    obtain ⟨hnobody, hsilent, _⟩ := run_ended (ended_close hnow) later
    exact ⟨hnobody, hsilent⟩

/-- The responder hangs up behind its greeting, and the listener gets its last report. -/
theorem reported_once_hanging_up :
    ∃ s, connect {} display [Connected.accepting, confirming] = (.session s, []) ∧
      s.BreaksOffAt (.feedEvent { shutdown := true }) ∧
      s.LastReport (.feedEvent { shutdown := true }) ∧
      s.events.roster = display := by
  obtain ⟨s, hconnect⟩ := Connected.connect_accepting event_confirming rfl display
  obtain ⟨command, event, ack, hopened, rfl, hlife, _⟩ := reported_once hconnect
  obtain ⟨-, -, hline⟩ := hopened.unique Connected.command_accepting event_confirming
  have hbreaks : ((opened command event display ack).after (.feedEvent {})).BreaksOffAt
      (.feedEvent { shutdown := true }) := ⟨Phase.noConfusion, .ended (Bool.or_true _)⟩
  have hwaits : EventChannel.waits (event.feed {}) = true := by
    rw [hline]
    decide
  have hgoes : ¬ (opened command event display ack).HasBrokenOff [.feedEvent {}] := fun hbroken =>
    EventChannel.not_breaksOff_of_waits hwaits (hbroken.resolve_right id).2
  exact ⟨_, hconnect, hbreaks,
    ((hlife [.feedEvent { shutdown := true }]).1.moments [.feedEvent {}] _ [] rfl).first
      hbreaks hgoes,
    rfl⟩

end Session

end PictureTransfer
