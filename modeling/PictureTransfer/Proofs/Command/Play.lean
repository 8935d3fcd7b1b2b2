import PictureTransfer.Command.Rehearsal
import PictureTransfer.Proofs.Session.Finality
import PictureTransfer.Proofs.Session.Numbering

/-!
# What a play does to its session

A procedure that is played has its session go through moves, some of which are the calls of the
procedure and the others what the responder does meanwhile.  So whatever is known of runs of moves
is known of plays.  Which moves these are depends on the answers, but each call among them is one
that the procedure can make.

* `Stage.perform_session`, `Procedure.play_session` — a step, and a play;
* `Procedure.mem_moves` — what every call of a procedure is like, the calls of its plays are like;
* `Session.asked` — the operations that a session takes up during moves, in their order;
* `Stage.requested_call` — a call of a ready session has its operation sent, with the next number;
* `Work.play_bind` — what fails ends its work, and what was done until then stays done;
* `Procedure.Carries` — what holds of procedures in a row if it holds of each, such as that they do
  not break down (`Procedure.Ends`), and so of works.
-/

namespace PictureTransfer

namespace Session

variable {s : Session}

theorem run_append (s : Session) (before later : List Move) :
    s.run (before ++ later) = (s.run before).run later := List.foldl_append

/-! ## The operations of moves -/

/-- The operations that a session takes up during moves, in order. -/
def asked (s : Session) : List Move → List Request
  | [] => []
  | move :: moves => (s.request? move).toList ++ (s.after move).asked moves

theorem asked_append (s : Session) (before later : List Move) :
    s.asked (before ++ later) = s.asked before ++ (s.run before).asked later := by
  induction before generalizing s with
  | nil => rfl
  | cons move before ih =>
      rw [List.cons_append, asked, ih, asked, List.append_assoc]
      rfl

/-- Each of them is asked for by a call. -/
theorem exists_call_of_mem_asked {moves : List Move} {r : Request} (h : r ∈ s.asked moves) :
    ∃ call, .call call ∈ moves ∧ call.request? = some r := by
  induction moves generalizing s with
  | nil => exact absurd h List.not_mem_nil
  | cons move moves ih =>
      rcases List.mem_append.mp h with hfirst | hlater
      · have hrequest : s.request? move = some r := by simpa using hfirst
        cases move with
        | call call =>
            by_cases hready : s.phase = .ready
            · exact ⟨call, List.mem_cons_self, (if_pos hready).symm.trans hrequest⟩
            · exact absurd ((if_neg hready).symm.trans hrequest) (by simp)
        | feedCommand | feedEvent | enroll | dismiss => simp [request?] at hrequest
      · obtain ⟨call, hcall, hrequest⟩ := ih hlater
        exact ⟨call, List.mem_cons_of_mem _ hcall, hrequest⟩

/-- The moves of the responder's side. -/
def IsFeed : Move → Prop
  | .feedCommand _ | .feedEvent _ => True
  | .call _ | .enroll _ | .dismiss _ => False

/-- What the responder's side does leaves alone what calls depend on, but for what is unread. -/
theorem run_feeds {feeds : List Move} (h : ∀ move ∈ feeds, IsFeed move) :
    (s.run feeds).phase = s.phase ∧ (s.run feeds).counter = s.counter ∧
      (s.run feeds).command.sent = s.command.sent ∧ s.asked feeds = [] := by
  induction feeds generalizing s with
  | nil => exact ⟨rfl, rfl, rfl, rfl⟩
  | cons move feeds ih =>
      have hone : (s.after move).phase = s.phase ∧ (s.after move).counter = s.counter ∧
          (s.after move).command.sent = s.command.sent ∧ s.request? move = none := by
        cases move with
        | feedCommand | feedEvent => exact ⟨rfl, rfl, rfl, rfl⟩
        | call | enroll | dismiss => exact absurd (h _ List.mem_cons_self) not_false
      obtain ⟨hphase, hcounter, hsent, hasked⟩ :=
        @ih (s.after move) fun move hmove => h move (List.mem_cons_of_mem _ hmove)
      refine ⟨hphase.trans hone.1, hcounter.trans hone.2.1, hsent.trans hone.2.2.1, ?_⟩
      rw [asked, hone.2.2.2, hasked]
      rfl

/-- **What closes a session during moves** is one of them. -/
theorem ends_of_run {moves : List Move} (hready : s.phase = .ready)
    (hclosed : (s.run moves).phase = .closed) :
    ∃ before move later, moves = before ++ move :: later ∧ (s.run before).phase = .ready ∧
      (s.run before).Ends move := by
  induction moves generalizing s with
  | nil => exact Phase.noConfusion (hready.symm.trans hclosed)
  | cons move moves ih =>
      rcases readyOrShut_after (.inl hready) move with hstill | hshut
      · obtain ⟨before, last, later, rfl, hbefore, hends⟩ := ih hstill hclosed
        exact ⟨move :: before, last, later, rfl, hbefore, hends⟩
      · exact ⟨[], move, moves, rfl, hready, (after_closed_iff hready move).mp hshut.phase⟩

/-! ## Replies -/

/-- What the responder does when it replies to the packets of a call. -/
def supplied (call : Call) (sent : Nat) (s : Session) : List Reply → List Move
  | [] => []
  | reply :: later =>
      if s.written call ≤ sent then []
      else .feedEvent { bytes := reply.event } :: .feedCommand { bytes := reply.command } ::
        supplied call (sent + 1) (s.hear reply) later

theorem supply_session (call : Call) (sent : Nat) (s : Session) (replies : List Reply) :
    (supply call sent s replies).session = s.run (supplied call sent s replies) := by
  induction replies generalizing sent s with
  | nil => rfl
  | cons reply later ih =>
      unfold supply supplied
      split
      · rfl
      · exact ih (sent + 1) (s.hear reply)

/-- Replies leave as much room for writes as there was. -/
theorem room_supplied (call : Call) (sent : Nat) (s : Session) (replies : List Reply) :
    (s.run (supplied call sent s replies)).command.room = s.command.room := by
  induction replies generalizing sent s with
  | nil => rfl
  | cons reply later ih =>
      unfold supplied
      split
      · rfl
      · have hheard : (s.hear reply).command.room = s.command.room := by
          simp only [hear, feedCommand, Line.feed, Line.room, Bool.or_false, Option.none_or]
          rfl
        exact (ih (sent + 1) (s.hear reply)).trans hheard

/-- All that a reply does is to have bytes arrive. -/
theorem mem_supplied {call : Call} {sent : Nat} {replies : List Reply} {move : Move}
    (h : move ∈ supplied call sent s replies) :
    ∃ bytes, move = .feedEvent { bytes := bytes } ∨ move = .feedCommand { bytes := bytes } := by
  induction replies generalizing sent s with
  | nil => exact absurd h List.not_mem_nil
  | cons reply later ih =>
      unfold supplied at h
      split at h
      · exact absurd h List.not_mem_nil
      · simp only [List.mem_cons] at h
        rcases h with rfl | rfl | hlater
        · exact ⟨_, .inl rfl⟩
        · exact ⟨_, .inr rfl⟩
        · exact ih hlater

/-! ## Watches -/

/-- What has arrived when a watch stops waiting. -/
def awaited (watch : Watch) (s : Session) : List Feed → List Feed
  | [] => []
  | feed :: later =>
      if (watch.seen s).complete then [] else feed :: (s.feedEvent feed).awaited watch later

theorem await_session (watch : Watch) (s : Session) (arriving : List Feed) :
    s.await watch arriving = s.run ((s.awaited watch arriving).map .feedEvent) := by
  induction arriving generalizing s with
  | nil => rfl
  | cons feed later ih =>
      unfold await awaited
      split
      · rfl
      · exact ih (s.feedEvent feed)

end Session

/-! ## Steps and procedures -/

namespace Stage

/-- The moves of the responder that hangs up. -/
def hangingUp : List Move := [.feedEvent { shutdown := true }, .feedCommand { shutdown := true }]

/-- What the responder does before a call, in reply to its packets. -/
def before (c : Call) (stage : Stage) : List Move :=
  Session.supplied c 0 stage.session stage.replies

/-- What it does behind the call. -/
def behind (c : Call) (stage : Stage) : List Move :=
  if (Session.supply c 0 stage.session stage.replies).replies.isSome then [] else hangingUp

/-- The moves that a call has the session go through. -/
def callMoves (c : Call) (stage : Stage) : List Move := stage.before c ++ .call c :: stage.behind c

/-- The moves that a step has the session go through. -/
def moves (around : Surroundings) : Step → Stage → List Move
  | .call c, stage => stage.callMoves c
  | .enroll listener, _ => [.enroll listener]
  | .dismiss name, _ => [.dismiss name]
  | .watch watch deadline, stage =>
      (stage.session.awaited watch (around.inTime deadline)).map .feedEvent
  | .print _, _ | .save _ _, _ | .now, _ | .pause _, _ => []

variable {stage : Stage} {c : Call}

/-- The session that a call is made on, with its replies queued. -/
theorem supply_before (c : Call) (stage : Stage) :
    (Session.supply c 0 stage.session stage.replies).session =
      stage.session.run (stage.before c) := Session.supply_session ..

theorem isFeed_before (c : Call) (stage : Stage) :
    ∀ move ∈ stage.before c, Session.IsFeed move := by
  intro move hmove
  obtain ⟨bytes, rfl | rfl⟩ := Session.mem_supplied hmove
  · exact trivial
  · exact trivial

theorem isFeed_behind (c : Call) (stage : Stage) :
    ∀ move ∈ stage.behind c, Session.IsFeed move := by
  unfold behind
  split
  · exact fun _ h => absurd h List.not_mem_nil
  · intro move hmove
    simp only [hangingUp, List.mem_cons, List.not_mem_nil, or_false] at hmove
    rcases hmove with rfl | rfl
    · exact trivial
    · exact trivial

/-- **A call** is answered by the session with its replies queued. -/
theorem call_answer (c : Call) (stage : Stage) :
    (stage.call c).1 = (stage.session.run (stage.before c)).answer c := by
  rw [← supply_before]
  unfold call Session.answer
  dsimp only
  split <;> split <;> simp_all

theorem call_session (c : Call) (stage : Stage) :
    (stage.call c).2.session = stage.session.run (stage.callMoves c) := by
  rw [callMoves, Session.run_append, ← supply_before]
  unfold call behind
  rcases Session.supply c 0 stage.session stage.replies with ⟨fed, _ | left⟩
  · cases hperform : Session.perform c fed with
    | ok answer s => simp [Session.run, Session.after, hperform, hangingUp, Session.hangUp]
    | error cause s => simp [Session.run, Session.after, hperform, hangingUp, Session.hangUp]
  · cases hperform : Session.perform c fed with
    | ok answer s => simp [Session.run, Session.after, hperform]
    | error cause s => simp [Session.run, Session.after, hperform]

/-- A call prints nothing and saves nothing. -/
theorem call_output (c : Call) (stage : Stage) :
    (stage.call c).2.printed = stage.printed ∧ (stage.call c).2.saved = stage.saved := by
  unfold call
  dsimp only
  split <;> exact ⟨rfl, rfl⟩

/-- What was printed before makes no difference to a call. -/
theorem call_print (c : Call) (stage : Stage) (lines : List String) :
    (stage.print lines).call c = ((stage.call c).1, (stage.call c).2.print lines) := by
  unfold call print
  dsimp only
  split <;> rfl

/-- **A step** has the session go through its moves. -/
theorem perform_session (around : Surroundings) (s : Step) (stage : Stage) :
    (stage.perform around s).2.session = stage.session.run (stage.moves around s) := by
  cases s with
  | call c => exact stage.call_session c
  | watch watch deadline => exact Session.await_session watch stage.session (around.inTime deadline)
  | save path content =>
      simp only [perform]
      split <;> rfl
  | print | enroll | dismiss | now | pause => rfl

/-- The responder of a rehearsal does not have a write fail, but by hanging up. -/
theorem spares_moves (around : Surroundings) (s : Step) (stage : Stage) :
    ∀ move ∈ stage.moves around s, Session.Spares move := by
  intro move hmove
  cases s with
  | call c =>
      simp only [moves, callMoves, behind, hangingUp, List.mem_append, List.mem_cons] at hmove
      rcases hmove with hbefore | rfl | hbehind
      · obtain ⟨bytes, rfl | rfl⟩ := Session.mem_supplied hbefore
        · exact trivial
        · rfl
      · exact trivial
      · split at hbehind
        · exact absurd hbehind List.not_mem_nil
        · simp only [List.mem_cons, List.not_mem_nil, or_false] at hbehind
          rcases hbehind with rfl | rfl
          · exact trivial
          · rfl
  | watch watch deadline =>
      obtain ⟨feed, -, rfl⟩ := List.mem_map.mp hmove
      exact trivial
  | enroll | dismiss =>
      obtain rfl := List.mem_singleton.mp hmove
      exact trivial
  | print | save | now | pause => exact absurd hmove List.not_mem_nil

/-- Between two stages the session has sent a request, by its next number, as far as its command
connection takes it, and nothing else was done that can be seen. -/
structure Requested (r : Request) (stage stage' : Stage) : Prop where
  sent : ∃ bytes, r.Sent stage.session.counter.advance.last stage.session.command bytes ∧
    stage'.session.command.sent = stage.session.command.sent ++ bytes
  printed : stage'.printed = stage.printed
  saved : stage'.saved = stage.saved

/-- The operations of a call are those of the call alone. -/
theorem asked_callMoves (c : Call) (stage : Stage) :
    stage.session.asked (stage.callMoves c) = (stage.session.request? (.call c)).toList := by
  obtain ⟨hphase, -, -, hbefore⟩ := @Session.run_feeds stage.session _ (isFeed_before c stage)
  obtain ⟨-, -, -, hbehind⟩ :=
    @Session.run_feeds ((stage.session.run (stage.before c)).after (.call c)) _
      (isFeed_behind c stage)
  rw [callMoves, Session.asked_append, hbefore, Session.asked, hbehind]
  simp [Session.request?, hphase]

/-- **A call of a ready session** has its operation sent. -/
theorem requested_call {r : Request} (hready : stage.session.phase = .ready)
    (h : c.request? = some r) : Requested r stage (stage.call c).2 where
  sent := by
    obtain ⟨hphase, hcounter, hsent, -⟩ :=
      @Session.run_feeds stage.session _ (isFeed_before c stage)
    obtain ⟨-, -, hlast, -⟩ :=
      @Session.run_feeds ((stage.session.run (stage.before c)).after (.call c)) _
        (isFeed_behind c stage)
    have hwas : (stage.session.run (stage.before c)).phase = .ready := hphase.trans hready
    have hmoves : stage.session.run (stage.callMoves c) =
        ((stage.session.run (stage.before c)).after (.call c)).run (stage.behind c) := by
      rw [callMoves, Session.run_append]
      rfl
    cases Session.numbering_call hwas c with
    | taken hrequest _ hbytes hafter =>
        rw [Session.request?_call_of_ready hwas, h] at hrequest
        obtain rfl := Option.some.inj hrequest
        have hroom := Session.room_supplied c 0 stage.session stage.replies
        rw [hcounter] at hbytes
        refine ⟨_, hbytes.of_room hroom.symm, ?_⟩
        rw [call_session, hmoves, hlast, hafter, hsent]
    | other hrequest =>
        rw [Session.request?_call_of_ready hwas, h] at hrequest
        exact absurd hrequest (by simp)
  printed := (call_output c stage).1
  saved := (call_output c stage).2

/-- **A call that is answered** leaves the session ready. -/
theorem ready_of_answered (hready : stage.session.phase = .ready) (hclose : c ≠ .close)
    {answer : c.Answer} (h : (stage.call c).1 = .ok answer) :
    (stage.call c).2.session.phase = .ready := by
  obtain ⟨hphase, -⟩ := @Session.run_feeds stage.session _ (isFeed_before c stage)
  obtain ⟨hbehind, -⟩ :=
    @Session.run_feeds ((stage.session.run (stage.before c)).after (.call c)) _
      (isFeed_behind c stage)
  have hwas : (stage.session.run (stage.before c)).phase = .ready := hphase.trans hready
  rw [call_session, callMoves, Session.run_append]
  refine hbehind.trans ?_
  rw [call_answer] at h
  cases Session.made hwas c with
  | taken r cycle line _ _ hafter => exact hafter ▸ hwas
  | cut r cause line _ _ hanswer => exact absurd (h.symm.trans hanswer) (by simp)
  | other line part _ _ hafter => exact hafter ▸ hwas
  | closed hcall => exact absurd hcall hclose

/-- A call of a closed session has nothing sent. -/
theorem call_of_closed (hclosed : stage.session.phase = .closed) (c : Call) :
    (stage.call c).2.session.command.sent = stage.session.command.sent := by
  rw [call_session]
  exact (Session.run_closed hclosed _).sent

end Stage

namespace Procedure

variable {α β : Type} {around : Surroundings}

/-- The moves that a play has the session go through. -/
def moves (around : Surroundings) : Procedure α → Stage → List Move
  | done _, _ | crashed _, _ => []
  | step s next, stage =>
      stage.moves around s ++
        (next (stage.perform around s).1).moves around (stage.perform around s).2

/-- **A play is a run of moves.** -/
theorem play_session (p : Procedure α) (stage : Stage) :
    (p.play around stage).2.session = stage.session.run (p.moves around stage) := by
  induction p generalizing stage with
  | done | crashed => rfl
  | step s next ih =>
      rw [moves, Session.run_append, ← Stage.perform_session]
      exact ih _ _

/-- No write on the command connection is going to fail in a play. -/
theorem noNewFault_play (p : Procedure α) (stage : Stage) :
    Line.NoNewFault stage.session.command (p.play around stage).2.session.command := by
  induction p generalizing stage with
  | done | crashed => exact .refl _
  | step s next ih =>
      have hfirst := @Session.noNewFault_run stage.session _ (stage.spares_moves around s)
      rw [← Stage.perform_session] at hfirst
      exact hfirst.trans (ih _ _)

/-- The moves of one procedure behind another, unless that breaks down. -/
theorem moves_bind (p : Procedure α) (more : α → Procedure β) (stage : Stage) :
    (p.bind more).moves around stage = p.moves around stage ++
      match p.play around stage with
      | (.ok value, last) => (more value).moves around last
      | (.error _, _) => [] := by
  induction p generalizing stage with
  | done | crashed => rfl
  | step s next ih =>
      rw [step_bind, moves, moves, List.append_assoc, ih]
      rfl

/-- The operations that are asked for in a play, in order. -/
def requests (around : Surroundings) (p : Procedure α) (stage : Stage) : List Request :=
  stage.session.asked (p.moves around stage)

theorem requests_bind (p : Procedure α) (more : α → Procedure β) (stage : Stage) :
    (p.bind more).requests around stage = p.requests around stage ++
      match p.play around stage with
      | (.ok value, last) => (more value).requests around last
      | (.error _, _) => [] := by
  rw [requests, moves_bind, Session.asked_append, ← play_session]
  rcases p.play around stage with ⟨_ | _, _⟩
  · rfl
  · rfl

theorem requests_call (c : Call) (stage : Stage) :
    (ask (.call c)).requests around stage = (stage.session.request? (.call c)).toList := by
  have hmoves : (ask (.call c)).moves around stage = stage.callMoves c := List.append_nil _
  rw [requests, hmoves, Stage.asked_callMoves]

/-- All steps that a procedure can do, whatever it is answered. -/
def Each (steps : Step → Prop) : Procedure α → Prop
  | done _ | crashed _ => True
  | step s next => steps s ∧ ∀ answer, (next answer).Each steps

/-- Played there, the procedure comes to a value from every stage. -/
def Ends (around : Surroundings) (p : Procedure α) : Prop :=
  ∀ stage, ∃ value last, p.play around stage = (.ok value, last)

/-- A property of procedures that carries over from those in a row to the whole. -/
structure Carries (P : ∀ {α : Type}, Procedure α → Prop) : Prop where
  done : ∀ {α : Type} (value : α), P (.done value)
  bind : ∀ {α β : Type} {p : Procedure α} {more : α → Procedure β}, P p →
    (∀ value, P (more value)) → P (p.bind more)

theorem carries_each (steps : Step → Prop) : Carries (Each steps) where
  done _ := trivial
  bind {_ _ p _} h hmore := by
    induction p with
    | done value => exact hmore value
    | crashed => exact trivial
    | step s next ih => exact ⟨h.1, fun answer => ih answer (h.2 answer)⟩

theorem carries_ends (around : Surroundings) : Carries (Ends around) where
  done value stage := ⟨value, stage, rfl⟩
  bind {_ _ p more} h hmore stage := by
    obtain ⟨value, middle, hplay⟩ := h stage
    rw [play_bind, hplay]
    exact hmore value middle

/-- **The calls of a play** are among the steps of its procedure. -/
theorem mem_moves {steps : Step → Prop} {p : Procedure α} (h : p.Each steps) {stage : Stage}
    {c : Call} (hc : .call c ∈ p.moves around stage) : steps (.call c) := by
  induction p generalizing stage with
  | done | crashed => exact absurd hc List.not_mem_nil
  | step s next ih =>
      rcases List.mem_append.mp hc with hfirst | hlater
      · cases s with
        | call made =>
            simp only [Stage.moves, Stage.callMoves, List.mem_append, List.mem_cons] at hfirst
            rcases hfirst with hbefore | hcall | hbehind
            · exact (Stage.isFeed_before made stage _ hbefore).elim
            · exact Move.call.inj hcall ▸ h.1
            · exact (Stage.isFeed_behind made stage _ hbehind).elim
        | watch | enroll | dismiss | now | print | save | pause => simp [Stage.moves] at hfirst
      · exact ih _ (h.2 _) hlater

end Procedure

/-! ## Works -/

namespace Work

variable {α β : Type} {around : Surroundings} {steps : Step → Prop}

/-- **One work behind another** is done if the first comes to a value. -/
theorem play_bind (w : Work α) (more : α → Work β) (stage : Stage) :
    Procedure.play around (w >>= more).run stage =
      match w.run.play around stage with
      | (.ok (.ok value), stage) => (more value).run.play around stage
      | (.ok (.error failure), stage) => (.ok (.error failure), stage)
      | (.error crash, stage) => (.error crash, stage) := by
  refine (Procedure.play_bind around w.run (ExceptT.bindCont more) stage).trans ?_
  rcases w.run.play around stage with ⟨_ | _ | _, _⟩
  · rfl
  · rfl
  · rfl

/-- Works in a row are done one behind the other. -/
theorem play_forM (item : α) (items : List α) (w : α → Work Unit) (stage : Stage) :
    Procedure.play around ((item :: items).forM w).run stage =
      match (w item).run.play around stage with
      | (.ok (.ok _), stage) => (items.forM w).run.play around stage
      | (.ok (.error failure), stage) => (.ok (.error failure), stage)
      | (.error crash, stage) => (.error crash, stage) := by
  refine (play_bind (w item) (fun _ => items.forM w) stage).trans ?_
  rcases (w item).run.play around stage with ⟨_ | _ | _, _⟩
  · rfl
  · rfl
  · rfl

theorem play_perform (s : Step) (stage : Stage) :
    Procedure.play around (perform s).run stage =
      (.ok (.ok (stage.perform around s).1), (stage.perform around s).2) := rfl

/-- What a call of a work comes to. -/
def called : Except Error α × Stage → Ending α × Stage
  | (.ok answer, stage) => (.ok (.ok answer), stage)
  | (.error cause, stage) => (.ok (.error (.call cause)), stage)

theorem play_call (c : Call) (stage : Stage) :
    Procedure.play around (call c).run stage = called (stage.call c) := by
  have hcall : stage.perform around (.call c) = stage.call c := rfl
  refine (play_bind (perform (.call c)) _ stage).trans ?_
  rw [play_perform, hcall]
  rcases stage.call c with ⟨_ | _, _⟩
  · rfl
  · rfl

theorem play_save (path : String) (content : Bytes) (stage : Stage) :
    Procedure.play around (save path content).run stage =
      match around.refusal path with
      | some cause => (.ok (.error (.writing path cause)), stage)
      | none => (.ok (.ok ()), { stage with saved := stage.saved ++ [(path, content)] }) := by
  refine (play_bind (perform (.save path content)) _ stage).trans ?_
  rw [play_perform]
  simp only [Stage.perform]
  cases around.refusal path with
  | none => rfl
  | some cause => rfl

/-- What comes of a value that is expected. -/
def expected (crash : Crash) : Option α → Ending α
  | some value => .ok (.ok value)
  | none => .error crash

theorem play_expect (crash : Crash) (found : Option α) (stage : Stage) :
    Procedure.play around (expect crash found).run stage = (expected crash found, stage) := by
  cases found with
  | none => rfl
  | some value => rfl

/-- **A deadline** is there if the clock can show it. -/
theorem play_deadline (seconds : UInt64) (stage : Stage) :
    Procedure.play around (deadline seconds).run stage =
      (expected .endOfTime (around.now.later? seconds), stage) :=
  (play_bind (perform .now) _ stage).trans (play_expect .endOfTime _ stage)

/-- Behind a deadline that is there, the work goes on with it. -/
theorem play_in_time {instant : Instant} {seconds : UInt64}
    (h : around.now.later? seconds = some instant) (more : Instant → Work α) (stage : Stage) :
    Procedure.play around (deadline seconds >>= more).run stage =
      (more instant).run.play around stage := by
  rw [play_bind, play_deadline, h]
  rfl

/-- Behind one that is not, nothing follows. -/
theorem play_too_late {seconds : UInt64} (h : around.now.later? seconds = none)
    (more : Instant → Work α) (stage : Stage) :
    Procedure.play around (deadline seconds >>= more).run stage = (.error .endOfTime, stage) := by
  rw [play_bind, play_deadline, h]
  rfl

end Work

namespace Procedure

variable {α β : Type} {around : Surroundings} {steps : Step → Prop}
  {P : ∀ {α : Type}, Procedure α → Prop}

/-! What carries over from procedures to the whole carries over from works to the whole. -/

theorem Carries.bind_work (hP : Carries P) {w : Work α} {more : α → Work β} (h : P w.run)
    (hmore : ∀ value, P (more value).run) : P (w >>= more).run := by
  have hcont : ∀ result, P (ExceptT.bindCont more result : Procedure (Except Failure β)) := by
    intro result
    cases result with
    | ok value => exact hmore value
    | error failure =>
        exact hP.done (Except.error failure)
  exact hP.bind h hcont

theorem Carries.perform (hP : Carries P) {s : Step} (h : P (ask s)) : P (Work.perform s).run :=
  hP.bind h fun answer => hP.done (Except.ok answer)

theorem Carries.call (hP : Carries P) {c : Call} (h : P (ask (.call c))) :
    P (Work.call c).run := by
  refine hP.bind_work (hP.perform h) fun result => ?_
  cases result with
  | ok answer => exact hP.done (Except.ok answer)
  | error cause => exact hP.done (Except.error (Failure.call cause))

theorem Carries.save (hP : Carries P) {path : String} {content : Bytes}
    (h : P (ask (.save path content))) : P (Work.save path content).run := by
  refine hP.bind_work (hP.perform h) fun refusal => ?_
  cases refusal with
  | none => exact hP.done (Except.ok ())
  | some cause => exact hP.done (Except.error (Failure.writing path cause))

theorem Carries.forM (hP : Carries P) {items : List α} {w : α → Work Unit}
    (h : ∀ item, P (w item).run) : P (items.forM w).run := by
  induction items with
  | nil => exact hP.done (Except.ok ())
  | cons item items ih => exact hP.bind_work (h item) fun _ => ih

theorem each_ask {s : Step} (h : steps s) : (ask s).Each steps := ⟨h, fun _ => trivial⟩

theorem ends_ask (s : Step) : (ask s).Ends around := fun _ => ⟨_, _, rfl⟩

/-- A deadline is not one more step than a look at the clock. -/
theorem each_deadline (h : steps .now) (seconds : UInt64) :
    (Work.deadline seconds).run.Each steps := by
  have hexpect : ∀ found : Option Instant, (Work.expect .endOfTime found).run.Each steps := by
    intro found
    cases found with
    | none => exact trivial
    | some deadline => exact trivial
  have hP := carries_each steps
  exact hP.bind_work (hP.perform (each_ask h)) fun now => hexpect (now.later? seconds)

theorem ends_deadline {seconds : UInt64} (h : (around.now.later? seconds).isSome = true) :
    (Work.deadline seconds).run.Ends around := by
  intro stage
  obtain ⟨deadline, hlater⟩ := Option.isSome_iff_exists.mp h
  rw [Work.play_deadline, hlater]
  exact ⟨_, _, rfl⟩

end Procedure

end PictureTransfer
