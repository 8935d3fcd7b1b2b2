import PictureTransfer.Proofs.Session.Conduct
import PictureTransfer.Proofs.Session.EventSide
import PictureTransfer.Proofs.Session.NoCrossTalk

/-!
# The command side of a session

All that the caller of a session has to do with is its command side.  The steps that
calls are put together from read nothing else, so two sessions with the same command side
answer a call in the same way and have the same command side behind it
(`Session.perform_heedless`).  What happens on the event connection, and who listens,
leaves the command side alone.  Hence the event connection has no influence on the caller:

* `Session.commandSide_after` — one move on two sessions with the same command side;
* `Session.run_commandMoves` — in a run of moves, only those of the command side count;
* `Session.caller_undisturbed` — two sessions that were connected over the same command
  connection, whatever their event connections and listeners.
-/

namespace PictureTransfer

/-- The part of a session that its caller has to do with. -/
structure CommandSide where
  command : Line
  phase : Phase
  counter : Counter
  sessionId : UInt32
  responder : InitCommandAck

/-- The command side once the session is closed. -/
def CommandSide.closed (side : CommandSide) : CommandSide :=
  if side.phase = .closed then side
  else
    { side with
      command := side.command.shut
      phase := .closed }

/-- True of the moves of the caller, and of the responder on the command connection. -/
def Move.isCommandSide : Move → Bool
  | .call _ | .feedCommand _ => true
  | .feedEvent _ | .enroll _ | .dismiss _ => false

namespace Session

def commandSide (s : Session) : CommandSide where
  command := s.command
  phase := s.phase
  counter := s.counter
  sessionId := s.sessionId
  responder := s.responder

/-- The moves of the command side, in order. -/
def commandMoves (moves : List Move) : List Move := moves.filter Move.isCommandSide

/-- The answer of a call. -/
def answer (s : Session) (call : Call) : Except Error call.Answer :=
  match perform call s with
  | .ok answer _ => .ok answer
  | .error e _ => .error e

/-- The answers of the calls among moves, in order. -/
def answers (s : Session) : List Move → List ((call : Call) × Except Error call.Answer)
  | [] => []
  | .call call :: moves => ⟨call, s.answer call⟩ :: (s.after (.call call)).answers moves
  | move :: moves => (s.after move).answers moves

/-- The two sessions look the same to a caller. -/
structure SameToCaller (s s' : Session) : Prop where
  phase : s.phase = s'.phase
  sessionId : s.sessionId = s'.sessionId
  lastTransaction : s.counter.last? = s'.counter.last?
  sent : s.command.sent = s'.command.sent

/-- The same came of two steps, as far as the command side goes. -/
inductive Agree {α : Type} : EStateM.Result Error Session α → EStateM.Result Error Session α → Prop
  | ok (a : α) {s s' : Session} (h : s.commandSide = s'.commandSide) : Agree (.ok a s) (.ok a s')
  | error (e : Error) {s s' : Session} (h : s.commandSide = s'.commandSide) :
      Agree (.error e s) (.error e s')

/-- A step that heeds nothing but the command side. -/
structure Heedless {α : Type} (x : SessionM α) : Prop where
  agree : ∀ {s s' : Session}, s.commandSide = s'.commandSide → Agree (x s) (x s')

theorem Heedless.pure {α : Type} (a : α) : Heedless (Pure.pure a : SessionM α) where
  agree h := .ok a h

theorem Heedless.throw {α : Type} (e : Error) : Heedless (throw e : SessionM α) where
  agree h := .error e h

theorem Heedless.bind {α β : Type} {x : SessionM α} {f : α → SessionM β} (hx : Heedless x)
    (hf : ∀ a, Heedless (f a)) : Heedless (x >>= f) where
  agree {s s'} h := by
    have hfirst := hx.agree h
    generalize hs : x s = r at hfirst
    generalize hs' : x s' = r' at hfirst
    -- The first steps end alike, so both go on with one value, or neither goes on.
    cases hfirst with
    | ok a hside =>
        rw [bind_of_ok hs, bind_of_ok hs']
        exact (hf a).agree hside
    | error e hside =>
        rw [bind_of_error hs, bind_of_error hs']
        exact .error e hside

theorem commandSide_close (s : Session) : s.close.commandSide = s.commandSide.closed := by
  unfold close CommandSide.closed
  by_cases hphase : s.phase = .closed
  · rw [if_pos hphase, if_pos (show s.commandSide.phase = .closed from hphase)]
  · rw [if_neg hphase, if_neg (show ¬ s.commandSide.phase = .closed from hphase)]
    rfl

theorem Heedless.closingOnError {α : Type} {x : SessionM α} (hx : Heedless x) :
    Heedless (closingOnError x) where
  agree {s s'} h := by
    have hfirst := hx.agree h
    unfold Session.closingOnError
    generalize x s = r at hfirst
    generalize x s' = r' at hfirst
    cases hfirst with
    | ok a hside => exact .ok a hside
    | error e hside =>
        refine .error e ?_
        rw [commandSide_close, commandSide_close, hside]

theorem requireReady_heedless : Heedless requireReady where
  agree {s s'} h := by
    have hphase : s.phase = s'.phase := congrArg CommandSide.phase h
    unfold requireReady
    rw [hphase]
    split
    · exact .ok () h
    · exact .error _ h

theorem onCommand_heedless {α : Type} (action : EStateM Error Line α) :
    Heedless (onCommand action) where
  agree {s s'} h := by
    have hcommand : s.command = s'.command := congrArg CommandSide.command h
    unfold onCommand
    rw [hcommand]
    cases action s'.command with
    | ok a line => exact .ok a (congrArg (fun side => { side with command := line }) h)
    | error e line => exact .error e (congrArg (fun side => { side with command := line }) h)

theorem nextTransaction_heedless : Heedless nextTransaction where
  agree {s s'} h := by
    have hcounter : s.counter = s'.counter := congrArg CommandSide.counter h
    unfold nextTransaction
    rw [hcounter]
    exact .ok _ (congrArg (fun side => { side with counter := s'.counter.advance }) h)

theorem heedless_conduct : Conduct fun x => Heedless x where
  pure := .pure
  throw := .throw
  bind := .bind
  closingOnError := .closingOnError
  requireReady := requireReady_heedless
  onCommand := onCommand_heedless
  nextTransaction := nextTransaction_heedless
  setSessionId id :=
    ⟨fun h => .ok () (congrArg (fun side => { side with sessionId := id }) h)⟩
  close := ⟨fun h => .ok () (by rw [commandSide_close, commandSide_close, h])⟩

/-- **No call heeds the event side.** -/
theorem perform_heedless (call : Call) : Heedless (perform call) :=
  perform_parts heedless_conduct call

variable {s s' : Session}

theorem answer_eq (h : s.commandSide = s'.commandSide) (call : Call) :
    s.answer call = s'.answer call := by
  have hperform := (perform_heedless call).agree h
  unfold answer
  generalize perform call s = r at hperform
  generalize perform call s' = r' at hperform
  cases hperform with
  | ok => rfl
  | error => rfl

theorem SameToCaller.of_commandSide (h : s.commandSide = s'.commandSide) : SameToCaller s s' where
  phase := congrArg CommandSide.phase h
  sessionId := congrArg CommandSide.sessionId h
  lastTransaction := congrArg (fun side => side.counter.last?) h
  sent := congrArg (fun side => side.command.sent) h

/-- What happens on the event connection, and who listens, leaves the command side alone. -/
theorem commandSide_after_eventSide (s : Session) {move : Move} (h : move.isCommandSide = false) :
    (s.after move).commandSide = s.commandSide := by
  cases move with
  | call | feedCommand => exact Bool.noConfusion h
  | feedEvent | enroll | dismiss => rfl

/-- **One move** on two sessions with the same command side. -/
theorem commandSide_after (h : s.commandSide = s'.commandSide) (move : Move) :
    (s.after move).commandSide = (s'.after move).commandSide := by
  cases move with
  | call call =>
      have hperform := (perform_heedless call).agree h
      simp only [after]
      generalize perform call s = r at hperform
      generalize perform call s' = r' at hperform
      cases hperform with
      | ok _ hside => exact hside
      | error _ hside => exact hside
  | feedCommand feed =>
      exact congrArg (fun side => { side with command := side.command.feed feed }) h
  | feedEvent | enroll | dismiss => exact h

/-- **A run of moves** on two sessions with the same command side. -/
theorem run_heedless (h : s.commandSide = s'.commandSide) (moves : List Move) :
    s.answers moves = s'.answers moves ∧
      (s.run moves).commandSide = (s'.run moves).commandSide := by
  induction moves generalizing s s' with
  | nil => exact ⟨rfl, h⟩
  | cons move moves ih =>
      obtain ⟨hanswers, hside⟩ := ih (commandSide_after h move)
      refine ⟨?_, hside⟩
      cases move with
      | call call => rw [answers, answers, answer_eq h call, hanswers]
      | feedCommand | feedEvent | enroll | dismiss => exact hanswers

/-- **In a run of moves** only those of the command side count for it. -/
theorem run_commandMoves (s : Session) (moves : List Move) :
    s.answers moves = s.answers (commandMoves moves) ∧
      (s.run moves).commandSide = (s.run (commandMoves moves)).commandSide := by
  induction moves generalizing s with
  | nil => exact ⟨rfl, rfl⟩
  | cons move moves ih =>
      obtain ⟨hanswers, hside⟩ := ih (s.after move)
      cases hmove : move.isCommandSide with
      | true =>
          rw [commandMoves, List.filter_cons_of_pos hmove]
          refine ⟨?_, hside⟩
          cases move with
          | call call => exact congrArg (List.cons ⟨call, s.answer call⟩) hanswers
          | feedCommand => exact hanswers
          | feedEvent | enroll | dismiss => exact Bool.noConfusion hmove
      | false =>
          -- The move is left out, and the rest is run on a session with the same command side.
          rw [commandMoves, List.filter_cons_of_neg (by simp [hmove])]
          obtain ⟨hanswers', hside'⟩ :=
            run_heedless (commandSide_after_eventSide s hmove) (commandMoves moves)
          refine ⟨?_, hside.trans hside'⟩
          cases move with
          | call | feedCommand => exact Bool.noConfusion hmove
          | feedEvent | enroll | dismiss => exact hanswers.trans hanswers'

/-- Two sessions have the same command side if they were connected over the same command
connection. -/
theorem commandSide_of_connect {config : Config} {roster roster' : Roster} {command : Line}
    {waiting waiting' left left' : List Line}
    (h : connect config roster (command :: waiting) = (.session s, left))
    (h' : connect config roster' (command :: waiting') = (.session s', left')) :
    s.commandSide = s'.commandSide := by
  obtain ⟨line, event, ack, hopened, rfl⟩ := Connected.opened_of_connect h
  obtain ⟨line', event', ack', hopened', rfl⟩ := Connected.opened_of_connect h'
  obtain ⟨first, _, hwaiting, hcommand, _⟩ := hopened.handshakes
  obtain ⟨first', _, hwaiting', hcommand', _⟩ := hopened'.handshakes
  obtain ⟨rfl, _⟩ := List.cons.inj hwaiting
  obtain ⟨rfl, _⟩ := List.cons.inj hwaiting'
  obtain ⟨rfl, rfl⟩ := EStateM.Result.ok.inj (hcommand.symm.trans hcommand')
  rfl

/-- **The event connection has no influence on the caller.**  Two sessions are connected over
the same command connection and with the same configuration, with whatever event connections
and listeners.  Up to any two moments at which the same calls were made and the same happened
on the command connection, whatever else did in between, the calls were answered in the same
way, and the sessions look the same. -/
theorem caller_undisturbed {config : Config} {roster roster' : Roster} {command : Line}
    {waiting waiting' left left' : List Line}
    (h : connect config roster (command :: waiting) = (.session s, left))
    (h' : connect config roster' (command :: waiting') = (.session s', left'))
    {moves moves' : List Move} (hmoves : commandMoves moves = commandMoves moves') :
    s.answers moves = s'.answers moves' ∧ SameToCaller (s.run moves) (s'.run moves') := by
  obtain ⟨hanswers, hside⟩ := run_commandMoves s moves
  obtain ⟨hanswers', hside'⟩ := run_commandMoves s' moves'
  rw [← hmoves] at hanswers' hside'
  obtain ⟨hsame, hsides⟩ := run_heedless (commandSide_of_connect h h') (commandMoves moves)
  refine ⟨?_, .of_commandSide ?_⟩
  · exact hanswers.trans (hsame.trans hanswers'.symm)
  · exact hside.trans (hsides.trans hside'.symm)

/-- A responder that answers one probe. -/
def probed : List Move :=
  [.feedCommand { bytes := probeAnswer.toBytes }, .call .probe]

/-- The same, while the responder sends what is no packet on the event connection and
hangs up there, and the listener leaves. -/
def probedAmidstNoise : List Move :=
  [.feedEvent { bytes := [3, 0, 0, 0, 9, 0, 0, 0] },
    .feedCommand { bytes := probeAnswer.toBytes }, .dismiss "display",
    .feedEvent { shutdown := true }, .call .probe, .enroll (.silent "log")]

/-- Without a listener and with one that breaks down, in silence and amidst noise. -/
theorem caller_undisturbed_amidst_noise :
    ∃ s s', connect {} .empty [Connected.accepting, confirming] = (.session s, []) ∧
      connect {} display [Connected.accepting, confirming] = (.session s', []) ∧
      commandMoves probed = commandMoves probedAmidstNoise ∧
      s.answers probed = s'.answers probedAmidstNoise ∧
      SameToCaller (s.run probed) (s'.run probedAmidstNoise) := by
  obtain ⟨s, h⟩ := Connected.connect_accepting event_confirming rfl .empty
  obtain ⟨s', h'⟩ := Connected.connect_accepting event_confirming rfl display
  exact ⟨s, s', h, h', rfl, caller_undisturbed h h' rfl⟩

end Session

end PictureTransfer
