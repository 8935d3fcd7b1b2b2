import PictureTransfer.Proofs.Session.Finality
import PictureTransfer.Proofs.Session.Stamping

/-!
# The number of a closed session

A session gives up the number of the session that its responder knows when a closing is answered
with success, and only then.  Giving up both connections ends the session of the responder as
well, but leaves the number as it is, whether the caller closes the session or a cycle is cut
off.  So a closed session tells the number that was open when it was closed
(`Session.LeftOpen`), and zero just where none was.

* `Session.openNumber_cases` — the number of the open session is the first one or that of an
  answer;
* `Session.openNumber_eq_zero_iff` — so it is zero just where no session was left open;
* `Session.sessionId_of_ends`, `Session.sessionId_behind_end` — closing a session leaves the
  number, and so does everything behind it;
* `Session.closed_number` — the number that a closed session tells.
-/

namespace PictureTransfer

/-- An answer that brings a number other than zero is that of an opening. -/
theorem Call.eq_opening {answered : (call : Call) × Except Error call.Answer} {number : UInt32}
    (h : answered.1.brings? answered.2 = some number) (hnumber : number ≠ 0) :
    answered = ⟨.openSession number, .ok ()⟩ := by
  obtain ⟨call, result⟩ := answered
  unfold brings? at h
  dsimp only at h
  split at h
  · obtain rfl := Option.some.inj h
    rfl
  · exact absurd (Option.some.inj h).symm hnumber
  · simp at h

namespace Session

/-- By these answers, the session of the number was opened, and no session was opened or closed
behind that. -/
def LeftOpen (number : UInt32) (answers : List ((call : Call) × Except Error call.Answer)) :
    Prop :=
  number ≠ 0 ∧ ∃ front later, answers = front ++ ⟨.openSession number, .ok ()⟩ :: later ∧
    ∀ answered ∈ later, answered.1.brings? answered.2 = none

variable {s : Session} {answers : List ((call : Call) × Except Error call.Answer)}
  {first number : UInt32}

/-- **The number of the open session** is the first one where no answer brought one, and else
that of the last answer that did. -/
theorem openNumber_cases (first : UInt32)
    (answers : List ((call : Call) × Except Error call.Answer)) :
    (openNumber first answers = first ∧
      ∀ answered ∈ answers, answered.1.brings? answered.2 = none) ∨
    ∃ front answered later, answers = front ++ answered :: later ∧
      answered.1.brings? answered.2 = some (openNumber first answers) ∧
      ∀ answered ∈ later, answered.1.brings? answered.2 = none := by
  induction answers generalizing first with
  | nil => exact .inl ⟨rfl, by simp⟩
  | cons answered answers ih =>
      rw [openNumber_cons]
      rcases ih ((answered.1.brings? answered.2).getD first) with ⟨hnumber, hnone⟩ | hlast
      · rw [hnumber]
        cases hbrings : answered.1.brings? answered.2 with
        | none => exact .inl ⟨rfl, List.forall_mem_cons.mpr ⟨hbrings, hnone⟩⟩
        | some number => exact .inr ⟨[], answered, answers, rfl, hbrings, hnone⟩
      · obtain ⟨front, last, later, rfl, hlast⟩ := hlast
        exact .inr ⟨answered :: front, last, later, rfl, hlast⟩

/-- A session that was left open gives the number. -/
theorem LeftOpen.openNumber_eq (h : LeftOpen number answers) (first : UInt32) :
    openNumber first answers = number := by
  obtain ⟨-, front, later, rfl, hlater⟩ := h
  have hnothing : later.filterMap (fun answered => answered.1.brings? answered.2) = [] :=
    List.filterMap_eq_nil_iff.mpr hlater
  rw [openNumber, List.filterMap_append, List.filterMap_cons, hnothing]
  exact List.getLastD_concat

/-- Behind answers that started without an open session, the number is not zero just where one
was left open. -/
theorem openNumber_eq_zero_iff :
    openNumber 0 answers = 0 ↔ ∀ number, ¬ LeftOpen number answers := by
  constructor
  · intro hzero number hopen
    exact hopen.1 ((hopen.openNumber_eq 0).symm.trans hzero)
  · intro hnone
    refine Decidable.byContradiction fun hnumber => ?_
    rcases openNumber_cases 0 answers with ⟨hzero, -⟩ | ⟨front, answered, later, hsplit, hlast⟩
    · exact hnumber hzero
    · refine hnone _ ⟨hnumber, front, later, ?_, hlast.2⟩
      rwa [Call.eq_opening hlast.1 hnumber] at hsplit

/-- **Closing a session** leaves its number as it was. -/
theorem sessionId_of_ends (hready : s.phase = .ready) {move : Move} (h : s.Ends move) :
    (s.after move).sessionId = s.sessionId := by
  cases h with
  | close => exact s.close_sessionId
  | cut hrequest hrun =>
      have hanswer := (@of_perform _ _ (.error _) _ ((perform_request hready hrequest).cut hrun)).1
      rw [sessionId_after_call, hanswer, Call.brings?_error]
      rfl

/-- A session that was ready and is closed was closed by one of its moves. -/
theorem exists_ends (hready : s.phase = .ready) {moves : List Move}
    (hclosed : (s.run moves).phase = .closed) :
    ∃ before move later, moves = before ++ move :: later ∧ (s.run before).phase = .ready ∧
      (s.run before).Ends move := by
  induction moves generalizing s with
  | nil => exact Phase.noConfusion (hready.symm.trans hclosed)
  | cons move moves ih =>
      by_cases hafter : (s.after move).phase = .closed
      · exact ⟨[], move, moves, rfl, hready, (after_closed_iff hready move).mp hafter⟩
      · have hstill : (s.after move).phase = .ready :=
          (readyOrShut_after (.inl hready) move).resolve_right fun hshut => hafter hshut.phase
        obtain ⟨before, last, later, rfl, hends⟩ := ih hstill hclosed
        exact ⟨move :: before, last, later, rfl, hends⟩

section Connected

variable {config : Config} {roster : Roster} {waiting left : List Line}

/-- Nothing that happens to a session once it is closed changes the number. -/
theorem sessionId_behind_end (h : connect config roster waiting = (.session s, left))
    {before later : List Move} {move : Move} (hready : (s.run before).phase = .ready)
    (hends : (s.run before).Ends move) :
    (s.run (before ++ move :: later)).sessionId = (s.run before).sessionId := by
  have hafter : s.run (before ++ [move]) = (s.run before).after move := by simp [run]
  have hclosed : (s.run (before ++ [move])).phase = .closed := by
    rw [hafter]
    exact (after_closed_iff hready move).mpr hends
  have hsplit : s.run (before ++ move :: later) = (s.run (before ++ [move])).run later := by
    simp [run]
  rw [hsplit, ((finished_of_closed h hclosed).unmoved later).sessionId, hafter]
  exact sessionId_of_ends hready hends

/-- **The number that a closed session tells.**  After any run of moves that has closed a session
that was connected, one of the moves has, and the number is the one from before it.  So it is zero
just where no session was left open, and else that of the session that was. -/
theorem closed_number (h : connect config roster waiting = (.session s, left))
    {moves : List Move} (hclosed : (s.run moves).phase = .closed) :
    (∃ before move later, moves = before ++ move :: later ∧ (s.run before).phase = .ready ∧
      (s.run before).Ends move ∧ (s.run moves).sessionId = (s.run before).sessionId) ∧
    ((s.run moves).sessionId = 0 ↔ ∀ number, ¬ LeftOpen number (s.answers moves)) ∧
    ∀ number, LeftOpen number (s.answers moves) → (s.run moves).sessionId = number := by
  obtain ⟨hready, hstart⟩ : s.phase = .ready ∧ s.sessionId = 0 := by
    obtain ⟨command, event, ack, _, rfl⟩ := Connected.opened_of_connect h
    exact ⟨rfl, rfl⟩
  have hnumber : (s.run moves).sessionId = openNumber 0 (s.answers moves) :=
    hstart ▸ sessionId_run s moves
  refine ⟨?_, ?_, fun number hopen => hnumber.trans (hopen.openNumber_eq 0)⟩
  · obtain ⟨before, move, later, rfl, hbefore, hends⟩ := exists_ends hready hclosed
    exact ⟨before, move, later, rfl, hbefore, hends, sessionId_behind_end h hbefore hends⟩
  · rw [hnumber]
    exact openNumber_eq_zero_iff

end Connected

/-- The session of number 5 is opened, and the connections are given up. -/
def openingAndClosing (answer : Exchange) : List Move := opening answer ++ [.call .close]

theorem leftOpen_openingAndClosing {answer : Exchange}
    (h : s.answers (opening answer) = [⟨.openSession 5, .ok ()⟩]) :
    (s.run (openingAndClosing answer)).phase = .closed ∧
      LeftOpen 5 (s.answers (openingAndClosing answer)) := by
  have hrun : s.run (openingAndClosing answer) = (s.run (opening answer)).close := rfl
  have hanswers : s.answers (openingAndClosing answer) =
      s.answers (opening answer) ++ [⟨.close, (s.run (opening answer)).answer .close⟩] := rfl
  rw [h] at hanswers
  refine ⟨hrun ▸ close_phase _, by decide, [], _, hanswers, fun answered hlater => ?_⟩
  obtain rfl := List.mem_singleton.mp hlater
  rfl

/-- Then the number is still 5. -/
theorem closed_number_opening :
    ∃ s answer, connect {} .empty [Connected.accepting, confirming] = (.session s, []) ∧
      (s.run (openingAndClosing answer)).phase = .closed ∧
      (∃ before move later, openingAndClosing answer = before ++ move :: later ∧
        (s.run before).phase = .ready ∧ (s.run before).Ends move ∧
        (s.run (openingAndClosing answer)).sessionId = (s.run before).sessionId) ∧
      (s.run (openingAndClosing answer)).sessionId = 5 := by
  obtain ⟨s, answer, h, hanswers⟩ := opening_answered
  obtain ⟨hclosed, hopen⟩ := leftOpen_openingAndClosing hanswers
  obtain ⟨hends, -, hnumber⟩ := closed_number h hclosed
  exact ⟨s, answer, h, hclosed, hends, hnumber 5 hopen⟩

/-- **The number of a session that is closed.**  Once the session of number 5 is opened, closing
does not bring the number back to zero. -/
theorem close_keeps_five :
    ∃ s answer, connect {} .empty [Connected.accepting, confirming] = (.session s, []) ∧
      (s.run (openingAndClosing answer)).phase = .closed ∧
      (s.run (openingAndClosing answer)).sessionId = 5 := by
  obtain ⟨s, answer, h, hanswers⟩ := opening_answered
  obtain ⟨hclosed, hopen⟩ := leftOpen_openingAndClosing hanswers
  exact ⟨s, answer, h, hclosed, (sessionId_run s _).trans (hopen.openNumber_eq _)⟩

end Session

end PictureTransfer
