import PictureTransfer.Proofs.Outcome
import PictureTransfer.Proofs.Transaction.Order

/-!
# The books of a data phase

A step works on the phase at hand and is kept to its end or to the rule that it breaks;
whatever it has written by then stays.  `DataPhase.outcomes` runs steps in that way, each on
what the one before it left, whether it succeeded or failed, and notes what each came to.

A step that fails has written nothing, since all its checks come first.  So the run is that of
the packets that were accepted, `DataPhase.taken`, and the phase keeps its books about those:
the bytes, the one announcement, the end, and the length that none of them may exceed.

* `DataPhase.behind_eq_offerAll`, `DataPhase.taken_eq_accepted` — the run in place is that of
  the packets offered one after the other;
* `DataPhase.Kept` — what the books say, kept by an accepted packet and by a run of them;
* `DataPhase.outcomes_refused` — a refused step in the middle of a run changes nothing else
  in it;
* `DataPhase.overrun_iff` — which pieces go past the length announced;
* `DataPhase.books_kept` — all of this over every run.
-/

namespace PictureTransfer

namespace DataPhase

/-- The phase behind steps in a row, each on what the one before it left. -/
def behind (phase : DataPhase) (packets : List DataPacket) : DataPhase :=
  packets.foldl (fun phase packet => stateOf (step packet phase)) phase

/-- What each of the steps in a row comes to. -/
def outcomes (phase : DataPhase) : List DataPacket → List (DataPacket × Except Violation Unit)
  | [] => []
  | packet :: packets =>
      (packet, verdictOf (step packet phase)) ::
        (stateOf (step packet phase)).outcomes packets

/-- The packet of a step that succeeds. -/
def takenOf : DataPacket × Except Violation Unit → Option DataPacket
  | (packet, .ok ()) => some packet
  | (_, .error _) => none

/-- The packets of the steps in a row that succeed. -/
def taken (phase : DataPhase) (packets : List DataPacket) : List DataPacket :=
  (phase.outcomes packets).filterMap takenOf

variable {phase next left : DataPhase} {packet : DataPacket} {packets : List DataPacket}
  {violation : Violation} {id : UInt32}

theorem behind_append (phase : DataPhase) (front back : List DataPacket) :
    phase.behind (front ++ back) = (phase.behind front).behind back :=
  List.foldl_append

/-- Steps behind others find the phase as those have left it. -/
theorem outcomes_append (phase : DataPhase) (front back : List DataPacket) :
    phase.outcomes (front ++ back) =
      phase.outcomes front ++ (phase.behind front).outcomes back := by
  induction front generalizing phase with
  | nil => rfl
  | cons packet front ih =>
      simp only [List.cons_append, outcomes, ih]
      rfl

/-- A step succeeds where the packet is accepted, and leaves the phase behind it. -/
theorem step_ok_iff_accept : step packet phase = .ok () next ↔ phase.accept packet = .ok next :=
  step_ok_iff.trans accept_ok_iff.symm

/-- **A step in place is an offer**: one that fails leaves what it found. -/
theorem stateOf_step (phase : DataPhase) (packet : DataPacket) :
    stateOf (step packet phase) = phase.offer packet := by
  cases h : step packet phase with
  | ok value next => simp [stateOf, offer, step_ok_iff_accept.mp h]
  | error violation left =>
      obtain ⟨rfl, hrefuses⟩ := step_error_iff.mp h
      simp [stateOf, offer, accept_error_iff.mpr hrefuses]

theorem behind_eq_offerAll (phase : DataPhase) (packets : List DataPacket) :
    phase.behind packets = phase.offerAll packets := by
  simp only [behind, offerAll, stateOf_step]

theorem taken_eq_accepted (phase : DataPhase) (packets : List DataPacket) :
    phase.taken packets = phase.accepted packets := by
  induction packets generalizing phase with
  | nil => rfl
  | cons packet packets ih =>
      have hrest := ih (stateOf (step packet phase))
      cases h : step packet phase with
      | ok value next =>
          have haccept := step_ok_iff_accept.mp h
          rw [h] at hrest
          simp only [taken, outcomes, h, verdictOf, List.filterMap_cons, takenOf,
            (offerAll_cons_accepted haccept packets).2]
          exact congrArg _ hrest
      | error violation left =>
          obtain ⟨rfl, hrefuses⟩ := step_error_iff.mp h
          have hrefused := accept_error_iff.mpr hrefuses
          rw [h] at hrest
          simp only [taken, outcomes, h, verdictOf, List.filterMap_cons, takenOf,
            (offerAll_cons_refused hrefused packets).2]
          exact hrest

/-- **A refused step leaves no trace** in a run.  The steps behind it come to what they come
to without it, and so does the phase. -/
theorem outcomes_refused (h : step packet (phase.behind packets) = .error violation left)
    (later : List DataPacket) :
    ∃ others,
      phase.outcomes (packets ++ packet :: later) =
        phase.outcomes packets ++ (packet, .error violation) :: others ∧
      phase.outcomes (packets ++ later) = phase.outcomes packets ++ others ∧
      phase.behind (packets ++ packet :: later) = phase.behind (packets ++ later) := by
  obtain ⟨rfl, -⟩ := step_error_iff.mp h
  refine ⟨(phase.behind packets).outcomes later, ?_, outcomes_append phase packets later, ?_⟩
  · rw [outcomes_append, outcomes, h]
    rfl
  · rw [behind_append, behind_append]
    simp only [behind, List.foldl_cons] at h ⊢
    rw [h]
    rfl

/-- The books of a phase: what it tells of the packets that it took in, of which one at most is
an announcement, and the length that the data keeps to. -/
structure Kept (phase : DataPhase) (id : UInt32) (taken : List DataPacket) : Prop
    extends MadeOf phase id taken where
  announcedOnce : taken.countP DataPacket.isStart ≤ 1
  announced : ∀ {total : UInt64}, phase.announced = some total ↔
    total ≠ unknownLength ∧ ∃ a : StartData, .start a ∈ taken ∧ a.totalLength = total
  within : ∀ {total : UInt64}, phase.announced = some total → phase.data.length ≤ total.toNat

namespace Kept

variable {taken : List DataPacket}

theorem of_fresh : (fresh id).Kept id [] where
  toMadeOf := MadeOf.of_fresh
  announcedOnce := Nat.zero_le 1
  announced := by simp [fresh]
  within := by simp [fresh]

/-- The announcement finds no other in the books, and no byte. -/
theorem start (hkept : phase.Kept id taken) {a : StartData}
    (hstarted : phase.started = false) (hdata : phase.data = [])
    (h : phase.accept (.start a) = .ok next)
    (hnext : next.announced =
      if a.totalLength = unknownLength then phase.announced else some a.totalLength) :
    next.Kept id (taken ++ [.start a]) := by
  have hnone : ∀ packet ∈ taken, packet.isStart = false := by
    simpa [hkept.started] using hstarted
  have hfirst : ∀ b : StartData, .start b ∉ taken := by
    intro b hmem
    simpa [DataPacket.isStart] using hnone _ hmem
  have hunannounced : phase.announced = none := by
    refine Option.eq_none_iff_forall_ne_some.mpr fun total hannounced => ?_
    obtain ⟨-, b, hmem, -⟩ := hkept.announced.mp hannounced
    exact hfirst b hmem
  refine ⟨hkept.toMadeOf.accept h, ?_, ?_, ?_⟩
  · have hcount : taken.countP DataPacket.isStart = 0 := by
      simpa [List.countP_eq_zero] using hnone
    simp [List.countP_append, hcount, DataPacket.isStart]
  · intro total
    rw [hnext, hunannounced]
    by_cases hknown : a.totalLength = unknownLength
    · simp only [hknown, if_true, List.mem_append, hfirst, false_or, List.mem_singleton,
        DataPacket.start.injEq, reduceCtorEq, false_iff]
      rintro ⟨hne, b, rfl, rfl⟩
      exact hne hknown
    · simp only [hknown, if_false, List.mem_append, hfirst, false_or, List.mem_singleton,
        DataPacket.start.injEq, Option.some.injEq]
      constructor
      · rintro rfl
        exact ⟨hknown, a, rfl, rfl⟩
      · rintro ⟨-, b, rfl, rfl⟩
        rfl
  · intro total _
    simp [accept_data h, hdata, DataPacket.bytes]

/-- A piece, the last one or not, adds nothing to the announcements and keeps to the length. -/
theorem piece (hkept : phase.Kept id taken) (hpacket : packet.isStart = false)
    (h : phase.accept packet = .ok next) (hnext : next.announced = phase.announced)
    (hroom : ∀ total ∈ phase.announced, phase.data.length + packet.bytes.length ≤ total.toNat) :
    next.Kept id (taken ++ [packet]) := by
  refine ⟨hkept.toMadeOf.accept h, ?_, ?_, ?_⟩
  · simpa [List.countP_append, hpacket] using hkept.announcedOnce
  · intro total
    have hother : ∀ a : StartData, .start a ≠ packet := by
      rintro a rfl
      simp [DataPacket.isStart] at hpacket
    simp only [hnext, hkept.announced, List.mem_append, List.mem_singleton, hother, or_false]
  · intro total hannounced
    rw [accept_data h, List.length_append]
    exact hroom total (hnext ▸ hannounced)

/-- One accepted packet more. -/
theorem accept (hkept : phase.Kept id taken) (h : phase.accept packet = .ok next) :
    next.Kept id (taken ++ [packet]) := by
  cases accept_ok_iff.mp h with
  | start _ hstarted hdata => exact hkept.start hstarted hdata h rfl
  | piece _ _ hroom => exact hkept.piece rfl h rfl hroom
  | last _ _ hroom => exact hkept.piece rfl h rfl hroom

theorem acceptAll (hkept : phase.Kept id taken) (h : phase.acceptAll packets = .ok next) :
    next.Kept id (taken ++ packets) :=
  acceptAll_keeps (Kept · id) accept hkept h

/-- Whatever steps are made on a fresh phase, its books are those of the packets taken in. -/
theorem behind (id : UInt32) (packets : List DataPacket) :
    ((fresh id).behind packets).Kept id ((fresh id).taken packets) := by
  rw [behind_eq_offerAll, taken_eq_accepted]
  exact of_fresh.acceptAll (acceptAll_accepted _ packets)

end Kept

/-- **An overrun** is a piece of the transaction, in a phase that is not over, that would make
the data longer than announced.  It is refused whole. -/
theorem overrun_iff {total : UInt64} {received : Nat} :
    step packet phase = .error (.dataOverrun total received) left ↔
      packet.transactionId = phase.transactionId ∧ packet.isStart = false ∧
      phase.finished = false ∧ phase.announced = some total ∧
      received = phase.data.length + packet.bytes.length ∧ total.toNat < received ∧
      left = phase := by
  constructor
  · intro h
    obtain ⟨rfl, hrefuses⟩ := step_error_iff.mp h
    cases hrefuses with
    | overrun htransaction hpacket hopen hannounced hover =>
        exact ⟨htransaction, hpacket, hopen, hannounced, rfl, hover, rfl⟩
  · rintro ⟨htransaction, hpacket, hopen, hannounced, rfl, hover, rfl⟩
    exact step_of_refuses (.overrun htransaction hpacket hopen hannounced hover)

/-- **The books of a data phase.**  Whatever steps are made on a fresh phase, in whatever
order and with whatever outcome:

* a step succeeds just where its packet is of the transaction, and is an announcement in front
  of which nothing was announced and no byte came, or a piece that keeps to the length, in a
  phase that is not over (`Accepts`);
* a step that fails leaves the phase as it was, and in any longer run the other steps come to
  what they come to without it, and so does the phase;
* the data is that of the packets taken in, in their order, and at most one announcement is
  among them;
* the phase is over iff a last piece was taken in, and it stays over;
* the length held against the data is the one announced, if one was and the responder knew it.
  The data never exceeds it, and a piece that would is refused whole, with that length and the
  length that the data would have had. -/
theorem books_kept (id : UInt32) (packets : List DataPacket) :
    let phase := (fresh id).behind packets
    let taken := (fresh id).taken packets
    (∀ packet next, step packet phase = .ok () next ↔ phase.Accepts packet next) ∧
    (∀ packet violation left, step packet phase = .error violation left →
      left = phase ∧ ∀ later, ∃ others,
        (fresh id).outcomes (packets ++ packet :: later) =
          (fresh id).outcomes packets ++ (packet, .error violation) :: others ∧
        (fresh id).outcomes (packets ++ later) = (fresh id).outcomes packets ++ others ∧
        (fresh id).behind (packets ++ packet :: later) =
          (fresh id).behind (packets ++ later)) ∧
    phase.data = taken.flatMap DataPacket.bytes ∧
    taken.countP DataPacket.isStart ≤ 1 ∧
    (phase.finished = true ↔ ∃ packet ∈ taken, packet.isLast = true) ∧
    (phase.finished = true → ∀ later, (phase.behind later).finished = true) ∧
    (∀ total, phase.announced = some total ↔
      total ≠ unknownLength ∧ ∃ a : StartData, .start a ∈ taken ∧ a.totalLength = total) ∧
    (∀ total, phase.announced = some total → phase.data.length ≤ total.toNat) ∧
    (∀ packet total received left,
      step packet phase = .error (.dataOverrun total received) left ↔
        packet.transactionId = id ∧ packet.isStart = false ∧ phase.finished = false ∧
        phase.announced = some total ∧
        received = phase.data.length + packet.bytes.length ∧ total.toNat < received ∧
        left = phase) := by
  intro phase taken
  have hkept : phase.Kept id taken := Kept.behind id packets
  refine ⟨fun _ _ => step_ok_iff, ?refused, hkept.data, hkept.announcedOnce, ?ended, ?stays, fun _ => hkept.announced,
    fun _ => hkept.within, ?overrun⟩
  case refused =>
    intro packet violation left h
    exact ⟨(step_error_iff.mp h).1, outcomes_refused h⟩
  case ended => simp [hkept.finished]
  case stays =>
    intro hended later
    rw [behind_eq_offerAll]
    exact (offerAll_ended hended later).2.1
  case overrun =>
    intro packet total received left
    rw [overrun_iff, hkept.transactionId]

end DataPhase

end PictureTransfer
