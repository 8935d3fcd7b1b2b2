import PictureTransfer.Proofs.Transaction.Reassembly

/-!
# The order of a data phase

A data phase is offered packets one after the other.  One that is refused leaves no trace, so
the phase is made of the packets that were accepted and of nothing else.  What those were
decides what is accepted next: an announcement unless one was accepted before it, or data; a
piece or a last piece only as long as no last piece was.

Data here means bytes.  A piece without any leaves nothing behind that an announcement looks
at, nor does a last piece without any, so either may be accepted in front of the announcement
that should have preceded it: `DataPhase.announced_behind_nothing`.

* `DataPhase.acceptAll_accepted` — what the offered packets come to is what the accepted ones
  come to;
* `DataPhase.MadeOf` — what a phase tells of the packets that were accepted;
* `DataPhase.begins_iff`, `DataPhase.offerAll_ended`, `DataPhase.refuses_all_iff` — what it
  takes for an announcement to be accepted, and what still is behind a last piece;
* `DataPhase.accepted_in_order` — the same in terms of the packets accepted so far.
-/

namespace PictureTransfer

namespace DataPhase

/-- The phase behind a packet that it was offered. -/
def offer (phase : DataPhase) (packet : DataPacket) : DataPhase :=
  match phase.accept packet with
  | .ok next => next
  | .error _ => phase

/-- The phase behind packets that it was offered one after the other. -/
def offerAll (phase : DataPhase) (packets : List DataPacket) : DataPhase :=
  packets.foldl offer phase

/-- The packets that are accepted when they are offered one after the other. -/
def accepted (phase : DataPhase) : List DataPacket → List DataPacket
  | [] => []
  | packet :: packets =>
      match phase.accept packet with
      | .ok next => packet :: next.accepted packets
      | .error _ => phase.accepted packets

variable {phase next : DataPhase} {packet : DataPacket} {packets : List DataPacket}
  {violation : Violation}

theorem offerAll_cons_accepted (h : phase.accept packet = .ok next)
    (packets : List DataPacket) :
    phase.offerAll (packet :: packets) = next.offerAll packets ∧
      phase.accepted (packet :: packets) = packet :: next.accepted packets := by
  simp [offerAll, accepted, offer, h]

theorem offerAll_cons_refused (h : phase.accept packet = .error violation)
    (packets : List DataPacket) :
    phase.offerAll (packet :: packets) = phase.offerAll packets ∧
      phase.accepted (packet :: packets) = phase.accepted packets := by
  simp [offerAll, accepted, offer, h]

/-- **A packet that is refused leaves no trace**: the phase is what the accepted packets make
of it, one after the other. -/
theorem acceptAll_accepted (phase : DataPhase) (packets : List DataPacket) :
    phase.acceptAll (phase.accepted packets) = .ok (phase.offerAll packets) := by
  induction packets generalizing phase with
  | nil => rfl
  | cons packet packets ih =>
      cases haccept : phase.accept packet with
      | ok next =>
          obtain ⟨hoffer, haccepted⟩ := offerAll_cons_accepted haccept packets
          rw [hoffer, haccepted, acceptAll_cons_accepted haccept]
          exact ih next
      | error violation =>
          obtain ⟨hoffer, haccepted⟩ := offerAll_cons_refused haccept packets
          rw [hoffer, haccepted]
          exact ih phase

/-- What an accepted packet keeps of a phase and the packets that it was made of, packets that
are all accepted keep. -/
theorem acceptAll_keeps (inv : DataPhase → List DataPacket → Prop)
    (hstep : ∀ {phase next : DataPhase} {taken : List DataPacket} {packet : DataPacket},
      inv phase taken → phase.accept packet = .ok next → inv next (taken ++ [packet]))
    {taken : List DataPacket} (hinv : inv phase taken) (h : phase.acceptAll packets = .ok next) :
    inv next (taken ++ packets) := by
  induction packets generalizing phase taken with
  | nil =>
      simp only [acceptAll, Except.ok.injEq] at h
      subst h
      simpa using hinv
  | cons packet packets ih =>
      cases haccept : phase.accept packet with
      | error v => simp [acceptAll_cons_refused haccept] at h
      | ok middle =>
          rw [acceptAll_cons_accepted haccept] at h
          simpa using ih (hstep hinv haccept) h

/-- The packets that a phase was made of, as far as it tells them. -/
structure MadeOf (phase : DataPhase) (id : UInt32) (taken : List DataPacket) : Prop where
  transactionId : phase.transactionId = id
  started : phase.started = taken.any DataPacket.isStart
  finished : phase.finished = taken.any DataPacket.isLast
  data : phase.data = taken.flatMap DataPacket.bytes

namespace MadeOf

variable {id : UInt32} {taken : List DataPacket}

theorem of_fresh : (fresh id).MadeOf id [] := ⟨rfl, rfl, rfl, rfl⟩

/-- One accepted packet more. -/
theorem accept (hmade : phase.MadeOf id taken) (h : phase.accept packet = .ok next) :
    next.MadeOf id (taken ++ [packet]) where
  transactionId := by rw [accept_transactionId h, hmade.transactionId]
  started := by simp [accept_started h, hmade.started]
  finished := by simp [accept_finished h, hmade.finished]
  data := by simp [accept_data h, hmade.data]

theorem acceptAll (hmade : phase.MadeOf id taken) (h : phase.acceptAll packets = .ok next) :
    next.MadeOf id (taken ++ packets) :=
  acceptAll_keeps (MadeOf · id) accept hmade h

/-- Whatever a fresh phase is offered, it is made of what it accepted. -/
theorem offerAll (offered : List DataPacket) :
    ((fresh id).offerAll offered).MadeOf id ((fresh id).accepted offered) :=
  of_fresh.acceptAll (acceptAll_accepted _ offered)

end MadeOf

/-- **An announcement** is accepted as long as none was and no byte has come. -/
theorem begins_iff {a : StartData} :
    (∃ next, phase.accept (.start a) = .ok next) ↔
      a.transactionId = phase.transactionId ∧ phase.started = false ∧ phase.data = [] := by
  constructor
  · intro h
    obtain ⟨next, haccept⟩ := h
    cases accept_ok_iff.mp haccept with
    | start htransaction hstarted hdata => exact ⟨htransaction, hstarted, hdata⟩
  · intro h
    obtain ⟨htransaction, hstarted, hdata⟩ := h
    exact ⟨_, accept_ok_iff.mpr (.start htransaction hstarted hdata)⟩

/-- **Behind the last piece** neither a piece nor a last piece is accepted. -/
theorem ended_refuses (hended : phase.finished = true) (h : phase.accept packet = .ok next) :
    packet.isStart = true := by
  cases accept_ok_iff.mp h with
  | start => rfl
  | piece _ hopen => simp [hopen] at hended
  | last _ hopen => simp [hopen] at hended

/-- Packets that are accepted behind the last piece bring no data. -/
theorem acceptAll_ended (hended : phase.finished = true) (h : phase.acceptAll packets = .ok next) :
    packets.flatMap DataPacket.bytes = [] := by
  induction packets generalizing phase with
  | nil => rfl
  | cons packet packets ih =>
      cases haccept : phase.accept packet with
      | error v => simp [acceptAll_cons_refused haccept] at h
      | ok middle =>
          rw [acceptAll_cons_accepted haccept] at h
          have hmiddle : middle.finished = true := by simp [accept_finished haccept, hended]
          have hstart := ended_refuses hended haccept
          rw [List.flatMap_cons, DataPacket.bytes_of_isStart hstart, List.nil_append]
          exact ih hmiddle h

/-- Behind the last piece only announcements are accepted, and they add no data. -/
theorem offerAll_ended (hended : phase.finished = true) (later : List DataPacket) :
    (∀ packet ∈ phase.accepted later, packet.isStart = true) ∧
      (phase.offerAll later).finished = true ∧ (phase.offerAll later).data = phase.data := by
  induction later generalizing phase with
  | nil => exact ⟨by simp [accepted], hended, rfl⟩
  | cons packet later ih =>
      cases haccept : phase.accept packet with
      | error violation =>
          obtain ⟨hoffer, haccepted⟩ := offerAll_cons_refused haccept later
          rw [hoffer, haccepted]
          exact ih hended
      | ok next =>
          obtain ⟨hoffer, haccepted⟩ := offerAll_cons_accepted haccept later
          have hstart := ended_refuses hended haccept
          have hnext : next.finished = true := by simp [accept_finished haccept, hended]
          have hdata : next.data = phase.data := by
            rw [accept_data haccept, DataPacket.bytes_of_isStart hstart, List.append_nil]
          obtain ⟨hrest, hfinished, hsame⟩ := ih hnext
          rw [hoffer, haccepted, hsame, hdata]
          exact ⟨by simpa [hstart] using hrest, hfinished, rfl⟩

/-- A phase that refuses each of some packets is as it was behind them. -/
theorem offerAll_refused (later : List DataPacket)
    (h : ∀ packet ∈ later, ∀ next, phase.accept packet ≠ .ok next) :
    phase.accepted later = [] ∧ phase.offerAll later = phase := by
  induction later with
  | nil => exact ⟨rfl, rfl⟩
  | cons packet later ih =>
      obtain ⟨hfirst, hlater⟩ := List.forall_mem_cons.mp h
      cases haccept : phase.accept packet with
      | ok next => exact absurd haccept (hfirst next)
      | error violation =>
          obtain ⟨hoffer, haccepted⟩ := offerAll_cons_refused haccept later
          rw [hoffer, haccepted]
          exact ih hlater

/-- Behind the last piece all is refused iff an announcement is, that is, iff one was accepted
before or a byte has come. -/
theorem refuses_all_iff (hended : phase.finished = true) :
    (∀ later, phase.accepted later = [] ∧ phase.offerAll later = phase) ↔
      phase.started = true ∨ phase.data ≠ [] := by
  constructor
  · intro hall
    refine Decidable.byContradiction fun hopen => ?_
    obtain ⟨hstarted, hdata⟩ : phase.started = false ∧ phase.data = [] := by simpa using hopen
    obtain ⟨next, haccept⟩ :=
      (begins_iff (a := ⟨phase.transactionId, 0⟩)).mpr ⟨rfl, hstarted, hdata⟩
    have haccepted := (hall [.start ⟨phase.transactionId, 0⟩]).1
    simp [accepted, haccept] at haccepted
  · intro hsettled later
    refine offerAll_refused later fun packet _ next haccept => ?_
    cases packet with
    | start a =>
        obtain ⟨-, hstarted, hdata⟩ := begins_iff.mp ⟨next, haccept⟩
        simp [hstarted, hdata] at hsettled
    | piece c => simpa [DataPacket.isStart] using ended_refuses hended haccept
    | last c => simpa [DataPacket.isStart] using ended_refuses hended haccept

/-- **A phase is announced first and stays over**, as far as bytes go.  Whatever packets a
fresh phase is offered, an announcement is accepted next iff no announcement and no byte was
accepted before it.  Once a last piece was accepted, nothing but announcements is, the phase
stays over and its data as they are; and nothing at all is accepted or changed any more iff
an announcement or a byte was accepted by then. -/
theorem accepted_in_order (id : UInt32) (offered : List DataPacket) :
    let taken := (fresh id).accepted offered
    let phase := (fresh id).offerAll offered
    (∀ a : StartData, (∃ next, phase.accept (.start a) = .ok next) ↔
      a.transactionId = id ∧ ∀ packet ∈ taken, packet.isStart = false ∧ packet.bytes = []) ∧
    ((∃ packet ∈ taken, packet.isLast = true) →
      (∀ later, (∀ packet ∈ phase.accepted later, packet.isStart = true) ∧
        (phase.offerAll later).finished = true ∧ (phase.offerAll later).data = phase.data) ∧
      ((∀ later, phase.accepted later = [] ∧ phase.offerAll later = phase) ↔
        ∃ packet ∈ taken, packet.isStart = true ∨ packet.bytes ≠ [])) := by
  intro taken phase
  have hmade : phase.MadeOf id taken := MadeOf.offerAll offered
  refine ⟨fun a => ?_, fun hlast => ?_⟩
  · rw [begins_iff, hmade.transactionId, hmade.started, hmade.data]
    simp [forall_and]
  · have hended : phase.finished = true := by simpa [hmade.finished] using hlast
    refine ⟨offerAll_ended hended, ?_⟩
    rw [refuses_all_iff hended, hmade.started, hmade.data]
    simp [and_or_left, exists_or]

/-- An announcement is accepted behind a piece without bytes, and behind a last piece without
bytes, where it changes the phase that was over. -/
theorem announced_behind_nothing :
    (fresh 1).accepted [.piece ⟨1, []⟩, .start ⟨1, 4⟩] = [.piece ⟨1, []⟩, .start ⟨1, 4⟩] ∧
      (fresh 1).accepted [.last ⟨1, []⟩, .start ⟨1, 4⟩] = [.last ⟨1, []⟩, .start ⟨1, 4⟩] ∧
      (fresh 1).offerAll [.last ⟨1, []⟩, .start ⟨1, 4⟩] ≠
        (fresh 1).offerAll [.last ⟨1, []⟩] := by
  decide

end DataPhase

end PictureTransfer
