import PictureTransfer.Session.Cycle

/-!
# Putting the data of a transaction together

A data phase takes packets in one after the other, and refuses one that breaks
a rule.  `DataPhase.acceptAll` is what becomes of a list of them up to the first
that is refused; the cycle of a call keeps just that account (`Intake`):

* `DataPhase.acceptAll_data` — what was accepted stands in the order of arrival;
* `DataPhase.acceptAll_error_iff` — the error is that of the first packet that
  is refused by what the packets before it have made of the phase;
* `Intake.takeAll_of_accepted`, `Intake.takeAll_of_refused` — a cycle holds no
  violation where all packets are accepted, and the first one otherwise,
  whatever packets follow.
-/

namespace PictureTransfer

/-- True of the rules that the packets of a data phase can break. -/
def Violation.isOfData : Violation → Bool
  | transactionMismatch .. | dataOverrun .. | dataStarted | dataEnded _ => true
  | _ => false

namespace DataPhase

/-- A phase in which nothing has come yet. -/
def fresh (id : UInt32) : DataPhase := { transactionId := id }

/-- Takes packets in, up to the first that is refused. -/
def acceptAll (phase : DataPhase) : List DataPacket → Except Violation DataPhase
  | [] => .ok phase
  | packet :: packets =>
      match phase.accept packet with
      | .ok next => next.acceptAll packets
      | .error violation => .error violation

variable {phase next : DataPhase} {packet : DataPacket} {packets : List DataPacket}
  {violation : Violation}

theorem acceptAll_cons_accepted (h : phase.accept packet = .ok next) :
    phase.acceptAll (packet :: packets) = next.acceptAll packets := by
  simp [acceptAll, h]

theorem acceptAll_cons_refused (h : phase.accept packet = .error violation) :
    phase.acceptAll (packet :: packets) = .error violation := by
  simp [acceptAll, h]

/-- Packets are accepted when those in front are, and then those behind them. -/
theorem acceptAll_append_ok_iff {front back : List DataPacket} :
    phase.acceptAll (front ++ back) = .ok next ↔
      ∃ middle, phase.acceptAll front = .ok middle ∧ middle.acceptAll back = .ok next := by
  induction front generalizing phase with
  | nil => simp [acceptAll]
  | cons packet front ih =>
      cases haccept : phase.accept packet with
      | error v => simp [List.cons_append, acceptAll_cons_refused haccept]
      | ok middle =>
          rw [List.cons_append, acceptAll_cons_accepted haccept, acceptAll_cons_accepted haccept]
          exact ih

/-- What is accepted stands behind what came before it. -/
theorem acceptAll_data (h : phase.acceptAll packets = .ok next) :
    next.data = phase.data ++ packets.flatMap DataPacket.bytes := by
  induction packets generalizing phase with
  | nil =>
      simp only [acceptAll, Except.ok.injEq] at h
      subst h
      simp
  | cons packet packets ih =>
      cases haccept : phase.accept packet with
      | error v => simp [acceptAll_cons_refused haccept] at h
      | ok middle =>
          rw [acceptAll_cons_accepted haccept] at h
          rw [ih h, accept_data haccept, List.flatMap_cons, List.append_assoc]

/-- A packet that is refused breaks a rule of data phases. -/
theorem accept_error (h : phase.accept packet = .error violation) :
    violation.isOfData = true := by
  cases accept_error_iff.mp h with
  | foreign | underway | ended | overrun => rfl

/-- **The first packet that is refused** decides the error. -/
theorem acceptAll_error_iff :
    phase.acceptAll packets = .error violation ↔
      ∃ before packet after middle, packets = before ++ packet :: after ∧
        phase.acceptAll before = .ok middle ∧ middle.accept packet = .error violation := by
  constructor
  · intro h
    induction packets generalizing phase with
    | nil => simp [acceptAll] at h
    | cons packet packets ih =>
        cases haccept : phase.accept packet with
        | error v =>
            have hv : v = violation := by simpa [acceptAll_cons_refused haccept] using h
            subst hv
            exact ⟨[], packet, packets, phase, rfl, rfl, haccept⟩
        | ok next =>
            rw [acceptAll_cons_accepted haccept] at h
            obtain ⟨before, culprit, after, middle, rfl, hbefore, hculprit⟩ := ih h
            refine ⟨packet :: before, culprit, after, middle, rfl, ?_, hculprit⟩
            rwa [acceptAll_cons_accepted haccept]
  · intro h
    obtain ⟨before, packet, after, middle, rfl, hbefore, hpacket⟩ := h
    induction before generalizing phase with
    | nil =>
        simp only [acceptAll, Except.ok.injEq] at hbefore
        subst hbefore
        exact acceptAll_cons_refused hpacket
    | cons first before ih =>
        cases haccept : phase.accept first with
        | error v => simp [acceptAll_cons_refused haccept] at hbefore
        | ok next =>
            rw [acceptAll_cons_accepted haccept] at hbefore
            rw [List.cons_append, acceptAll_cons_accepted haccept]
            exact ih hbefore

theorem acceptAll_error (h : phase.acceptAll packets = .error violation) :
    violation.isOfData = true := by
  obtain ⟨_, _, _, _, _, _, hculprit⟩ := acceptAll_error_iff.mp h
  exact accept_error hculprit

end DataPhase

namespace Intake

/-- Takes data packets in, one after the other. -/
def takeAll (intake : Intake) (packets : List DataPacket) : Intake := packets.foldl take intake

variable {intake : Intake} {packets : List DataPacket} {violation : Violation}

/-- A violation that is held stays, whatever packets follow. -/
theorem takeAll_held (h : intake.held = some violation) :
    (intake.takeAll packets).held = some violation := by
  induction packets generalizing intake with
  | nil => exact h
  | cons packet packets ih => exact ih (take_held h packet)

/-- Packets that are all accepted leave nothing held. -/
theorem takeAll_of_accepted {next : DataPhase} (hheld : intake.held = none)
    (h : intake.phase.acceptAll packets = .ok next) :
    intake.takeAll packets = ⟨next, none, intake.any || !packets.isEmpty⟩ := by
  induction packets generalizing intake with
  | nil =>
      simp only [DataPhase.acceptAll, Except.ok.injEq] at h
      obtain ⟨phase, held, any⟩ := intake
      simp_all [takeAll]
  | cons packet packets ih =>
      cases haccept : intake.phase.accept packet with
      | error v => simp [DataPhase.acceptAll_cons_refused haccept] at h
      | ok middle =>
          rw [DataPhase.acceptAll_cons_accepted haccept] at h
          have htake : intake.take packet = ⟨middle, none, true⟩ := by
            simp [take, hheld, haccept]
          have hall : intake.takeAll (packet :: packets) =
              Intake.takeAll ⟨middle, none, true⟩ packets := by
            simp [takeAll, htake]
          rw [hall, ih rfl h]
          simp

/-- The first packet that is refused leaves its violation held. -/
theorem takeAll_of_refused (hheld : intake.held = none)
    (h : intake.phase.acceptAll packets = .error violation) :
    (intake.takeAll packets).held = some violation := by
  induction packets generalizing intake with
  | nil => simp [DataPhase.acceptAll] at h
  | cons packet packets ih =>
      cases haccept : intake.phase.accept packet with
      | error v =>
          have hv : v = violation := by simpa [DataPhase.acceptAll_cons_refused haccept] using h
          subst hv
          have htake : (intake.take packet).held = some v := by simp [take, hheld, haccept]
          have hall : ((intake.take packet).takeAll packets).held = some v := takeAll_held htake
          simpa [takeAll] using hall
      | ok middle =>
          rw [DataPhase.acceptAll_cons_accepted haccept] at h
          have htake : intake.take packet = ⟨middle, none, true⟩ := by
            simp [take, hheld, haccept]
          have hall : (Intake.takeAll ⟨middle, none, true⟩ packets).held = some violation :=
            ih rfl h
          simpa [takeAll, htake] using hall

end Intake

end PictureTransfer
