import PictureTransfer.Proofs.Session.Classification
import PictureTransfer.Proofs.Session.Reply

/-!
# Calls that fall out of step

A call that fails because of a packet, or because of the connection itself, may
leave the two sides of the command connection at different places.  An operation
then closes the session (`ClosesOutOfStep`): no later call sends behind a packet
that was written in part, or reads what is left of an earlier answer.  The two
calls that are no operations, `sendCancel` and `probe`, leave the session ready,
with the connection as it is.

* `Session.perform_closes` — an operation that falls out of step closes the
  session;
* `Session.perform_stays` — any other call leaves it ready;
* `Session.perform_error_of_not_isOperation` — whenever it fails, it does so out of
  step;
* `Session.perform_closed_iff_isOperation` — so just the operations close the
  session, which then rests for good.
-/

namespace PictureTransfer

/-- True of a call that runs an operation. -/
def Call.isOperation : Call → Bool
  | sendCancel _ | probe | close => false
  | _ => true

/-- True of a call that uses the command connection: not one that is refused for
its parameters, and not the end of the session. -/
def Call.usesCommand : Call → Bool
  | transact _ params _ => params.length ≤ 5
  | close => false
  | _ => true

/-- A rule of data phases is none of single packets, and breaking it leaves the packets apart. -/
theorem Violation.isOfPacket_of_isOfData {violation : Violation}
    (h : violation.isOfData = true) :
    violation.isOfPacket = false ∧ violation.breaksFraming = false := by
  cases violation with
  | transactionMismatch | dataOverrun | dataStarted | dataEnded => exact ⟨rfl, rfl⟩
  | _ => exact Bool.noConfusion h

/-- An operation that uses the command connection is asked for. -/
theorem Call.request?_of_uses {call : Call} (hoperation : call.isOperation = true)
    (huses : call.usesCommand = true) : ∃ r, call.request? = some r := by
  cases call with
  | transact operation params dataOut => exact ⟨_, dif_pos (of_decide_eq_true huses)⟩
  | sendCancel | probe | close => exact Bool.noConfusion hoperation
  | _ => exact ⟨_, rfl⟩

namespace Session

variable {α β : Type} {s s' : Session} {err : Error}

/-- From a session, the step shuts it down whenever it falls out of step. -/
structure ClosesOutOfStep (s : Session) (x : SessionM α) : Prop where
  error : ∀ {s' : Session} {err : Error}, x s = .error err s' → err.breaksStep = true → s'.Shut

/-- **An operation that falls out of step** closes the session. -/
theorem perform_closes (hready : s.phase = .ready) {call : Call}
    (hoperation : call.isOperation = true) (huses : call.usesCommand = true) :
    ClosesOutOfStep s (perform call) where
  error h hbreaks := by
    obtain ⟨r, hrequest⟩ := Call.request?_of_uses hoperation huses
    rcases (perform_error_iff hrequest).mp h with htransact | ⟨t, -, hread⟩
    · rcases transact_error_cases hready htransact with hshut | ⟨violation, hdata, rfl, -⟩
      · exact hshut
      · -- A violation of data is none of a packet, so the call was in step.
        have hpacket : violation.isOfPacket = true := hbreaks
        rw [(Violation.isOfPacket_of_isOfData hdata).1] at hpacket
        exact Bool.noConfusion hpacket
    · have hin := (Call.read_error hread).inStep
      simp [hbreaks] at hin

/-- The two sessions are in one phase. -/
def SamePhase (s s' : Session) : Prop := s'.phase = s.phase

theorem SamePhase.refl (s : Session) : SamePhase s s := rfl

theorem SamePhase.trans {s middle s' : Session} (h : SamePhase s middle)
    (h' : SamePhase middle s') : SamePhase s s' := Eq.trans h' h

/-- The step leaves the phase of a session alone. -/
abbrev KeepsPhase (x : SessionM α) : Prop := StepRelates SamePhase x

theorem keepsPhase_requireReady : KeepsPhase requireReady := by
  refine .of_stateOf fun s => ?_
  unfold requireReady
  split
  · rfl
  · rfl

theorem keepsPhase_onCommand (action : EStateM Error Line α) : KeepsPhase (onCommand action) := by
  refine .of_stateOf fun s => ?_
  unfold onCommand
  split
  · rfl
  · rfl

theorem keepsPhase_given (x : Except Error α) : KeepsPhase (given x) := by
  cases x with
  | ok a => exact .pure .refl a
  | error err => exact .throw .refl err

/-- **A call that is no operation** leaves the session ready, whatever became of
it. -/
theorem perform_stays {call : Call} (hoperation : call.isOperation = false)
    (huses : call.usesCommand = true) : KeepsPhase (perform call) := by
  cases call with
  | sendCancel transactionId =>
      exact keepsPhase_requireReady.bind .trans fun _ => keepsPhase_onCommand _
  | probe =>
      exact keepsPhase_requireReady.bind .trans fun _ =>
        (keepsPhase_onCommand _).bind .trans fun _ => keepsPhase_given _
  | close => exact Bool.noConfusion huses
  | _ => exact Bool.noConfusion hoperation

/-- What goes wrong with the command connection goes wrong with the line. -/
theorem onCommand_error {action : EStateM Error Line α} (h : onCommand action s = .error err s') :
    action s.command = .error err s'.command := by
  unfold onCommand at h
  split at h
  · simp at h
  · rename_i haction
    obtain ⟨rfl, rfl⟩ := EStateM.Result.error.inj h
    exact haction

/-- Nothing else goes wrong with such a call than falling out of step. -/
theorem perform_error_of_not_isOperation (hready : s.phase = .ready) {call : Call}
    (hoperation : call.isOperation = false) (huses : call.usesCommand = true)
    (h : perform call s = .error err s') : err.breaksStep = true ∧ s'.phase = .ready := by
  refine ⟨?_, Eq.trans ((perform_stays hoperation huses).error h) hready⟩
  cases call with
  | sendCancel transactionId =>
      have hsend : onCommand (Line.send (Body.toPacket .cancel ⟨transactionId⟩)) s =
          .error err s' := (bind_of_ok (requireReady_of_ready hready) _).symm.trans h
      exact Line.send_error_breaksStep (onCommand_error hsend)
  | probe =>
      have hprobe := (bind_of_ok (requireReady_of_ready hready) _).symm.trans h
      rcases bind_error_iff.mp hprobe with hline | ⟨reply, middle, _, hexpect⟩
      · rcases bind_error_iff.mp (onCommand_error hline) with hsend | ⟨_, _, _, hreceive⟩
        · exact Line.send_error_breaksStep hsend
        · exact Line.receive_error hreceive
      · obtain ⟨hgiven, rfl⟩ := given_error_iff.mp hexpect
        obtain ⟨violation, hviolation, rfl⟩ := except_mapError_error_iff.mp hgiven
        exact Packet.expect_error hviolation
  | close => exact Bool.noConfusion huses
  | _ => exact Bool.noConfusion hoperation

/-- **Which calls close the session when they fall out of step**: the operations,
and no others.  A session that was closed so rests for good; one that was not is
still ready. -/
theorem perform_closed_iff_isOperation (hready : s.phase = .ready) {call : Call}
    (huses : call.usesCommand = true) (h : perform call s = .error err s')
    (hbreaks : err.breaksStep = true) :
    (s'.phase = .closed ↔ call.isOperation = true) ∧
      (call.isOperation = true → s'.Shut ∧ ∀ moves, Rests s' (s'.run moves)) ∧
      (call.isOperation = false → s'.phase = .ready) := by
  have hcloses : call.isOperation = true → s'.Shut := fun hoperation =>
    (perform_closes hready hoperation huses).error h hbreaks
  have hstays : call.isOperation = false → s'.phase = .ready := fun hoperation =>
    Eq.trans ((perform_stays hoperation huses).error h) hready
  refine ⟨⟨?_, fun hoperation => (hcloses hoperation).phase⟩, ?_, hstays⟩
  · intro hclosed
    cases hoperation : call.isOperation with
    | true => rfl
    | false =>
        rw [hstays hoperation] at hclosed
        exact Phase.noConfusion hclosed
  · intro hoperation
    have hshut := hcloses hoperation
    exact ⟨hshut, run_closed hshut.phase⟩

/-- A session whose next packet is written up to its header. -/
def tearing : Session :=
  (facing []).feedCommand { writeFault := some ⟨⟨.other, "connection reset"⟩, 1⟩ }

/-- An operation whose request was written in part closes the session. -/
theorem perform_closed_iff_isOperation_tearing :
    tearing.phase = .ready ∧ Call.getStorageIds.usesCommand = true ∧
      ∃ s', perform .getStorageIds tearing =
          .error (.link (.io ⟨.other, "connection reset"⟩)) s' ∧
        (Error.link (.io ⟨.other, "connection reset"⟩)).breaksStep = true ∧
        (s'.phase = .closed ↔ Call.getStorageIds.isOperation = true) ∧
        s'.command.sent = (⟨.operationRequest, List.replicate 10 0⟩ : Packet).header := by
  have hperform : ∃ s', perform .getStorageIds tearing =
      .error (.link (.io ⟨.other, "connection reset"⟩)) s' ∧
      s'.command.sent = (⟨.operationRequest, List.replicate 10 0⟩ : Packet).header :=
    ⟨_, rfl, rfl⟩
  obtain ⟨s', h, hsent⟩ := hperform
  exact ⟨rfl, rfl, s', h, rfl, (perform_closed_iff_isOperation rfl rfl h rfl).1, hsent⟩

/-- A probe that is answered by a packet of another kind leaves the session ready,
and the next probe takes what stands behind that packet for its own answer. -/
theorem probe_reads_leftover :
    let line := (Body.toPacket .probeRequest ()).toBytes ++
      (Body.toPacket .probeResponse ()).toBytes
    (facing line).phase = .ready ∧ Call.probe.usesCommand = true ∧
      ∃ s', perform .probe (facing line) =
          .error (.violation (.unexpectedPacket .probeResponse .probeRequest)) s' ∧
        (Error.violation (.unexpectedPacket .probeResponse .probeRequest)).breaksStep = true ∧
        s'.phase ≠ .closed ∧ ∃ s'', perform .probe s' = .ok () s'' :=
  ⟨rfl, rfl, _, rfl, rfl, by decide, _, rfl⟩

end Session

end PictureTransfer
