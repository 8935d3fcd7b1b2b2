import PictureTransfer.Proofs.Session.Closing
import PictureTransfer.Proofs.Session.CommandSide
import PictureTransfer.Proofs.Session.Reply

/-!
# What a call asks of the responder

A call of a ready session either has an operation carried out, and then it takes a number
and runs one cycle, or it is refused for its parameters, or it sends a single packet that
belongs to no operation, or it ends the session.  `Call.request?` tells which operation a call
asks for, and `Session.request?` whether a session takes it up.

* `Session.perform_request` — a call that is taken up goes by its cycle: if the cycle is cut off
  the session is closed, and else nothing but its number may depend on the answer, which
  `Call.brings?` tells;
* `Session.made` — what a ready session makes of any call, as one of four cases (`Session.Made`);
* `Session.noNewFault_run` — no write on the command connection is going to fail unless the
  responder's side has it fail.
-/

namespace PictureTransfer

/-- A cycle does not bring about that a write fails. -/
theorem Cycle.run_noNewFault (operation : OperationCode) (id : UInt32) (params : OperationParams)
    (dataOut : Option Bytes) : StepRelates Line.NoNewFault (run operation id params dataOut) := by
  have hcollect (intake : Intake) : StepRelates Line.NoNewFault (collect intake) := by
    refine .of_stateOf fun line => ?_
    -- By induction on what is read: packets are received, and probes are answered.
    fun_induction collect intake line with
    | case1 intake line e line' hreceive => exact Line.receive_noNewFault.error hreceive
    | case2 intake line p line' hreceive | case3 intake line p line' hreceive =>
        exact Line.receive_noNewFault.ok hreceive
    | case4 intake line p line' hreceive packet hheard ih =>
        exact (Line.receive_noNewFault.ok hreceive).trans ih
    | case5 intake line p line' hreceive hheard e line'' hsend =>
        exact (Line.receive_noNewFault.ok hreceive).trans ((Line.send_noNewFault _).error hsend)
    | case6 intake line p line' hreceive hheard line'' hsend ih =>
        have hsent := (Line.send_noNewFault _).ok hsend
        exact ((Line.receive_noNewFault.ok hreceive).trans hsent).trans ih
  refine .bind .trans ?_ fun _ => .bind .trans (hcollect _) fun cycle => ?_
  · refine .bind .trans (Line.send_noNewFault _) fun _ => ?_
    cases dataOut with
    | none => exact .pure Line.NoNewFault.refl ()
    | some data => exact Line.send_noNewFault _
  · cases cycle.check id with
    | ok cycle => exact .pure Line.NoNewFault.refl cycle
    | error violation => exact .throw Line.NoNewFault.refl _

namespace Request

/-- The packets that ask for an operation by a number. -/
def outgoing (r : Request) (id : UInt32) : List Packet :=
  Cycle.outgoing r.operation id r.params r.dataOut

/-- Sends them. -/
def send (r : Request) (id : UInt32) : EStateM Error Line Unit :=
  Cycle.request r.operation id r.params r.dataOut

/-- Runs the whole cycle of the operation. -/
def run (r : Request) (id : UInt32) : EStateM Error Line Cycle :=
  Cycle.run r.operation id r.params r.dataOut

end Request

namespace Call

/-- The packet that a call sends without an operation, if it sends one. -/
def message : Call → Bytes
  | sendCancel transactionId => (Body.toPacket .cancel ⟨transactionId⟩).toBytes
  | probe => (Body.toPacket .probeRequest ()).toBytes
  | _ => []

end Call

namespace Session

/-- The operation that a move asks for, if the session takes it up: a session that is not ready
takes up none. -/
def request? (s : Session) : Move → Option Request
  | .call call => if s.phase = .ready then call.request? else none
  | _ => none

/-- The session with another number of the open session, if there is one. -/
def keeping (number : Option UInt32) (s : Session) : Session :=
  { s with events.sessionId := number.getD s.sessionId }

variable {α β : Type} {s : Session} {r : Request} {call : Call}

/-- The step asks for an operation and goes by its cycle, and `brings` tells the number of the
open session from its result. -/
structure GoesBy (r : Request) (s : Session) (brings : Except Error α → Option UInt32)
    (x : SessionM α) : Prop where
  taken : ∀ {cycle : Cycle} {line : Line},
    r.run s.counter.advance.last s.command = .ok cycle line →
      ∃ result, x s = ending result ((s.numbered line).keeping (brings result))
  cut : ∀ {e : Error} {line : Line}, r.run s.counter.advance.last s.command = .error e line →
    x s = .error e (s.numbered line).close

theorem goesBy_transact (hready : s.phase = .ready) (r : Request) :
    GoesBy r s (fun _ => none) (transact r.operation r.params.values r.dataOut) where
  taken {cycle line} hrun := by
    have htransact := transact_eq hready r.operation r.params r.dataOut
    simp only [show Cycle.run _ _ _ _ _ = _ from hrun] at htransact
    rw [htransact]
    cases cycle.held with
    | some violation => exact ⟨.error (.violation violation), rfl⟩
    | none => exact ⟨.ok _, rfl⟩
  cut {e line} hrun := by
    have htransact := transact_eq hready r.operation r.params r.dataOut
    simp only [show Cycle.run _ _ _ _ _ = _ from hrun] at htransact
    exact htransact

/-- What is done with the answer of the responder may bring a number. -/
theorem GoesBy.bind {x : SessionM α} {f : α → SessionM β}
    {brings : Except Error β → Option UInt32} (hx : GoesBy r s (fun _ => none) x)
    (hf : ∀ a middle, ∃ result, f a middle = ending result (middle.keeping (brings result)))
    (hnone : ∀ e, brings (.error e) = none) : GoesBy r s brings (x >>= f) where
  taken {cycle line} hrun := by
    obtain ⟨result, hfirst⟩ := hx.taken hrun
    cases result with
    | ok a =>
        rw [bind_of_ok hfirst]
        exact hf a (s.numbered line)
    | error e =>
        refine ⟨.error e, ?_⟩
        rw [bind_of_error hfirst, hnone]
        rfl
  cut hrun := bind_of_error (hx.cut hrun) f

theorem keep_eq (number : Option UInt32) (s : Session) :
    keep number s = .ok () (s.keeping number) := by
  cases number with
  | none => rfl
  | some number => rfl

/-- **A call that is taken up** goes by the cycle of its operation. -/
theorem perform_request (hready : s.phase = .ready) (h : call.request? = some r) :
    GoesBy r s call.brings? (perform call) := by
  rw [perform_eq_read h]
  refine (goesBy_transact hready r).bind (fun t middle => ?_) (Call.brings?_error call)
  cases call.read t with
  | error e =>
      refine ⟨.error e, ?_⟩
      rw [Call.brings?_error]
      rfl
  | ok answer =>
      refine ⟨.ok answer, ?_⟩
      rw [given_ok, pure_bind, bind_of_ok (keep_eq _ middle)]
      rfl

/-- What a ready session makes of a call. -/
inductive Made (s : Session) (call : Call) : Prop where
  /-- Its cycle comes to an end. -/
  | taken (r : Request) (cycle : Cycle) (line : Line) (hrequest : call.request? = some r)
      (hrun : r.run s.counter.advance.last s.command = .ok cycle line)
      (hafter : s.after (.call call) =
        (s.numbered line).keeping (call.brings? (s.answer call)))
  /-- Its cycle is cut off, and the session closed. -/
  | cut (r : Request) (e : Error) (line : Line) (hrequest : call.request? = some r)
      (hrun : r.run s.counter.advance.last s.command = .error e line)
      (hanswer : s.answer call = .error e) (hafter : s.after (.call call) = (s.numbered line).close)
  /-- It asks for no operation, and its packet is sent in full or in part, if it has one. -/
  | other (line : Line) (part : Bytes) (hrequest : call.request? = none) (hclose : call ≠ .close)
      (hafter : s.after (.call call) = { s with command := line })
      (hpart : part <+: call.message)
      (hsent : line.sent = s.command.sent ++ part) (hline : Line.NoNewFault s.command line)
  /-- It ends the session. -/
  | closed (hcall : call = .close) (hafter : s.after (.call call) = s.close)

theorem after_call_eq (s : Session) (call : Call) :
    s.after (.call call) = stateOf (perform call s) := by
  cases h : perform call s with
  | ok answer s' => simp only [after, h, stateOf]
  | error e s' => simp only [after, h, stateOf]

theorem of_perform {result : Except Error call.Answer} {s' : Session}
    (h : perform call s = ending result s') :
    s.answer call = result ∧ s.after (.call call) = s' := by
  rw [after_call_eq, answer, h]
  cases result with
  | ok a => exact ⟨rfl, rfl⟩
  | error e => exact ⟨rfl, rfl⟩

theorem made_request (hready : s.phase = .ready) (h : call.request? = some r) : Made s call := by
  have hgoes := perform_request hready h
  cases hrun : r.run s.counter.advance.last s.command with
  | ok cycle line =>
      obtain ⟨result, hperform⟩ := hgoes.taken hrun
      obtain ⟨hanswer, hafter⟩ := of_perform hperform
      exact .taken r cycle line h hrun (hanswer ▸ hafter)
  | error e line =>
      obtain ⟨hanswer, hafter⟩ := @of_perform _ _ (.error e) _ (hgoes.cut hrun)
      exact .cut r e line h hrun hanswer hafter

theorem stateOf_onCommand (action : EStateM Error Line α) (s : Session) :
    stateOf (onCommand action s) = { s with command := stateOf (action s.command) } := by
  unfold onCommand
  cases action s.command with
  | ok => rfl
  | error => rfl

theorem stateOf_given (x : Except Error α) (s : Session) : stateOf (given x s) = s := by
  cases x with
  | ok => rfl
  | error => rfl

theorem made_sendCancel (hready : s.phase = .ready) (id : UInt32) : Made s (.sendCancel id) := by
  obtain ⟨part, hpart, hsent⟩ := Line.send_sent (Body.toPacket .cancel ⟨id⟩) s.command
  refine .other _ part rfl (by simp) ?_ hpart hsent ((Line.send_noNewFault _).left s.command)
  rw [after_call_eq]
  exact (congrArg stateOf (bind_of_ok (requireReady_of_ready hready) _)).trans
    (stateOf_onCommand _ s)

theorem made_probe (hready : s.phase = .ready) : Made s .probe := by
  obtain ⟨part, hpart, hsent⟩ := Line.send_sent (Body.toPacket .probeRequest ()) s.command
  refine .other (stateOf ((do
    Line.send (Body.toPacket .probeRequest ())
    Line.receive : EStateM Error Line Packet) s.command)) part rfl (by simp) ?_ hpart ?_ ?_
  · rw [after_call_eq, ← stateOf_onCommand]
    refine (congrArg stateOf (bind_of_ok (requireReady_of_ready hready) _)).trans ?_
    -- What is made of the reply leaves the session alone.
    generalize onCommand _ = x
    cases hx : x s with
    | ok reply middle => rw [bind_of_ok hx]; exact stateOf_given _ _
    | error e middle => rw [bind_of_error hx]; rfl
  · cases hsend : Line.send (Body.toPacket .probeRequest ()) s.command with
    | ok u line =>
        rw [hsend] at hsent
        have hreceive : (stateOf (Line.receive line)).sent = line.sent :=
          Line.receive_sent.left line
        rw [bind_of_ok hsend, hreceive]
        exact hsent
    | error e line =>
        rw [hsend] at hsent
        rw [bind_of_error hsend]
        exact hsent
  · exact (StepRelates.bind .trans (Line.send_noNewFault _) fun _ => Line.receive_noNewFault).left _

/-- **What a ready session makes of any call.** -/
theorem made (hready : s.phase = .ready) (call : Call) : Made s call := by
  cases hrequest : call.request? with
  | some r => exact made_request hready hrequest
  | none =>
      cases call with
      | transact operation params dataOut =>
          have hmany := Call.length_of_request? hrequest
          have hafter := congrArg stateOf (transact_tooMany hready operation hmany dataOut)
          exact .other s.command [] hrequest (by simp) ((after_call_eq s _).trans hafter)
            List.nil_prefix (List.append_nil _).symm (.refl _)
      | sendCancel id => exact made_sendCancel hready id
      | probe => exact made_probe hready
      | close => exact .closed rfl rfl
      | _ => simp [Call.request?] at hrequest

/-! ## Writes that do not fail -/

/-- A call does not bring about that a write fails. -/
theorem noNewFault_after_call (s : Session) (call : Call) :
    Line.NoNewFault s.command (s.after (.call call)).command := by
  have hclose (s : Session) : Line.NoNewFault s.command s.close.command := by
    unfold close
    split
    · exact .refl _
    · exact id
  by_cases hready : s.phase = .ready
  · cases made hready call with
    | taken r cycle line _ hrun hafter =>
        rw [hafter]
        exact (Cycle.run_noNewFault ..).ok hrun
    | cut r e line _ hrun _ hafter =>
        rw [hafter]
        exact ((Cycle.run_noNewFault ..).error hrun).trans (hclose (s.numbered line))
    | other line part _ _ hafter _ _ hline =>
        rw [hafter]
        exact hline
    | closed _ hafter =>
        rw [hafter]
        exact hclose s
  · by_cases hcall : call = .close
    · subst hcall
      exact hclose s
    · rw [after_call_eq, perform_of_not_ready hready hcall]
      exact .refl _

/-- A move with which no write on the command connection is made to fail. -/
def Spares : Move → Prop
  | .feedCommand feed => feed.writeFault = none
  | .call _ | .feedEvent _ | .enroll _ | .dismiss _ => True

/-- **During such moves** no failure of a write comes about. -/
theorem noNewFault_run {moves : List Move} (h : ∀ move ∈ moves, Spares move) :
    Line.NoNewFault s.command (s.run moves).command := by
  induction moves generalizing s with
  | nil => exact .refl _
  | cons move moves ih =>
      have hone : Line.NoNewFault s.command (s.after move).command := by
        cases move with
        | call call => exact noNewFault_after_call s call
        | feedCommand feed =>
            have hspares : feed.writeFault = none := h _ List.mem_cons_self
            intro hnone
            simp only [after, feedCommand, Line.feed, hspares, hnone]
            rfl
        | feedEvent | enroll | dismiss => exact id
      exact hone.trans (ih fun later hlater => h later (List.mem_cons_of_mem _ hlater))

end Session

end PictureTransfer
