import PictureTransfer.Proofs.Command.Reporting

/-!
# The session around a command

A command that needs a session of the protocol opens one first, and closes it behind its work,
whatever came of the work; what the command comes to is what its work came to.  The request to
close the session is the last one, unless a cycle of the work was cut off: that has closed the
whole session, and nothing more is sent.  A command that needs none neither opens nor closes one.

All this is said of commands that do not break down.  Only a capture can, whose deadline is later
than any time that the clock can show, and then its session is not closed.

* `Command.carried_work` — what every work is made of;
* `Command.course_procedure` — the course of a command (`Command.Course`), from any ready session;
* `Invocation.begins` — a command line that is understood reaches a session or fails before it;
* `Command.bracketed` — the same of every command line that is understood, and what is seen of it.
-/

namespace PictureTransfer

/-- A step that neither opens nor closes a session. -/
def Step.Inner : Step → Prop
  | .call c => c ≠ .close ∧ ∀ r, c.request? = some r →
      r.operation ≠ .openSession ∧ r.operation ≠ .closeSession
  | .print _ | .save .. | .enroll _ | .dismiss _ | .now | .watch .. | .pause _ => True

/-- Requests none of which opens or closes a session. -/
def Request.Within (asked : List Request) : Prop :=
  ∀ r ∈ asked, r.operation ≠ .openSession ∧ r.operation ≠ .closeSession

/-- During moves, the cycle of a call was cut off. -/
def Session.CutOff (s : Session) (moves : List Move) : Prop :=
  ∃ before call later r cause line, moves = before ++ .call call :: later ∧
    (s.run before).phase = .ready ∧ call.request? = some r ∧
    r.run (s.run before).counter.advance.last (s.run before).command = .error cause line

namespace Procedure

variable {α : Type} {around : Surroundings} {p : Procedure α} {stage : Stage}

theorem within_requests (h : p.Each Step.Inner) : Request.Within (p.requests around stage) := by
  intro r hr
  obtain ⟨c, hc, hrequest⟩ := Session.exists_call_of_mem_asked hr
  exact (mem_moves h hc).2 r hrequest

/-- What closes the session during a play that asks for no end of it is a cycle that is cut
off. -/
theorem cutOff_of_closed (h : p.Each Step.Inner) (hready : stage.session.phase = .ready)
    (hclosed : (p.play around stage).2.session.phase = .closed) :
    stage.session.CutOff (p.moves around stage) := by
  rw [play_session] at hclosed
  obtain ⟨before, move, later, hmoves, hbefore, hends⟩ := Session.ends_of_run hready hclosed
  cases hends with
  | close =>
      have hmem : .call .close ∈ p.moves around stage := by simp [hmoves]
      exact absurd rfl (mem_moves h hmem).1
  | cut hrequest hrun => exact ⟨before, _, later, _, _, _, hmoves, hbefore, hrequest, hrun⟩

end Procedure

namespace Stage

variable {r : Request} {stage stage' : Stage}

/-- Between two stages a request was sent in full, by its next number, and nothing behind it but
answers to probes. -/
def SentInFull (r : Request) (stage stage' : Stage) : Prop :=
  ∃ echoes, IsEchoes echoes ∧
    stage'.session.command.sent = stage.session.command.sent ++
      (r.outgoing stage.session.counter.advance.last).flatMap Packet.toBytes ++ echoes

/-- **A request without data** is sent in full where no write fails. -/
theorem Requested.sentInFull (h : Requested r stage stage') (hdata : r.dataOut = none)
    (hroom : stage.session.command.room = none) : SentInFull r stage stage' := by
  obtain ⟨bytes, hbytes, hsent⟩ := h.sent
  have hfits : ∀ p ∈ r.outgoing stage.session.counter.advance.last, p.Fits :=
    Cycle.outgoing_fits (by simp [hdata])
  obtain ⟨echoes, hechoes, rfl⟩ := hbytes.in_full hroom hfits
  exact ⟨echoes, hechoes, hsent.trans (List.append_assoc ..).symm⟩

end Stage

namespace Command

variable {around : Surroundings} {responder : InitCommandAck} {sessionId : UInt32}
  {command : Command}

/-- The time at which a command stops waiting, if it does, is one that the clock can show. -/
def Timely (around : Surroundings) : Command → Prop
  | capture _ seconds => (around.now.later? seconds).isSome = true
  | info | probe | storages | objects _ | get .. | listen _ => True

/-- A call for an operation that neither opens nor closes a session. -/
theorem inner_call {c : Call} {operation : OperationCode} {params : OperationParams}
    {dataOut : Option Bytes} (h : c.request? = some ⟨operation, params, dataOut⟩)
    (hinner : operation ≠ .openSession ∧ operation ≠ .closeSession) : Step.Inner (.call c) := by
  refine ⟨?_, fun r hr => ?_⟩
  · rintro rfl
    simp [Call.request?] at h
  · obtain rfl := Option.some.inj (h.symm.trans hr)
    exact hinner

/-- **What every work is made of**: steps that neither open nor close a session, one behind the
other, and the deadline of a capture. -/
theorem carried_work {P : ∀ {α : Type}, Procedure α → Prop} (hP : Procedure.Carries P)
    (hask : ∀ {s : Step}, s.Inner → P (Procedure.ask s)) (responder : InitCommandAck)
    (hdeadline : ∀ storageId seconds, command = capture storageId seconds →
      P (Work.deadline seconds).run) : P (command.work responder).run := by
  have hprint (line : String) : P (Work.print line).run := hP.perform (hask trivial)
  cases command with
  | info =>
      exact hP.bind_work (hP.call (hask (inner_call rfl (by decide)))) fun _ => hP.forM hprint
  | probe =>
      have hprobe : Step.Inner (.call .probe) := ⟨by simp, by simp [Call.request?]⟩
      exact hP.bind_work (hP.call (hask hprobe)) fun _ => hprint _
  | storages =>
      refine hP.bind_work (hP.call (hask (inner_call rfl (by decide)))) fun ids =>
        hP.forM fun id => ?_
      exact hP.bind_work (hP.call (hask (inner_call rfl (by decide)))) fun found => hprint _
  | objects storageId =>
      refine hP.bind_work (hP.call (hask (inner_call rfl (by decide)))) fun handles =>
        hP.forM fun handle => ?_
      exact hP.bind_work (hP.call (hask (inner_call rfl (by decide)))) fun found => hprint _
  | get handle output thumb =>
      have hsave (content : Bytes) : P (Work.save output content).run := hP.save (hask trivial)
      cases thumb with
      | true => exact hP.bind_work (hP.call (hask (inner_call rfl (by decide)))) hsave
      | false => exact hP.bind_work (hP.call (hask (inner_call rfl (by decide)))) hsave
  | capture storageId seconds =>
      refine hP.bind_work (hP.perform (hask trivial)) fun _ => ?_
      refine hP.bind_work (hP.call (hask (inner_call rfl (by decide)))) fun id => ?_
      refine hP.bind_work (hdeadline storageId seconds rfl) fun deadline => ?_
      refine hP.bind_work (hP.perform (hask trivial)) fun complete => ?_
      refine hP.bind_work (hP.perform (hask trivial)) fun _ => ?_
      split
      · exact hprint _
      · exact hP.done (Except.error (Failure.noCompletion seconds))
  | listen seconds =>
      exact hP.bind_work (hP.perform (hask trivial)) fun _ => hP.perform (hask trivial)

/-- **No work opens or closes a session.** -/
theorem each_work (responder : InitCommandAck) (command : Command) :
    (command.work responder).run.Each Step.Inner :=
  carried_work (Procedure.carries_each Step.Inner) Procedure.each_ask responder
    fun _ seconds _ => Procedure.each_deadline trivial seconds

/-- **A work in time** does not break down. -/
theorem ends_work (responder : InitCommandAck) (h : command.Timely around) :
    (command.work responder).run.Ends around := by
  refine carried_work (Procedure.carries_ends around) (fun _ => Procedure.ends_ask _) responder ?_
  rintro storageId seconds rfl
  exact Procedure.ends_deadline h

/-! ## The course of a command -/

/-- The request to open a session with a number. -/
def opening (sessionId : UInt32) : Request where
  operation := .openSession
  params := ⟨[sessionId], OperationParams.one_fits sessionId⟩

/-- The request to close it. -/
def closing : Request where
  operation := .closeSession
  params := ⟨[], OperationParams.none_fits⟩

/-- The course of a command from a first stage on: what it comes to, the stage on which its work is
done, the operations that it asks for in their order, and its last stage. -/
inductive Course (around : Surroundings) (responder : InitCommandAck) (sessionId : UInt32)
    (command : Command) (first : Stage) :
    Except Failure Unit → Stage → List Request → Stage → Prop
  /-- It needs no session, and asks for none. -/
  | alone {result : Except Failure Unit} {worked : Stage} {asked : List Request}
      (hneeds : command.needsSession = false)
      (hwork : (command.work responder).run.play around first = (.ok result, worked))
      (hasked : Request.Within asked) :
      Course around responder sessionId command first result worked asked worked
  /-- Its session is not opened, and it does nothing else. -/
  | refused {cause : Error} {opened : Stage} (hneeds : command.needsSession = true)
      (hopen : first.call (.openSession sessionId) = (.error cause, opened))
      (hopening : first.Requested (opening sessionId) opened) :
      Course around responder sessionId command first (.error (.call cause)) opened
        [opening sessionId] opened
  /-- A cycle of its work is cut off, and nothing more is sent. -/
  | cutOff {opened worked last : Stage} {result : Except Failure Unit} {asked : List Request}
      (hneeds : command.needsSession = true)
      (hopen : first.call (.openSession sessionId) = (.ok (), opened))
      (hopening : first.Requested (opening sessionId) opened)
      (hwork : (command.work responder).run.play around opened = (.ok result, worked))
      (hasked : Request.Within asked)
      (hcut : opened.session.CutOff ((command.work responder).run.moves around opened))
      (hclosed : worked.session.phase = .closed)
      (hsilent : last.session.command.sent = worked.session.command.sent) :
      Course around responder sessionId command first result worked
        (opening sessionId :: asked) last
  /-- Its session is closed behind its work, by the last of its requests, which is sent in full
  unless the responder has hung up. -/
  | closed {opened worked last : Stage} {result : Except Failure Unit} {asked : List Request}
      (hneeds : command.needsSession = true)
      (hopen : first.call (.openSession sessionId) = (.ok (), opened))
      (hopening : first.Requested (opening sessionId) opened)
      (hwork : (command.work responder).run.play around opened = (.ok result, worked))
      (hasked : Request.Within asked) (hready : worked.session.phase = .ready)
      (hclosing : worked.Requested closing last)
      (hfull : worked.session.command.closed = false → worked.SentInFull closing last) :
      Course around responder sessionId command first result worked
        (opening sessionId :: asked ++ [closing]) last

variable {first opened worked : Stage} {work : Work Unit} {result : Except Failure Unit}

theorem bracket_eq (sessionId : UInt32) (work : Work Unit) :
    bracket sessionId work = (Procedure.ask (.call (.openSession sessionId))).bind fun
      | .error cause => .done (.error (.call cause))
      | .ok () => work.run.bind fun result =>
          (Procedure.ask (.call .closeSession)).bind fun _ => .done result := rfl

/-- **A bracket whose session is not opened** does nothing else. -/
theorem bracket_refused (around : Surroundings) (work : Work Unit) {cause : Error}
    (hopen : first.call (.openSession sessionId) = (.error cause, opened)) :
    (bracket sessionId work).play around first = (.ok (.error (.call cause)), opened) ∧
      (bracket sessionId work).requests around first =
        (first.session.request? (.call (.openSession sessionId))).toList := by
  have hask : (Procedure.ask (.call (.openSession sessionId))).play around first =
      (.ok (.error cause), opened) := congrArg (fun called => (Except.ok called.1, called.2)) hopen
  rw [bracket_eq, Procedure.play_bind, Procedure.requests_bind, Procedure.requests_call, hask]
  exact ⟨rfl, List.append_nil _⟩

/-- **A bracket whose session is opened** does its work, -/
theorem bracket_opened (around : Surroundings) (work : Work Unit)
    (hopen : first.call (.openSession sessionId) = (.ok (), opened)) :
    (bracket sessionId work).play around first =
        (work.run.bind fun result => (Procedure.ask (.call .closeSession)).bind fun _ =>
          .done result).play around opened ∧
      (bracket sessionId work).requests around first =
        (first.session.request? (.call (.openSession sessionId))).toList ++
          (work.run.bind fun result => (Procedure.ask (.call .closeSession)).bind fun _ =>
            .done result).requests around opened := by
  have hask : (Procedure.ask (.call (.openSession sessionId))).play around first =
      (.ok (.ok ()), opened) := congrArg (fun called => (Except.ok called.1, called.2)) hopen
  rw [bracket_eq, Procedure.play_bind, Procedure.requests_bind, Procedure.requests_call, hask]
  exact ⟨rfl, rfl⟩

/-- and closes the session behind it, -/
theorem bracket_done (hopen : first.call (.openSession sessionId) = (.ok (), opened))
    (hwork : work.run.play around opened = (.ok result, worked)) :
    (bracket sessionId work).play around first =
        (.ok result, (worked.call .closeSession).2) ∧
      (bracket sessionId work).requests around first =
        (first.session.request? (.call (.openSession sessionId))).toList ++
          (work.run.requests around opened ++
            (worked.session.request? (.call .closeSession)).toList) := by
  obtain ⟨hplay, hrequests⟩ := bracket_opened around work hopen
  rw [hplay, hrequests, Procedure.play_bind, Procedure.requests_bind, hwork]
  dsimp only
  rw [Procedure.requests_bind, Procedure.requests_call]
  refine ⟨rfl, ?_⟩
  exact congrArg (fun asked => _ ++ (_ ++ asked)) (List.append_nil _)

/-- unless the work breaks down. -/
theorem bracket_crashed {crash : Crash}
    (hopen : first.call (.openSession sessionId) = (.ok (), opened))
    (hwork : work.run.play around opened = (.error crash, worked)) :
    (bracket sessionId work).play around first = (.error crash, worked) := by
  rw [(bracket_opened around work hopen).1, Procedure.play_bind, hwork]

/-- **Once its session is opened**, a command takes one of two courses. -/
theorem course_opened (hneeds : command.needsSession = true)
    (hopen : first.call (.openSession sessionId) = (.ok (), opened))
    (hopening : first.Requested (opening sessionId) opened)
    (hready : opened.session.phase = .ready) (hfault : opened.session.command.writeFault = none)
    (hwork : (command.work responder).run.play around opened = (.ok result, worked)) :
    Course around responder sessionId command first result worked
      (opening sessionId :: (command.work responder).run.requests around opened ++
        (worked.session.request? (.call .closeSession)).toList)
      (worked.call .closeSession).2 := by
  have hinner := each_work responder command
  have hwithin := @Procedure.within_requests _ around _ opened hinner
  have hsession := @Procedure.play_session _ around (command.work responder).run opened
  rw [hwork] at hsession
  dsimp only at hsession
  -- Behind the work the session is still ready, or else a cycle was cut off, since no work ends it.
  rcases Session.readyOrShut_run (.inl hready)
    ((command.work responder).run.moves around opened) with hstill | hshut
  · rw [← hsession] at hstill
    have hrequest : worked.session.request? (.call .closeSession) = some closing := if_pos hstill
    have hclosing := @Stage.requested_call worked .closeSession _ hstill rfl
    have hnone := @Procedure.noNewFault_play _ around (command.work responder).run opened hfault
    rw [hwork] at hnone
    rw [hrequest]
    exact .closed hneeds hopen hopening hwork hwithin hstill hclosing fun hopened =>
      hclosing.sentInFull rfl (Line.room_of_open hopened hnone)
  · rw [← hsession] at hshut
    have hnot : worked.session.phase ≠ .ready := by simp [hshut.phase]
    have hrequest : worked.session.request? (.call .closeSession) = none := if_neg hnot
    have hcut := Procedure.cutOff_of_closed hinner hready
      ((congrArg (fun played => played.2.session.phase) hwork).trans hshut.phase)
    rw [hrequest, Option.toList_none, List.append_nil]
    exact .cutOff hneeds hopen hopening hwork hwithin hcut hshut.phase
      (Stage.call_of_closed hshut.phase .closeSession)

/-- **The course of a command** on any ready session, unless it breaks down. -/
theorem course_procedure (hready : first.session.phase = .ready)
    (hfault : first.session.command.writeFault = none) {last : Stage}
    (hplay : (command.procedure responder sessionId).play around first = (.ok result, last)) :
    ∃ worked, Course around responder sessionId command first result worked
        ((command.procedure responder sessionId).requests around first) last ∧
      last.printed = worked.printed ∧ last.saved = worked.saved := by
  by_cases hneeds : command.needsSession = true
  · rw [procedure_of_needsSession hneeds] at hplay ⊢
    have hasking : first.session.request? (.call (.openSession sessionId)) =
        some (opening sessionId) := if_pos hready
    have hopening := @Stage.requested_call first (.openSession sessionId) _ hready rfl
    rcases hopen : first.call (.openSession sessionId) with ⟨cause | ⟨⟩, opened⟩
    · rw [hopen] at hopening
      obtain ⟨hrefused, hasked⟩ := bracket_refused around (command.work responder) hopen
      rw [hasked, hasking]
      obtain ⟨hresult, rfl⟩ := Prod.mk.inj (hplay.symm.trans hrefused)
      obtain rfl := Except.ok.inj hresult
      exact ⟨_, .refused hneeds hopen hopening, rfl, rfl⟩
    · have hopened := Stage.ready_of_answered hready (by simp) (congrArg Prod.fst hopen)
      have hnone := @Procedure.noNewFault_play _ around
        (Procedure.ask (.call (.openSession sessionId))) first hfault
      have hlast : ((Procedure.ask (.call (.openSession sessionId))).play around first).2 =
          opened := congrArg Prod.snd hopen
      rw [hopen] at hopening hopened
      rw [hlast] at hnone
      rcases hwork : (command.work responder).run.play around opened with ⟨crash | found, worked⟩
      · rw [bracket_crashed hopen hwork] at hplay
        exact absurd (Prod.mk.inj hplay).1 (by simp)
      · obtain ⟨hdone, hasked⟩ := bracket_done hopen hwork
        rw [hasked, hasking]
        obtain ⟨hresult, rfl⟩ := Prod.mk.inj (hplay.symm.trans hdone)
        obtain rfl := Except.ok.inj hresult
        obtain ⟨hprinted, hsaved⟩ := worked.call_output .closeSession
        exact ⟨_, course_opened hneeds hopen hopening hopened hnone hwork, hprinted, hsaved⟩
  · have hneeds : command.needsSession = false := by simpa using hneeds
    rw [procedure_of_not_needsSession hneeds] at hplay ⊢
    have hwithin := @Procedure.within_requests _ around _ first (each_work responder command)
    exact ⟨_, .alone hneeds hplay hwithin, rfl, rfl⟩

/-- **A command in time** does not break down. -/
theorem ends_procedure (responder : InitCommandAck) (sessionId : UInt32)
    (h : command.Timely around) : (command.procedure responder sessionId).Ends around := by
  have hwork : (command.work responder).run.Ends around := ends_work responder h
  have hP := Procedure.carries_ends around
  by_cases hneeds : command.needsSession = true
  · rw [procedure_of_needsSession hneeds, bracket_eq]
    refine hP.bind (Procedure.ends_ask _) fun answer => ?_
    cases answer with
    | error cause => exact hP.done (Except.error (Failure.call cause))
    | ok => exact hP.bind hwork fun result => hP.bind (Procedure.ends_ask _) fun _ => hP.done result
  · rw [procedure_of_not_needsSession (by simpa using hneeds)]
    exact hwork

end Command

/-! ## Command lines -/

/-- The way to a session: the configuration is loaded, and both connections are made.  A failure
comes with the connections that were made before it. -/
def Settings.reach (settings : Settings) (around : Surroundings) :
    Except (Failure × List Line) Session :=
  match settings.configuration around.files with
  | .error failure => .error (failure, [])
  | .ok config =>
      match around.network.refusal config.address with
      | some cause => .error (.connecting config.address (.link cause), [])
      | none =>
          match (Session.connect config .empty around.script.lines).1 with
          | .failure cause opened => .error (.connecting config.address cause, opened)
          | .session session => .ok session

/-- The stage on which a command begins. -/
def Surroundings.first (around : Surroundings) (session : Session) : Stage where
  session := session
  replies := around.script.replies

/-- On a scripted connection that a session was made of, no write is going to fail, and nothing was
sent but the introduction. -/
theorem Connected.introduced_of_connect {config : Config} {script : Script} {session : Session}
    {left : List Line}
    (h : Session.connect config .empty script.lines = (.session session, left)) :
    session.command.writeFault = none ∧
      session.command.sent = (Handshake.introduction config).toBytes := by
  obtain ⟨command, event, command', event', ack, hlines, hcommand, _, _, rfl⟩ :=
    connect_session_iff.mp h
  obtain ⟨rfl, _⟩ := List.cons.inj hlines
  have hkept := (Handshake.exchange_noNewFault ..).ok hcommand
  obtain ⟨_, rest, hanswering, rfl⟩ := Handshake.command_ok_iff.mp hcommand
  exact ⟨hkept rfl, Line.posted_sent ..⟩

namespace Invocation

variable {around : Surroundings} {settings : Settings} {command : Command}

/-- How a command line that is understood begins. -/
inductive Begins (around : Surroundings) (settings : Settings) (command : Command) : Prop where
  /-- No session is reached, and nothing but the failure comes of it. -/
  | unreached {failure : Failure} {opened : List Line}
      (hreach : settings.reach around = .error (failure, opened))
      (hrehearse : (run settings command).rehearse around =
        .ofFailure failure (around.script.requests opened))
  /-- A session was connected, with nobody to listen, and the command's procedure is played. -/
  | reached {session : Session} {config : Config} {left : List Line}
      (hreach : settings.reach around = .ok session)
      (hconfig : settings.configuration around.files = .ok config)
      (hconnect : Session.connect config .empty around.script.lines = (.session session, left))
      (hrehearse : (run settings command).rehearse around =
        .ofStage around.script
          ((command.procedure session.responder settings.openedSession).play around
            (around.first session)).1
          ((command.procedure session.responder settings.openedSession).play around
            (around.first session)).2)

theorem begins (around : Surroundings) (settings : Settings) (command : Command) :
    Begins around settings command := by
  cases hconfig : settings.configuration around.files with
  | error failure =>
      refine @Begins.unreached _ _ _ failure [] ?_ ?_
      · simp only [Settings.reach, hconfig]
      · simp only [rehearse, hconfig, Script.requests]
  | ok config =>
      cases hrefusal : around.network.refusal config.address with
      | some cause =>
          refine @Begins.unreached _ _ _ (.connecting config.address (.link cause)) [] ?_ ?_
          · simp only [Settings.reach, hconfig, hrefusal]
          · simp only [rehearse, hconfig, Command.rehearse, hrefusal, Script.requests]
      | none =>
          rcases hconnect : Session.connect config .empty around.script.lines with
            ⟨session | ⟨cause, opened⟩, left⟩
          · refine .reached ?_ hconfig hconnect ?_
            · simp only [Settings.reach, hconfig, hrefusal, hconnect]
            · simp only [rehearse, hconfig, Command.rehearse, hrefusal, hconnect]
              rfl
          · refine @Begins.unreached _ _ _ (.connecting config.address cause) opened ?_ ?_
            · simp only [Settings.reach, hconfig, hrefusal, hconnect]
            · simp only [rehearse, hconfig, Command.rehearse, hrefusal, hconnect]

/-- Where a session is reached, it begins the second way. -/
theorem begins_of_reach {session : Session} (h : settings.reach around = .ok session)
    (command : Command) :
    (∃ config left,
      Session.connect config .empty around.script.lines = (.session session, left)) ∧
    (run settings command).rehearse around =
      .ofStage around.script
        ((command.procedure session.responder settings.openedSession).play around
          (around.first session)).1
        ((command.procedure session.responder settings.openedSession).play around
          (around.first session)).2 := by
  cases begins around settings command with
  | unreached hreach => exact absurd (h.symm.trans hreach) (by simp)
  | reached hreach _ hconnect hrehearse =>
      obtain rfl := Except.ok.inj (h.symm.trans hreach)
      exact ⟨⟨_, _, hconnect⟩, hrehearse⟩

end Invocation

namespace Command

/-- What a command line that is understood comes to: no session is reached, or the command takes
its course on one. -/
inductive Conducted (around : Surroundings) (settings : Settings) (command : Command) :
    Outcome → Prop
  /-- The configuration is not loaded, or a connection is not made. -/
  | unreached {failure : Failure} {opened : List Line}
      (hreach : settings.reach around = .error (failure, opened)) :
      Conducted around settings command
        { exit := 1, failure := some failure, requests := around.script.requests opened }
  /-- The exit tells whether the command failed, and no more than that. -/
  | reached {session : Session} {config : Config} {result : Except Failure Unit}
      {worked last : Stage} (hreach : settings.reach around = .ok session)
      (hconfig : settings.configuration around.files = .ok config)
      (hintroduced : session.command.sent = (Handshake.introduction config).toBytes)
      (hopens : command.needsSession = true →
        (around.first session).SentInFull (opening settings.openedSession)
          ((around.first session).call (.openSession settings.openedSession)).2)
      (hplay : (command.procedure session.responder settings.openedSession).play around
        (around.first session) = (.ok result, last))
      (hcourse : Course around session.responder settings.openedSession command
        (around.first session) result worked
        ((command.procedure session.responder settings.openedSession).requests around
          (around.first session)) last) :
      Conducted around settings command
        { exit := Ending.exit (.ok result)
          printed := worked.printed
          failure := Ending.failure (.ok result)
          requests :=
            around.script.requests [last.session.command, last.session.events.channel.line]
          saved := worked.saved }

variable {settings : Settings}

/-- **A command that does not break down** is conducted so. -/
theorem conducted_of_no_crash
    (hcrash : ((Invocation.run settings command).rehearse around).crash = none) :
    Conducted around settings command ((Invocation.run settings command).rehearse around) := by
  cases Invocation.begins around settings command with
  | unreached hreach hrehearse =>
      rw [hrehearse]
      exact .unreached hreach
  | @reached session _ _ hreach hconfig hconnect hrehearse =>
      obtain ⟨hready, -, hopen⟩ := Connected.session_new hconnect
      obtain ⟨hfault, hintroduced⟩ := Connected.introduced_of_connect hconnect
      have hopens : (around.first session).SentInFull (opening settings.openedSession)
          ((around.first session).call (.openSession settings.openedSession)).2 :=
        (Stage.requested_call hready rfl).sentInFull rfl (Line.room_of_open hopen hfault)
      rw [hrehearse] at hcrash ⊢
      rcases hplay : (command.procedure session.responder settings.openedSession).play around
        (around.first session) with ⟨crash | result, last⟩
      · rw [hplay] at hcrash
        exact absurd hcrash (by simp [Outcome.ofStage, Ending.crash])
      · obtain ⟨worked, hcourse, hprinted, hsaved⟩ := course_procedure hready hfault hplay
        have hconducted := Conducted.reached hreach hconfig hintroduced (fun _ => hopens) hplay
          hcourse
        rw [← hprinted, ← hsaved] at hconducted
        exact hconducted

/-- **A command line in time** does not break down. -/
theorem no_crash_of_timely (settings : Settings) (h : command.Timely around) :
    ((Invocation.run settings command).rehearse around).crash = none := by
  cases Invocation.begins around settings command with
  | unreached _ hrehearse =>
      rw [hrehearse]
      rfl
  | @reached session _ _ _ _ _ hrehearse =>
      obtain ⟨result, last, hplay⟩ := ends_procedure session.responder settings.openedSession h
        (around.first session)
      rw [hrehearse, hplay]
      rfl

/-- **A command is bracketed by its session**: where it needs one, the session is opened before its
work and closed behind it, whatever came of the work, unless it breaks down, which only a capture
does whose deadline no clock can show.  Storages and objects are told about one entry each, which
is one line but for the line breaks in the responder's own texts, and content is saved only as it
was received. -/
theorem bracketed (around : Surroundings) (settings : Settings) (command : Command) :
    let outcome := (Invocation.run settings command).rehearse around
    (outcome.crash = none → Conducted around settings command outcome) ∧
      (command.Timely around → outcome.crash = none) ∧
      (∀ responder stage,
        Listing (Stage.call .getStorageIds) (fun id => Stage.call (.getStorageInfo id))
          Report.storage stage ((work responder storages).run.play around stage)) ∧
      (∀ responder storageId stage,
        Listing (Stage.call (.getObjectHandles storageId 0 0))
          (fun handle => Stage.call (.getObjectInfo handle)) Report.object stage
          ((work responder (objects storageId)).run.play around stage)) ∧
      (∀ responder handle output thumb stage,
        Fetching around handle output thumb stage
          ((work responder (get handle output thumb)).run.play around stage)) ∧
      Report.lineBreaks outcome.stdout =
        outcome.printed.length + Report.lineBreaks (String.join outcome.printed) ∧
      (∀ id s, Report.lineBreaks (Report.storage id s) =
        Report.lineBreaks s.storageDescription) ∧
      ∀ handle o, Report.lineBreaks (Report.object handle o) =
        Report.lineBreaks o.filename + Report.lineBreaks o.captureDate := by
  exact ⟨conducted_of_no_crash, no_crash_of_timely settings,
    fun responder stage => listing_storages around responder stage,
    fun responder storageId stage => listing_objects around responder stage storageId,
    fun responder handle output thumb stage =>
      fetching_get around responder handle output thumb stage,
    Outcome.lineBreaks_stdout _, Report.lineBreaks_storage, Report.lineBreaks_object⟩

/-! ## Two lines, and sessions that are not closed -/

/-- The response that a transaction was carried out. -/
def agreed (transactionId : UInt32) : Bytes :=
  (Body.toPacket .operationResponse ⟨.ok, transactionId, [], OperationParams.none_fits⟩).toBytes

/-- The same, behind data. -/
def agreedWith (data : Bytes) (transactionId : UInt32) : Bytes :=
  (Body.toPacket .data ⟨transactionId, data⟩).toBytes ++ agreed transactionId

/-- A responder that welcomes the initiator, and then gives some replies. -/
def replying (replies : List Reply) : Surroundings where
  files := fun _ => none
  script :=
    { greeting := (Body.toPacket .initCommandAck ⟨7, .zero, "camera", 0x00010000⟩).toBytes
      eventGreeting := (Body.toPacket .initEventAck ()).toBytes
      replies := replies }

/-- A storage whose description has a line break. -/
def brokenOff : StorageInfo := ⟨3, 2, 0, 0x40000000, 0x20000000, 100, "a\nb", ""⟩

/-- A responder with one storage. -/
def storing (s : StorageInfo) : Surroundings :=
  replying
    [{ command := agreed 1 },
      { command := agreedWith (encodeUInt32 1 ++ encodeUInt32 0x00010001) 2 },
      { command := agreedWith (s.encode.toOption.getD []) 3 },
      { command := agreed 4 }]

/-- A responder that asks for a sign of life before it lists no storages, and hangs up at that. -/
def hangingUp : Surroundings :=
  replying
    [{ command := agreed 1 },
      { command :=
          (Body.toPacket .probeRequest ()).toBytes ++ agreedWith (encodeUInt32 0) 2 }]

/-- One storage is told about in two lines.  Nothing is sent to close a session where the responder
has hung up.  And a capture that is to wait longer than any clock can show breaks down once the
responder has agreed to it: nothing is sent behind the request for it, and the session stays
open. -/
theorem bracketed_twoLines_hungUp_overlong :
    let listed := (Invocation.run {} storages).rehearse (storing brokenOff)
    let left := (Invocation.run {} storages).rehearse hangingUp
    let waited := (Invocation.run {} (capture 0 18446744073709551615)).rehearse
      (replying [{ command := agreed 1 }, { command := agreed 2 }])
    let opened := [Handshake.introduction {}, Handshake.registration 7] ++ (opening 1).outgoing 1
    (listed.exit = 0 ∧ listed.printed = [Report.storage 0x00010001 brokenOff] ∧
      Report.lineBreaks listed.stdout = 2) ∧
    (left.exit = 0 ∧ left.requests = opened ++
      Cycle.outgoing .getStorageIds 2 ⟨[], OperationParams.none_fits⟩ none ++ [probeAnswer]) ∧
    waited.exit = 101 ∧ waited.crash = some .endOfTime ∧ waited.requests = opened ++
      Cycle.outgoing .initiateCapture 2 ⟨[0, 0], by decide⟩ none := by
  decide +kernel

end Command

end PictureTransfer
