import PictureTransfer.Proofs.Link.Use
import PictureTransfer.Proofs.Packet.Framing
import PictureTransfer.Session.Basic

/-!
# What connecting comes to

Connecting takes connections over one after the other.  It ends with a session
that is ready and has given no transaction number yet, or it fails in one of five
ways: `Connected.Ended` lists the six ends.

Each connection that was taken over is the caller's no more, so a connect that
fails has to shut it down.  The command connection always is.  The event
connection is, but for one case: it is left open when its handshake succeeded and
no second handle on it can be had for the reader (`Connected.WithoutReader`).

* `Handshake.exchange_open` — a handshake succeeds on an open line only, and
  leaves it open;
* `Handshake.exchange_answered` — the answer at the front of a line is the one
  that is read;
* `Connected.ended_of_connect` — there are no other ends;
* `Connected.session_new` — what a connect that succeeds ends with;
* `Connected.failure_shut_iff` — what is shut down then.
-/

namespace PictureTransfer

namespace Handshake

/-- A handshake that succeeded leaves the line open. -/
theorem exchange_open {question : Packet} {kind : PacketKind} {line line' : Line}
    {body : Body kind} (h : exchange question kind line = .ok body line') :
    line'.closed = false := by
  have hused := (exchange_used question kind).ok h
  obtain ⟨_, middle, hsend, _⟩ := bind_ok_iff.mp h
  rw [hused.closed]
  exact (Line.send_ok hsend).2.1

/-- **A handshake that is answered.**  On a clear line the answer at its front is
read, and what stands behind it is left. -/
theorem exchange_answered {question reply : Packet} {kind : PacketKind} {line : Line}
    {body : Body kind} {rest : Bytes} (hclear : line.Clear) (hquestion : question.Fits)
    (hreply : reply.Fits) (hqueued : line.incoming.queued = reply.toBytes ++ rest)
    (hanswer : answer kind reply = .ok body) :
    exchange question kind line = .ok body { line with
      incoming.queued := rest
      sent := line.sent ++ question.toBytes } := by
  unfold exchange
  have hreceive : Line.receive { line with sent := line.sent ++ question.toBytes } =
      .ok reply { line with
        incoming.queued := rest
        sent := line.sent ++ question.toBytes } :=
    Line.receive_ok_iff.mpr ⟨hreply, rest, hqueued, rfl⟩
  rw [bind_of_ok (Line.send_clear hclear hquestion), bind_of_ok hreceive, hanswer]
  rfl

end Handshake

/-- The second line is the first at a later time: more was sent perhaps, more was
read, and it may be shut down by now. -/
structure Line.Later (line line' : Line) : Prop where
  sent : line.sent <+: line'.sent
  queued : line'.incoming.queued <:+ line.incoming.queued
  closed : line.closed = true → line'.closed = true

theorem Line.Used.later {line line' : Line} (h : Used line line') : Later line line' :=
  ⟨h.sent, h.queued, fun hclosed => h.closed.trans hclosed⟩

theorem Line.Used.later_shut {line line' : Line} (h : Used line line') :
    Later line line'.shut :=
  ⟨h.sent, h.queued, fun _ => rfl⟩

namespace Connected

/-- The ends of connecting: the connections that wait, what came of it, and the
connections that are left. -/
inductive Ended (config : Config) (roster : Roster) :
    List Line → Connected → List Line → Prop where
  /-- There is no connection at all. -/
  | noCommand {cause : LinkError} (h : Line.next [] = .error cause) :
      Ended config roster [] (.failure (.link cause) []) []
  /-- The command connection is turned down. -/
  | command {line line' : Line} {rest : List Line} {e : Error}
      (h : Handshake.command config line = .error e line') :
      Ended config roster (line :: rest) (.failure e [line'.shut]) rest
  /-- There is no second connection. -/
  | noEvent {line line' : Line} {responder : InitCommandAck} {cause : LinkError}
      (hcommand : Handshake.command config line = .ok responder line')
      (h : Line.next [] = .error cause) :
      Ended config roster [line] (.failure (.link cause) [line'.shut]) []
  /-- The event connection is turned down. -/
  | event {line line' event event' : Line} {rest : List Line} {responder : InitCommandAck}
      {e : Error} (hcommand : Handshake.command config line = .ok responder line')
      (h : Handshake.event responder.connectionNumber event = .error e event') :
      Ended config roster (line :: event :: rest) (.failure e [line'.shut, event'.shut]) rest
  /-- There is no second handle on the event connection. -/
  | noReader {line line' event event' : Line} {rest : List Line} {responder : InitCommandAck}
      {fault : Fault} (hcommand : Handshake.command config line = .ok responder line')
      (hevent : Handshake.event responder.connectionNumber event = .ok () event')
      (h : event'.cloneFault = some fault) :
      Ended config roster (line :: event :: rest)
        (.failure (.link (.io fault)) [line'.shut, { event' with cloneFault := none }]) rest
  /-- The session is there, and what stood on the event connection is dealt with. -/
  | session {line line' event event' : Line} {rest : List Line} {responder : InitCommandAck}
      (hcommand : Handshake.command config line = .ok responder line')
      (hevent : Handshake.event responder.connectionNumber event = .ok () event')
      (h : event'.cloneFault = none) :
      Ended config roster (line :: event :: rest)
        (.session ⟨line', EventDesk.settle { channel := { line := event' }, roster := roster },
          .ready, {}, responder⟩) rest

/-- Both handshakes succeed, and then no second handle on the event connection can
be had. -/
def WithoutReader (config : Config) (waiting : List Line) : Prop :=
  ∃ line event rest responder line' event', waiting = line :: event :: rest ∧
    Handshake.command config line = .ok responder line' ∧
    Handshake.event responder.connectionNumber event = .ok () event' ∧
    event.cloneFault.isSome

variable {config : Config} {roster : Roster} {waiting left opened : List Line} {cause : Error}
  {s : Session}

/-- **There are no other ends.** -/
theorem ended_of_connect {result : Connected}
    (h : Session.connect config roster waiting = (result, left)) :
    Ended config roster waiting result left := by
  unfold Session.connect at h
  cases waiting with
  | nil =>
      obtain ⟨rfl, rfl⟩ := Prod.mk.inj h
      exact .noCommand rfl
  | cons line waiting =>
      dsimp only [Line.next] at h
      cases hcommand : Handshake.command config line with
      | error e line' =>
          simp only [hcommand] at h
          obtain ⟨rfl, rfl⟩ := Prod.mk.inj h
          exact .command hcommand
      | ok responder line' =>
          simp only [hcommand] at h
          cases waiting with
          | nil =>
              obtain ⟨rfl, rfl⟩ := Prod.mk.inj h
              exact .noEvent hcommand rfl
          | cons event waiting =>
              dsimp only at h
              cases hevent : Handshake.event responder.connectionNumber event with
              | error e event' =>
                  simp only [hevent] at h
                  obtain ⟨rfl, rfl⟩ := Prod.mk.inj h
                  exact .event hcommand hevent
              | ok _ event' =>
                  simp only [hevent, EventChannel.start] at h
                  cases hfault : event'.cloneFault with
                  | none =>
                      simp only [hfault] at h
                      obtain ⟨rfl, rfl⟩ := Prod.mk.inj h
                      exact .session hcommand hevent hfault
                  | some fault =>
                      simp only [hfault] at h
                      obtain ⟨rfl, rfl⟩ := Prod.mk.inj h
                      exact .noReader hcommand hevent hfault

/-- **A session that is new**: it is ready on a command connection that is open,
and has given no transaction number. -/
theorem session_new (h : Session.connect config roster waiting = (.session s, left)) :
    s.phase = .ready ∧ s.counter = {} ∧ s.command.closed = false := by
  cases ended_of_connect h with
  | session hcommand => exact ⟨rfl, rfl, Handshake.exchange_open hcommand⟩

/-- The connections that were taken over are the first that waited. -/
theorem Ended.taken (h : Ended config roster waiting (.failure cause opened) left) :
    ∃ taken, waiting = taken ++ left ∧ taken.length = opened.length ∧
      ∀ pair ∈ taken.zip opened, Line.Later pair.1 pair.2 := by
  have hused := Handshake.exchange_used
  cases h with
  | noCommand => exact ⟨[], rfl, rfl, by simp⟩
  | @command line _ _ _ h =>
      have hfirst := ((hused ..).error h).later_shut
      exact ⟨[line], rfl, rfl, by simp [hfirst]⟩
  | @noEvent line _ _ _ hcommand h =>
      have hfirst := ((hused ..).ok hcommand).later_shut
      exact ⟨[line], rfl, rfl, by simp [hfirst]⟩
  | @event line _ event _ _ _ _ hcommand h =>
      have hfirst := ((hused ..).ok hcommand).later_shut
      have hsecond := ((hused ..).error h).later_shut
      exact ⟨[line, event], rfl, rfl, by simp [hfirst, hsecond]⟩
  | @noReader line _ event event' _ _ _ hcommand hevent h =>
      have hfirst := ((hused ..).ok hcommand).later_shut
      have hkept := ((hused ..).ok hevent).later
      have hsecond : Line.Later event { event' with cloneFault := none } :=
        ⟨hkept.sent, hkept.queued, hkept.closed⟩
      exact ⟨[line, event], rfl, rfl, by simp [hfirst, hsecond]⟩

/-- The one way to fail that leaves a connection open. -/
theorem Ended.shut_iff (h : Ended config roster waiting (.failure cause opened) left) :
    (∀ line ∈ opened, line.closed = true) ↔ ¬ WithoutReader config waiting := by
  cases h with
  | noCommand =>
      refine iff_of_true (by simp) fun hwithout => ?_
      obtain ⟨_, _, _, _, _, _, hwaiting, _⟩ := hwithout
      simp at hwaiting
  | command h =>
      refine iff_of_true (by simp [Line.shut]) fun hwithout => ?_
      obtain ⟨_, _, _, _, _, _, hwaiting, hcommand, _⟩ := hwithout
      obtain ⟨rfl, rfl⟩ := List.cons.inj hwaiting
      simp [h] at hcommand
  | noEvent =>
      refine iff_of_true (by simp [Line.shut]) fun hwithout => ?_
      obtain ⟨_, _, _, _, _, _, hwaiting, _⟩ := hwithout
      simp at hwaiting
  | event hcommand h =>
      refine iff_of_true (by simp [Line.shut]) fun hwithout => ?_
      obtain ⟨_, _, _, _, _, _, hwaiting, hcommand', hevent, _⟩ := hwithout
      obtain ⟨rfl, hrest⟩ := List.cons.inj hwaiting
      obtain ⟨rfl, rfl⟩ := List.cons.inj hrest
      rw [hcommand] at hcommand'
      obtain ⟨rfl, rfl⟩ := EStateM.Result.ok.inj hcommand'
      simp [h] at hevent
  | noReader hcommand hevent h =>
      have hopen := Handshake.exchange_open hevent
      have hclone := ((Handshake.exchange_used ..).ok hevent).cloneFault
      constructor
      · intro hall
        have hclosed := hall _ (List.mem_cons_of_mem _ List.mem_cons_self)
        simp [hopen] at hclosed
      · intro hnot
        exact absurd ⟨_, _, _, _, _, _, rfl, hcommand, hevent, by simp [← hclone, h]⟩ hnot

/-- **What a failed connect has shut down**: every connection that it took over,
in the order in which they were handed out, unless no second handle on the event
connection could be had.  Then, and only then, that connection is left open. -/
theorem failure_shut_iff
    (h : Session.connect config roster waiting = (.failure cause opened, left)) :
    ∃ taken, waiting = taken ++ left ∧ taken.length = opened.length ∧
      (∀ pair ∈ taken.zip opened, Line.Later pair.1 pair.2) ∧
      ((∀ line ∈ opened, line.closed = true) ↔ ¬ WithoutReader config waiting) ∧
      ∀ line ∈ opened.head?, line.closed = true := by
  have hended := ended_of_connect h
  obtain ⟨taken, hwaiting, hlength, hlater⟩ := hended.taken
  refine ⟨taken, hwaiting, hlength, hlater, hended.shut_iff, ?_⟩
  cases hended with
  | noCommand => simp
  | command | noEvent | event | noReader => simp [Line.shut]

/-- A responder that hangs up at once leaves nothing open. -/
theorem failure_shut_iff_hung_up :
    ∃ opened, Session.connect {} .empty [.fresh, .fresh] =
        (.failure (.wire (.endOfStream "packet header")) opened, [.fresh]) ∧
      ∃ taken, [Line.fresh, Line.fresh] = taken ++ [.fresh] ∧ taken.length = opened.length ∧
        (∀ pair ∈ taken.zip opened, Line.Later pair.1 pair.2) ∧
        ((∀ line ∈ opened, line.closed = true) ↔ ¬ WithoutReader {} [.fresh, .fresh]) ∧
        ∀ line ∈ opened.head?, line.closed = true := by
  have hconnect : ∃ opened, Session.connect {} .empty [.fresh, .fresh] =
      (.failure (.wire (.endOfStream "packet header")) opened, [.fresh]) := ⟨_, rfl⟩
  obtain ⟨opened, h⟩ := hconnect
  exact ⟨opened, h, failure_shut_iff h⟩

/-- A command connection that will be accepted. -/
def accepting : Line where
  incoming := .ofBytes (Body.toPacket .initCommandAck ⟨7, .zero, "camera", 0x00010000⟩).toBytes

theorem command_accepting : Handshake.command {} accepting = .ok ⟨7, .zero, "camera", 0x00010000⟩
    { accepting with
      incoming.queued := []
      sent := (Handshake.introduction {}).toBytes } := by
  have hanswer : (match Handshake.answer .initCommandAck
      (Body.toPacket .initCommandAck ⟨7, .zero, "camera", 0x00010000⟩) with
    | .ok body => decide (body = ⟨7, .zero, "camera", 0x00010000⟩)
    | .error _ => false) = true := by decide +kernel
  split at hanswer
  · rename_i body hbody
    obtain rfl := of_decide_eq_true hanswer
    exact Handshake.exchange_answered ⟨rfl, rfl⟩ (by decide) (by decide) (List.append_nil _).symm
      hbody
  · exact Bool.noConfusion hanswer

/-- An event connection that will be accepted, but has no second handle. -/
def unclonable : Line where
  incoming := .ofBytes (Body.toPacket .initEventAck ()).toBytes
  cloneFault := some ⟨.other, "too many open files"⟩

/-- An event connection without a second handle is not shut down. -/
theorem connect_leaves_event_open :
    ∃ command event, Session.connect {} .empty [accepting, unclonable] =
        (.failure (.link (.io ⟨.other, "too many open files"⟩)) [command, event], []) ∧
      command.closed = true ∧ event.closed = false := by
  have hcommand := command_accepting
  have hevent : Handshake.event 7 unclonable = .ok () { unclonable with
        incoming.queued := []
        sent := (Body.toPacket .initEventRequest ⟨7⟩).toBytes } :=
    Handshake.exchange_answered ⟨rfl, rfl⟩ (by decide) (by decide) (List.append_nil _).symm rfl
  exact ⟨_, _, by simp only [Session.connect, Line.next, hcommand, hevent]; rfl, rfl, rfl⟩

end Connected

end PictureTransfer
