import PictureTransfer.Proofs.Session.Connecting
import PictureTransfer.Proofs.Session.Transact
import PictureTransfer.Session.Call

/-!
# Calls one after the other

A new session makes calls one after the other, and the responder has sent the
exchanges that answer them, one behind the other and each with the number of its
call.  Then each call has just the outcome that its own exchange decides, whatever
the other calls and exchanges are: it reads its exchange to the last byte and
nothing behind it, even where the data of the exchange is spoiled.

* `Session.Awaits` — the invariant: the session is ready on a line that takes what
  is written, and the exchanges of the calls to come are at its front;
* `Session.awaits_step` — one call keeps it, and is answered (`Session.Answered`);
* `Session.awaits_run` — so does a run of calls, of which each is answered;
* `Session.calls_answered` — and a session that is new has it.
-/

namespace PictureTransfer

namespace Cycle

variable {operation : OperationCode} {id : UInt32} {params : OperationParams}
  {dataOut : Option Bytes}

/-- The packets of a call fit unless there is too much data. -/
theorem outgoing_fits (h : ∀ data ∈ dataOut, data.length + 12 < UInt32.size) :
    ∀ p ∈ outgoing operation id params dataOut, p.Fits := by
  intro p hp
  rcases List.mem_cons.mp hp with rfl | hp
  · have hparams := params.length_le
    simp only [Packet.Fits, Packet.wireLength, Packet.headerLength, Body.toPacket, Body.encode,
      List.length_append, length_encodeUInt32, length_encodeUInt16, Params.length_toBytes,
      UInt32.size]
    omega
  · obtain ⟨data, hdata, rfl⟩ := List.mem_map.mp hp
    have hlength := h data (Option.mem_toList.mp hdata)
    simp only [Packet.Fits, Packet.wireLength, Packet.headerLength, Body.toPacket, Body.encode,
      List.length_append, length_encodeUInt32]
    omega

end Cycle

/-- A call, and the exchange that is there to answer it. -/
structure Turn where
  operation : OperationCode
  params : OperationParams
  dataOut : Option Bytes
  exchange : Exchange

namespace Turn

/-- The call of a turn. -/
def move (turn : Turn) : Move :=
  .call (.transact turn.operation turn.params.values turn.dataOut)

/-- True of a turn whose packets, on either side, fit their headers. -/
def Fits (turn : Turn) : Prop :=
  (∀ data ∈ turn.dataOut, data.length + 12 < UInt32.size) ∧ turn.exchange.Fits

instance (turn : Turn) : Decidable turn.Fits := inferInstanceAs (Decidable (_ ∧ _))

/-- The bytes of the exchanges of turns, one behind the other. -/
def toBytes (turns : List Turn) : Bytes := turns.flatMap fun turn => turn.exchange.toBytes

end Turn

namespace Session

/-- What a call does when it is answered: it has the outcome that the exchange
decides, leaves the session ready, reads the bytes of the exchange, and sends its
request, its data, and the answers to the probes. -/
structure Answered (turn : Turn) (id : UInt32) (s s' : Session) : Prop where
  outcome : transact turn.operation turn.params.values turn.dataOut s =
    ending (turn.exchange.outcome turn.operation id) s'
  phase : s'.phase = .ready
  events : s'.events = s.events
  queued : s.command.incoming.queued = turn.exchange.toBytes ++ s'.command.incoming.queued
  sent : s'.command.sent = s.command.sent ++
    (Cycle.outgoing turn.operation id turn.params turn.dataOut).flatMap Packet.toBytes ++
    turn.exchange.replies

/-- A session whose next calls are those of the turns: so many numbers were given,
and the exchanges stand at the front of a line that takes what is written. -/
structure Awaits (given : Nat) (turns : List Turn) (rest : Bytes) (s : Session) : Prop where
  phase : s.phase = .ready
  clear : s.command.Clear
  given : s.counter.last.toNat = given
  queued : s.command.incoming.queued = Turn.toBytes turns ++ rest

variable {given : Nat} {turn : Turn} {turns : List Turn} {rest : Bytes} {s : Session}

/-- **One call is answered**, and the turns behind it are still to come. -/
theorem awaits_step (h : Awaits given (turn :: turns) rest s)
    (hgiven : given + 1 < UInt32.size)
    (hid : turn.exchange.response.transactionId = UInt32.ofNat (given + 1)) (hfits : turn.Fits) :
    Answered turn (UInt32.ofNat (given + 1)) s (s.after turn.move) ∧
      Awaits (given + 1) turns rest (s.after turn.move) := by
  have hlast : s.counter.last.toNat + 1 < UInt32.size := h.given ▸ hgiven
  have hnumber : s.counter.advance.last.toNat = given + 1 := by
    rw [Counter.advance_last_toNat hlast, h.given]
  have hsame : s.counter.advance.last = UInt32.ofNat (given + 1) := by
    rw [← hnumber, UInt32.ofNat_toNat]
  have hqueued : s.command.incoming.queued =
      turn.exchange.toBytes ++ (Turn.toBytes turns ++ rest) := by
    rw [h.queued, ← List.append_assoc]
    rfl
  have houtgoing : ∀ p ∈ Cycle.outgoing turn.operation s.counter.advance.last turn.params
      turn.dataOut, p.Fits := Cycle.outgoing_fits hfits.1
  have htransact := transact_exchange h.phase h.clear houtgoing hfits.2 (hid.trans hsame.symm)
    hqueued
  have hafter : s.after turn.move = s.numbered { s.command with
      incoming.queued := Turn.toBytes turns ++ rest
      sent := s.command.sent ++ (Cycle.outgoing turn.operation s.counter.advance.last turn.params
        turn.dataOut).flatMap Packet.toBytes ++ turn.exchange.replies } := by
    simp only [after, Turn.move, perform, htransact]
    cases turn.exchange.outcome turn.operation s.counter.advance.last with
    | ok t => rfl
    | error e => rfl
  rw [hsame] at htransact hafter
  rw [hafter]
  exact ⟨⟨htransact, h.phase, rfl, hqueued, rfl⟩, h.phase, h.clear, hnumber, rfl⟩

/-- **Each call of a run is answered.** -/
theorem awaits_run (h : Awaits given turns rest s) (hsize : given + turns.length < UInt32.size)
    (hids : ∀ i (_ : i < turns.length),
      turns[i].exchange.response.transactionId = UInt32.ofNat (given + i + 1))
    (hfits : ∀ turn ∈ turns, turn.Fits) :
    ∀ i (_ : i < turns.length), Answered turns[i] (UInt32.ofNat (given + i + 1))
      (s.run ((turns.take i).map Turn.move)) (s.run ((turns.take (i + 1)).map Turn.move)) := by
  induction turns generalizing given s with
  | nil =>
      intro i hi
      exact absurd hi (Nat.not_lt_zero i)
  | cons turn turns ih =>
      have hlength : given + 1 + turns.length < UInt32.size := by
        simp only [List.length_cons] at hsize
        omega
      obtain ⟨hanswered, hnext⟩ := awaits_step h (by omega)
        (hids 0 (Nat.zero_lt_succ _)) (hfits turn List.mem_cons_self)
      intro i hi
      cases i with
      | zero => exact hanswered
      | succ i =>
          have hshift : ∀ j, given + 1 + j + 1 = given + (j + 1) + 1 := fun j => by omega
          have hothers := ih hnext hlength
            (fun j hj => by rw [hshift]; exact hids (j + 1) (Nat.succ_lt_succ hj))
            (fun t ht => hfits t (List.mem_cons_of_mem _ ht)) i (Nat.lt_of_succ_lt_succ hi)
          rw [hshift] at hothers
          exact hothers

/-- **No cross-talk.**  On a new session whose responder has sent, before or after
it was connected, the exchanges of some calls one behind the other, each call is
answered by its own exchange. -/
theorem calls_answered {config : Config} {roster : Roster} {waiting left : List Line}
    {fed : Bytes} (hconnect : connect config roster waiting = (.session s, left))
    (hwrite : s.command.writeFault = none)
    (hqueued : s.command.incoming.queued ++ fed = Turn.toBytes turns ++ rest)
    (hsize : turns.length < UInt32.size)
    (hids : ∀ i (_ : i < turns.length),
      turns[i].exchange.response.transactionId = UInt32.ofNat (i + 1))
    (hfits : ∀ turn ∈ turns, turn.Fits) :
    ∀ i (_ : i < turns.length), Answered turns[i] (UInt32.ofNat (i + 1))
      ((s.feedCommand { bytes := fed }).run ((turns.take i).map Turn.move))
      ((s.feedCommand { bytes := fed }).run ((turns.take (i + 1)).map Turn.move)) := by
  obtain ⟨hphase, hcounter, hopen⟩ := Connected.session_new hconnect
  have hawaits : Awaits 0 turns rest (s.feedCommand { bytes := fed }) := by
    refine ⟨hphase, ⟨hwrite, ?_⟩, congrArg (fun c => c.last.toNat) hcounter, ?_⟩
    · exact (Bool.or_false _).trans hopen
    · exact (Line.feed_queued hopen _).trans hqueued
  have hrun := awaits_run hawaits (by omega)
    (fun i hi => by rw [Nat.zero_add]; exact hids i hi) hfits
  intro i hi
  have hanswered := hrun i hi
  rw [Nat.zero_add] at hanswered
  exact hanswered

/-- An event connection that will be accepted. -/
def confirming : Line where
  incoming := .ofBytes (Body.toPacket .initEventAck ()).toBytes

theorem event_confirming : Handshake.event 7 confirming = .ok () { confirming with
    incoming.queued := []
    sent := (Body.toPacket .initEventRequest ⟨7⟩).toBytes } :=
  Handshake.exchange_answered ⟨rfl, rfl⟩ (by decide) (by decide) (List.append_nil _).symm rfl

/-- An object that comes in two pieces around a probe, and then a value that is set
while a stray piece of data comes in. -/
def twoTurns : List Turn :=
  [⟨.getObject, ⟨[5], by decide⟩, none,
      ⟨[.data (.start ⟨1, 3⟩), .data (.piece ⟨1, [10, 11]⟩), .probe, .data (.last ⟨1, [12]⟩)],
        ⟨.ok, 1, ⟨[], by decide⟩⟩⟩⟩,
    ⟨.setDevicePropValue, ⟨[0x5001], by decide⟩, some [1],
      ⟨[.data (.piece ⟨9, [13]⟩), .probe], ⟨.ok, 2, ⟨[], by decide⟩⟩⟩⟩]

/-- The data of the first call is that of its own exchange, and the stray piece
spoils the second call alone. -/
theorem calls_answered_twoTurns :
    ∃ s, connect {} .empty [Connected.accepting, confirming] = (.session s, []) ∧
      s.command.writeFault = none ∧
      s.command.incoming.queued ++ Turn.toBytes twoTurns = Turn.toBytes twoTurns ++ [] ∧
      (∀ i (_ : i < twoTurns.length), Answered twoTurns[i] (UInt32.ofNat (i + 1))
        ((s.feedCommand { bytes := Turn.toBytes twoTurns }).run
          ((twoTurns.take i).map Turn.move))
        ((s.feedCommand { bytes := Turn.toBytes twoTurns }).run
          ((twoTurns.take (i + 1)).map Turn.move))) ∧
      twoTurns[0].exchange.outcome .getObject 1 =
        .ok ⟨.getObject, 1, ⟨.ok, 1, ⟨[], by decide⟩⟩, some [10, 11, 12]⟩ ∧
      twoTurns[1].exchange.outcome .setDevicePropValue 2 =
        .error (.violation (.transactionMismatch 2 9)) := by
  have hcommand := Connected.command_accepting
  have hconnect : ∃ s, connect {} .empty [Connected.accepting, confirming] = (.session s, []) ∧
      s.command.writeFault = none ∧ s.command.incoming.queued = [] :=
    ⟨_, by simp only [connect, Line.next, hcommand, event_confirming]; rfl, rfl, rfl⟩
  obtain ⟨s, h, hwrite, hqueued⟩ := hconnect
  have hturns : s.command.incoming.queued ++ Turn.toBytes twoTurns =
      Turn.toBytes twoTurns ++ [] := by rw [hqueued, List.nil_append, List.append_nil]
  have hfits : ∀ turn ∈ twoTurns, turn.Fits := by decide
  exact ⟨s, h, hwrite, hturns, calls_answered h hwrite hturns (by decide) (by decide) hfits,
    rfl, rfl⟩

end Session

end PictureTransfer
