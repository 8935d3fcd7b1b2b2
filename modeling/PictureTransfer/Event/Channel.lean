import PictureTransfer.Event.Roster
import PictureTransfer.Link.Line

/-!
# The event channel

The event connection is read on its own, apart from the calls of the session:
each packet is dealt with as soon as it is complete, in order.  An event and
an error are tasks for the listeners; a probe is answered on the spot.  An
error that leaves the connection in step is passed over; any other ends the
reader.  Once the initiator is closing the channel errors are expected, and
not reported.

* `receive_shortens`, `receive_error_shortens` — why reading comes to an end:
  whatever the reader goes on after took bytes off the line;
* `pump_ended` — a reader that has ended neither reports nor touches anything.

`EventDesk` joins the channel to its listeners and their journal.
-/

namespace PictureTransfer

/-- The event connection and its reader. -/
structure EventChannel where
  line : Line
  /-- True once the initiator gives the connection up. -/
  closing : Bool := false
  /-- True once the reader has ended. -/
  ended : Bool := false
  /-- True once somebody has waited for the reader's end. -/
  joined : Bool := false
  deriving DecidableEq, Repr

namespace EventChannel

/-- Takes one packet off the line.  An event is passed on, a probe is answered;
there should be no other packet. -/
def receive (sessionId : UInt32) (line : Line) :
    EStateM.Result Error Line (Option Event) :=
  match Line.receive line with
  | .error e line => .error e line
  | .ok p line =>
      match p.kind with
      | .event =>
          match Body.decode .event p.payload with
          | .ok packet => .ok (some (EventNotice.stamp packet sessionId)) line
          | .error v => .error (.violation v) line
      | .probeRequest =>
          match Body.decode .probeRequest p.payload with
          | .ok () =>
              match Line.send (Body.toPacket .probeResponse ()) line with
              | .ok () line => .ok none line
              | .error e line => .error e line
          | .error v => .error (.violation v) line
      | other => .error (.violation (.unexpectedPacket .event other)) line

theorem receive_shortens {sessionId : UInt32} {line line' : Line} {event : Option Event}
    (h : receive sessionId line = .ok event line') :
    line'.incoming.queued.length + 8 ≤ line.incoming.queued.length := by
  unfold receive at h
  split at h
  · simp at h
  rename_i hread
  have hshort := Line.receive_shortens hread
  split at h
  · split at h
    · simp only [EStateM.Result.ok.injEq] at h
      rw [← h.2]
      exact hshort
    · simp at h
  · split at h
    · split at h
      · rename_i hsend
        simp only [EStateM.Result.ok.injEq] at h
        rw [← h.2, (Line.send_ok hsend).2.2.incoming]
        exact hshort
      · simp at h
    · simp at h
  · simp at h

theorem receive_error_shortens {sessionId : UInt32} {line line' : Line} {e : Error}
    (h : receive sessionId line = .error e line') (he : e.isFatal = false) :
    line'.incoming.queued.length + 8 ≤ line.incoming.queued.length := by
  unfold receive at h
  split at h
  · rename_i hread
    simp only [EStateM.Result.error.injEq] at h
    rw [← h.2]
    exact Line.receive_error_shortens hread (h.1 ▸ he)
  rename_i hread
  have hshort := Line.receive_shortens hread
  split at h
  · split at h
    · simp at h
    · simp only [EStateM.Result.error.injEq] at h
      rw [← h.2]
      exact hshort
  · split at h
    · split at h
      · simp at h
      · rename_i hsend
        simp only [EStateM.Result.error.injEq] at h
        have hfatal : e.isFatal = true := by
          rw [← h.1]
          rcases (Line.send_error hsend).1 with ⟨fault, rfl⟩ | rfl <;> rfl
        simp [hfatal] at he
    · simp only [EStateM.Result.error.injEq] at h
      rw [← h.2]
      exact hshort
  · simp only [EStateM.Result.error.injEq] at h
    rw [← h.2]
    exact hshort

/-- True when the reader can do nothing but wait: there is no complete packet,
no failure, and more may come. -/
def waits (line : Line) : Bool :=
  !Packet.isComplete line.incoming.queued && line.incoming.pending.isNone && !line.closed

/-- What reading as far as possible comes to. -/
structure Reading where
  tasks : List Task
  line : Line
  ended : Bool

/-- The reading with one task more in front. -/
def Reading.after (r : Reading) (task : Task) : Reading := { r with tasks := task :: r.tasks }

/-- Reads as far as possible. -/
def readOn (sessionId : UInt32) (closing : Bool) (line : Line) : Reading :=
  if waits line then ⟨[], line, false⟩
  else
    match _h : receive sessionId line with
    | .ok (some event) line' => (readOn sessionId closing line').after (.event event)
    | .ok none line' => readOn sessionId closing line'
    | .error e line' =>
        if closing then ⟨[], line', true⟩
        else if _he : e.isFatal = false then
          (readOn sessionId closing line').after (.failure e)
        else ⟨[.failure e], line', true⟩
termination_by line.incoming.queued.length
decreasing_by
  · have := receive_shortens _h
    omega
  · have := receive_shortens _h
    omega
  · have := receive_error_shortens _h _he
    omega

/-- Lets the reader go on as far as it can. -/
def pump (sessionId : UInt32) (channel : EventChannel) : List Task × EventChannel :=
  if channel.ended then ([], channel)
  else
    let r := readOn sessionId channel.closing channel.line
    (r.tasks, { channel with
      line := r.line
      ended := r.ended })

/-- Hands a line over to a reader, which needs a second handle on it. -/
def start : EStateM Error Line EventChannel := fun line =>
  match line.cloneFault with
  | some fault => .error (.link (.io fault)) { line with cloneFault := none }
  | none => .ok { line := line } line

/-- Shuts the line down.  The reader will find its end, and say nothing. -/
def closeStream (channel : EventChannel) : EventChannel :=
  { channel with
    line := channel.line.shut
    closing := true }

/-- Waits for the reader's end. -/
def join (channel : EventChannel) : EventChannel := { channel with joined := true }

/-- True when the reader has ended. -/
def isFinished (channel : EventChannel) : Bool := channel.joined || channel.ended

theorem pump_ended {channel : EventChannel} (h : channel.ended = true) (sessionId : UInt32) :
    channel.pump sessionId = ([], channel) := by
  simp [pump, h]

end EventChannel

/-- The event side of a session: the channel, the listeners, the session that
events are said to belong to, and what listeners have left in the journal. -/
structure EventDesk where
  channel : EventChannel
  roster : Roster := .empty
  sessionId : UInt32 := 0
  journal : List Entry := []

namespace EventDesk

/-- The notices that a listener has noted down, in order. -/
def told (listener : String) (desk : EventDesk) : List Notice :=
  desk.journal.filterMap fun
    | .told name notice => if name = listener then some notice else none
    | .logged _ => none

/-- Lets the reader go on as far as it can, and its tasks be delivered. -/
def settle (desk : EventDesk) : EventDesk :=
  let (tasks, channel) := desk.channel.pump desk.sessionId
  { desk with
    channel := channel
    journal := desk.journal ++ desk.roster.deliver tasks }

/-- An action of the responder's side on the event line, and all that comes of
it. -/
def feed (feed : Feed) (desk : EventDesk) : EventDesk :=
  { desk with channel.line := desk.channel.line.feed feed }.settle

/-- Gives the event connection up. -/
def closeStream (desk : EventDesk) : EventDesk :=
  { desk with channel := desk.channel.closeStream }.settle

/-- Waits for the reader's end. -/
def join (desk : EventDesk) : EventDesk := { desk with channel := desk.channel.join }

/-- Gives the event connection up and waits for the reader's end, unless
somebody has waited for it already. -/
def shutdown (desk : EventDesk) : EventDesk :=
  if desk.channel.joined then desk else desk.closeStream.join

end EventDesk

end PictureTransfer
