import PictureTransfer.Session.Call

/-!
# Scripted responders

A script says what a responder sends: a greeting on each connection, and then a
reply to every packet on the command connection, whatever the packet says.  A
reply has bytes for the event connection, which go first, and bytes for the
command connection.  When the replies are used up, one more packet has the
responder hang up on both connections.

A call writes more packets as it reads on, since probes in between are
answered, and each of them draws the next reply.  `supply` gives a call just as
many replies as it writes packets.

* `supply_replies` — replies are used up in order.
-/

namespace PictureTransfer

/-- What a responder sends when it has read a packet. -/
structure Reply where
  event : Bytes := []
  command : Bytes := []
  deriving DecidableEq, Repr

/-- What a responder sends, beginning with the greetings on the two
connections.  A responder that sends no greeting hangs up. -/
structure Script where
  greeting : Bytes := []
  eventGreeting : Bytes := []
  replies : List Reply := []
  deriving DecidableEq, Repr

namespace Script

/-- The connections that a script answers, greetings queued. -/
def lines (script : Script) : List Line :=
  [Line.fresh.feed { bytes := script.greeting }, Line.fresh.feed { bytes := script.eventGreeting }]

end Script

/-- The packets that bytes are made of. -/
def Packet.ofWire (bytes : Bytes) : List Packet :=
  (Packet.readAll (.ofBytes bytes)).filterMap fun (outcome, _) => outcome.toOption

/-- The packets that a responder reads: the two that open the connections, then
those that draw a reply, and one more, on the command connection. -/
def Script.requests (script : Script) : List Line → List Packet
  | [] => []
  | command :: others =>
      let written := Packet.ofWire command.sent
      written.take 1 ++ others.flatMap (fun line => (Packet.ofWire line.sent).take 1) ++
        (written.drop 1).take (script.replies.length + 1)

namespace Session

/-- The responder sends a reply. -/
def hear (reply : Reply) (s : Session) : Session :=
  (s.feedEvent { bytes := reply.event }).feedCommand { bytes := reply.command }

/-- The responder hangs up on both connections. -/
def hangUp (s : Session) : Session :=
  (s.feedEvent { shutdown := true }).feedCommand { shutdown := true }

/-- The count of packets that a call would write. -/
def written (call : Call) (s : Session) : Nat :=
  (Packet.ofWire ((s.after (.call call)).command.sent.drop s.command.sent.length)).length

/-- What a call is supplied with: the session with the replies it draws, and
those that are left, or none where there was one packet too many. -/
structure Supply where
  session : Session
  replies : Option (List Reply)

/-- Supplies a call with replies, some of which were sent already. -/
def supply (call : Call) (sent : Nat) (s : Session) : List Reply → Supply
  | [] => ⟨s, if s.written call ≤ sent then some [] else none⟩
  | reply :: rest =>
      if s.written call ≤ sent then ⟨s, some (reply :: rest)⟩
      else supply call (sent + 1) (s.hear reply) rest

theorem supply_replies {call : Call} {sent : Nat} {s : Session} {replies left : List Reply}
    (h : (supply call sent s replies).replies = some left) :
    ∃ used, replies = used ++ left ∧
      (supply call sent s replies).session = used.foldl (fun s reply => s.hear reply) s := by
  induction replies generalizing sent s with
  | nil =>
      refine ⟨[], ?_, rfl⟩
      simp only [supply] at h
      split at h <;> simp_all
  | cons reply rest ih =>
      simp only [supply] at h ⊢
      split
      · rename_i hle
        simp only [hle, if_true, Option.some.injEq] at h
        exact ⟨[], by simp [← h], rfl⟩
      · rename_i hle
        simp only [hle, if_false] at h
        obtain ⟨used, hused, hsession⟩ := ih h
        exact ⟨reply :: used, by simp [← hused], hsession⟩

end Session

end PictureTransfer
