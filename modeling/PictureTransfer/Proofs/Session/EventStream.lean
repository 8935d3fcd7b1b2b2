import PictureTransfer.Proofs.Session.EventSide

/-!
# What comes of the stream of events

The bytes that arrive on the event connection of a session make up one stream, however
they arrive and whatever calls are made meanwhile.  As long as nothing fails, and the
listeners and the number of the session stay, who is told what, and what is sent back, is
decided by the frames of the stream alone (`Session.Heard`): each frame is told or answered
in its turn, a frame that is not all there counts for nothing, and a header with a length
that no packet has is told and ends it.

* `heard_feedEvent` — one piece of the stream, with the rest of it still to come;
* `heard_run` — a whole run, by induction on the moves;
* `stream_heard` — the same of every session that was connected, from its opening on and
  from any later moment.
-/

namespace PictureTransfer

/-- What a move has arrive on the event connection. -/
def Move.arrival : Move → Bytes
  | .feedEvent feed => feed.bytes
  | _ => []

/-- Nothing fails on the line while all that is there is read. -/
structure Line.Unfailing (line : Line) : Prop where
  opened : line.closed = false
  pending : line.incoming.pending = none
  responsive : line.Responsive

namespace Session

/-- What is unread on the event connection, and what arrives there during moves. -/
def stream (s : Session) (moves : List Move) : Bytes :=
  s.events.channel.line.incoming.queued ++ moves.flatMap Move.arrival

/-- Moves during which a session stays ready, with its number and its listeners, and
nothing fails on the event connection. -/
inductive Undisturbed : Session → List Move → Prop where
  | nil {s : Session} (ready : s.phase = .ready) : Undisturbed s []
  | cons {s : Session} {move : Move} {moves : List Move} (ready : s.phase = .ready)
      (sessionId : (s.after move).sessionId = s.sessionId)
      (roster : (s.after move).events.roster = s.events.roster)
      (unfailing : ∀ feed, move = .feedEvent feed → s.events.channel.ended = false →
        (s.events.channel.line.feed feed).Unfailing)
      (others : Undisturbed (s.after move) moves) : Undisturbed s (move :: moves)

theorem Undisturbed.ready {s : Session} {moves : List Move} (h : s.Undisturbed moves) :
    s.phase = .ready := by
  cases h with
  | nil ready => exact ready
  | cons ready => exact ready

/-- What comes of the stream during moves: the listeners are told of its tasks in order,
its probes are answered in order, and the reader ends just if the stream ends with a length
that no packet has. -/
structure Heard (s : Session) (moves : List Move) : Prop where
  callbacks : s.callbacksOf moves =
    s.events.roster.calls (Frame.tasks s.sessionId (s.stream moves))
  journal : (s.run moves).events.journal =
    s.events.journal ++ s.events.roster.deliver (Frame.tasks s.sessionId (s.stream moves))
  sent : (s.run moves).events.channel.line.sent =
    s.events.channel.line.sent ++ Frame.replies (s.stream moves)
  ended : (s.run moves).events.channel.ended = true ↔
    Frame.Broken (Frame.rest (s.stream moves))

variable {s : Session} {moves : List Move}

/-- While the reader waits, nothing on the line is a frame or broken. -/
theorem heard_nil (h : s.Waiting) : Heard s [] := by
  obtain ⟨-, -, hnone, hframed⟩ := EventChannel.waits_iff.mp h.waits
  have hsplit := Frame.split_of_none hnone
  have hstream : s.stream [] = s.events.channel.line.incoming.queued := List.append_nil _
  have htasks : Frame.tasks s.sessionId (s.stream []) = [] := by
    simp [Frame.tasks, Frame.unframed, Frame.frames, Frame.rest, hstream, hsplit, hframed]
  refine ⟨?_, ?_, ?_, ?_⟩
  · rw [htasks]
    rfl
  · rw [htasks]
    exact (List.append_nil _).symm
  · simp only [Frame.replies, Frame.frames, hstream, hsplit]
    exact (List.append_nil _).symm
  · simp only [Frame.rest, hstream, hsplit]
    exact iff_of_false (by simp [run, h.ended]) hframed

/-- What arrives first stands in front of what arrives later. -/
theorem stream_feedEvent (hopen : s.events.channel.line.closed = false) (feed : Feed)
    (moves : List Move) :
    s.stream (.feedEvent feed :: moves) =
      (s.events.channel.line.feed feed).incoming.queued ++ moves.flatMap Move.arrival := by
  rw [stream, Line.feed_queued hopen, List.append_assoc]
  rfl

/-- Frames arrive, and what is not all there of another. -/
theorem framed_feedEvent (h : s.Listening) {feed : Feed}
    (hline : (s.events.channel.line.feed feed).Unfailing)
    (hframed : ¬ Frame.Broken
      (Frame.rest (s.events.channel.line.feed feed).incoming.queued)) :
    s.passed (.feedEvent feed) =
        Frame.tasks s.sessionId (s.events.channel.line.feed feed).incoming.queued ∧
      (s.after (.feedEvent feed)).Waiting ∧
      (s.after (.feedEvent feed)).events = { s.events with
        channel := { s.events.channel with
          line := (s.events.channel.line.feed feed).drained
          ended := false }
        journal := s.events.journal ++ s.events.roster.deliver
          (Frame.tasks s.sessionId (s.events.channel.line.feed feed).incoming.queued) } := by
  have hread := EventChannel.readOn_framed hline.responsive hline.pending hframed s.sessionId
  have hwaiting := waiting_after_feedEvent h
    (mt EventChannel.readOn_ended_iff.mpr (by rw [hread]; simp))
  obtain ⟨hpassed, hevents⟩ := feedEvent_events h feed
  rw [hread] at hpassed hevents
  exact ⟨hpassed, hwaiting, hevents⟩

/-- Then what is left of the stream stands in front of what arrives later. -/
theorem stream_after_framed (h : s.Listening) {feed : Feed}
    (hline : (s.events.channel.line.feed feed).Unfailing)
    (hframed : ¬ Frame.Broken (Frame.rest (s.events.channel.line.feed feed).incoming.queued))
    (moves : List Move) :
    (s.after (.feedEvent feed)).stream moves =
      Frame.rest (s.events.channel.line.feed feed).incoming.queued ++
        moves.flatMap Move.arrival := by
  rw [stream, (framed_feedEvent h hline hframed).2.2, Line.drained_incoming]

/-- **A piece of the stream arrives.**  What stands behind its frames goes in front of what
arrives later. -/
theorem heard_feedEvent (h : s.Listening) {feed : Feed}
    (hline : (s.events.channel.line.feed feed).Unfailing)
    (hothers : (s.after (.feedEvent feed)).Waiting → (s.after (.feedEvent feed)).Heard moves) :
    Heard s (.feedEvent feed :: moves) := by
  have hstream := stream_feedEvent (Bool.or_eq_false_iff.mp hline.opened).1 feed moves
  by_cases hbroken : Frame.Broken (Frame.rest (s.events.channel.line.feed feed).incoming.queued)
  · -- The reader ends, and what arrives later counts for nothing.
    obtain ⟨source, hread⟩ :=
      EventChannel.readOn_broken hline.responsive hbroken s.sessionId
    obtain ⟨hpassed, hevents⟩ := feedEvent_events h feed
    rw [hread] at hpassed hevents
    have hended : (s.after (.feedEvent feed)).events.channel.ended = true := by rw [hevents]
    obtain ⟨hnobody, hsilent, hlast⟩ := run_ended hended moves
    refine ⟨?_, ?_, ?_, ?_⟩
    · rw [callbacksOf, callbacks, hnobody, List.append_nil, hpassed, hstream,
        Frame.tasks_append_of_broken hbroken]
    · rw [hstream, Frame.tasks_append_of_broken hbroken]
      exact hsilent.journal.trans (by rw [hevents])
    · rw [hstream, Frame.replies_append_of_broken hbroken]
      exact hsilent.sent.trans (by rw [hevents]; exact Line.drained_sent _)
    · rw [hstream, (Frame.frames_append_of_broken hbroken _).2]
      exact iff_of_true hlast (hbroken.append _)
  · obtain ⟨hpassed, hwaiting, hevents⟩ := framed_feedEvent h hline hbroken
    have hid : (s.after (.feedEvent feed)).sessionId = s.sessionId := rfl
    have hroster : (s.after (.feedEvent feed)).events.roster = s.events.roster := rfl
    obtain ⟨hcallbacks, hjournal, hsent, hended⟩ := hothers hwaiting
    rw [stream_after_framed h hline hbroken, hid, hroster] at hcallbacks hjournal
    rw [stream_after_framed h hline hbroken] at hsent hended
    refine ⟨?_, ?_, ?_, ?_⟩
    · rw [callbacksOf, callbacks, hpassed, hcallbacks, hstream, Frame.tasks_append hbroken,
        Roster.calls_append]
    · rw [hstream, Frame.tasks_append hbroken, Roster.deliver_append, ← List.append_assoc]
      exact hjournal.trans (by rw [hevents])
    · rw [hstream, Frame.replies_append, ← List.append_assoc]
      exact hsent.trans (by rw [hevents, Line.drained_sent]; rfl)
    · rw [hstream, Frame.rest_append]
      exact hended

/-- Any other move leaves the stream as it is, while the session stays ready. -/
theorem after_of_arrival_nil (h : s.Waiting) {move : Move}
    (hready : (s.after move).phase = .ready) (hmove : ∀ feed, move ≠ .feedEvent feed) :
    s.passed move = [] ∧ (s.after move).events.channel = s.events.channel ∧
      (s.after move).events.journal = s.events.journal ∧ move.arrival = [] := by
  cases move with
  | call call =>
      obtain ⟨hsilent, ⟨_, hchannel⟩ | ⟨hclosed, _⟩⟩ := after_call (.inl h) call
      · exact ⟨passed_call (.inl h) call, hchannel, hsilent.journal, rfl⟩
      · rw [hclosed] at hready
        exact Phase.noConfusion hready
  | feedEvent feed => exact absurd rfl (hmove feed)
  | feedCommand | enroll | dismiss => exact ⟨rfl, rfl, rfl, rfl⟩

/-- **What comes of a stream** that arrives while the reader waits. -/
theorem heard_run (h : s.Waiting) (hundisturbed : s.Undisturbed moves) : Heard s moves := by
  -- By induction on the moves, as long as the reader waits between them; where it ends,
  -- `heard_feedEvent` speaks for all that follows.
  induction moves generalizing s with
  | nil => exact heard_nil h
  | cons move moves ih =>
      cases hundisturbed with
      | cons ready hid hroster hunfailing hothers =>
          by_cases hmove : ∃ feed, move = .feedEvent feed
          · obtain ⟨feed, rfl⟩ := hmove
            exact heard_feedEvent h.toListening (hunfailing feed rfl h.ended)
              fun hwaiting => ih hwaiting hothers
          · obtain ⟨hpassed, hchannel, hjournal, harrival⟩ :=
              after_of_arrival_nil h hothers.ready fun feed hfeed => hmove ⟨feed, hfeed⟩
            have hwaiting : (s.after move).Waiting :=
              h.of_channel (hothers.ready.trans h.phase.symm) hchannel
            have hstream : s.stream (move :: moves) = (s.after move).stream moves := by
              rw [stream, stream, hchannel, List.flatMap_cons, harrival, List.nil_append]
            obtain ⟨hcallbacks, hjournals, hsent, hended⟩ := ih hwaiting hothers
            rw [hroster, hid] at hcallbacks hjournals
            rw [hjournal] at hjournals
            rw [hchannel] at hsent
            refine ⟨?_, ?_, ?_, ?_⟩
            · rw [callbacksOf, callbacks, hpassed, hcallbacks, hstream]
              rfl
            · rw [hstream]
              exact hjournals
            · rw [hstream]
              exact hsent
            · rw [hstream]
              exact hended

/-- Pieces of a stream that arrive on their own. -/
def pieces (stream : List Bytes) : List Move :=
  stream.map fun bytes => .feedEvent { bytes := bytes }

/-- Once the reader has ended, they disturb nothing. -/
theorem undisturbed_pieces_of_ended (hready : s.phase = .ready)
    (h : s.events.channel.ended = true) (given : List Bytes) : Undisturbed s (pieces given) := by
  induction given generalizing s with
  | nil => exact .nil hready
  | cons bytes given ih =>
      refine .cons hready rfl rfl (fun _ _ hgoes => ?_) (ih hready (feedEvent_of_ended h _).2.2)
      simp [h] at hgoes

/-- **Pieces of a stream disturb nothing** on an open line that will not fail and that takes
the answers to all probes in it. -/
theorem undisturbed_pieces (h : s.Listening) (given : List Bytes)
    (hpending : s.events.channel.line.incoming.pending = none)
    (htakes : s.events.channel.line.Takes
      (Frame.probes (Frame.frames (s.stream (pieces given))))) :
    Undisturbed s (pieces given) := by
  induction given generalizing s with
  | nil => exact .nil h.phase
  | cons bytes given ih =>
      have hstream := stream_feedEvent htakes.opened { bytes := bytes } (pieces given)
      have hprobes : Frame.probes (Frame.frames (s.stream (pieces (bytes :: given)))) = _ :=
        (congrArg (fun stream => Frame.probes (Frame.frames stream)) hstream).trans
          ((congrArg Frame.probes (Frame.frames_append ..)).trans (Frame.probes_append ..))
      rw [hprobes] at htakes
      have hfed : ∀ {n : Nat}, s.events.channel.line.Takes n →
          (s.events.channel.line.feed { bytes := bytes }).Takes n := fun hn =>
        ⟨(Bool.or_false _).trans hn.opened, hn.spared⟩
      have hline : (s.events.channel.line.feed { bytes := bytes }).Unfailing :=
        ⟨(hfed htakes).opened, hpending, (hfed htakes).mono (Nat.le_add_right ..)⟩
      refine .cons h.phase rfl rfl (fun feed hfeed _ => ?_) ?_
      · obtain rfl := Move.feedEvent.inj hfeed
        exact hline
      · by_cases hbroken : Frame.Broken (Frame.rest
            (s.events.channel.line.feed { bytes := bytes }).incoming.queued)
        · have hready : (s.after (.feedEvent { bytes := bytes })).phase = .ready := h.phase
          exact undisturbed_pieces_of_ended hready (ended_after_feedEvent h (.broken hbroken)) given
        · obtain ⟨_, hwaiting, hevents⟩ := framed_feedEvent h hline hbroken
          refine ih hwaiting.toListening ?_ ?_
          · rw [hevents, Line.drained_incoming]
            exact hpending
          · rw [stream_after_framed h hline hbroken, hevents]
            refine (Line.takes_passed_iff hline.responsive _).mpr ?_
            rw [Nat.add_comm]
            exact hfed htakes

/-- **What comes of the stream of events**, on any session that was connected.  From its
opening on, with what stood behind the greeting, and from any later moment on, the
listeners are told of the tasks of the stream, and its probes are answered, however it
arrives; once the reader has ended, nobody is told and nothing is sent.  The stream is made
up of frames, each of which has one meaning, and of what is no frame. -/
theorem stream_heard {config : Config} {roster : Roster} {waiting left : List Line}
    (h : connect config roster waiting = (.session s, left)) :
    (∃ command event ack, Connected.Opened config waiting left command event ack ∧
      s = (opened command event roster ack).after (.feedEvent {}) ∧
      ∀ moves, (opened command event roster ack).Undisturbed (.feedEvent {} :: moves) →
        (opened command event roster ack).Heard (.feedEvent {} :: moves)) ∧
    (∀ before moves, (s.run before).Undisturbed moves →
      ((s.run before).events.channel.ended = false → (s.run before).Heard moves) ∧
      ((s.run before).events.channel.ended = true → (s.run before).callbacksOf moves = [] ∧
        Silent (s.run before) ((s.run before).run moves))) ∧
    (∀ stream, stream = Frame.join (Frame.frames stream) ++ Frame.rest stream ∧
      Frame.first? (Frame.rest stream) = none) ∧
    ∀ id (frame : Frame), frame.Meaning id (frame.task? id) frame.reply := by
  obtain ⟨command, event, ack, hlines, rfl⟩ := Connected.opened_of_connect h
  have hopened := opened_listening command event roster ack
  have hattended := attended_opened command event roster ack
  refine ⟨⟨command, event, ack, hlines, rfl, ?_⟩, ?_, ?_, Frame.meaning⟩
  · intro moves hundisturbed
    cases hundisturbed with
    | cons _ _ _ hunfailing hothers =>
        exact heard_feedEvent hopened (hunfailing _ rfl rfl) fun hwaits => heard_run hwaits hothers
  · intro before moves hundisturbed
    refine ⟨fun hgoes => ?_, fun hended => ?_⟩
    · have hwaits := (attended_run hattended before).resolve_right
        (by rw [Bool.not_eq_true]; exact hgoes)
      exact heard_run hwaits hundisturbed
    · obtain ⟨hnobody, hsilent, _⟩ := run_ended hended moves
      exact ⟨hnobody, hsilent⟩
  · exact fun stream => ⟨(Frame.join_frames_append_rest stream).symm, Frame.first?_rest stream⟩

/-- An event, a probe, a packet of no kind, and a length that no packet has. -/
def mixed : Bytes :=
  (Body.toPacket .event ⟨⟨0x4002⟩, 0, ⟨[5], by decide⟩⟩).toBytes ++
    (Body.toPacket .probeRequest ()).toBytes ++ [8, 0, 0, 0, 99, 0, 0, 0] ++
    [3, 0, 0, 0, 8, 0, 0, 0, 1]

/-- An event connection with the beginning of an event behind its greeting. -/
def piecemeal : Line where
  incoming := .ofBytes ((Body.toPacket .initEventAck ()).toBytes ++ mixed.take 5)

theorem split_mixed : Frame.split mixed =
    ([⟨(Body.toPacket .event ⟨⟨0x4002⟩, 0, ⟨[5], by decide⟩⟩).toBytes, by decide, by decide⟩,
      ⟨(Body.toPacket .probeRequest ()).toBytes, by decide, by decide⟩,
      ⟨[8, 0, 0, 0, 99, 0, 0, 0], by decide, by decide⟩], [3, 0, 0, 0, 8, 0, 0, 0, 1]) :=
  Frame.split_eq_iff.mpr ⟨by decide, by decide⟩

/-- The stream is cut within the event and within the probe, and means the same. -/
theorem stream_heard_piecemeal :
    ∃ s, connect {} display [Connected.accepting, piecemeal] = (.session s, []) ∧
      ∃ command event ack,
        Connected.Opened {} [Connected.accepting, piecemeal] [] command event ack ∧
        s = (opened command event display ack).after (.feedEvent {}) ∧
        (opened command event display ack).Undisturbed
          (.feedEvent {} :: pieces [(mixed.drop 5).take 15, mixed.drop 20]) ∧
        (opened command event display ack).callbacksOf
            (.feedEvent {} :: pieces [(mixed.drop 5).take 15, mixed.drop 20]) =
          display.calls
            [.event ⟨⟨0x4002⟩, 0, 0, ⟨[5], by decide⟩⟩,
              .failure (.violation (.unknownKind 99)),
              .failure (.violation (.invalidLength 3))] := by
  have hevent : Handshake.event 7 piecemeal = .ok () { piecemeal with
        incoming.queued := mixed.take 5
        sent := (Handshake.registration 7).toBytes } :=
    Handshake.exchange_answered ⟨rfl, rfl⟩ (by decide) (by decide) rfl rfl
  obtain ⟨s, hconnect⟩ := Connected.connect_accepting hevent rfl display
  obtain ⟨⟨command, event, ack, hopened, hs, hheard⟩, _⟩ := stream_heard hconnect
  refine ⟨s, hconnect, command, event, ack, hopened, hs, ?_⟩
  obtain ⟨rfl, -, hline⟩ := hopened.unique Connected.command_accepting hevent
  have hclear : event.Clear := by
    rw [hline]
    exact ⟨rfl, rfl⟩
  have hpending : event.incoming.pending = none := by
    rw [hline]
    rfl
  have hstream : event.incoming.queued ++ (pieces [[], (mixed.drop 5).take 15,
      mixed.drop 20]).flatMap Move.arrival = mixed := by
    rw [hline]
    decide
  have hundisturbed := undisturbed_pieces
    (opened_listening command event display ⟨7, .zero, "camera", 0x00010000⟩)
    [[], (mixed.drop 5).take 15, mixed.drop 20] hpending (hclear.takes _)
  have htasks : Frame.tasks 0 mixed = [.event ⟨⟨0x4002⟩, 0, 0, ⟨[5], by decide⟩⟩,
      .failure (.violation (.unknownKind 99)), .failure (.violation (.invalidLength 3))] := by
    simp only [Frame.tasks, Frame.frames, Frame.rest, split_mixed]
    decide
  refine ⟨hundisturbed, ?_⟩
  rw [← htasks, ← congrArg (Frame.tasks 0) hstream]
  exact (hheard _ hundisturbed).callbacks

end Session

end PictureTransfer
