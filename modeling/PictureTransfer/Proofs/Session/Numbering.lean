import Mathlib.Data.List.Nodup
import PictureTransfer.Proofs.Session.Closing
import PictureTransfer.Proofs.Session.Request

/-!
# The numbers of transactions

A session numbers the calls that it takes up, from 1 on and in their order.  A call that is
taken up sends its number with its request and with its data, whatever comes of it afterwards;
no other move takes a number.

* `Request.sent_run` — what a cycle sends: its request in full and answers to probes behind it,
  or what goes out of the request up to the write that fails;
* `Session.numbering_after` — one move: what it sends, and what it does to the counter;
* `Session.counter_run`, `Session.numbers_eq` — a run of moves, by induction;
* `Session.numbered_in_order` — the same of every session that was connected.
-/

namespace PictureTransfer

/-- The bytes of some answers to probes, whole ones but for the last. -/
def IsEchoes (bytes : Bytes) : Prop :=
  ∃ count, bytes <+: (List.replicate count probeAnswer.toBytes).flatten

theorem IsEchoes.nil : IsEchoes [] := ⟨0, List.nil_prefix⟩

theorem IsEchoes.part {bytes : Bytes} (h : bytes <+: probeAnswer.toBytes) : IsEchoes bytes :=
  ⟨1, by simpa using h⟩

/-- One more answer in front. -/
theorem IsEchoes.behind {bytes : Bytes} (h : IsEchoes bytes) :
    IsEchoes (probeAnswer.toBytes ++ bytes) := by
  obtain ⟨count, hbytes⟩ := h
  refine ⟨count + 1, ?_⟩
  rw [List.replicate_succ, List.flatten_cons]
  exact (List.prefix_append_right_inj _).mpr hbytes

/-- Up to its response a cycle sends nothing but answers to probes. -/
theorem Cycle.collect_sent (intake : Intake) (line : Line) :
    ∃ echoes, IsEchoes echoes ∧
      (stateOf (Cycle.collect intake line)).sent = line.sent ++ echoes := by
  have hreceive : ∀ {line line' : Line} {p : Packet}, Line.receive line = .ok p line' →
      line'.sent = line.sent := Line.receive_sent.ok
  -- By induction on what is read; only a probe has anything sent.
  fun_induction Cycle.collect intake line with
  | case1 intake line e line' h =>
      have hsent : line'.sent = line.sent := Line.receive_sent.error h
      exact ⟨[], .nil, hsent.trans (List.append_nil _).symm⟩
  | case2 intake line p line' h violation hheard =>
      exact ⟨[], .nil, (hreceive h).trans (List.append_nil _).symm⟩
  | case3 intake line p line' h response hheard =>
      exact ⟨[], .nil, (hreceive h).trans (List.append_nil _).symm⟩
  | case4 intake line p line' h packet hheard ih =>
      obtain ⟨echoes, hechoes, hsent⟩ := ih
      exact ⟨echoes, hechoes, by rw [hsent, hreceive h]⟩
  | case5 intake line p line' h hheard e line'' hsend =>
      obtain ⟨_, part, hpart, hwrote⟩ := Line.send_error hsend
      exact ⟨part, .part hpart, by rw [← hreceive h]; exact hwrote.sent⟩
  | case6 intake line p line' h hheard line'' hsend ih =>
      obtain ⟨echoes, hechoes, hsent⟩ := ih
      refine ⟨_, hechoes.behind, ?_⟩
      rw [hsent, (Line.send_ok hsend).2.2.sent, hreceive h, List.append_assoc]
      rfl

namespace Request

/-- What a cycle sends by a number on a line: all packets of its request, and answers to probes
behind them, if the line takes these packets; and if it does not, what goes out of them up to the
write that fails. -/
inductive Sent (r : Request) (id : UInt32) (line : Line) : Bytes → Prop where
  | whole (htakes : line.TakesAll (r.outgoing id)) {echoes : Bytes} (hechoes : IsEchoes echoes) :
      Sent r id line ((r.outgoing id).flatMap Packet.toBytes ++ echoes)
  | cut (hrefuses : ¬ line.TakesAll (r.outgoing id)) : Sent r id line (line.taken (r.outgoing id))

variable {r : Request} {id : UInt32} {line line' : Line}

/-- What is sent depends on the line only by the writes that it has room for. -/
theorem Sent.of_room {bytes : Bytes} (h : r.Sent id line bytes) (hroom : line'.room = line.room) :
    r.Sent id line' bytes := by
  have htakes : line'.TakesAll (r.outgoing id) ↔ line.TakesAll (r.outgoing id) :=
    ⟨fun h => ⟨h.fits, hroom ▸ h.room⟩, fun h => ⟨h.fits, hroom ▸ h.room⟩⟩
  have htaken : line'.taken (r.outgoing id) = line.taken (r.outgoing id) := by
    rw [Line.taken, Line.taken, hroom]
  cases h with
  | whole hall hechoes => exact .whole (htakes.mpr hall) hechoes
  | cut hrefuses =>
      rw [← htaken]
      exact .cut (mt htakes.mp hrefuses)

/-- On a line on which no write fails, all packets that fit are sent. -/
theorem Sent.in_full {bytes : Bytes} (h : r.Sent id line bytes) (hroom : line.room = none)
    (hfits : ∀ p ∈ r.outgoing id, p.Fits) :
    ∃ echoes, IsEchoes echoes ∧ bytes = (r.outgoing id).flatMap Packet.toBytes ++ echoes := by
  cases h with
  | whole _ hechoes => exact ⟨_, hechoes, rfl⟩
  | cut hrefuses => exact absurd (Line.takesAll_of_room hroom hfits) hrefuses

/-- A request is sent just when the line takes its packets. -/
theorem send_ok_iff : (∃ line', r.send id line = .ok () line') ↔ line.TakesAll (r.outgoing id) := by
  rw [send, Cycle.request_eq]
  exact Line.sendAll_ok_iff

/-- **What a cycle sends.** -/
theorem sent_run (r : Request) (id : UInt32) (line : Line) :
    ∃ bytes, r.Sent id line bytes ∧ (stateOf (r.run id line)).sent = line.sent ++ bytes := by
  cases hsend : r.send id line with
  | error e line' =>
      have hrefuses : ¬ line.TakesAll (r.outgoing id) := by
        intro htakes
        obtain ⟨middle, hok⟩ := send_ok_iff.mpr htakes
        simp [hsend] at hok
      have hsent : (stateOf (r.send id line)).sent = line.sent ++ line.taken (r.outgoing id) := by
        rw [send, Cycle.request_eq]
        exact Line.sendAll_sent ..
      have hrun : r.run id line = .error e line' := bind_of_error hsend _
      rw [hsend] at hsent
      exact ⟨_, .cut hrefuses, by rw [hrun]; exact hsent⟩
  | ok u line' =>
      obtain ⟨echoes, hechoes, hsent⟩ := Cycle.collect_sent (.ofTransaction id) line'
      refine ⟨_, .whole (send_ok_iff.mp ⟨line', hsend⟩) hechoes, ?_⟩
      have hrun : stateOf (r.run id line) =
          stateOf (Cycle.collect (.ofTransaction id) line') := by
        refine (congrArg stateOf (bind_of_ok hsend _)).trans ?_
        cases hcollect : Cycle.collect (.ofTransaction id) line' with
        | error e last => rw [bind_of_error hcollect]
        | ok cycle last =>
            rw [bind_of_ok hcollect]
            cases cycle.check id with
            | ok => rfl
            | error => rfl
      rw [hrun, hsent, (Cycle.request_ok hsend).sent, List.append_assoc]
      rfl

end Request

namespace Counter

/-- Below the greatest number, the counter counts. -/
theorem advance_last_ofNat {c : Counter} (h : c.last.toNat + 1 < UInt32.size) :
    c.advance.last = UInt32.ofNat (c.last.toNat + 1) := by
  rw [← advance_last_toNat h, UInt32.ofNat_toNat]

end Counter

/-- The bytes of the packet that a move sends without an operation, if it sends one. -/
def Move.message : Move → Bytes
  | .call asked => asked.message
  | _ => []

namespace Session

/-- The numbers that a session gives to the calls that it takes up during moves. -/
def numbers (s : Session) : List Move → List UInt32
  | [] => []
  | move :: moves =>
      ((s.request? move).map fun _ => s.counter.advance.last).toList ++ (s.after move).numbers moves

/-- What a move sends on the command connection: with a call that is taken up, what its cycle
sends by a number, and with any other move, all or a front part of the packet that it sends
without an operation. -/
inductive Sends (s : Session) (move : Move) (id : UInt32) : Bytes → Prop where
  | request {r : Request} {bytes : Bytes} (hrequest : s.request? move = some r)
      (hsent : r.Sent id s.command bytes) : Sends s move id bytes
  | other {part : Bytes} (hrequest : s.request? move = none) (hpart : part <+: move.message) :
      Sends s move id part

/-- The calls that a session takes up during moves are numbered from 1 on and in their order, so
no number is given twice and none is zero; each of them sends its own number; and the session
knows the number that it gave last. -/
structure Numbered (s : Session) (moves : List Move) : Prop where
  inOrder : s.numbers moves = (List.range' 1 (s.numbers moves).length).map UInt32.ofNat
  distinct : (s.numbers moves).Nodup
  nonzero : 0 ∉ s.numbers moves
  sent : ∀ before move later, moves = before ++ move :: later → ∃ bytes,
    (s.run before).Sends move (UInt32.ofNat ((s.numbers before).length + 1)) bytes ∧
      (s.run (before ++ [move])).command.sent = (s.run before).command.sent ++ bytes
  last : ∀ before later, moves = before ++ later → (s.run before).counter.last? =
    if s.numbers before = [] then none else some (UInt32.ofNat (s.numbers before).length)

variable {s : Session}

theorem request?_call_of_ready (hready : s.phase = .ready) (call : Call) :
    s.request? (.call call) = call.request? := if_pos hready

/-- What a move does about the numbers of transactions. -/
inductive Numbering (s : Session) (move : Move) : Prop where
  /-- It is taken up, with a number of its own. -/
  | taken {r : Request} {bytes : Bytes} (hrequest : s.request? move = some r)
      (hcounter : (s.after move).counter = s.counter.advance)
      (hsent : r.Sent s.counter.advance.last s.command bytes)
      (hafter : (s.after move).command.sent = s.command.sent ++ bytes)
  /-- It is not. -/
  | other {part : Bytes} (hrequest : s.request? move = none)
      (hcounter : (s.after move).counter = s.counter) (hpart : part <+: move.message)
      (hafter : (s.after move).command.sent = s.command.sent ++ part)

/-- Nothing was sent, and no number taken. -/
theorem Numbering.nothing {move : Move} (hrequest : s.request? move = none)
    (hcounter : (s.after move).counter = s.counter)
    (hsent : (s.after move).command.sent = s.command.sent) : Numbering s move :=
  .other hrequest hcounter List.nil_prefix (hsent.trans (List.append_nil _).symm)

/-- **One call** of a ready session. -/
theorem numbering_call (hready : s.phase = .ready) (call : Call) : Numbering s (.call call) := by
  have hrequest? := request?_call_of_ready hready call
  cases made hready call with
  | taken r cycle line hrequest hrun hafter =>
      obtain ⟨bytes, hsent, hline⟩ := r.sent_run s.counter.advance.last s.command
      rw [hrun] at hline
      refine .taken (hrequest?.trans hrequest) ?_ hsent ?_
      · rw [hafter]
        rfl
      · rw [hafter]
        exact hline
  | cut r e line hrequest hrun _ hafter =>
      obtain ⟨bytes, hsent, hline⟩ := r.sent_run s.counter.advance.last s.command
      rw [hrun] at hline
      refine .taken (hrequest?.trans hrequest) ?_ hsent ?_
      · rw [hafter, close_counter]
        rfl
      · rw [hafter, (close_command _).1]
        exact hline
  | other line part hrequest hclose hafter hpart hsent =>
      exact .other (hrequest?.trans hrequest) (by rw [hafter]) hpart (by rw [hafter]; exact hsent)
  | closed hcall hafter =>
      subst hcall
      refine .nothing hrequest? ?_ ?_
      · rw [hafter, close_counter]
      · rw [hafter, (close_command _).1]

/-- **One move.** -/
theorem numbering_after (s : Session) (move : Move) : Numbering s move := by
  cases move with
  | call call =>
      by_cases hready : s.phase = .ready
      · exact numbering_call hready call
      · have hrequest : s.request? (.call call) = none := if_neg hready
        by_cases hcall : call = .close
        · subst hcall
          exact .nothing hrequest s.close_counter s.close_command.1
        · have hafter : s.after (.call call) = s :=
            (after_call_eq s call).trans (congrArg stateOf (perform_of_not_ready hready hcall))
          exact .nothing hrequest (by rw [hafter]) (by rw [hafter])
  | feedCommand | feedEvent | enroll | dismiss => exact .nothing rfl rfl rfl

theorem numbers_cons_taken {move : Move} {r : Request} (h : s.request? move = some r)
    (moves : List Move) :
    s.numbers (move :: moves) = s.counter.advance.last :: (s.after move).numbers moves := by
  rw [numbers, h]
  rfl

theorem numbers_cons_other {move : Move} (h : s.request? move = none) (moves : List Move) :
    s.numbers (move :: moves) = (s.after move).numbers moves := by
  rw [numbers, h]
  rfl

/-- **A run of moves** counts the calls that it takes up. -/
theorem counter_run {moves : List Move}
    (h : s.counter.last.toNat + (s.numbers moves).length < UInt32.size) :
    (s.run moves).counter.last.toNat = s.counter.last.toNat + (s.numbers moves).length := by
  induction moves generalizing s with
  | nil => rfl
  | cons move moves ih =>
      cases numbering_after s move with
      | taken hrequest hcounter =>
          rw [numbers_cons_taken hrequest, List.length_cons] at h ⊢
          have hnext : (s.after move).counter.last.toNat = s.counter.last.toNat + 1 := by
            rw [hcounter, Counter.advance_last_toNat (by omega)]
          refine (ih (by omega)).trans ?_
          rw [hnext, Nat.add_assoc, Nat.add_comm 1]
      | other hrequest hcounter =>
          rw [numbers_cons_other hrequest, ← hcounter] at h ⊢
          exact ih h

/-- **The numbers of a run** are those that follow the last one given. -/
theorem numbers_eq {moves : List Move}
    (h : s.counter.last.toNat + (s.numbers moves).length < UInt32.size) :
    s.numbers moves =
      (List.range' (s.counter.last.toNat + 1) (s.numbers moves).length).map UInt32.ofNat := by
  induction moves generalizing s with
  | nil => rfl
  | cons move moves ih =>
      cases numbering_after s move with
      | taken hrequest hcounter =>
          rw [numbers_cons_taken hrequest, List.length_cons] at h ⊢
          have hnext : (s.after move).counter.last.toNat = s.counter.last.toNat + 1 := by
            rw [hcounter, Counter.advance_last_toNat (by omega)]
          have hlater := @ih (s.after move) (by omega)
          rw [hnext] at hlater
          rw [List.range'_succ, List.map_cons, ← hlater, Counter.advance_last_ofNat (by omega)]
      | other hrequest hcounter =>
          rw [numbers_cons_other hrequest, ← hcounter] at h ⊢
          exact ih h

theorem numbers_append (s : Session) (before later : List Move) :
    s.numbers (before ++ later) = s.numbers before ++ (s.run before).numbers later := by
  induction before generalizing s with
  | nil => rfl
  | cons move before ih =>
      rw [List.cons_append, numbers, ih, numbers, List.append_assoc]
      rfl

theorem length_numbers_le (s : Session) (moves : List Move) :
    (s.numbers moves).length ≤ moves.length := by
  induction moves generalizing s with
  | nil => exact Nat.le_refl 0
  | cons move moves ih =>
      cases hrequest : s.request? move with
      | some r =>
          rw [numbers_cons_taken hrequest]
          exact Nat.succ_le_succ (ih _)
      | none =>
          rw [numbers_cons_other hrequest]
          exact Nat.le_succ_of_le (ih _)

/-- Numbers from 1 on that fit are distinct. -/
theorem nodup_ofNat {count : Nat} (h : count < UInt32.size) :
    ((List.range' 1 count).map UInt32.ofNat).Nodup := by
  refine List.Nodup.map_on (fun i hi j hj hsame => ?_) List.nodup_range'
  rw [List.mem_range'_1] at hi hj
  have htoNat := congrArg UInt32.toNat hsame
  rwa [UInt32.toNat_ofNat_of_lt' (by omega), UInt32.toNat_ofNat_of_lt' (by omega)] at htoNat

/-- None of them is zero. -/
theorem zero_not_mem_ofNat {count : Nat} (h : count < UInt32.size) :
    0 ∉ (List.range' 1 count).map UInt32.ofNat := by
  intro hzero
  obtain ⟨i, hi, hsame⟩ := List.mem_map.mp hzero
  rw [List.mem_range'_1] at hi
  have htoNat : i = 0 :=
    (UInt32.toNat_ofNat_of_lt' (by omega)).symm.trans (congrArg UInt32.toNat hsame)
  omega

/-- A session that has given no number yet. -/
theorem numbered_of_new (hnew : s.counter = {}) {moves : List Move}
    (hfew : (s.numbers moves).length < UInt32.size) : s.Numbered moves := by
  have hzero : s.counter.last.toNat = 0 := by rw [hnew]; rfl
  have hfront : ∀ {before later}, moves = before ++ later →
      (s.numbers before).length + ((s.run before).numbers later).length < UInt32.size :=
    fun {before later} hmoves => by
      rwa [hmoves, numbers_append, List.length_append] at hfew
  have hcount : ∀ {before later}, moves = before ++ later →
      (s.run before).counter.last.toNat = (s.numbers before).length :=
    fun {before later} hmoves => by
      have hbefore := hfront hmoves
      rw [counter_run (by omega), hzero, Nat.zero_add]
  have hnumbers := @numbers_eq s moves (by omega)
  rw [hzero] at hnumbers
  refine ⟨hnumbers, ?_, ?_, fun before move later hmoves => ?_, fun before later hmoves => ?_⟩
  · rw [hnumbers]
    exact nodup_ofNat hfew
  · rw [hnumbers]
    exact zero_not_mem_ofNat hfew
  · have hrun : s.run (before ++ [move]) = (s.run before).after move := List.foldl_append
    rw [hrun]
    cases numbering_after (s.run before) move with
    | taken hrequest hcounter hsent hafter =>
        refine ⟨_, .request hrequest ?_, hafter⟩
        -- The call itself is one of the few.
        have hone := hfront hmoves
        rw [numbers_cons_taken hrequest, List.length_cons] at hone
        rw [← hcount hmoves, ← Counter.advance_last_ofNat (by rw [hcount hmoves]; omega)]
        exact hsent
    | other hrequest hcounter hpart hafter => exact ⟨_, .other hrequest hpart, hafter⟩
  · have hlast := hcount hmoves
    by_cases hnone : s.numbers before = []
    · rw [if_pos hnone, Counter.last?_eq_none_iff]
      rw [hnone] at hlast
      exact UInt32.toNat_inj.mp hlast
    · rw [if_neg hnone, ← hlast, UInt32.ofNat_toNat]
      refine if_neg fun hzero => hnone (List.length_eq_zero_iff.mp ?_)
      rw [← hlast, hzero]
      rfl

/-- **Transactions are numbered in order.**  Over any run of moves of any session that was
connected, with fewer calls taken up than there are numbers, these are numbered from 1 on,
whatever comes of them, and each of them sends its number. -/
theorem numbered_in_order {config : Config} {roster : Roster} {waiting left : List Line}
    (h : connect config roster waiting = (.session s, left)) {moves : List Move}
    (hfew : (s.numbers moves).length < UInt32.size) : s.Numbered moves :=
  numbered_of_new (Connected.session_new h).2.1 hfew

/-- An operation that is cut off has the number 1, and a probe behind it has none. -/
theorem numbered_in_order_cut_off :
    ∃ s, connect {} .empty [Connected.accepting, confirming] = (.session s, []) ∧
      (s.numbers [.call .getStorageIds, .call .probe]).length < UInt32.size ∧
      s.Numbered [.call .getStorageIds, .call .probe] ∧
      s.numbers [.call .getStorageIds, .call .probe] = [1] := by
  obtain ⟨s, h⟩ := Connected.connect_accepting event_confirming rfl .empty
  have hfew : (s.numbers [.call .getStorageIds, .call .probe]).length < UInt32.size :=
    Nat.lt_of_le_of_lt (length_numbers_le s _) (by decide)
  have hnumbered := numbered_in_order h hfew
  have hprobe : ∀ s : Session, s.request? (.call .probe) = none := fun s => ite_self none
  have hlength : (s.numbers [.call .getStorageIds, .call .probe]).length = 1 := by
    have htaken := request?_call_of_ready (Connected.session_new h).1 .getStorageIds
    rw [numbers_cons_taken htaken, numbers_cons_other (hprobe _)]
    rfl
  refine ⟨s, h, hfew, hnumbered, ?_⟩
  rw [hnumbered.inOrder, hlength]
  rfl

end Session

end PictureTransfer
