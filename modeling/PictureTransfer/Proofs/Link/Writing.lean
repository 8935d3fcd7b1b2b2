import PictureTransfer.Link.Line
import PictureTransfer.Proofs.Outcome

/-!
# When a line takes what is written

A write passes on a line that is open, unless a failure is due; a failure may be
set to come behind some writes that are spared, and a transfer that is merely
interrupted is tried again.  `Line.Takes n` says that the next `n` writes pass.

* `Line.write_ok_iff` — one write, and the line behind it (`Line.wrote`);
* `Line.send_ok_iff` — a packet, which is one write or two, and the line behind it
  (`Line.posted`);
* `Line.sendAll_ok_iff`, `Line.sendAll_sent` — packets in a row: when all of them are
  sent, and which bytes go out when not.
-/

namespace PictureTransfer

/-- The count of writes that a packet takes: one for its header, and one for its
payload unless that is empty. -/
def Packet.writes (p : Packet) : Nat := if p.payload.isEmpty then 1 else 2

theorem Packet.writes_pos (p : Packet) : 1 ≤ p.writes := by
  unfold writes
  split <;> decide

/-- The bytes of each of them. -/
def Packet.pieces (p : Packet) : List Bytes :=
  if p.payload.isEmpty then [p.header] else [p.header, p.payload]

theorem Packet.length_pieces (p : Packet) : p.pieces.length = p.writes := by
  unfold pieces writes
  split <;> rfl

theorem Packet.flatten_pieces (p : Packet) : p.pieces.flatten = p.toBytes := by
  unfold pieces
  split
  · rename_i hempty
    simp [toBytes, List.isEmpty_iff.mp hempty]
  · simp [toBytes]

namespace Line

/-- The next `n` writes on the line pass. -/
structure Takes (n : Nat) (line : Line) : Prop where
  opened : line.closed = false
  spared : ∀ w ∈ line.writeFault, w.fault.kind ≠ .interrupted → n ≤ w.spared

/-- The line behind one write. -/
def wrote (bytes : Bytes) (line : Line) : Line :=
  { line with
    sent := line.sent ++ bytes
    writeFault := line.writeFault.bind WriteFault.next }

/-- The line behind a packet that was sent. -/
def posted (p : Packet) (line : Line) : Line :=
  if p.payload.isEmpty then line.wrote p.header else (line.wrote p.header).wrote p.payload

/-- A line that takes whatever is written takes any count of writes. -/
theorem Clear.takes {line : Line} (h : line.Clear) (n : Nat) : line.Takes n where
  opened := h.2
  spared w hw := by simp [h.1] at hw

theorem Takes.mono {line : Line} {n m : Nat} (h : line.Takes m) (hle : n ≤ m) :
    line.Takes n where
  opened := h.opened
  spared w hw hkind := Nat.le_trans hle (h.spared w hw hkind)

/-- What is still unread does not matter to writes. -/
theorem takes_incoming {line : Line} {incoming : Source} {n : Nat} :
    Takes n { line with incoming := incoming } ↔ line.Takes n :=
  ⟨fun h => ⟨h.opened, h.spared⟩, fun h => ⟨h.opened, h.spared⟩⟩

@[simp] theorem posted_incoming (p : Packet) (line : Line) :
    (line.posted p).incoming = line.incoming := by
  unfold posted
  split <;> rfl

@[simp] theorem posted_closed (p : Packet) (line : Line) :
    (line.posted p).closed = line.closed := by
  unfold posted
  split <;> rfl

@[simp] theorem posted_cloneFault (p : Packet) (line : Line) :
    (line.posted p).cloneFault = line.cloneFault := by
  unfold posted
  split <;> rfl

/-- A packet is on the line in full. -/
@[simp] theorem posted_sent (p : Packet) (line : Line) :
    (line.posted p).sent = line.sent ++ p.toBytes := by
  unfold posted
  split
  · rename_i hempty
    simp [wrote, Packet.toBytes, List.isEmpty_iff.mp hempty]
  · simp [wrote, Packet.toBytes]

/-- A write uses up one of those that pass. -/
theorem takes_wrote_iff {line : Line} {n : Nat} (h : line.Takes 1) (bytes : Bytes) :
    (line.wrote bytes).Takes n ↔ line.Takes (n + 1) := by
  obtain ⟨incoming, sent, closed, fault, cloneFault⟩ := line
  obtain ⟨hopen, hspared⟩ := h
  cases fault with
  | none =>
      refine iff_of_true ⟨hopen, ?_⟩ ⟨hopen, ?_⟩
      · simp [wrote]
      · simp
  | some w =>
      obtain ⟨fault, spared⟩ := w
      cases spared with
      | zero =>
          -- A failure that is due lets a write pass only where it is tried again.
          have hkind : fault.kind = .interrupted := by
            refine Decidable.byContradiction fun hkind => ?_
            exact absurd (hspared _ rfl hkind) (Nat.not_succ_le_zero 0)
          refine iff_of_true ⟨hopen, ?_⟩ ⟨hopen, ?_⟩
          · simp [wrote, WriteFault.next]
          · simp [hkind]
      | succ spared =>
          constructor
          · intro htakes
            refine ⟨hopen, fun w hw hkind => ?_⟩
            obtain rfl := Option.mem_some_iff.mp hw
            exact Nat.succ_le_succ (htakes.spared ⟨fault, spared⟩ rfl hkind)
          · intro htakes
            refine ⟨hopen, fun w hw hkind => ?_⟩
            obtain rfl : ⟨fault, spared⟩ = w := Option.mem_some_iff.mp hw
            exact Nat.le_of_succ_le_succ (htakes.spared ⟨fault, spared + 1⟩ rfl hkind)

/-- No failure is due just when one write passes. -/
theorem writeRefusal_eq_none_iff {line : Line} : line.writeRefusal = none ↔ line.Takes 1 := by
  by_cases hclosed : line.closed = true
  · refine iff_of_false (fun hnone => ?_) fun h => by simp [h.opened] at hclosed
    have hsome := writeRefusal_of_closed hclosed
    simp [hnone] at hsome
  have hopen : line.closed = false := by simpa using hclosed
  obtain ⟨incoming, sent, closed, fault, cloneFault⟩ := line
  subst hopen
  cases fault with
  | none => exact iff_of_true rfl ⟨rfl, by simp⟩
  | some w =>
      obtain ⟨fault, spared⟩ := w
      cases spared with
      | zero =>
          by_cases hkind : fault.kind = .interrupted
          · exact iff_of_true (by simp [writeRefusal, hkind]) ⟨rfl, by simp [hkind]⟩
          · refine iff_of_false (by simp [writeRefusal, hkind]) fun h => ?_
            exact absurd (h.spared _ rfl hkind) (Nat.not_succ_le_zero 0)
      | succ spared =>
          refine iff_of_true (by simp [writeRefusal]) ⟨rfl, fun w hw _ => ?_⟩
          obtain rfl := Option.mem_some_iff.mp hw
          exact Nat.succ_le_succ (Nat.zero_le _)

/-- **One write.** -/
theorem write_ok_iff {bytes : Bytes} (hne : bytes ≠ []) {line line' : Line} :
    write bytes line = .ok () line' ↔ line.Takes 1 ∧ line' = line.wrote bytes := by
  have hempty : bytes.isEmpty = false := by simpa using hne
  rw [← writeRefusal_eq_none_iff]
  unfold write
  simp only [hempty, Bool.false_eq_true, if_false]
  cases line.writeRefusal with
  | some fault => simp
  | none =>
      simp only [EStateM.Result.ok.injEq, true_and]
      exact eq_comm

theorem header_ne_nil (p : Packet) : p.header ≠ [] := by
  intro hnil
  have := p.length_header
  simp [hnil, Packet.headerLength] at this

/-- **A packet is sent** just when it fits its header and the line takes its
writes. -/
theorem send_ok_iff {p : Packet} {line line' : Line} :
    send p line = .ok () line' ↔ p.Fits ∧ line.Takes p.writes ∧ line' = line.posted p := by
  unfold send
  by_cases hfits : p.Fits
  · rw [if_pos hfits, and_iff_right hfits]
    cases hhead : write p.header line with
    | error fault middle =>
        refine iff_of_false (by simp) fun h => ?_
        have hone : line.Takes 1 := h.1.mono (by unfold Packet.writes; split <;> omega)
        have hwrote := (write_ok_iff (header_ne_nil p)).mpr ⟨hone, rfl⟩
        simp [hhead] at hwrote
    | ok u middle =>
        obtain ⟨hone, rfl⟩ := (write_ok_iff (header_ne_nil p)).mp hhead
        by_cases hempty : p.payload = []
        · have hnothing : write [] (line.wrote p.header) = .ok () (line.wrote p.header) := rfl
          simp only [Packet.writes, posted, hempty, List.isEmpty_nil, if_true, and_iff_right hone]
          simp only [hnothing, EStateM.Result.ok.injEq, true_and]
          exact eq_comm
        · have hpayload : p.payload.isEmpty = false := by simpa using hempty
          simp only [Packet.writes, posted, hpayload, Bool.false_eq_true, if_false]
          rw [← takes_wrote_iff hone p.header, ← write_ok_iff hempty]
          cases write p.payload (line.wrote p.header) with
          | error fault last => simp
          | ok u last => simp
  · simp [hfits]

/-- The line behind a packet takes as many writes less. -/
theorem takes_posted_iff {p : Packet} {line : Line} {n : Nat} (h : line.Takes p.writes) :
    (line.posted p).Takes n ↔ line.Takes (n + p.writes) := by
  have hone : line.Takes 1 := h.mono (by unfold Packet.writes; split <;> omega)
  by_cases hempty : p.payload.isEmpty = true
  · simp only [posted, Packet.writes, hempty, if_true]
    exact takes_wrote_iff hone p.header
  · simp only [posted, Packet.writes, hempty, Bool.false_eq_true, if_false] at h ⊢
    rw [takes_wrote_iff ((takes_wrote_iff hone _).mpr h), takes_wrote_iff hone]

/-! ## Packets in a row -/

/-- Sends packets in a row. -/
def sendAll : List Packet → EStateM Error Line Unit
  | [] => pure ()
  | p :: packets => do
      send p
      sendAll packets

/-- The count of writes that pass before one fails, if one is going to. -/
def room (line : Line) : Option Nat :=
  if line.closed then some 0
  else line.writeFault.bind fun w => if w.fault.kind = .interrupted then none else some w.spared

/-- Those of some writes in a row that pass where there is room for so many. -/
def passing (room : Option Nat) (pieces : List Bytes) : List Bytes :=
  match room with
  | none => pieces
  | some count => pieces.take count

/-- What goes out of packets in a row.  One that does not fit its header is not begun, nor are
those behind it, and the first write that fails is the last. -/
def taken (line : Line) (packets : List Packet) : Bytes :=
  (passing line.room ((packets.takeWhile fun p => p.Fits).flatMap Packet.pieces)).flatten

/-- All of some packets in a row fit, and there is room for their writes. -/
structure TakesAll (line : Line) (packets : List Packet) : Prop where
  fits : ∀ p ∈ packets, p.Fits
  room : ∀ count ∈ line.room, (packets.flatMap Packet.pieces).length ≤ count

variable {line : Line} {p : Packet} {packets : List Packet}

/-- No write fails on an open line that has no failure to come. -/
theorem room_of_open (hopen : line.closed = false) (hfault : line.writeFault = none) :
    line.room = none := by
  simp [room, hopen, hfault]

/-- Writes pass just when there is room for them. -/
theorem takes_iff_room {n : Nat} (hn : 1 ≤ n) : line.Takes n ↔ ∀ count ∈ line.room, n ≤ count := by
  cases hclosed : line.closed with
  | true =>
      refine iff_of_false (fun h => ?_) fun h => ?_
      · simp [h.opened] at hclosed
      · exact absurd (h 0 (by simp [room, hclosed])) (Nat.not_le.mpr hn)
  | false =>
      constructor
      · intro h count hcount
        simp only [room, hclosed, Bool.false_eq_true, if_false, Option.mem_def,
          Option.bind_eq_some_iff] at hcount
        obtain ⟨w, hw, hspared⟩ := hcount
        split at hspared
        · simp at hspared
        · rename_i hkind
          obtain rfl := Option.some.inj hspared
          exact h.spared w hw hkind
      · intro h
        refine ⟨hclosed, fun w hw hkind => h w.spared ?_⟩
        simp [room, hclosed, Option.mem_def.mp hw, hkind]

/-- A write that passes leaves room for one less. -/
theorem room_wrote (h : line.Takes 1) (bytes : Bytes) :
    (line.wrote bytes).room = line.room.map (· - 1) := by
  obtain ⟨incoming, sent, closed, fault, cloneFault⟩ := line
  obtain ⟨hopen, hspared⟩ := h
  obtain rfl : closed = false := hopen
  cases fault with
  | none => rfl
  | some w =>
      obtain ⟨fault, spared⟩ := w
      by_cases hkind : fault.kind = .interrupted
      · cases spared <;> simp [room, wrote, WriteFault.next, hkind]
      · cases spared with
        | zero => exact absurd (hspared _ rfl hkind) (Nat.not_succ_le_zero 0)
        | succ spared => simp [room, wrote, WriteFault.next, hkind]

theorem room_posted (h : line.Takes p.writes) :
    (line.posted p).room = line.room.map (· - p.writes) := by
  have hone : line.Takes 1 := h.mono p.writes_pos
  unfold Packet.writes at h ⊢
  unfold posted
  by_cases hempty : p.payload.isEmpty = true
  · simp only [hempty, if_true]
    exact room_wrote hone p.header
  · simp only [hempty, Bool.false_eq_true, if_false] at h ⊢
    rw [room_wrote ((takes_wrote_iff hone _).mpr h), room_wrote hone, Option.map_map]
    rfl

theorem passing_append (room : Option Nat) (front back : List Bytes) :
    passing room (front ++ back) =
      passing room front ++ passing (room.map (· - front.length)) back := by
  cases room with
  | none => rfl
  | some count => exact List.take_append

theorem passing_of_room {room : Option Nat} {pieces : List Bytes}
    (h : ∀ count ∈ room, pieces.length ≤ count) : passing room pieces = pieces := by
  cases room with
  | none => rfl
  | some count => exact List.take_of_length_le (h count rfl)

/-- **A packet that is not sent in full** goes out as far as there is room for its writes. -/
theorem send_refused (hfits : p.Fits) (h : ¬ line.Takes p.writes) :
    ∃ e line', send p line = .error e line' ∧
      line'.sent = line.sent ++ (passing line.room p.pieces).flatten := by
  have hnone : ∀ {line : Line}, ¬ line.Takes 1 → line.room = some 0 := by
    intro line hnot
    rw [takes_iff_room (Nat.le_refl 1)] at hnot
    cases hroom : line.room with
    | none => simp [hroom] at hnot
    | some count =>
        simp only [hroom, Option.mem_some_iff, forall_eq'] at hnot
        exact congrArg some (by omega)
  unfold send
  rw [if_pos hfits]
  cases hhead : write p.header line with
  | error fault middle =>
      have hnot : ¬ line.Takes 1 := by
        intro hone
        rw [(write_ok_iff (header_ne_nil p)).mpr ⟨hone, rfl⟩] at hhead
        simp at hhead
      exact ⟨_, middle, rfl, by rw [(write_error hhead).sent, hnone hnot]; rfl⟩
  | ok u middle =>
      obtain ⟨hone, rfl⟩ := (write_ok_iff (header_ne_nil p)).mp hhead
      by_cases hempty : p.payload.isEmpty = true
      · simp [Packet.writes, hempty, hone] at h
      have hpayload : p.payload ≠ [] := by simpa using hempty
      have hnot : ¬ (line.wrote p.header).Takes 1 := by
        rw [takes_wrote_iff hone]
        simpa [Packet.writes, hempty] using h
      dsimp only
      cases hbody : write p.payload (line.wrote p.header) with
      | ok u last => exact absurd ((write_ok_iff hpayload).mp hbody).1 hnot
      | error fault last =>
          refine ⟨_, last, rfl, ?_⟩
          have hroom : line.room = some 1 := by
            have hleft := hnone hnot
            rw [room_wrote hone] at hleft
            obtain ⟨count, hcount, hzero⟩ := Option.map_eq_some_iff.mp hleft
            have hpos := (takes_iff_room (Nat.le_refl 1)).mp hone count hcount
            rw [hcount]
            exact congrArg some (by omega)
          rw [(write_error hbody).sent, hroom]
          simp [wrote, passing, Packet.pieces, hempty]

/-- The first of some packets in a row, and the others behind it. -/
theorem takesAll_cons_iff :
    line.TakesAll (p :: packets) ↔
      p.Fits ∧ line.Takes p.writes ∧ (line.posted p).TakesAll packets := by
  constructor
  · intro h
    have hpieces := h.room
    simp only [List.flatMap_cons, List.length_append, Packet.length_pieces] at hpieces
    have htakes : line.Takes p.writes := (takes_iff_room p.writes_pos).mpr fun count hcount =>
      Nat.le_trans (Nat.le_add_right ..) (hpieces count hcount)
    refine ⟨h.fits p List.mem_cons_self, htakes,
      fun q hq => h.fits q (List.mem_cons_of_mem _ hq), fun count hcount => ?_⟩
    rw [room_posted htakes] at hcount
    obtain ⟨before, hbefore, rfl⟩ := Option.map_eq_some_iff.mp hcount
    exact Nat.le_sub_of_add_le (Nat.add_comm .. ▸ hpieces before hbefore)
  · intro h
    obtain ⟨hfits, htakes, hall⟩ := h
    refine ⟨List.forall_mem_cons.mpr ⟨hfits, hall.fits⟩, fun count hcount => ?_⟩
    have hfirst := (takes_iff_room p.writes_pos).mp htakes count hcount
    have hlater := hall.room (count - p.writes)
      (by rw [room_posted htakes]; exact Option.map_eq_some_iff.mpr ⟨count, hcount, rfl⟩)
    simp only [List.flatMap_cons, List.length_append, Packet.length_pieces]
    omega

/-- **Packets in a row are all sent** just when the line takes them all. -/
theorem sendAll_ok_iff :
    (∃ line', sendAll packets line = .ok () line') ↔ line.TakesAll packets := by
  induction packets generalizing line with
  | nil => exact iff_of_true ⟨line, rfl⟩ ⟨by simp, by simp⟩
  | cons p packets ih =>
      rw [takesAll_cons_iff, ← ih, sendAll]
      constructor
      · intro h
        obtain ⟨line', h⟩ := h
        obtain ⟨u, middle, hsend, hlater⟩ := bind_ok_iff.mp h
        obtain ⟨hfits, htakes, rfl⟩ := send_ok_iff.mp hsend
        exact ⟨hfits, htakes, line', hlater⟩
      · intro h
        obtain ⟨hfits, htakes, line', hlater⟩ := h
        exact ⟨line', bind_ok_iff.mpr ⟨(), _, send_ok_iff.mpr ⟨hfits, htakes, rfl⟩, hlater⟩⟩

theorem passing_nil (room : Option Nat) : passing room [] = [] := by
  cases room with
  | none => rfl
  | some count => exact List.take_nil

theorem taken_nil (line : Line) : line.taken [] = [] :=
  congrArg List.flatten (passing_nil line.room)

/-- A packet that does not fit is not begun. -/
theorem taken_cons_of_not_fits (hfits : ¬ p.Fits) (packets : List Packet) :
    line.taken (p :: packets) = [] := by
  rw [taken, List.takeWhile_cons, if_neg (by simpa using hfits)]
  exact congrArg List.flatten (passing_nil line.room)

/-- Behind a packet that fits there is room for as many writes less. -/
theorem taken_cons_of_fits (hfits : p.Fits) (packets : List Packet) :
    line.taken (p :: packets) = (passing line.room p.pieces).flatten ++
      (passing (line.room.map (· - p.writes))
        ((packets.takeWhile fun p => p.Fits).flatMap Packet.pieces)).flatten := by
  rw [taken, List.takeWhile_cons, if_pos (decide_eq_true hfits), List.flatMap_cons,
    passing_append, List.flatten_append, Packet.length_pieces]

/-- **What goes out of packets in a row.** -/
theorem sendAll_sent (packets : List Packet) (line : Line) :
    (stateOf (sendAll packets line)).sent = line.sent ++ line.taken packets := by
  induction packets generalizing line with
  | nil =>
      rw [taken_nil, List.append_nil]
      rfl
  | cons p packets ih =>
      rw [sendAll]
      by_cases hfits : p.Fits
      · rw [taken_cons_of_fits hfits]
        by_cases htakes : line.Takes p.writes
        · have hroom : ∀ count ∈ line.room, p.pieces.length ≤ count := by
            rw [Packet.length_pieces]
            exact (takes_iff_room p.writes_pos).mp htakes
          rw [bind_of_ok (send_ok_iff.mpr ⟨hfits, htakes, rfl⟩), ih, posted_sent, taken,
            room_posted htakes, passing_of_room hroom, Packet.flatten_pieces, List.append_assoc]
        · obtain ⟨e, line', hsend, hsent⟩ := send_refused hfits htakes
          -- There is not even room for this packet, and none behind it.
          have hnothing : line.room.map (· - p.writes) = some 0 := by
            rw [takes_iff_room p.writes_pos] at htakes
            cases hroom : line.room with
            | none => simp [hroom] at htakes
            | some count =>
                simp only [hroom, Option.mem_some_iff, forall_eq'] at htakes
                exact congrArg some (Nat.sub_eq_zero_of_le (Nat.le_of_not_le htakes))
          rw [bind_of_error hsend, hnothing]
          exact hsent.trans (congrArg _ (List.append_nil _).symm)
      · have hsend : send p line = .error (.violation (.packetTooLarge p.wireLength)) line :=
          if_neg hfits
        rw [bind_of_error hsend, taken_cons_of_not_fits hfits, List.append_nil]
        rfl

/-- A line on which no write fails takes all packets that fit. -/
theorem takesAll_of_room (hroom : line.room = none) (hfits : ∀ p ∈ packets, p.Fits) :
    line.TakesAll packets where
  fits := hfits
  room := by simp [hroom]

end Line

end PictureTransfer
