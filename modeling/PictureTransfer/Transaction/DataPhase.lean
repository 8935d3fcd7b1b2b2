import PictureTransfer.Packet.Body

/-!
# The data phase of a transaction

A responder sends data either in one piece or behind an announcement of its
length: the announcement, pieces, and a last piece.  `DataPhase` puts the
pieces of one transaction together in the order of their arrival.  Taking a
packet in is a step on the phase at hand, which is changed in place.

* `step_ok_iff` — what a step takes in, and what the phase is then (`Accepts`);
* `step_error_iff` — what it refuses, and for which rule (`Refuses`); the phase
  is then as it was, so a packet that is refused leaves no trace;
* `accept_ok_iff` — the same of `accept`, which gives the phase behind a step;
* `accept_data` — an accepted packet adds just its own bytes;
* `accept_finished` — an accepted packet ends the phase iff it is the last
  piece or the phase was over already.
-/

namespace PictureTransfer

/-- The packets that make up a data phase. -/
inductive DataPacket where
  | start (announcement : StartData)
  | piece (chunk : DataChunk)
  | last (chunk : DataChunk)
  deriving DecidableEq, Repr

/-- The transaction that a packet belongs to. -/
def DataPacket.transactionId : DataPacket → UInt32
  | start a => a.transactionId
  | piece c => c.transactionId
  | last c => c.transactionId

/-- The data that a packet brings. -/
def DataPacket.bytes : DataPacket → Bytes
  | start _ => []
  | piece c => c.chunk
  | last c => c.chunk

/-- The kind of packet that brings it. -/
def DataPacket.kind : DataPacket → PacketKind
  | start _ => .startData
  | piece _ => .data
  | last _ => .endData

/-- True of the announcement of a length. -/
def DataPacket.isStart : DataPacket → Bool
  | start _ => true
  | piece _ | last _ => false

/-- True of a last piece. -/
def DataPacket.isLast : DataPacket → Bool
  | last _ => true
  | start _ | piece _ => false

theorem DataPacket.bytes_of_isStart {packet : DataPacket} (h : packet.isStart = true) :
    packet.bytes = [] := by
  cases packet with
  | start a => rfl
  | piece c => simp [isStart] at h
  | last c => simp [isStart] at h

/-- What has come of the data of one transaction. -/
structure DataPhase where
  transactionId : UInt32
  /-- The length announced, if any was and the responder knew it. -/
  announced : Option UInt64 := none
  started : Bool := false
  finished : Bool := false
  data : Bytes := []
  deriving DecidableEq, Repr

namespace DataPhase

/-- The length that stands for a length not known in advance. -/
def unknownLength : UInt64 := 0xFFFFFFFFFFFFFFFF

/-- One step on the phase at hand, which keeps what a step that fails has made of it. -/
abbrev Step := EStateM Violation DataPhase Unit

/-- Refuses a packet of another transaction. -/
def check (transactionId : UInt32) : Step := do
  let phase ← get
  if transactionId ≠ phase.transactionId then
    throw (.transactionMismatch phase.transactionId transactionId)

/-- Begins with an announcement, which no data may precede. -/
def begin (total : UInt64) : Step := do
  let phase ← get
  if phase.started || !phase.data.isEmpty then
    throw .dataStarted
  modify ({ · with started := true })
  if total ≠ unknownLength then
    modify ({ · with announced := some total })

/-- Adds a piece, which must not go past the length announced. -/
def append (kind : PacketKind) (chunk : Bytes) (isLast : Bool) : Step := do
  let phase ← get
  if phase.finished then
    throw (.dataEnded kind)
  let received := phase.data.length + chunk.length
  if let some total := phase.announced then
    if total.toNat < received then
      throw (.dataOverrun total received)
  modify ({ · with data := phase.data ++ chunk })
  if isLast then
    modify ({ · with finished := true })

/-- Takes one packet in, or says what rule it breaks. -/
def step (packet : DataPacket) : Step := do
  check packet.transactionId
  match packet with
  | .start a => begin a.totalLength
  | .piece c => append .data c.chunk false
  | .last c => append .endData c.chunk true

/-- The phase behind a packet, unless the packet is refused. -/
def accept (phase : DataPhase) (packet : DataPacket) : Except Violation DataPhase :=
  match step packet phase with
  | .ok () next => .ok next
  | .error violation _ => .error violation

variable {phase next left : DataPhase} {packet : DataPacket} {violation : Violation}

/-- A step that looks at the phase first. -/
theorem get_bind (next : DataPhase → Step) :
    (get >>= next : Step) phase = next phase phase := rfl

theorem check_of_eq {id : UInt32} (h : id = phase.transactionId) :
    check id phase = .ok () phase := by
  subst h
  simp only [check, get_bind, ne_eq, not_true_eq_false, if_false]
  rfl

theorem check_of_ne {id : UInt32} (h : id ≠ phase.transactionId) :
    check id phase = .error (.transactionMismatch phase.transactionId id) phase := by
  simp only [check, get_bind, if_pos h]
  rfl

/-- The phase behind an announcement. -/
theorem begin_fresh {total : UInt64} (hstarted : phase.started = false) (hdata : phase.data = []) :
    begin total phase = .ok () { phase with
      started := true
      announced := if total = unknownLength then phase.announced else some total } := by
  obtain ⟨id, announced, started, finished, data⟩ := phase
  obtain rfl : started = false := hstarted
  obtain rfl : data = [] := hdata
  by_cases hknown : total = unknownLength
  · subst hknown
    rfl
  · simp only [begin, get_bind, ne_eq, hknown, not_false_eq_true, if_true]
    rfl

theorem begin_underway {total : UInt64} (h : phase.started = true ∨ phase.data ≠ []) :
    begin total phase = .error .dataStarted phase := by
  have hunderway : (phase.started || !phase.data.isEmpty) = true := by simpa using h
  simp only [begin, get_bind, if_pos hunderway]
  rfl

section Append

variable {kind : PacketKind} {chunk : Bytes} {isLast : Bool}

/-- The phase behind a piece. -/
theorem append_open (hopen : phase.finished = false)
    (hroom : ∀ total ∈ phase.announced, phase.data.length + chunk.length ≤ total.toNat) :
    append kind chunk isLast phase =
      .ok () { phase with data := phase.data ++ chunk, finished := isLast } := by
  obtain ⟨id, announced, started, finished, data⟩ := phase
  obtain rfl : finished = false := hopen
  cases announced with
  | none => cases isLast <;> rfl
  | some total =>
      have hfits : ¬ total.toNat < data.length + chunk.length := Nat.not_lt.mpr (hroom total rfl)
      simp only [append, get_bind,
        Bool.false_eq_true, if_false, if_neg hfits]
      cases isLast <;> rfl

theorem append_ended (h : phase.finished = true) :
    append kind chunk isLast phase = .error (.dataEnded kind) phase := by
  simp only [append, get_bind, if_pos h]
  rfl

theorem append_overrun {total : UInt64} (hopen : phase.finished = false)
    (hannounced : phase.announced = some total)
    (hover : total.toNat < phase.data.length + chunk.length) :
    append kind chunk isLast phase =
      .error (.dataOverrun total (phase.data.length + chunk.length)) phase := by
  simp only [append, get_bind, hopen,
    hannounced, Bool.false_eq_true, if_false, if_pos hover]
  rfl

end Append

/-- The packets that a phase accepts, and the phase behind each. -/
inductive Accepts (phase : DataPhase) : DataPacket → DataPhase → Prop
  | start {a : StartData} (htransaction : a.transactionId = phase.transactionId)
      (hstarted : phase.started = false) (hdata : phase.data = []) :
      Accepts phase (.start a) { phase with
        started := true
        announced := if a.totalLength = unknownLength then phase.announced
          else some a.totalLength }
  | piece {c : DataChunk} (htransaction : c.transactionId = phase.transactionId)
      (hopen : phase.finished = false)
      (hroom : ∀ total ∈ phase.announced, phase.data.length + c.chunk.length ≤ total.toNat) :
      Accepts phase (.piece c) { phase with data := phase.data ++ c.chunk, finished := false }
  | last {c : DataChunk} (htransaction : c.transactionId = phase.transactionId)
      (hopen : phase.finished = false)
      (hroom : ∀ total ∈ phase.announced, phase.data.length + c.chunk.length ≤ total.toNat) :
      Accepts phase (.last c) { phase with data := phase.data ++ c.chunk, finished := true }

/-- The packets that a phase refuses, and the rule that each breaks. -/
inductive Refuses (phase : DataPhase) : DataPacket → Violation → Prop
  | foreign {packet : DataPacket} (htransaction : packet.transactionId ≠ phase.transactionId) :
      Refuses phase packet (.transactionMismatch phase.transactionId packet.transactionId)
  | underway {a : StartData} (htransaction : a.transactionId = phase.transactionId)
      (hunderway : phase.started = true ∨ phase.data ≠ []) : Refuses phase (.start a) .dataStarted
  | ended {packet : DataPacket} (htransaction : packet.transactionId = phase.transactionId)
      (hpacket : packet.isStart = false) (hended : phase.finished = true) :
      Refuses phase packet (.dataEnded packet.kind)
  | overrun {packet : DataPacket} {total : UInt64}
      (htransaction : packet.transactionId = phase.transactionId)
      (hpacket : packet.isStart = false) (hopen : phase.finished = false)
      (hannounced : phase.announced = some total)
      (hover : total.toNat < phase.data.length + packet.bytes.length) :
      Refuses phase packet (.dataOverrun total (phase.data.length + packet.bytes.length))

/-- A packet of the transaction passes the first check. -/
theorem step_of_eq (h : packet.transactionId = phase.transactionId) :
    step packet phase =
      (match packet with
      | .start a => begin a.totalLength
      | .piece c => append .data c.chunk false
      | .last c => append .endData c.chunk true) phase := by
  simp only [step, bind, EStateM.bind, check_of_eq h]

theorem step_of_accepts (h : phase.Accepts packet next) : step packet phase = .ok () next := by
  cases h with
  | start htransaction hstarted hdata =>
      refine (step_of_eq ?_).trans (begin_fresh hstarted hdata)
      exact htransaction
  | piece htransaction hopen hroom =>
      refine (step_of_eq ?_).trans (append_open hopen hroom)
      exact htransaction
  | last htransaction hopen hroom =>
      refine (step_of_eq ?_).trans (append_open hopen hroom)
      exact htransaction

theorem step_of_refuses (h : phase.Refuses packet violation) :
    step packet phase = .error violation phase := by
  cases h with
  | foreign htransaction => simp only [step, bind, EStateM.bind, check_of_ne htransaction]
  | underway htransaction hunderway =>
      refine (step_of_eq ?_).trans (begin_underway hunderway)
      exact htransaction
  | ended htransaction hpacket hended =>
      rw [step_of_eq htransaction]
      cases packet with
      | start a => simp [DataPacket.isStart] at hpacket
      | piece c => exact append_ended hended
      | last c => exact append_ended hended
  | overrun htransaction hpacket hopen hannounced hover =>
      rw [step_of_eq htransaction]
      cases packet with
      | start a => simp [DataPacket.isStart] at hpacket
      | piece c => exact append_overrun hopen hannounced hover
      | last c => exact append_overrun hopen hannounced hover

/-- There is room for a piece, last or not, or it is refused. -/
theorem room_or_refuses (htransaction : packet.transactionId = phase.transactionId)
    (hpacket : packet.isStart = false) :
    (phase.finished = false ∧
      ∀ total ∈ phase.announced, phase.data.length + packet.bytes.length ≤ total.toNat) ∨
      ∃ violation, phase.Refuses packet violation := by
  cases hfinished : phase.finished with
  | true => exact .inr ⟨_, .ended htransaction hpacket hfinished⟩
  | false =>
      cases hannounced : phase.announced with
      | none => exact .inl ⟨rfl, by simp⟩
      | some total =>
          by_cases hover : total.toNat < phase.data.length + packet.bytes.length
          · exact .inr ⟨_, .overrun htransaction hpacket hfinished hannounced hover⟩
          · left
            refine ⟨rfl, fun announced hsame => ?_⟩
            obtain rfl := Option.some.inj hsame
            exact Nat.le_of_not_lt hover

/-- **Every packet is accepted or refused.** -/
theorem accepts_or_refuses (phase : DataPhase) (packet : DataPacket) :
    (∃ next, phase.Accepts packet next) ∨ ∃ violation, phase.Refuses packet violation := by
  by_cases htransaction : packet.transactionId = phase.transactionId
  · cases packet with
    | start a =>
        by_cases hunderway : phase.started = true ∨ phase.data ≠ []
        · exact .inr ⟨_, .underway htransaction hunderway⟩
        · obtain ⟨hstarted, hdata⟩ : phase.started = false ∧ phase.data = [] := by
            simpa using hunderway
          exact .inl ⟨_, .start htransaction hstarted hdata⟩
    | piece c =>
        rcases room_or_refuses htransaction rfl with ⟨hopen, hroom⟩ | hrefuses
        · exact .inl ⟨_, .piece htransaction hopen hroom⟩
        · exact .inr hrefuses
    | last c =>
        rcases room_or_refuses htransaction rfl with ⟨hopen, hroom⟩ | hrefuses
        · exact .inl ⟨_, .last htransaction hopen hroom⟩
        · exact .inr hrefuses
  · exact .inr ⟨_, .foreign htransaction⟩

/-- **What a step takes in**, and the phase behind it. -/
theorem step_ok_iff : step packet phase = .ok () next ↔ phase.Accepts packet next := by
  refine ⟨fun h => ?_, step_of_accepts⟩
  rcases accepts_or_refuses phase packet with ⟨found, haccepts⟩ | ⟨violation, hrefuses⟩
  · rw [step_of_accepts haccepts] at h
    obtain ⟨-, rfl⟩ := EStateM.Result.ok.inj h
    exact haccepts
  · simp [step_of_refuses hrefuses] at h

/-- **What a step refuses**, and for which rule.  The phase is then as it was. -/
theorem step_error_iff :
    step packet phase = .error violation left ↔ left = phase ∧ phase.Refuses packet violation := by
  constructor
  · intro h
    rcases accepts_or_refuses phase packet with ⟨next, haccepts⟩ | ⟨found, hrefuses⟩
    · simp [step_of_accepts haccepts] at h
    · rw [step_of_refuses hrefuses] at h
      obtain ⟨rfl, rfl⟩ := EStateM.Result.error.inj h
      exact ⟨rfl, hrefuses⟩
  · intro h
    obtain ⟨rfl, hrefuses⟩ := h
    exact step_of_refuses hrefuses

theorem accept_ok_iff : phase.accept packet = .ok next ↔ phase.Accepts packet next := by
  unfold accept
  constructor
  · intro h
    split at h
    · next hstep =>
      obtain rfl := Except.ok.inj h
      exact step_ok_iff.mp hstep
    · simp at h
  · intro h
    rw [step_of_accepts h]

theorem accept_error_iff :
    phase.accept packet = .error violation ↔ phase.Refuses packet violation := by
  unfold accept
  constructor
  · intro h
    split at h
    · simp at h
    · next hstep =>
      obtain rfl := Except.error.inj h
      exact (step_error_iff.mp hstep).2
  · intro h
    rw [step_of_refuses h]

/-- An accepted packet adds just its own bytes. -/
theorem accept_data (h : phase.accept packet = .ok next) :
    next.data = phase.data ++ packet.bytes := by
  cases accept_ok_iff.mp h with
  | start => simp [DataPacket.bytes]
  | piece => rfl
  | last => rfl

theorem accept_transactionId (h : phase.accept packet = .ok next) :
    next.transactionId = phase.transactionId := by
  cases accept_ok_iff.mp h <;> rfl

/-- A phase that was announced stays so. -/
theorem accept_started (h : phase.accept packet = .ok next) :
    next.started = (phase.started || packet.isStart) := by
  cases accept_ok_iff.mp h <;> simp [DataPacket.isStart]

/-- The last piece ends the phase, and nothing reopens it. -/
theorem accept_finished (h : phase.accept packet = .ok next) :
    next.finished = (phase.finished || packet.isLast) := by
  cases accept_ok_iff.mp h with
  | start => simp [DataPacket.isLast]
  | piece _ hopen => simp [DataPacket.isLast, hopen]
  | last _ hopen => simp [DataPacket.isLast]

end DataPhase

end PictureTransfer
