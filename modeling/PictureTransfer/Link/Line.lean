import PictureTransfer.Link.Pipe
import PictureTransfer.Packet.Body

/-!
# Lines

A line is the initiator's end of a connection to a responder: what the
responder has sent and is not yet read, and what the initiator has written.
Either side can shut it down; what was sent before can still be read, but
nothing more can be written.  Transfers may fail once when told to, a write
also behind some that pass.

A packet is written in two pieces, its header and its payload.

* `send_ok`, `send_error` — a packet that was sent is written whole, one that
  was not is written in part at most;
* `send_clear` — a clear line takes every packet that fits;
* `receive_shortens` — a packet that is read takes at least a header;
* `feed_queued` — what the responder sends stands behind what it sent before.
-/

namespace PictureTransfer

/-- A failure that a write is going to meet, and the count of writes that pass
before it. -/
structure WriteFault where
  fault : Fault
  spared : Nat := 0
  deriving DecidableEq, Repr

/-- What is to come of a failure after one more write. -/
def WriteFault.next : WriteFault → Option WriteFault
  | ⟨_, 0⟩ => none
  | ⟨fault, spared + 1⟩ => some ⟨fault, spared⟩

/-- The initiator's end of a connection. -/
structure Line where
  /-- What is still to be read. -/
  incoming : Source := .ofBytes []
  /-- Everything written so far. -/
  sent : Bytes := []
  closed : Bool := false
  /-- The failure that a write meets. -/
  writeFault : Option WriteFault := none
  /-- The failure of asking for a second handle. -/
  cloneFault : Option Fault := none
  deriving DecidableEq, Repr

/-- What the responder's side does to a line as one action: it sends bytes,
has a later transfer of the initiator fail, and shuts the line down. -/
structure Feed where
  bytes : Bytes := []
  readFault : Option Fault := none
  writeFault : Option WriteFault := none
  cloneFault : Option Fault := none
  shutdown : Bool := false
  deriving DecidableEq, Repr

namespace Line

/-- A line on which nothing has happened. -/
def fresh : Line := {}

/-- The line that can be read to its end and no further written. -/
def shut (line : Line) : Line := { line with closed := true }

/-- The failure of the responder's bytes, which a closed line does not take. -/
def feedFault (feed : Feed) (line : Line) : Option Fault :=
  if line.closed && !feed.bytes.isEmpty then some Pipe.broken else none

/-- The line after an action of the responder's side. -/
def feed (feed : Feed) (line : Line) : Line where
  incoming := { line.incoming with
    queued := if line.closed then line.incoming.queued else line.incoming.queued ++ feed.bytes
    fault := feed.readFault.or line.incoming.fault }
  sent := line.sent
  closed := line.closed || feed.shutdown
  writeFault := feed.writeFault.or line.writeFault
  cloneFault := feed.cloneFault.or line.cloneFault

/-- The failure that the next write meets.  An interrupted transfer is tried
again. -/
def writeRefusal (line : Line) : Option Fault :=
  match line.writeFault with
  | some ⟨fault, 0⟩ =>
      if fault.kind ≠ .interrupted then some fault
      else if line.closed then some Pipe.broken else none
  | _ => if line.closed then some Pipe.broken else none

/-- Writes bytes.  Writing none touches nothing. -/
def write (bytes : Bytes) : EStateM Fault Line Unit := fun line =>
  if bytes.isEmpty then .ok () line
  else
    let tried := { line with writeFault := line.writeFault.bind WriteFault.next }
    match line.writeRefusal with
    | some fault => .error fault tried
    | none => .ok () { tried with sent := line.sent ++ bytes }

/-- Writes a packet, the header first.  A packet whose length does not fit its
header is not begun. -/
def send (p : Packet) : EStateM Error Line Unit := fun line =>
  if p.Fits then
    match write p.header line with
    | .error fault line => .error (.link (.io fault)) line
    | .ok () line =>
        match write p.payload line with
        | .error fault line => .error (.link (.io fault)) line
        | .ok () line => .ok () line
  else .error (.violation (.packetTooLarge p.wireLength)) line

/-- Reads a packet. -/
def receive : EStateM Error Line Packet := fun line =>
  match Packet.read line.incoming with
  | .ok p source => .ok p { line with incoming := source }
  | .error e source => .error e { line with incoming := source }

/-- The next of the connections that are waiting to be handed out. -/
def next : List Line → Except LinkError (Line × List Line)
  | [] => .error (.connect Duplex.peer "no mock stream queued")
  | line :: waiting => .ok (line, waiting)

/-- The second line is the first with some bytes more written. -/
structure Wrote (bytes : Bytes) (line line' : Line) : Prop where
  sent : line'.sent = line.sent ++ bytes
  incoming : line'.incoming = line.incoming
  closed : line'.closed = line.closed
  cloneFault : line'.cloneFault = line.cloneFault

theorem Wrote.append {bytes more : Bytes} {line middle line' : Line}
    (h : Wrote bytes line middle) (hmore : Wrote more middle line') :
    Wrote (bytes ++ more) line line' where
  sent := by rw [hmore.sent, h.sent, List.append_assoc]
  incoming := hmore.incoming.trans h.incoming
  closed := hmore.closed.trans h.closed
  cloneFault := hmore.cloneFault.trans h.cloneFault

theorem writeRefusal_of_closed {line : Line} (h : line.closed = true) :
    line.writeRefusal.isSome := by
  unfold writeRefusal
  split
  · split <;> simp
  · simp [h]

theorem write_ok {bytes : Bytes} {line line' : Line} (h : write bytes line = .ok () line') :
    Wrote bytes line line' ∧ (bytes ≠ [] → line.closed = false) := by
  unfold write at h
  by_cases hb : bytes = []
  · subst hb
    simp only [List.isEmpty_nil, if_true, EStateM.Result.ok.injEq, true_and] at h
    subst h
    exact ⟨⟨by simp, rfl, rfl, rfl⟩, fun hne => absurd rfl hne⟩
  · have hne : bytes.isEmpty = false := by simpa using hb
    simp only [hne, Bool.false_eq_true, if_false] at h
    cases hr : line.writeRefusal with
    | some fault => simp [hr] at h
    | none =>
        simp only [hr, EStateM.Result.ok.injEq, true_and] at h
        subst h
        refine ⟨⟨rfl, rfl, rfl, rfl⟩, fun _ => ?_⟩
        cases hc : line.closed with
        | false => rfl
        | true => simpa [hr] using writeRefusal_of_closed hc

theorem write_error {bytes : Bytes} {line line' : Line} {fault : Fault}
    (h : write bytes line = .error fault line') : Wrote [] line line' := by
  unfold write at h
  split at h
  · simp at h
  · cases hr : line.writeRefusal with
    | none => simp [hr] at h
    | some fault =>
        simp only [hr, EStateM.Result.error.injEq] at h
        rw [← h.2]
        exact ⟨by simp, rfl, rfl, rfl⟩

/-- **A packet that was sent.**  It fits its header, and all of it was written
on an open line. -/
theorem send_ok {p : Packet} {line line' : Line} (h : send p line = .ok () line') :
    p.Fits ∧ line.closed = false ∧ Wrote p.toBytes line line' := by
  unfold send at h
  by_cases hfits : p.Fits
  · rw [if_pos hfits] at h
    cases hhead : write p.header line with
    | error fault middle => simp [hhead] at h
    | ok _ middle =>
        cases hbody : write p.payload middle with
        | error fault last => simp [hhead, hbody] at h
        | ok _ last =>
            simp only [hhead, hbody, EStateM.Result.ok.injEq, true_and] at h
            subst h
            have hne : p.header ≠ [] := by
              intro hnil
              have := p.length_header
              simp [hnil, Packet.headerLength] at this
            exact ⟨hfits, (write_ok hhead).2 hne, (write_ok hhead).1.append (write_ok hbody).1⟩
  · simp [hfits] at h

/-- **A packet that was not sent.**  The connection failed and a front part of
the packet was written, or the packet does not fit its header and none was. -/
theorem send_error {p : Packet} {line line' : Line} {e : Error}
    (h : send p line = .error e line') :
    ((∃ fault, e = .link (.io fault)) ∨ e = .violation (.packetTooLarge p.wireLength)) ∧
      ∃ part, part <+: p.toBytes ∧ Wrote part line line' := by
  unfold send at h
  by_cases hfits : p.Fits
  · rw [if_pos hfits] at h
    cases hhead : write p.header line with
    | error fault middle =>
        simp only [hhead, EStateM.Result.error.injEq] at h
        obtain ⟨rfl, rfl⟩ := h
        exact ⟨.inl ⟨fault, rfl⟩, [], List.nil_prefix, write_error hhead⟩
    | ok _ middle =>
        cases hbody : write p.payload middle with
        | ok _ last => simp [hhead, hbody] at h
        | error fault last =>
            simp only [hhead, hbody, EStateM.Result.error.injEq] at h
            obtain ⟨rfl, rfl⟩ := h
            have hwrote := (write_ok hhead).1.append (write_error hbody)
            rw [List.append_nil] at hwrote
            exact ⟨.inl ⟨fault, rfl⟩, p.header, List.prefix_append .., hwrote⟩
  · simp only [if_neg hfits, EStateM.Result.error.injEq] at h
    obtain ⟨rfl, rfl⟩ := h
    exact ⟨.inr rfl, [], List.nil_prefix, by simp, rfl, rfl, rfl⟩

/-- A line that takes whatever is written. -/
def Clear (line : Line) : Prop := line.writeFault = none ∧ line.closed = false

theorem write_clear {line : Line} (h : line.Clear) (bytes : Bytes) :
    write bytes line = .ok () { line with sent := line.sent ++ bytes } := by
  obtain ⟨hfault, hopen⟩ := h
  unfold write
  cases bytes with
  | nil => simp
  | cons b bs =>
      have hr : line.writeRefusal = none := by simp [writeRefusal, hfault, hopen]
      simp [hr, hfault]

/-- **Sending on a clear line.**  Every packet that fits is written whole. -/
theorem send_clear {line : Line} (h : line.Clear) {p : Packet} (hfits : p.Fits) :
    send p line = .ok () { line with sent := line.sent ++ p.toBytes } := by
  have hmiddle : Clear { line with sent := line.sent ++ p.header } := h
  simp [send, hfits, write_clear h, write_clear hmiddle, Packet.toBytes]

/-- A packet that was read took at least its header off the line. -/
theorem receive_shortens {line line' : Line} {p : Packet} (h : receive line = .ok p line') :
    line'.incoming.queued.length + 8 ≤ line.incoming.queued.length := by
  unfold receive at h
  split at h
  · rename_i hread
    simp only [EStateM.Result.ok.injEq] at h
    rw [← h.2]
    exact Packet.read_ok_shortens hread
  · simp at h

/-- So did an error that leaves the line usable. -/
theorem receive_error_shortens {line line' : Line} {e : Error}
    (h : receive line = .error e line') (he : e.isFatal = false) :
    line'.incoming.queued.length + 8 ≤ line.incoming.queued.length := by
  unfold receive at h
  split at h
  · simp at h
  · rename_i hread
    simp only [EStateM.Result.error.injEq] at h
    rw [← h.2]
    exact Packet.read_error_shortens (h.1 ▸ hread) he

theorem feed_queued {line : Line} (h : line.closed = false) (f : Feed) :
    (line.feed f).incoming.queued = line.incoming.queued ++ f.bytes := by
  simp [feed, h]

end Line

end PictureTransfer
