import PictureTransfer.Error

/-!
# Packets

A packet is a header of eight bytes, its own length and the number of its
kind, and a payload.  The length counts the header.

    +----------------+----------------+----------------- -
    | length (4)     | kind (4)       | payload (length - 8)
    +----------------+----------------+----------------- -

`read` takes the whole packet off the source before it looks at the kind, so
an unknown kind leaves the source at the next packet.  `isComplete` tells
whether `read` would find all it needs.
-/

namespace PictureTransfer

/-- A packet: what it is and what it carries. -/
structure Packet where
  kind : PacketKind
  payload : Bytes
  deriving DecidableEq, Repr

namespace Packet

/-- The length of a header. -/
def headerLength : Nat := 8

/-- The count of bytes that a packet takes on the wire. -/
def wireLength (p : Packet) : Nat := headerLength + p.payload.length

/-- True of a packet whose length fits the length field of its header. -/
def Fits (p : Packet) : Prop := p.wireLength < UInt32.size

instance (p : Packet) : Decidable p.Fits := inferInstanceAs (Decidable (_ < _))

/-- The header of a packet, as packets have it whose length fits. -/
def header (p : Packet) : Bytes :=
  LittleEndian.encode 4 p.wireLength ++ LittleEndian.encode 4 p.kind.code

/-- The bytes of a packet. -/
def toBytes (p : Packet) : Bytes := p.header ++ p.payload

/-- The kind of a packet and the length of its payload. -/
def shown (p : Packet) : String :=
  "Packet \x7b type: " ++ p.kind.name ++ ", payload_len: " ++
    toString p.payload.length ++ " \x7d"

@[simp] theorem length_header (p : Packet) : p.header.length = headerLength := by
  simp [header, headerLength]

@[simp] theorem length_toBytes (p : Packet) : p.toBytes.length = p.wireLength := by
  simp [toBytes, wireLength]

/-- The eight bytes of a header.  A connection that reports a premature end
has ended. -/
def readHeader : EStateM Error Source Bytes := fun s =>
  let got := s.gather headerLength
  match got.fault with
  | some fault =>
      if fault.kind = .unexpectedEnd then
        .error (.wire (.endOfStream "packet header")) got.source
      else .error (.link (.io fault)) got.source
  | none =>
      if got.bytes.length = headerLength then .ok got.bytes got.source
      else .error (.wire (.endOfStream "packet header")) got.source

/-- A payload of the given length.  Every failure here is the
connection's. -/
def readPayload (length : Nat) : EStateM Error Source Bytes := fun s =>
  let got := s.gather length
  match got.fault with
  | some fault => .error (.link (.io fault)) got.source
  | none =>
      if got.bytes.length = length then .ok got.bytes got.source
      else .error (.wire (.endOfStream "packet payload")) got.source

/-- The length that the header at the start of a byte string announces. -/
def announced (queued : Bytes) : Nat := LittleEndian.decode (queued.take 4)

/-- The kind number in the header at the start of a byte string. -/
def announcedKind (queued : Bytes) : Nat := LittleEndian.decode ((queued.take 8).drop 4)

/-- Reads one packet off a source. -/
def read : EStateM Error Source Packet := fun s =>
  match readHeader s with
  | .error e s' => .error e s'
  | .ok head s' =>
      if announced head < headerLength then
        .error (.violation (.invalidLength (announced head))) s'
      else
        match readPayload (announced head - headerLength) s' with
        | .error e s'' => .error e s''
        | .ok payload s'' =>
            match PacketKind.ofCode? (announcedKind head) with
            | some kind => .ok ⟨kind, payload⟩ s''
            | none => .error (.violation (.unknownKind (announcedKind head))) s''

/-- True when the queued bytes settle what `read` returns: a whole packet, or
a header that no packet has. -/
def isComplete (queued : Bytes) : Bool :=
  headerLength ≤ queued.length &&
    (announced queued < headerLength || announced queued ≤ queued.length)

/-- The error of a header that the source does not hold in full. -/
def headerShortfall (s : Source) : Error :=
  match s.pending with
  | some fault =>
      if fault.kind = .unexpectedEnd then .wire (.endOfStream "packet header")
      else .link (.io fault)
  | none => .wire (.endOfStream "packet header")

/-- The error of a payload that the source does not hold in full. -/
def payloadShortfall (s : Source) : Error :=
  match s.pending with
  | some fault => .link (.io fault)
  | none => .wire (.endOfStream "packet payload")

/-- A source without the first `n` of its queued bytes. -/
def past (n : Nat) (s : Source) : Source := { s with queued := s.queued.drop n }

/-- A source that has been read to its end. -/
def exhausted (s : Source) : Source := { s with queued := [], fault := none }

theorem readHeader_eq (s : Source) :
    readHeader s =
      if 8 ≤ s.queued.length then .ok (s.queued.take 8) (past 8 s)
      else .error (headerShortfall s) (exhausted s) := by
  by_cases h : 8 ≤ s.queued.length
  · simp [readHeader, headerLength, Source.gather_eq, h, past]
  · have hlen : ¬ s.queued.length = 8 := by omega
    rw [readHeader, headerLength, Source.gather_eq, if_neg h, if_neg h]
    cases hp : s.pending with
    | none => simp [headerShortfall, hp, hlen, exhausted]
    | some fault =>
        by_cases hk : fault.kind = .unexpectedEnd <;>
          simp [headerShortfall, hp, hk, exhausted]

theorem readPayload_eq (length : Nat) (s : Source) :
    readPayload length s =
      if length ≤ s.queued.length then .ok (s.queued.take length) (past length s)
      else .error (payloadShortfall s) (exhausted s) := by
  by_cases h : length ≤ s.queued.length
  · simp [readPayload, Source.gather_eq, h, past]
  · have hlen : ¬ s.queued.length = length := by omega
    rw [readPayload, Source.gather_eq, if_neg h, if_neg h]
    cases hp : s.pending with
    | none => simp [payloadShortfall, hp, hlen, exhausted]
    | some fault => simp [payloadShortfall, hp, exhausted]

/-- **Reading a packet in full.**  Eight bytes settle the length; a length
that no packet has costs those eight, a packet that is not all there costs
everything there is, and any other costs just its length, known kind or not. -/
theorem read_eq (s : Source) :
    read s =
      if s.queued.length < 8 then .error (headerShortfall s) (exhausted s)
      else if announced s.queued < 8 then
        .error (.violation (.invalidLength (announced s.queued))) (past 8 s)
      else if s.queued.length < announced s.queued then
        .error (payloadShortfall s) (exhausted s)
      else
        match PacketKind.ofCode? (announcedKind s.queued) with
        | some kind =>
            .ok ⟨kind, (s.queued.drop 8).take (announced s.queued - 8)⟩
              (past (announced s.queued) s)
        | none =>
            .error (.violation (.unknownKind (announcedKind s.queued)))
              (past (announced s.queued) s) := by
  have hlength : announced (s.queued.take 8) = announced s.queued := by
    simp [announced, List.take_take]
  have hkind : announcedKind (s.queued.take 8) = announcedKind s.queued := by
    simp [announcedKind, List.take_take]
  simp only [read, readHeader_eq, headerLength]
  by_cases h8 : s.queued.length < 8
  · rw [if_neg (by omega), if_pos h8]
  rw [if_pos (by omega), if_neg h8]
  simp only [hlength, hkind, readPayload_eq]
  generalize announced s.queued = length
  by_cases hl : length < 8
  · simp [hl]
  rw [if_neg hl, if_neg hl]
  have hfits : length - 8 ≤ (past 8 s).queued.length ↔ ¬ s.queued.length < length := by
    simp only [past, List.length_drop]
    omega
  by_cases hs : s.queued.length < length
  · rw [if_pos hs, if_neg (by simpa [hfits] using hs)]
    rfl
  · have hpast : past (length - 8) (past 8 s) = past length s := by
      have hadd : 8 + (length - 8) = length := by omega
      simp only [past, List.drop_drop, hadd]
    rw [if_neg hs, if_pos (hfits.mpr hs), hpast]
    split <;> simp_all [past]

/-- A packet that was read took at least its header off the source. -/
theorem read_ok_shortens {s s' : Source} {p : Packet} (h : read s = .ok p s') :
    s'.queued.length + 8 ≤ s.queued.length := by
  rw [read_eq] at h
  split at h
  · simp at h
  split at h
  · simp at h
  split at h
  · simp at h
  split at h
  · simp only [EStateM.Result.ok.injEq] at h
    rw [← h.2]
    simp only [past, List.length_drop]
    omega
  · simp at h

/-- An error that leaves the connection usable took at least a header too. -/
theorem read_error_shortens {s s' : Source} {e : Error} (h : read s = .error e s')
    (he : e.isFatal = false) : s'.queued.length + 8 ≤ s.queued.length := by
  rw [read_eq] at h
  split at h
  · simp only [EStateM.Result.error.injEq] at h
    rw [← h.1] at he
    revert he
    unfold headerShortfall
    split
    · split <;> simp [Error.isFatal, WireError.isFatal]
    · simp [Error.isFatal, WireError.isFatal]
  split at h
  · simp only [EStateM.Result.error.injEq] at h
    rw [← h.1] at he
    simp [Error.isFatal, Violation.breaksFraming] at he
  split at h
  · simp only [EStateM.Result.error.injEq] at h
    rw [← h.1] at he
    revert he
    unfold payloadShortfall
    split <;> simp [Error.isFatal, WireError.isFatal]
  split at h
  · simp at h
  · simp only [EStateM.Result.error.injEq] at h
    rw [← h.2]
    simp only [past, List.length_drop]
    omega

/-- Reads packets until nothing is queued or an error says that no further
packet can come.  Each outcome stands with the count of bytes left after it. -/
def readAll (s : Source) : List (Except Error Packet × Nat) :=
  match _h : read s with
  | .ok p s' =>
      (.ok p, s'.left) :: if s'.queued.isEmpty then [] else readAll s'
  | .error e s' =>
      if _he : e.isFatal = false then
        (.error e, s'.left) :: if s'.queued.isEmpty then [] else readAll s'
      else [(.error e, s'.left)]
termination_by s.queued.length
decreasing_by
  · have := read_ok_shortens _h
    omega
  · have := read_error_shortens _h _he
    omega

end Packet

end PictureTransfer
