import PictureTransfer.Wire.Error

/-!
# Decoders

A decoder reads a value off a source or says why it cannot; either way it
leaves what it did not use.  The one that all others are made of reads a fixed
count of bytes:

* `exactly_eq` — it succeeds iff the bytes are there, and then takes just
  those; otherwise it takes every byte there is.
-/

namespace PictureTransfer

/-- Reads a value off a source, or says why it cannot. -/
abbrev Decoder := EStateM WireError Source

namespace Decoder

/-- The next `n` bytes of the source. -/
def exactly (n : Nat) (what : String) : Decoder Bytes := fun s =>
  let got := s.gather n
  match got.fault with
  | some fault => .error (.ofFault what fault) got.source
  | none =>
      if got.bytes.length = n then .ok got.bytes got.source
      else .error (.endOfStream what) got.source

/-- The error of a fixed-size read that runs past the queued bytes. -/
def shortfall (what : String) (s : Source) : WireError :=
  match s.pending with
  | some fault => .ofFault what fault
  | none => .endOfStream what

/-- **A fixed-size read in full.**  It takes what it asks for if that is there,
and everything there is if not. -/
theorem exactly_eq (n : Nat) (what : String) (s : Source) :
    exactly n what s =
      if n ≤ s.queued.length then
        .ok (s.queued.take n) { s with queued := s.queued.drop n }
      else .error (shortfall what s) { s with queued := [], fault := none } := by
  by_cases h : n ≤ s.queued.length
  · simp [exactly, Source.gather_eq, h]
  · rw [exactly, Source.gather_eq, if_neg h, if_neg h]
    cases hp : s.pending with
    | none =>
        have hlen : ¬ s.queued.length = n := by omega
        simp [shortfall, hp, hlen]
    | some fault => simp [shortfall, hp]

/-- The number in the next `width` bytes. -/
def natural (width : Nat) (what : String) : Decoder Nat := do
  return LittleEndian.decode (← exactly width what)

theorem natural_eq (width : Nat) (what : String) (s : Source) :
    natural width what s =
      if width ≤ s.queued.length then
        .ok (LittleEndian.decode (s.queued.take width))
          { s with queued := s.queued.drop width }
      else .error (shortfall what s) { s with queued := [], fault := none } := by
  simp only [natural, bind, EStateM.bind, exactly_eq]
  by_cases h : width ≤ s.queued.length <;> simp [h, pure, EStateM.pure]

/-- A byte. -/
def uint8 : Decoder UInt8 := UInt8.ofNat <$> natural 1 "UINT8"

/-- A 16-bit number. -/
def uint16 : Decoder UInt16 := UInt16.ofNat <$> natural 2 "UINT16"

/-- A 32-bit number. -/
def uint32 : Decoder UInt32 := UInt32.ofNat <$> natural 4 "UINT32"

/-- A 64-bit number. -/
def uint64 : Decoder UInt64 := UInt64.ofNat <$> natural 8 "UINT64"

/-- The queued bytes, left where they are. -/
def rest : Decoder Bytes := fun s => .ok s.queued s

/-- Passes over `n` bytes; moves nothing when there are fewer. -/
def skip (n : Nat) : Decoder Unit := fun s =>
  if s.queued.length < n then .error (.endOfStream "skipped bytes") s
  else .ok () { s with queued := s.queued.drop n }

end Decoder

/-! The written form of the fixed-width numbers. -/

/-- The one byte of an 8-bit number. -/
def encodeUInt8 (n : UInt8) : Bytes := LittleEndian.encode 1 n.toNat

/-- The two bytes of a 16-bit number. -/
def encodeUInt16 (n : UInt16) : Bytes := LittleEndian.encode 2 n.toNat

/-- The four bytes of a 32-bit number. -/
def encodeUInt32 (n : UInt32) : Bytes := LittleEndian.encode 4 n.toNat

/-- The eight bytes of a 64-bit number. -/
def encodeUInt64 (n : UInt64) : Bytes := LittleEndian.encode 8 n.toNat

@[simp] theorem length_encodeUInt8 (n : UInt8) : (encodeUInt8 n).length = 1 := by
  simp [encodeUInt8]

@[simp] theorem length_encodeUInt16 (n : UInt16) : (encodeUInt16 n).length = 2 := by
  simp [encodeUInt16]

@[simp] theorem length_encodeUInt32 (n : UInt32) : (encodeUInt32 n).length = 4 := by
  simp [encodeUInt32]

@[simp] theorem length_encodeUInt64 (n : UInt64) : (encodeUInt64 n).length = 8 := by
  simp [encodeUInt64]

end PictureTransfer
