import PictureTransfer.Source

/-!
# Pipes in memory

A duplex of two pipes joins two ends: what one end writes, the other reads in
the same order.  Either end can shut the duplex down, which closes both pipes;
bytes on the way can still be read then, but no more can be written.
-/

namespace PictureTransfer

/-- Bytes on their way, and whether more can follow. -/
structure Pipe where
  queued : Bytes := []
  closed : Bool := false
  deriving DecidableEq, Repr

namespace Pipe

/-- The failure of a write into a closed pipe. -/
def broken : Fault where
  kind := .other
  message := "mock pipe closed"

/-- Puts bytes behind those on their way. -/
def write (bytes : Bytes) (p : Pipe) : Except Fault Pipe :=
  if p.closed then .error broken else .ok { p with queued := p.queued ++ bytes }

/-- Takes up to `n` bytes.  There is no outcome while a pipe that may still
carry bytes has none. -/
def read (n : Nat) (p : Pipe) : Option (Bytes × Pipe) :=
  if n = 0 then some ([], p)
  else if p.queued.isEmpty && !p.closed then none
  else some (p.queued.take n, { p with queued := p.queued.drop n })

/-- The pipe once nothing more can be written. -/
def close (p : Pipe) : Pipe := { p with closed := true }

end Pipe

/-- The ends of a duplex. -/
inductive Side where
  | a | b
  deriving DecidableEq, Repr

/-- Two pipes in opposite directions. -/
structure Duplex where
  aToB : Pipe := {}
  bToA : Pipe := {}
  deriving DecidableEq, Repr

namespace Duplex

/-- What an end is called by the other. -/
def peer : String := "mock"

/-- The pipe that an end reads from. -/
def incoming (d : Duplex) : Side → Pipe
  | .a => d.bToA
  | .b => d.aToB

/-- Writes at an end. -/
def write (side : Side) (bytes : Bytes) (d : Duplex) : Except Fault Duplex :=
  match side with
  | .a => do pure { d with aToB := ← d.aToB.write bytes }
  | .b => do pure { d with bToA := ← d.bToA.write bytes }

/-- Reads at an end; there is no outcome while it would have to wait. -/
def read (side : Side) (n : Nat) (d : Duplex) : Option (Bytes × Duplex) :=
  match side with
  | .a => (d.bToA.read n).map fun (bytes, pipe) => (bytes, { d with bToA := pipe })
  | .b => (d.aToB.read n).map fun (bytes, pipe) => (bytes, { d with aToB := pipe })

/-- Shuts the duplex down, at whichever end. -/
def shutdown (d : Duplex) : Duplex := ⟨d.aToB.close, d.bToA.close⟩

/-- True at an end whose reads will end. -/
def isClosed (d : Duplex) (side : Side) : Bool := (d.incoming side).closed

end Duplex

end PictureTransfer
