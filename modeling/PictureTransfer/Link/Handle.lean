import PictureTransfer.Link.Pipe

/-!
# Handles on a duplex

An end of a duplex is used through handles.  At first there is one on each end;
a handle can be cloned, which makes another one on its end, and all handles on
an end are of the same use.  Acts come one after the other, each at one moment:
a read that has to wait has not happened yet, so it takes nothing and may be
tried again.
-/

namespace PictureTransfer

/-- The end across. -/
def Side.other : Side → Side
  | .a => .b
  | .b => .a

namespace Duplex

/-- A hold on an end of a duplex. -/
structure Handle where
  side : Side
  number : Nat
  deriving DecidableEq, Repr

/-- The handle that an end has at first. -/
def Handle.first : Side → Handle
  | .a => ⟨.a, 0⟩
  | .b => ⟨.b, 1⟩

/-- What is done with a handle. -/
inductive Deed where
  | write (bytes : Bytes)
  | read (most : Nat)
  | flush
  | clone
  | shutdown
  deriving DecidableEq, Repr

/-- Something that is done with a handle. -/
structure Act where
  handle : Handle
  deed : Deed
  deriving DecidableEq, Repr

/-- What comes of an act. -/
inductive Answer where
  /-- So many bytes were taken. -/
  | wrote (count : Nat)
  | broken (fault : Fault)
  | read (bytes : Bytes)
  /-- There is nothing to be read yet. -/
  | waits
  | cloned (twin : Handle)
  | done
  /-- There is no such handle. -/
  | nobody
  deriving DecidableEq, Repr

/-- A duplex and the handles on its ends. -/
structure Shared where
  duplex : Duplex := {}
  handles : List Handle := [.first .a, .first .b]
  deriving DecidableEq, Repr

namespace Shared

/-- A new duplex, with a handle on each end. -/
def new : Shared := {}

/-- What an act comes to, and what it leaves. -/
def step (act : Act) (s : Shared) : Answer × Shared :=
  if act.handle ∈ s.handles then
    match act.deed with
    | .write bytes =>
        match s.duplex.write act.handle.side bytes with
        | .ok duplex => (.wrote bytes.length, { s with duplex := duplex })
        | .error fault => (.broken fault, s)
    | .read most =>
        match s.duplex.read act.handle.side most with
        | some (bytes, duplex) => (.read bytes, { s with duplex := duplex })
        | none => (.waits, s)
    | .flush => (.done, s)
    | .clone =>
        let twin : Handle := ⟨act.handle.side, s.handles.length⟩
        (.cloned twin, { s with handles := s.handles ++ [twin] })
    | .shutdown => (.done, { s with duplex := s.duplex.shutdown })
  else (.nobody, s)

/-- What acts in a row leave. -/
def after (s : Shared) : List Act → Shared
  | [] => s
  | act :: acts => (s.step act).2.after acts

/-- Acts in a row, each with what came of it. -/
def record (s : Shared) : List Act → List (Act × Answer)
  | [] => []
  | act :: acts => (act, (s.step act).1) :: (s.step act).2.record acts

end Shared

end Duplex

end PictureTransfer
