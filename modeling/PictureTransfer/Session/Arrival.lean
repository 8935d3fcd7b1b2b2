import PictureTransfer.Session.Basic

/-!
# Bytes that are still arriving

Bytes arrive over time, but what is done with a line takes those that are
there.  While more may come, a mark stands behind them.  An action that takes
the mark away has read too far: it is begun again once there is more, and what
it has written stays written.

* `isStarved_expecting` — an action that leaves a line alone is not begun again.
-/

namespace PictureTransfer

namespace Line

/-- The mark behind the bytes that are there. -/
def mark : Fault where
  kind := .other
  message := "no more bytes yet"

/-- A line with a mark, if more may come. -/
def expecting (more : Bool) (line : Line) : Line :=
  if more then { line with incoming.fault := some mark } else line

/-- True when an action took the mark away. -/
def isStarved (more : Bool) (after : Line) : Bool := more && after.incoming.fault.isNone

/-- A line without a mark. -/
def unmarked (line : Line) : Line :=
  if line.incoming.fault = some mark then { line with incoming.fault := none } else line

theorem isStarved_expecting (more : Bool) (line : Line) :
    (line.expecting more).isStarved more = false := by
  cases more <;> rfl

end Line

end PictureTransfer
