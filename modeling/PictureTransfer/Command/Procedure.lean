import PictureTransfer.Command.Report
import PictureTransfer.Session.Call

/-!
# Procedures

A procedure is what a command does, step by step, apart from the network, the
files and the clock that it is carried out with: each step has an answer, and
the steps that follow may depend on it.  A procedure may also break down, and
then nothing follows.

* `done_bind`, `crashed_bind`, `bind_assoc` — procedures follow one another as
  steps do;
* `Watch.follow_append` — notices can be followed as they come in.
-/

namespace PictureTransfer

/-- A point in time on the clock of the system, in nanoseconds from its beginning. -/
structure Instant where
  nanoseconds : Nat := 0
  deriving DecidableEq, Repr

namespace Instant

/-- The nanoseconds of a second. -/
def perSecond : Nat := 1000000000

/-- The last second that the clock can show. -/
def lastSecond : Nat := 9223372036854775807

/-- The point in time some seconds later, if the clock can show it. -/
def later? (seconds : UInt64) (i : Instant) : Option Instant :=
  let nanoseconds := i.nanoseconds + seconds.toNat * perSecond
  if nanoseconds / perSecond ≤ lastSecond then some ⟨nanoseconds⟩ else none

end Instant

/-- Why a program breaks down. -/
inductive Crash where
  /-- It asks for a point in time that the clock cannot show. -/
  | endOfTime
  deriving DecidableEq, Repr

/-- What is said of it. -/
def Crash.message : Crash → String
  | endOfTime => "overflow when adding duration to instant"

/-- A watch over a capture: the listener that hears of it, and the transaction
whose completion ends it. -/
structure Watch where
  listener : String
  transactionId : UInt32
  deriving DecidableEq, Repr

/-- What came of a watch: the lines to print, and whether the capture was
completed. -/
structure Sighting where
  lines : List String
  complete : Bool
  deriving DecidableEq, Repr

namespace Watch

/-- Follows notices up to the completion.  Each new object makes a line; other
notices, and other completions, make none. -/
def follow (w : Watch) : List Notice → Sighting
  | [] => ⟨[], false⟩
  | .objectAdded handle :: rest =>
      let seen := follow w rest
      ⟨Report.newObject handle :: seen.lines, seen.complete⟩
  | .captureComplete id :: rest => if id = w.transactionId then ⟨[], true⟩ else follow w rest
  | _ :: rest => follow w rest

/-- Notices that come later add to what was seen, unless it was complete. -/
theorem follow_append (w : Watch) (first later : List Notice) :
    w.follow (first ++ later) =
      if (w.follow first).complete then w.follow first
      else ⟨(w.follow first).lines ++ (w.follow later).lines, (w.follow later).complete⟩ := by
  induction first with
  | nil => simp [follow]
  | cons notice rest ih =>
      cases notice with
      | objectAdded handle =>
          by_cases h : (w.follow rest).complete <;> simp_all [follow]
      | captureComplete id =>
          by_cases h : id = w.transactionId
          · simp [follow, h]
          · simpa [follow, h] using ih
      | _ => exact ih

end Watch

/-- A step of a procedure. -/
inductive Step where
  /-- Makes a call on the session. -/
  | call (call : Call)
  | print (line : String)
  /-- Writes a file. -/
  | save (path : String) (content : Bytes)
  | enroll (listener : Listener)
  | dismiss (name : String)
  /-- Looks at the clock. -/
  | now
  /-- Prints what a watch sees, until the capture is complete or the deadline
  is there. -/
  | watch (watch : Watch) (deadline : Instant)
  | pause (seconds : UInt64)

/-- What a step is answered with: for a file, why it cannot be written, and
for a watch, whether the capture was completed. -/
abbrev Step.Answer : Step → Type
  | call c => Except Error c.Answer
  | save .. => Option String
  | now => Instant
  | watch .. => Bool
  | print _ | enroll _ | dismiss _ | pause _ => Unit

/-- Steps with a value at their end, unless they break down. -/
inductive Procedure (α : Type) where
  | done (value : α)
  | crashed (crash : Crash)
  | step (step : Step) (next : step.Answer → Procedure α)

namespace Procedure

variable {α β γ : Type}

/-- The procedure of one step. -/
def ask (s : Step) : Procedure s.Answer := .step s .done

/-- One procedure behind another. -/
def bind : Procedure α → (α → Procedure β) → Procedure β
  | done value, more => more value
  | crashed crash, _ => crashed crash
  | step s next, more => .step s fun answer => (next answer).bind more

instance : Monad Procedure where
  pure := done
  bind := bind

@[simp] theorem done_bind (value : α) (more : α → Procedure β) :
    (done value).bind more = more value := rfl

@[simp] theorem crashed_bind (crash : Crash) (more : α → Procedure β) :
    (crashed crash).bind more = crashed crash := rfl

@[simp] theorem step_bind (s : Step) (next : s.Answer → Procedure α) (more : α → Procedure β) :
    (step s next).bind more = .step s fun answer => (next answer).bind more := rfl

theorem bind_assoc (p : Procedure α) (more : α → Procedure β) (yet : β → Procedure γ) :
    (p.bind more).bind yet = p.bind fun value => (more value).bind yet := by
  induction p with
  | done | crashed => rfl
  | step s next ih => simp [ih]

end Procedure

end PictureTransfer
