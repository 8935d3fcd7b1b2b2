import PictureTransfer.Error
import PictureTransfer.Hex

/-!
# Why a command fails

A failure names what was being done, and behind it what went wrong, nearest
first.  The log shows it with the characters that a terminal obeys written
out, so that no text from outside can drive the terminal.
-/

namespace PictureTransfer

/-- Why a command fails. -/
inductive Failure where
  /-- The configuration file cannot be read or used. -/
  | loading (path : String)
  | connecting (address : String) (cause : Error)
  /-- A call on the session fails. -/
  | call (cause : Error)
  | writing (path : String) (cause : String)
  /-- The time for a capture is over. -/
  | noCompletion (seconds : UInt64)
  deriving DecidableEq, Repr

namespace Failure

/-- A count of seconds as text; no time at all is told in the smallest unit. -/
def secondsText (seconds : UInt64) : String :=
  if seconds = 0 then "0ns" else toString seconds ++ "s"

/-- The texts of a failure and of what caused it, nearest first. -/
def causes : Failure → List String
  | loading path => ["loading config " ++ path]
  | connecting address cause => ("connecting to " ++ address) :: cause.causes
  | call cause => cause.causes
  | writing path cause => ["writing " ++ path, cause]
  | noCompletion seconds => ["no CaptureComplete within " ++ secondsText seconds]

/-- A failure as one line. -/
def message (failure : Failure) : String := String.intercalate ": " failure.causes

/-- The characters that a terminal obeys: bell, backspace, form feed, escape,
delete, and the controls behind the basic alphabet. -/
def isTerminalControl (c : Char) : Bool :=
  c.toNat ∈ [7, 8, 12, 27, 127] || (128 ≤ c.toNat && c.toNat < 160)

/-- A character as the log shows it: one that a terminal obeys is written out
by its number, with two digits, and in braces if it is behind the basic
alphabet. -/
def loggedChar (c : Char) : List Char :=
  if isTerminalControl c then
    let digits := Hex.lowerDigits [UInt8.ofNat c.toNat]
    if c.toNat < 128 then '\\' :: 'x' :: digits
    else '\\' :: 'u' :: '\x7b' :: digits ++ ['\x7d']
  else [c]

/-- A failure as the log shows it. -/
def logged (failure : Failure) : String :=
  String.ofList (failure.message.toList.flatMap loggedChar)

end Failure

end PictureTransfer
