import PictureTransfer.Source

/-!
# Why a value cannot be written or read

One cause for each way in which an integer, an array or a string fails on the
wire.  `message` words it; a source that runs out is told apart from a source
that fails.
-/

namespace PictureTransfer

/-- Why a primitive value could not be built, written or read. -/
inductive WireError where
  /-- A number outside the range of its type. -/
  | outOfRange (what : String) (value : Int)
  /-- A byte string of the wrong length for its type. -/
  | wrongLength (what : String) (expected actual : Nat)
  /-- The source ended before the value did. -/
  | endOfStream (what : String)
  /-- The only zero unit of a string is not its last. -/
  | missingTerminator
  /-- A surrogate stands alone. -/
  | invalidUtf16
  /-- More elements than the count field of an array can tell. -/
  | tooManyElements (count : Nat)
  /-- The connection failed. -/
  | io (fault : Fault)
  deriving DecidableEq, Repr

namespace WireError

/-- The cause of a failed read: a connection that reports a premature end is
one that ended. -/
def ofFault (what : String) (fault : Fault) : WireError :=
  if fault.kind = .unexpectedEnd then .endOfStream what else .io fault

/-- The text of an error. -/
def message : WireError → String
  | outOfRange what value => "Value " ++ toString value ++ " out of range for " ++ what
  | wrongLength what expected actual =>
      "Wrong length for " ++ what ++ ": expected " ++ toString expected ++
        ", got " ++ toString actual
  | endOfStream what => "End of stream while reading " ++ what
  | missingTerminator => "String is not terminated by a final U+0000"
  | invalidUtf16 => "String is not valid UTF-16"
  | tooManyElements count =>
      "Array of " ++ toString count ++ " elements exceeds the 32-bit element count"
  | io fault => "IO error: " ++ fault.message

/-- The texts of an error and of what caused it, nearest first. -/
def causes : WireError → List String
  | io fault => [(io fault).message, fault.message]
  | error => [error.message]

/-- True when the input simply ran out of bytes. -/
def isEndOfStream : WireError → Bool
  | endOfStream _ => true
  | _ => false

/-- True when the source can deliver nothing further. -/
def isFatal : WireError → Bool
  | endOfStream _ | io _ => true
  | _ => false

end WireError

end PictureTransfer
