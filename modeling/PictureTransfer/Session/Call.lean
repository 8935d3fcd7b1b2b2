import PictureTransfer.Dataset.DeviceInfo
import PictureTransfer.Dataset.ObjectInfo
import PictureTransfer.Dataset.StorageInfo
import PictureTransfer.Session.Basic

/-!
# Calls

Everything that can be asked of a session, with the answer that each call
has.  An operation asked for by a call of its own succeeds only when the
responder says that it was carried out; data that does not read is an error,
but leaves the session ready.

`Move` lists what can happen to a session at all: calls, and actions of the
responder and of listeners.
-/

namespace PictureTransfer

/-- What can be asked of a session. -/
inductive Call where
  /-- Any operation, with whatever response. -/
  | transact (operation : OperationCode) (params : List UInt32) (dataOut : Option Bytes)
  | openSession (sessionId : UInt32)
  | closeSession
  | getDeviceInfo
  | getStorageIds
  | getStorageInfo (storageId : UInt32)
  /-- Zero for the format or the parent stands for any. -/
  | getNumObjects (storageId : UInt32) (format : UInt16) (parent : UInt32)
  | getObjectHandles (storageId : UInt32) (format : UInt16) (parent : UInt32)
  | getObjectInfo (handle : UInt32)
  | getObject (handle : UInt32)
  | getThumb (handle : UInt32)
  | deleteObject (handle : UInt32) (format : UInt16)
  | initiateCapture (storageId : UInt32) (format : UInt16)
  | getDevicePropValue (prop : UInt16)
  | setDevicePropValue (prop : UInt16) (value : Bytes)
  | sendCancel (transactionId : UInt32)
  | probe
  | close
  deriving DecidableEq, Repr

/-- What a call is answered with: for a capture, the transaction whose
completion an event will report. -/
abbrev Call.Answer : Call → Type
  | transact .. => Transaction
  | getDeviceInfo => DeviceInfo
  | getStorageIds | getObjectHandles .. => List UInt32
  | getStorageInfo _ => StorageInfo
  | getNumObjects .. | initiateCapture .. => UInt32
  | getObjectInfo _ => ObjectInfo
  | getObject _ | getThumb _ | getDevicePropValue _ => Bytes
  | openSession _ | closeSession | deleteObject .. | setDevicePropValue .. | sendCancel _
  | probe | close => Unit

namespace Session

/-- Runs an operation that the responder has to carry out. -/
def carryOut (operation : OperationCode) (params : List UInt32)
    (dataOut : Option Bytes) : SessionM Transaction := do
  given (← transact operation params dataOut).confirmed

/-- Has data sent by the responder. -/
def fetch (operation : OperationCode) (params : List UInt32) : SessionM Bytes := do
  return (← carryOut operation params none).content

/-- Has data sent by the responder and reads it. -/
def fetchAs {α : Type} (decoder : Decoder α) (operation : OperationCode)
    (params : List UInt32) : SessionM α := do
  given ((decoder.ofBuffer (← fetch operation params)).mapError .wire)

/-- Keeps the number of the session that is open. -/
def setSessionId (sessionId : UInt32) : SessionM Unit :=
  modify fun s => { s with events.sessionId := sessionId }

/-- An array of 32-bit numbers. -/
def wordsDecoder : Decoder (List UInt32) := Sequence.decoder Decoder.uint32

/-- Carries out a call. -/
def perform : (call : Call) → SessionM call.Answer
  | .transact operation params dataOut => transact operation params dataOut
  | .openSession sessionId => do
      let _ ← carryOut .openSession [sessionId] none
      setSessionId sessionId
  | .closeSession => do
      let _ ← carryOut .closeSession [] none
      setSessionId 0
  | .getDeviceInfo => fetchAs DeviceInfo.decoder .getDeviceInfo []
  | .getStorageIds => fetchAs wordsDecoder .getStorageIds []
  | .getStorageInfo storageId => fetchAs StorageInfo.decoder .getStorageInfo [storageId]
  | .getNumObjects storageId format parent => do
      let t ← carryOut .getNumObjects [storageId, format.toUInt32, parent] none
      given ((t.param 0).mapError .violation)
  | .getObjectHandles storageId format parent =>
      fetchAs wordsDecoder .getObjectHandles [storageId, format.toUInt32, parent]
  | .getObjectInfo handle => fetchAs ObjectInfo.decoder .getObjectInfo [handle]
  | .getObject handle => fetch .getObject [handle]
  | .getThumb handle => fetch .getThumb [handle]
  | .deleteObject handle format => do
      let _ ← carryOut .deleteObject [handle, format.toUInt32] none
  | .initiateCapture storageId format => do
      return (← carryOut .initiateCapture [storageId, format.toUInt32] none).id
  | .getDevicePropValue prop => fetch .getDevicePropValue [prop.toUInt32]
  | .setDevicePropValue prop value => do
      let _ ← carryOut .setDevicePropValue [prop.toUInt32] (some value)
  | .sendCancel transactionId => sendCancel transactionId
  | .probe => probe
  | .close => modify close

end Session

/-- What can happen to a session. -/
inductive Move where
  | call (call : Call)
  | feedCommand (feed : Feed)
  | feedEvent (feed : Feed)
  | enroll (listener : Listener)
  | dismiss (name : String)

namespace Session

/-- The session after something happened to it. -/
def after (s : Session) : Move → Session
  | .call call =>
      match perform call s with
      | .ok _ s => s
      | .error _ s => s
  | .feedCommand feed => s.feedCommand feed
  | .feedEvent feed => s.feedEvent feed
  | .enroll listener => s.enroll listener
  | .dismiss name => s.dismiss name

/-- The session after a run of moves. -/
def run (s : Session) (moves : List Move) : Session := moves.foldl after s

end Session

end PictureTransfer
