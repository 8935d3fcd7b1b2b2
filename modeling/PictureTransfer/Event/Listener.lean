import PictureTransfer.Event.Basic

/-!
# Listeners

A listener has a name, which is what makes it the same listener again, and
reacts to each notice: it leaves entries in a journal that all listeners
share, and may break down in the middle of a notice.  What it left until then
stays.

`Listener.logging` is the listener that reports each notice as a line of a
log.
-/

namespace PictureTransfer

/-- How much a line of the log matters. -/
inductive LogLevel where
  | error | warn | info | debug
  deriving DecidableEq, Repr

/-- The name of a level. -/
def LogLevel.name : LogLevel → String
  | error => "ERROR"
  | warn => "WARN"
  | info => "INFO"
  | debug => "DEBUG"

/-- A line of the log: a message and fields with names. -/
structure LogLine where
  level : LogLevel
  message : String
  fields : List (String × String) := []
  deriving DecidableEq, Repr

/-- What may be found in the journal. -/
inductive Entry where
  | told (listener : String) (notice : Notice)
  | logged (line : LogLine)
  deriving DecidableEq

/-- What a listener does with a notice. -/
structure Reaction where
  entries : List Entry := []
  /-- True when the listener broke down after the last entry. -/
  broken : Bool := false
  deriving DecidableEq

/-- Somebody who is told of events. -/
structure Listener where
  name : String
  react : Notice → Reaction

/-- The line that reports a notice. -/
def LogLine.ofNotice : Notice → LogLine
  | .cancelTransaction id =>
      ⟨.info, "CancelTransaction", [("tx_id", toString id)]⟩
  | .objectAdded handle => ⟨.info, "ObjectAdded", [("handle", Hex.upper 8 handle.toNat)]⟩
  | .objectRemoved handle => ⟨.info, "ObjectRemoved", [("handle", Hex.upper 8 handle.toNat)]⟩
  | .storeAdded storage => ⟨.info, "StoreAdded", [("storage", Hex.upper 8 storage.toNat)]⟩
  | .storeRemoved storage => ⟨.info, "StoreRemoved", [("storage", Hex.upper 8 storage.toNat)]⟩
  | .devicePropChanged prop =>
      ⟨.info, "DevicePropChanged", [("prop", Hex.upper 4 prop.toNat)]⟩
  | .objectInfoChanged handle =>
      ⟨.info, "ObjectInfoChanged", [("handle", Hex.upper 8 handle.toNat)]⟩
  | .deviceInfoChanged => ⟨.info, "DeviceInfoChanged", []⟩
  | .requestObjectTransfer handle =>
      ⟨.info, "RequestObjectTransfer", [("handle", Hex.upper 8 handle.toNat)]⟩
  | .storeFull storage => ⟨.warn, "StoreFull", [("storage", Hex.upper 8 storage.toNat)]⟩
  | .deviceReset => ⟨.warn, "DeviceReset", []⟩
  | .storageInfoChanged storage =>
      ⟨.info, "StorageInfoChanged", [("storage", Hex.upper 8 storage.toNat)]⟩
  | .captureComplete id => ⟨.info, "CaptureComplete", [("tx_id", toString id)]⟩
  | .unreportedStatus => ⟨.info, "UnreportedStatus", []⟩
  | .vendorEvent event =>
      ⟨.debug, "Vendor event",
        [("code", Hex.upper 4 event.code.value.toNat),
          ("tx_id", toString event.transactionId),
          ("params", "[" ++ String.intercalate ", " (event.params.values.map toString) ++ "]")]⟩
  | .error cause => ⟨.error, "Event channel error", [("error", cause.message)]⟩

namespace Listener

/-- Notes every notice down. -/
def recording (name : String) : Listener := ⟨name, fun notice => ⟨[.told name notice], false⟩⟩

/-- Notes every notice down and breaks down each time. -/
def breaking (name : String) : Listener := ⟨name, fun notice => ⟨[.told name notice], true⟩⟩

/-- Cares for nothing. -/
def silent (name : String) : Listener := ⟨name, fun _ => ⟨[], false⟩⟩

/-- Reports every notice in the log. -/
def logging (name : String) : Listener :=
  ⟨name, fun notice => ⟨[.logged (.ofNotice notice)], false⟩⟩

end Listener

end PictureTransfer
