import PictureTransfer.Command.Usage
import PictureTransfer.Dataset.DeviceInfo
import PictureTransfer.Dataset.ObjectInfo
import PictureTransfer.Dataset.StorageInfo

/-!
# Reports

What the commands print of the responder's answers, line by line.  Handles and
storages are shown in hexadecimal, sizes of storages in units of 2²⁰ bytes, and
columns are filled up with blanks.
-/

namespace PictureTransfer

namespace Report

open Usage (padLeft padRight)

/-- A number in two digits or more. -/
def twoDigits (n : Nat) : String := if n < 10 then "0" ++ toString n else toString n

/-- The major and the minor part of a version. -/
def version (v : UInt16) : String :=
  toString (v.toNat / 100) ++ "." ++ twoDigits (v.toNat % 100)

/-- The line on a vendor's extension, if the responder describes one. -/
def extension (d : DeviceInfo) : List String :=
  if d.vendorExtensionDesc.isEmpty then []
  else ["Extension:      " ++ Hex.upper 8 d.vendorExtensionId.toNat ++ " " ++
    d.vendorExtensionDesc]

/-- The line on operations that only a vendor knows, if there are any. -/
def vendorOperations (d : DeviceInfo) : List String :=
  let count := d.operationsSupported.countP fun code =>
    (⟨code⟩ : OperationCode).codeClass.isVendorExtended
  if count = 0 then [] else ["(" ++ toString count ++ " vendor-extended operations)"]

/-- The lines on a device. -/
def device (d : DeviceInfo) : List String :=
  ["Manufacturer:   " ++ d.manufacturer, "Model:          " ++ d.model,
    "Version:        " ++ d.deviceVersion, "Serial:         " ++ d.serialNumber,
    "PTP version:    " ++ version d.standardVersion] ++
  extension d ++
  "Operations:" :: (d.operationsSupported.map fun code => "  " ++ (⟨code⟩ : OperationCode).text) ++
  "Events:" :: (d.eventsSupported.map fun code => "  " ++ (⟨code⟩ : EventCode).text) ++
  vendorOperations d

/-- A size in units of 2²⁰ bytes, rounded down. -/
def mebibytes (size : UInt64) : String := padLeft 8 (toString (size >>> 20)) ++ " MiB"

/-- The line on a storage. -/
def storage (storageId : UInt32) (s : StorageInfo) : String :=
  Hex.upper 8 storageId.toNat ++ "  " ++ padRight 16 s.storageDescription ++ " " ++
    mebibytes s.freeSpaceInBytes ++ " free of " ++ mebibytes s.maxCapacity ++
    if s.isReadOnly then "  (read-only)" else ""

/-- The line on an object. -/
def object (handle : UInt32) (o : ObjectInfo) : String :=
  Hex.upper 8 handle.toNat ++ "  " ++ padRight 24 o.filename ++ " " ++
    padLeft 10 (toString o.objectCompressedSize) ++ "  " ++ o.captureDate

/-- The line on a responder that answers a probe. -/
def probed (name : String) : String := name ++ " answered probe"

/-- The line on an object that a capture made. -/
def newObject (handle : UInt32) : String := "New object " ++ Hex.upper 8 handle.toNat

/-- The line on a capture that is complete. -/
def captured : String := "Capture complete"

end Report

end PictureTransfer
