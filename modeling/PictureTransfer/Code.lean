import PictureTransfer.Hex

/-!
# Operation, response and event codes

Operations, responses and events are named by 16-bit codes.  The standard
gives names to a run of codes from the start of each range; every other code
is legal too, as vendors extend the ranges.  A code is therefore a number
with, perhaps, a name.
-/

namespace PictureTransfer

/-- What a code is about. -/
inductive CodeTable where
  | operation | response | event
  deriving DecidableEq, Repr

namespace CodeTable

/-- The first code of the table. -/
def base : CodeTable → Nat
  | operation => 0x1000
  | response => 0x2000
  | event => 0x4000

/-- The names of the table, in the order of their codes. -/
def names : CodeTable → List String
  | operation =>
      ["Undefined", "GetDeviceInfo", "OpenSession", "CloseSession", "GetStorageIds",
        "GetStorageInfo", "GetNumObjects", "GetObjectHandles", "GetObjectInfo", "GetObject",
        "GetThumb", "DeleteObject", "SendObjectInfo", "SendObject", "InitiateCapture",
        "FormatStore", "ResetDevice", "SelfTest", "SetObjectProtection", "PowerDown",
        "GetDevicePropDesc", "GetDevicePropValue", "SetDevicePropValue",
        "ResetDevicePropValue", "TerminateOpenCapture", "MoveObject", "CopyObject",
        "GetPartialObject", "InitiateOpenCapture"]
  | response =>
      ["Undefined", "Ok", "GeneralError", "SessionNotOpen", "InvalidTransactionId",
        "OperationNotSupported", "ParameterNotSupported", "IncompleteTransfer",
        "InvalidStorageId", "InvalidObjectHandle", "DevicePropNotSupported",
        "InvalidObjectFormatCode", "StoreFull", "ObjectWriteProtected", "StoreReadOnly",
        "AccessDenied", "NoThumbnailPresent", "SelfTestFailed", "PartialDeletion",
        "StoreNotAvailable", "SpecificationByFormatUnsupported", "NoValidObjectInfo",
        "InvalidCodeFormat", "UnknownVendorCode", "CaptureAlreadyTerminated", "DeviceBusy",
        "InvalidParentObject", "InvalidDevicePropFormat", "InvalidDevicePropValue",
        "InvalidParameter", "SessionAlreadyOpen", "TransactionCancelled",
        "SpecificationOfDestinationUnsupported"]
  | event =>
      ["Undefined", "CancelTransaction", "ObjectAdded", "ObjectRemoved", "StoreAdded",
        "StoreRemoved", "DevicePropChanged", "ObjectInfoChanged", "DeviceInfoChanged",
        "RequestObjectTransfer", "StoreFull", "DeviceReset", "StorageInfoChanged",
        "CaptureComplete", "UnreportedStatus"]

end CodeTable

/-- The range that a code lies in, told by its top four bits. -/
inductive CodeClass where
  | operation | response | event
  | vendorOperation | vendorResponse | vendorEvent
  /-- Formats, properties and reserved ranges. -/
  | other
  deriving DecidableEq, Repr

namespace CodeClass

/-- The range of a code. -/
def of (code : UInt16) : CodeClass :=
  match code.toNat / 0x1000 with
  | 0x1 => operation
  | 0x2 => response
  | 0x4 => event
  | 0x9 => vendorOperation
  | 0xA => vendorResponse
  | 0xC => vendorEvent
  | _ => other

/-- True for the ranges that vendors extend. -/
def isVendorExtended : CodeClass → Bool
  | vendorOperation | vendorResponse | vendorEvent => true
  | _ => false

/-- The name of a range. -/
def name : CodeClass → String
  | operation => "Operation"
  | response => "Response"
  | event => "Event"
  | vendorOperation => "VendorOperation"
  | vendorResponse => "VendorResponse"
  | vendorEvent => "VendorEvent"
  | other => "Other"

end CodeClass

/-- A 16-bit code of a table. -/
structure Code (table : CodeTable) where
  value : UInt16
  deriving DecidableEq, Repr

abbrev OperationCode := Code .operation
abbrev ResponseCode := Code .response
abbrev EventCode := Code .event

namespace Code

variable {table : CodeTable}

/-- The standard name of a code, if it has one. -/
def name? (code : Code table) : Option String :=
  if code.value.toNat < table.base then none
  else table.names[code.value.toNat - table.base]?

/-- A code as text: its name, if any, and its number. -/
def text (code : Code table) : String :=
  match code.name? with
  | some name => name ++ "(" ++ Hex.upper 4 code.value.toNat ++ ")"
  | none => Hex.upper 4 code.value.toNat

/-- A code by its name alone, or as a number without one. -/
def shown (code : Code table) : String :=
  match code.name? with
  | some name => name
  | none => "Unrecognized(" ++ toString code.value.toNat ++ ")"

/-- The range of a code. -/
def codeClass (code : Code table) : CodeClass := .of code.value

end Code

namespace OperationCode

def getDeviceInfo : OperationCode := ⟨0x1001⟩
def openSession : OperationCode := ⟨0x1002⟩
def closeSession : OperationCode := ⟨0x1003⟩
def getStorageIds : OperationCode := ⟨0x1004⟩
def getStorageInfo : OperationCode := ⟨0x1005⟩
def getNumObjects : OperationCode := ⟨0x1006⟩
def getObjectHandles : OperationCode := ⟨0x1007⟩
def getObjectInfo : OperationCode := ⟨0x1008⟩
def getObject : OperationCode := ⟨0x1009⟩
def getThumb : OperationCode := ⟨0x100A⟩
def deleteObject : OperationCode := ⟨0x100B⟩
def initiateCapture : OperationCode := ⟨0x100E⟩
def getDevicePropValue : OperationCode := ⟨0x1015⟩
def setDevicePropValue : OperationCode := ⟨0x1016⟩

end OperationCode

/-- The response that an operation was carried out. -/
def ResponseCode.ok : ResponseCode := ⟨0x2001⟩

/-- True for the one response that is no failure. -/
def ResponseCode.isOk (code : ResponseCode) : Bool := code.value == ResponseCode.ok.value

end PictureTransfer
