import PictureTransfer.Code
import PictureTransfer.Wire.Sequence
import PictureTransfer.Wire.Text

/-!
# Device information

What a responder is and what it can do: the answer to GetDeviceInfo.  Bytes
after the last field are ignored.
-/

namespace PictureTransfer

/-- An array of 16-bit codes. -/
def codesDecoder : Decoder (List UInt16) :=
  Sequence.decoder (UInt16.ofNat <$> Decoder.natural 2 "UINT16")

/-- The bytes of an array of 16-bit codes, unless there are more of them than its count
field can tell. -/
def encodeCodes (codes : List UInt16) : Except WireError Bytes :=
  if codes.length < LittleEndian.span 4 then .ok (Sequence.encode encodeUInt16 codes)
  else .error (.tooManyElements codes.length)

/-- The value that a decoder finds at the start of a buffer. -/
def Decoder.ofBuffer {α : Type} (decoder : Decoder α) (buffer : Bytes) : Except WireError α :=
  match decoder (.ofBytes buffer) with
  | .ok value _ => .ok value
  | .error e _ => .error e

/-- What a responder is and what it can do. -/
structure DeviceInfo where
  standardVersion : UInt16
  vendorExtensionId : UInt32
  vendorExtensionVersion : UInt16
  vendorExtensionDesc : String
  functionalMode : UInt16
  operationsSupported : List UInt16
  eventsSupported : List UInt16
  devicePropertiesSupported : List UInt16
  captureFormats : List UInt16
  imageFormats : List UInt16
  manufacturer : String
  model : String
  deviceVersion : String
  serialNumber : String
  deriving DecidableEq, Repr

namespace DeviceInfo

/-- Reads device information off a source. -/
def decoder : Decoder DeviceInfo := do
  let standardVersion ← Decoder.uint16
  let vendorExtensionId ← Decoder.uint32
  let vendorExtensionVersion ← Decoder.uint16
  let vendorExtensionDesc ← Text.decoder
  let functionalMode ← Decoder.uint16
  let operationsSupported ← codesDecoder
  let eventsSupported ← codesDecoder
  let devicePropertiesSupported ← codesDecoder
  let captureFormats ← codesDecoder
  let imageFormats ← codesDecoder
  let manufacturer ← Text.decoder
  let model ← Text.decoder
  let deviceVersion ← Text.decoder
  let serialNumber ← Text.decoder
  pure ⟨standardVersion, vendorExtensionId, vendorExtensionVersion, vendorExtensionDesc,
    functionalMode, operationsSupported, eventsSupported, devicePropertiesSupported,
    captureFormats, imageFormats, manufacturer, model, deviceVersion, serialNumber⟩

/-- The device information at the start of a buffer. -/
def ofBytes (buffer : Bytes) : Except WireError DeviceInfo := decoder.ofBuffer buffer

/-- The bytes of device information, unless one of its arrays is too long. -/
def encode (d : DeviceInfo) : Except WireError Bytes := do
  let operationsSupported ← encodeCodes d.operationsSupported
  let eventsSupported ← encodeCodes d.eventsSupported
  let devicePropertiesSupported ← encodeCodes d.devicePropertiesSupported
  let captureFormats ← encodeCodes d.captureFormats
  let imageFormats ← encodeCodes d.imageFormats
  return encodeUInt16 d.standardVersion ++ encodeUInt32 d.vendorExtensionId ++
    encodeUInt16 d.vendorExtensionVersion ++ Text.encode d.vendorExtensionDesc ++
    encodeUInt16 d.functionalMode ++ operationsSupported ++ eventsSupported ++
    devicePropertiesSupported ++ captureFormats ++ imageFormats ++
    Text.encode d.manufacturer ++ Text.encode d.model ++ Text.encode d.deviceVersion ++
    Text.encode d.serialNumber

/-- True when the responder carries out the operation. -/
def supportsOperation (d : DeviceInfo) (code : OperationCode) : Bool :=
  d.operationsSupported.contains code.value

/-- True when the responder reports the event. -/
def supportsEvent (d : DeviceInfo) (code : EventCode) : Bool :=
  d.eventsSupported.contains code.value

end DeviceInfo

end PictureTransfer
