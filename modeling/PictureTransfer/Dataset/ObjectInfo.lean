import PictureTransfer.Dataset.DeviceInfo

/-!
# Object information

What is known of one object without fetching it: the answer to GetObjectInfo.
-/

namespace PictureTransfer

/-- What is known of one object. -/
structure ObjectInfo where
  storageId : UInt32
  objectFormat : UInt16
  protectionStatus : UInt16
  objectCompressedSize : UInt32
  thumbFormat : UInt16
  thumbCompressedSize : UInt32
  thumbPixWidth : UInt32
  thumbPixHeight : UInt32
  imagePixWidth : UInt32
  imagePixHeight : UInt32
  imageBitDepth : UInt32
  parentObject : UInt32
  associationType : UInt16
  associationDesc : UInt32
  sequenceNumber : UInt32
  filename : String
  captureDate : String
  modificationDate : String
  keywords : String
  deriving DecidableEq, Repr

namespace ObjectInfo

/-- Reads object information off a source. -/
def decoder : Decoder ObjectInfo := do
  let storageId ← Decoder.uint32
  let objectFormat ← Decoder.uint16
  let protectionStatus ← Decoder.uint16
  let objectCompressedSize ← Decoder.uint32
  let thumbFormat ← Decoder.uint16
  let thumbCompressedSize ← Decoder.uint32
  let thumbPixWidth ← Decoder.uint32
  let thumbPixHeight ← Decoder.uint32
  let imagePixWidth ← Decoder.uint32
  let imagePixHeight ← Decoder.uint32
  let imageBitDepth ← Decoder.uint32
  let parentObject ← Decoder.uint32
  let associationType ← Decoder.uint16
  let associationDesc ← Decoder.uint32
  let sequenceNumber ← Decoder.uint32
  let filename ← Text.decoder
  let captureDate ← Text.decoder
  let modificationDate ← Text.decoder
  let keywords ← Text.decoder
  pure ⟨storageId, objectFormat, protectionStatus, objectCompressedSize, thumbFormat,
    thumbCompressedSize, thumbPixWidth, thumbPixHeight, imagePixWidth, imagePixHeight,
    imageBitDepth, parentObject, associationType, associationDesc, sequenceNumber, filename,
    captureDate, modificationDate, keywords⟩

/-- The object information at the start of a buffer. -/
def ofBytes (buffer : Bytes) : Except WireError ObjectInfo := decoder.ofBuffer buffer

/-- The bytes of object information, which has no array that could be too long. -/
def encode (o : ObjectInfo) : Except WireError Bytes :=
  .ok (encodeUInt32 o.storageId ++ encodeUInt16 o.objectFormat ++
    encodeUInt16 o.protectionStatus ++ encodeUInt32 o.objectCompressedSize ++
    encodeUInt16 o.thumbFormat ++ encodeUInt32 o.thumbCompressedSize ++
    encodeUInt32 o.thumbPixWidth ++ encodeUInt32 o.thumbPixHeight ++
    encodeUInt32 o.imagePixWidth ++ encodeUInt32 o.imagePixHeight ++
    encodeUInt32 o.imageBitDepth ++ encodeUInt32 o.parentObject ++
    encodeUInt16 o.associationType ++ encodeUInt32 o.associationDesc ++
    encodeUInt32 o.sequenceNumber ++ Text.encode o.filename ++ Text.encode o.captureDate ++
    Text.encode o.modificationDate ++ Text.encode o.keywords)

/-- The format code of a folder. -/
def associationFormat : UInt16 := 0x3001

/-- True when the object is a folder. -/
def isAssociation (o : ObjectInfo) : Bool := o.objectFormat == associationFormat

end ObjectInfo

end PictureTransfer
