import PictureTransfer.Dataset.DeviceInfo

/-!
# Storage information

One storage of a responder, a card or internal memory: the answer to
GetStorageInfo.
-/

namespace PictureTransfer

/-- One storage of a responder. -/
structure StorageInfo where
  storageType : UInt16
  filesystemType : UInt16
  accessCapability : UInt16
  maxCapacity : UInt64
  freeSpaceInBytes : UInt64
  freeSpaceInImages : UInt32
  storageDescription : String
  volumeLabel : String
  deriving DecidableEq, Repr

namespace StorageInfo

/-- Reads storage information off a source. -/
def decoder : Decoder StorageInfo := do
  let storageType ← Decoder.uint16
  let filesystemType ← Decoder.uint16
  let accessCapability ← Decoder.uint16
  let maxCapacity ← Decoder.uint64
  let freeSpaceInBytes ← Decoder.uint64
  let freeSpaceInImages ← Decoder.uint32
  let storageDescription ← Text.decoder
  let volumeLabel ← Text.decoder
  pure ⟨storageType, filesystemType, accessCapability, maxCapacity, freeSpaceInBytes,
    freeSpaceInImages, storageDescription, volumeLabel⟩

/-- The storage information at the start of a buffer. -/
def ofBytes (buffer : Bytes) : Except WireError StorageInfo := decoder.ofBuffer buffer

/-- The bytes of storage information, which has no array that could be too long. -/
def encode (s : StorageInfo) : Except WireError Bytes :=
  .ok (encodeUInt16 s.storageType ++ encodeUInt16 s.filesystemType ++
    encodeUInt16 s.accessCapability ++ encodeUInt64 s.maxCapacity ++
    encodeUInt64 s.freeSpaceInBytes ++ encodeUInt32 s.freeSpaceInImages ++
    Text.encode s.storageDescription ++ Text.encode s.volumeLabel)

/-- True when nothing can be written to the storage. -/
def isReadOnly (s : StorageInfo) : Bool := s.accessCapability != 0

end StorageInfo

end PictureTransfer
