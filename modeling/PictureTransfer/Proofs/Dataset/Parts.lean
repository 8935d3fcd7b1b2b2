import PictureTransfer.Dataset.ObjectInfo
import PictureTransfer.Dataset.StorageInfo
import PictureTransfer.Proofs.Outcome

/-!
# What datasets are read with

The readers of datasets are made of few parts: numbers of fixed width, the units of a string, and
one reader behind another.  A property of readers that these parts have, and that carries over
from one reader to one behind it, is a property of every dataset: `Decoder.Inherited`.

* `Decoder.Inherited.text`, `Decoder.Inherited.sequence` — strings and counted sequences have it;
* `Decoder.Inherited.deviceInfo`, `Decoder.Inherited.storageInfo`,
  `Decoder.Inherited.objectInfo` — so the three datasets have it.
-/

namespace PictureTransfer.Decoder

/-- The names of the numbers in datasets. -/
def datasetNumbers : List String := ["UINT16", "UINT32", "UINT64", "array count"]

/-- A property of decoders that whatever is made of the parts of datasets inherits. -/
structure Inherited (P : ∀ {α : Type}, Decoder α → Prop) : Prop where
  pure : ∀ {α : Type} (a : α), P (Pure.pure a : Decoder α)
  bind : ∀ {α β : Type} {first : Decoder α} {next : α → Decoder β},
    P first → (∀ a, P (next a)) → P (first >>= next)
  natural : ∀ (width : Nat) {what : String}, what ∈ datasetNumbers → P (natural width what)
  units : P (Text.units : Decoder (List Nat))
  invalid : P (throw .invalidUtf16 : Decoder String)

namespace Inherited

variable {P : ∀ {α : Type}, Decoder α → Prop} {α β : Type}

theorem map (h : Inherited P) {decoder : Decoder α} (hdecoder : P decoder) (f : α → β) :
    P (f <$> decoder) := by
  rw [map_eq_pure_bind]
  exact h.bind hdecoder fun a => h.pure (f a)

theorem uint16 (h : Inherited P) : P Decoder.uint16 := h.map (h.natural 2 (by decide)) _

theorem uint32 (h : Inherited P) : P Decoder.uint32 := h.map (h.natural 4 (by decide)) _

theorem uint64 (h : Inherited P) : P Decoder.uint64 := h.map (h.natural 8 (by decide)) _

theorem text (h : Inherited P) : P Text.decoder := by
  refine h.bind h.units fun us => ?_
  unfold Text.ofUnits
  cases Utf16.decode us with
  | some text => exact h.pure _
  | none => exact h.invalid

theorem repeated (h : Inherited P) {element : Decoder α} (helement : P element) (n : Nat) :
    P (Sequence.repeated element n) := by
  induction n with
  | zero => exact h.pure []
  | succ n ih => exact h.bind helement fun x => h.bind ih fun xs => h.pure (x :: xs)

theorem sequence (h : Inherited P) {element : Decoder α} (helement : P element) :
    P (Sequence.decoder element) :=
  h.bind (h.natural 4 (by decide)) fun n => h.repeated helement n

theorem codes (h : Inherited P) : P codesDecoder := h.sequence h.uint16

theorem deviceInfo (h : Inherited P) : P DeviceInfo.decoder := by
  refine h.bind h.uint16 fun standardVersion => ?_
  refine h.bind h.uint32 fun vendorExtensionId => ?_
  refine h.bind h.uint16 fun vendorExtensionVersion => ?_
  refine h.bind h.text fun vendorExtensionDesc => ?_
  refine h.bind h.uint16 fun functionalMode => ?_
  refine h.bind h.codes fun operationsSupported => ?_
  refine h.bind h.codes fun eventsSupported => ?_
  refine h.bind h.codes fun devicePropertiesSupported => ?_
  refine h.bind h.codes fun captureFormats => ?_
  refine h.bind h.codes fun imageFormats => ?_
  refine h.bind h.text fun manufacturer => ?_
  refine h.bind h.text fun model => ?_
  refine h.bind h.text fun deviceVersion => ?_
  refine h.bind h.text fun serialNumber => ?_
  exact h.pure _

theorem storageInfo (h : Inherited P) : P StorageInfo.decoder := by
  refine h.bind h.uint16 fun storageType => ?_
  refine h.bind h.uint16 fun filesystemType => ?_
  refine h.bind h.uint16 fun accessCapability => ?_
  refine h.bind h.uint64 fun maxCapacity => ?_
  refine h.bind h.uint64 fun freeSpaceInBytes => ?_
  refine h.bind h.uint32 fun freeSpaceInImages => ?_
  refine h.bind h.text fun storageDescription => ?_
  refine h.bind h.text fun volumeLabel => ?_
  exact h.pure _

theorem objectInfo (h : Inherited P) : P ObjectInfo.decoder := by
  refine h.bind h.uint32 fun storageId => ?_
  refine h.bind h.uint16 fun objectFormat => ?_
  refine h.bind h.uint16 fun protectionStatus => ?_
  refine h.bind h.uint32 fun objectCompressedSize => ?_
  refine h.bind h.uint16 fun thumbFormat => ?_
  refine h.bind h.uint32 fun thumbCompressedSize => ?_
  refine h.bind h.uint32 fun thumbPixWidth => ?_
  refine h.bind h.uint32 fun thumbPixHeight => ?_
  refine h.bind h.uint32 fun imagePixWidth => ?_
  refine h.bind h.uint32 fun imagePixHeight => ?_
  refine h.bind h.uint32 fun imageBitDepth => ?_
  refine h.bind h.uint32 fun parentObject => ?_
  refine h.bind h.uint16 fun associationType => ?_
  refine h.bind h.uint32 fun associationDesc => ?_
  refine h.bind h.uint32 fun sequenceNumber => ?_
  refine h.bind h.text fun filename => ?_
  refine h.bind h.text fun captureDate => ?_
  refine h.bind h.text fun modificationDate => ?_
  refine h.bind h.text fun keywords => ?_
  exact h.pure _

end Inherited

end PictureTransfer.Decoder
