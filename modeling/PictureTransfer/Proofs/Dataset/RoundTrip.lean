import PictureTransfer.Dataset.ObjectInfo
import PictureTransfer.Dataset.StorageInfo
import PictureTransfer.Proofs.Wire.Counting
import PictureTransfer.Proofs.Wire.Lettering

/-!
# Writing datasets and reading them back

A dataset is a run of fields without tags, so what its bytes mean hangs on the reader and the
writer having the same fields in the same order and width.  A `Layout` lists the fields once,
each with the bytes that it is written in, and both ways are held against it: the decoder reads
what the layout spells and nothing else, and the encoder writes that.

Two kinds of records do not read back: a text that holds the character of number zero is cut
off there, and an array longer than its count field can tell is not written at all.  No record
that was read is of these.

* `Layout.Reads.slot` — a field in front of those behind it;
* `DeviceInfo.reads_decoder`, `StorageInfo.reads_decoder`, `ObjectInfo.reads_decoder` — a
  dataset is read just where its layout stands;
* `DeviceInfo.encode_eq`, `StorageInfo.encode_eq`, `ObjectInfo.encode_eq` — and is written as
  its layout says;
* `RoundTrips.of_layout` — two ways that keep to one layout agree;
* `datasets_round_trip` — so those of every dataset do.
-/

namespace PictureTransfer

/-- One place in the layout of a record: the bytes of the field that stands there, and when
they are read back. -/
structure Slot (ρ : Type) where
  Writable : ρ → Prop
  bytes : ρ → Bytes

/-- The fields of a record in the order of their bytes. -/
abbrev Layout (ρ : Type) := List (Slot ρ)

variable {ρ α : Type}

namespace Slot

/-- The place of a field whose values are written in one way. -/
def of (writable : α → Prop) (spelt : α → Bytes) (field : ρ → α) : Slot ρ where
  Writable r := writable (field r)
  bytes r := spelt (field r)

abbrev uint16 : (ρ → UInt16) → Slot ρ := of (fun _ => True) encodeUInt16

abbrev uint32 : (ρ → UInt32) → Slot ρ := of (fun _ => True) encodeUInt32

abbrev uint64 : (ρ → UInt64) → Slot ρ := of (fun _ => True) encodeUInt64

/-- A text ends at its first zero unit, so it must not hold one. -/
abbrev text : (ρ → String) → Slot ρ := of (fun text => '\x00' ∉ text.toList) Text.encode

/-- An array of codes must not be longer than its count field can tell. -/
abbrev codes : (ρ → List UInt16) → Slot ρ :=
  of (fun codes => codes.length < LittleEndian.span 4) (Sequence.encode encodeUInt16)

variable {writable : α → Prop} {spelt : α → Bytes} {field : ρ → α} {r : ρ}

@[simp] theorem of_writable : (of writable spelt field).Writable r ↔ writable (field r) := Iff.rfl

@[simp] theorem of_bytes : (of writable spelt field).bytes r = spelt (field r) := rfl

/-- A field of any value is read back. -/
theorem reads_any {decoder : Decoder α} (h : decoder.Reads fun a bytes => bytes = spelt a) :
    decoder.Reads fun a bytes => True ∧ bytes = spelt a :=
  h.congr fun _ _ => (and_iff_right trivial).symm

theorem reads_uint16 : Decoder.uint16.Reads fun n bytes => True ∧ bytes = encodeUInt16 n :=
  reads_any Decoder.reads_uint16

theorem reads_uint32 : Decoder.uint32.Reads fun n bytes => True ∧ bytes = encodeUInt32 n :=
  reads_any Decoder.reads_uint32

theorem reads_uint64 : Decoder.uint64.Reads fun n bytes => True ∧ bytes = encodeUInt64 n :=
  reads_any Decoder.reads_uint64

theorem reads_codes : codesDecoder.Reads fun codes bytes =>
    codes.length < LittleEndian.span 4 ∧ bytes = Sequence.encode encodeUInt16 codes :=
  Sequence.reads_decoder Decoder.reads_uint16

end Slot

namespace Layout

/-- True of a record whose fields all read back. -/
def Writable (layout : Layout ρ) (r : ρ) : Prop := ∀ slot ∈ layout, slot.Writable r

/-- The bytes of a record. -/
def bytes (layout : Layout ρ) (r : ρ) : Bytes := layout.flatMap (·.bytes r)

variable {place : Slot ρ} {layout : Layout ρ} {r : ρ}

@[simp] theorem writable_nil : Writable [] r ↔ True := by simp [Writable]

@[simp] theorem writable_cons :
    Writable (place :: layout) r ↔ place.Writable r ∧ layout.Writable r :=
  List.forall_mem_cons

@[simp] theorem bytes_nil : bytes [] r = [] := rfl

@[simp] theorem bytes_cons : bytes (place :: layout) r = place.bytes r ++ layout.bytes r :=
  List.flatMap_cons

/-- The decoder reads the records with what is known of them so far, their other fields off the
layout. -/
def Reads (layout : Layout ρ) (decoder : Decoder ρ) (known : ρ → Prop) : Prop :=
  decoder.Reads fun r bytes => known r ∧ layout.Writable r ∧ bytes = layout.bytes r

/-- Where all fields are known no bytes are left to read. -/
theorem reads_made {known : ρ → Prop} {made : ρ} (h : ∀ r, r = made ↔ known r) :
    Reads [] (pure made) known := by
  refine (Decoder.reads_pure made).congr fun r bytes => ?_
  simp [h]

/-- **A field in front of others**, which make up the record from its value. -/
theorem Reads.slot {first : Decoder α} {next : α → Decoder ρ} {field : ρ → α}
    {writable : α → Prop} {spelt : α → Bytes} {known : ρ → Prop}
    (hfirst : first.Reads fun a bytes => writable a ∧ bytes = spelt a)
    (hnext : ∀ a, layout.Reads (next a) fun r => known r ∧ field r = a) :
    Reads (.of writable spelt field :: layout) (first >>= next) known := by
  refine (hfirst.bind hnext).congr fun r bytes => ?_
  constructor
  · intro hspelt
    obtain ⟨a, _, _, ⟨hwritable, rfl⟩, ⟨⟨hknown, rfl⟩, hothers, rfl⟩, rfl⟩ := hspelt
    exact ⟨hknown, writable_cons.mpr ⟨hwritable, hothers⟩, rfl⟩
  · intro hspelt
    obtain ⟨hknown, hall, hbytes⟩ := hspelt
    obtain ⟨hwritable, hothers⟩ := writable_cons.mp hall
    rw [bytes_cons] at hbytes
    exact ⟨field r, _, _, ⟨hwritable, rfl⟩, ⟨⟨hknown, rfl⟩, hothers, rfl⟩, hbytes⟩

end Layout

theorem Decoder.ofBuffer_ok_iff {decoder : Decoder ρ} {buffer : Bytes} {r : ρ} :
    decoder.ofBuffer buffer = .ok r ↔ ∃ s, decoder (.ofBytes buffer) = .ok r s := by
  unfold ofBuffer
  cases h : decoder (.ofBytes buffer) with
  | ok value s => simp
  | error e s => simp

/-- **Writing a record and reading it back.**  A record that reads back is written, and is read
off its bytes whatever stands behind them.  What is read off a buffer is such a record, and is
written in just the bytes that reading it took. -/
structure RoundTrips (decoder : Decoder ρ) (encode : ρ → Except WireError Bytes)
    (Writable : ρ → Prop) : Prop where
  read_back : ∀ r, Writable r → ∀ trailing,
    ∃ bytes, encode r = .ok bytes ∧ decoder.ofBuffer (bytes ++ trailing) = .ok r
  written_back : ∀ buffer r, decoder.ofBuffer buffer = .ok r →
    Writable r ∧ ∃ bytes rest, encode r = .ok bytes ∧ buffer = bytes ++ rest ∧
      decoder (.ofBytes buffer) = .ok r (.ofBytes rest)

/-- **Two ways that keep to one layout** agree. -/
theorem RoundTrips.of_layout {decoder : Decoder ρ} {encode : ρ → Except WireError Bytes}
    {layout : Layout ρ} {Writable : ρ → Prop} (hreads : layout.Reads decoder fun _ => True)
    (hwrites : ∀ {r}, Writable r → encode r = .ok (layout.bytes r))
    (hwritable : ∀ {r}, layout.Writable r ↔ Writable r) :
    RoundTrips decoder encode Writable where
  read_back r hr trailing := by
    refine ⟨layout.bytes r, hwrites hr, Decoder.ofBuffer_ok_iff.mpr ⟨.ofBytes trailing, ?_⟩⟩
    apply (hreads _ _ _).mpr
    exact ⟨_, trailing, ⟨trivial, hwritable.mpr hr, rfl⟩, rfl, rfl⟩
  written_back buffer r h := by
    obtain ⟨s, hread⟩ := Decoder.ofBuffer_ok_iff.mp h
    obtain ⟨_, rest, ⟨-, hr, rfl⟩, hbuffer, rfl⟩ := (hreads _ _ _).mp hread
    exact ⟨hwritable.mp hr, _, rest, hwrites (hwritable.mp hr), hbuffer, hread⟩

/-- True of texts that read back: none holds the character of number zero. -/
def Text.Plain (texts : List String) : Prop := ∀ text ∈ texts, '\x00' ∉ text.toList

instance (texts : List String) : Decidable (Text.Plain texts) :=
  inferInstanceAs (Decidable (∀ text ∈ texts, '\x00' ∉ text.toList))

namespace DeviceInfo

/-- True of device information that reads back. -/
def Writable (d : DeviceInfo) : Prop :=
  Text.Plain [d.vendorExtensionDesc, d.manufacturer, d.model, d.deviceVersion,
    d.serialNumber] ∧
  ∀ codes ∈ [d.operationsSupported, d.eventsSupported, d.devicePropertiesSupported,
      d.captureFormats, d.imageFormats], codes.length < LittleEndian.span 4

instance (d : DeviceInfo) : Decidable d.Writable := inferInstanceAs (Decidable (_ ∧ _))

/-- The fields of device information. -/
def layout : Layout DeviceInfo :=
  [.uint16 standardVersion, .uint32 vendorExtensionId, .uint16 vendorExtensionVersion,
    .text vendorExtensionDesc, .uint16 functionalMode, .codes operationsSupported,
    .codes eventsSupported, .codes devicePropertiesSupported, .codes captureFormats,
    .codes imageFormats, .text manufacturer, .text model, .text deviceVersion,
    .text serialNumber]

theorem reads_decoder : layout.Reads decoder fun _ => True := by
  refine .slot Slot.reads_uint16 fun standardVersion => ?_
  refine .slot Slot.reads_uint32 fun vendorExtensionId => ?_
  refine .slot Slot.reads_uint16 fun vendorExtensionVersion => ?_
  refine .slot Text.reads_decoder fun vendorExtensionDesc => ?_
  refine .slot Slot.reads_uint16 fun functionalMode => ?_
  refine .slot Slot.reads_codes fun operationsSupported => ?_
  refine .slot Slot.reads_codes fun eventsSupported => ?_
  refine .slot Slot.reads_codes fun devicePropertiesSupported => ?_
  refine .slot Slot.reads_codes fun captureFormats => ?_
  refine .slot Slot.reads_codes fun imageFormats => ?_
  refine .slot Text.reads_decoder fun manufacturer => ?_
  refine .slot Text.reads_decoder fun model => ?_
  refine .slot Text.reads_decoder fun deviceVersion => ?_
  refine .slot Text.reads_decoder fun serialNumber => ?_
  apply Layout.reads_made
  intro d
  cases d
  simp [and_assoc]

theorem writable_layout {d : DeviceInfo} : layout.Writable d ↔ d.Writable := by
  simp only [layout, Layout.writable_cons, Layout.writable_nil, Slot.of_writable, Writable,
    Text.Plain, List.forall_mem_cons, List.not_mem_nil]
  grind

theorem encodeCodes_of_fits {codes : List UInt16} (h : codes.length < LittleEndian.span 4) :
    encodeCodes codes = .ok (Sequence.encode encodeUInt16 codes) := if_pos h

theorem encode_eq {d : DeviceInfo} (h : d.Writable) : d.encode = .ok (layout.bytes d) := by
  obtain ⟨-, hcodes⟩ := h
  simp only [List.forall_mem_cons] at hcodes
  obtain ⟨hoperations, hevents, hproperties, hcapture, himage, -⟩ := hcodes
  simp [encode, encodeCodes_of_fits hoperations, encodeCodes_of_fits hevents,
    encodeCodes_of_fits hproperties, encodeCodes_of_fits hcapture, encodeCodes_of_fits himage,
    bind, Except.bind, pure, Except.pure, layout]

end DeviceInfo

namespace StorageInfo

/-- True of storage information that reads back. -/
def Writable (s : StorageInfo) : Prop := Text.Plain [s.storageDescription, s.volumeLabel]

instance (s : StorageInfo) : Decidable s.Writable := inferInstanceAs (Decidable (Text.Plain _))

/-- The fields of storage information. -/
def layout : Layout StorageInfo :=
  [.uint16 storageType, .uint16 filesystemType, .uint16 accessCapability, .uint64 maxCapacity,
    .uint64 freeSpaceInBytes, .uint32 freeSpaceInImages, .text storageDescription,
    .text volumeLabel]

theorem reads_decoder : layout.Reads decoder fun _ => True := by
  refine .slot Slot.reads_uint16 fun storageType => ?_
  refine .slot Slot.reads_uint16 fun filesystemType => ?_
  refine .slot Slot.reads_uint16 fun accessCapability => ?_
  refine .slot Slot.reads_uint64 fun maxCapacity => ?_
  refine .slot Slot.reads_uint64 fun freeSpaceInBytes => ?_
  refine .slot Slot.reads_uint32 fun freeSpaceInImages => ?_
  refine .slot Text.reads_decoder fun storageDescription => ?_
  refine .slot Text.reads_decoder fun volumeLabel => ?_
  apply Layout.reads_made
  intro s
  cases s
  simp [and_assoc]

theorem writable_layout {s : StorageInfo} : layout.Writable s ↔ s.Writable := by
  simp [layout, Writable, Text.Plain]

theorem encode_eq {s : StorageInfo} : s.encode = .ok (layout.bytes s) := by
  simp [encode, layout]

end StorageInfo

namespace ObjectInfo

/-- True of object information that reads back. -/
def Writable (o : ObjectInfo) : Prop :=
  Text.Plain [o.filename, o.captureDate, o.modificationDate, o.keywords]

instance (o : ObjectInfo) : Decidable o.Writable := inferInstanceAs (Decidable (Text.Plain _))

/-- The fields of object information. -/
def layout : Layout ObjectInfo :=
  [.uint32 storageId, .uint16 objectFormat, .uint16 protectionStatus,
    .uint32 objectCompressedSize, .uint16 thumbFormat, .uint32 thumbCompressedSize,
    .uint32 thumbPixWidth, .uint32 thumbPixHeight, .uint32 imagePixWidth,
    .uint32 imagePixHeight, .uint32 imageBitDepth, .uint32 parentObject,
    .uint16 associationType, .uint32 associationDesc, .uint32 sequenceNumber, .text filename,
    .text captureDate, .text modificationDate, .text keywords]

theorem reads_decoder : layout.Reads decoder fun _ => True := by
  refine .slot Slot.reads_uint32 fun storageId => ?_
  refine .slot Slot.reads_uint16 fun objectFormat => ?_
  refine .slot Slot.reads_uint16 fun protectionStatus => ?_
  refine .slot Slot.reads_uint32 fun objectCompressedSize => ?_
  refine .slot Slot.reads_uint16 fun thumbFormat => ?_
  refine .slot Slot.reads_uint32 fun thumbCompressedSize => ?_
  refine .slot Slot.reads_uint32 fun thumbPixWidth => ?_
  refine .slot Slot.reads_uint32 fun thumbPixHeight => ?_
  refine .slot Slot.reads_uint32 fun imagePixWidth => ?_
  refine .slot Slot.reads_uint32 fun imagePixHeight => ?_
  refine .slot Slot.reads_uint32 fun imageBitDepth => ?_
  refine .slot Slot.reads_uint32 fun parentObject => ?_
  refine .slot Slot.reads_uint16 fun associationType => ?_
  refine .slot Slot.reads_uint32 fun associationDesc => ?_
  refine .slot Slot.reads_uint32 fun sequenceNumber => ?_
  refine .slot Text.reads_decoder fun filename => ?_
  refine .slot Text.reads_decoder fun captureDate => ?_
  refine .slot Text.reads_decoder fun modificationDate => ?_
  refine .slot Text.reads_decoder fun keywords => ?_
  apply Layout.reads_made
  intro o
  cases o
  simp [and_assoc]

theorem writable_layout {o : ObjectInfo} : layout.Writable o ↔ o.Writable := by
  simp [layout, Writable, Text.Plain]

theorem encode_eq {o : ObjectInfo} : o.encode = .ok (layout.bytes o) := by
  simp [encode, layout]

end ObjectInfo

/-- **Every dataset round-trips.**  Device, storage and object information without the character
of number zero in its texts, and with arrays that their count fields can tell, is read back from
the bytes that it is written in, whatever follows; and only such information is read, each time
from just the bytes that it is written in. -/
theorem datasets_round_trip :
    RoundTrips DeviceInfo.decoder DeviceInfo.encode DeviceInfo.Writable ∧
      RoundTrips StorageInfo.decoder StorageInfo.encode StorageInfo.Writable ∧
      RoundTrips ObjectInfo.decoder ObjectInfo.encode ObjectInfo.Writable := by
  refine ⟨?device, ?storage, ?object⟩
  case device =>
    exact .of_layout DeviceInfo.reads_decoder DeviceInfo.encode_eq DeviceInfo.writable_layout
  case storage =>
    exact .of_layout StorageInfo.reads_decoder (fun _ => StorageInfo.encode_eq)
      StorageInfo.writable_layout
  case object =>
    exact .of_layout ObjectInfo.reads_decoder (fun _ => ObjectInfo.encode_eq)
      ObjectInfo.writable_layout

-- A label that holds the character of number zero would be cut off there.
example : StorageInfo.Writable ⟨4, 2, 0, 0, 0, 0, "card", "DCIM"⟩ ∧
    ¬ StorageInfo.Writable ⟨4, 2, 0, 0, 0, 0, "card", "DC\x00IM"⟩ := by decide

end PictureTransfer
