import PictureTransfer.Proofs.Dataset.Parts
import PictureTransfer.Proofs.Dataset.RoundTrip
import PictureTransfer.Proofs.Wire.Steadiness

/-!
# Datasets that are cut off

The bytes of a dataset can stop short in the middle of anything: a number, the count of an array,
one of its elements, a unit, a pair of surrogates.  Wherever that is, the reader comes to the end
of the buffer there, and neither makes a record of what it has nor finds anything else wrong with
it.

* `Decoder.steady_inherited` — what datasets are read with is steady, and so are they;
* `EndsEarly.of_layout` — so less than a record comes to the end of the buffer;
* `datasets_cut_off` — for the three datasets.
-/

namespace PictureTransfer

/-- **What datasets are read with** is steady. -/
theorem Decoder.steady_inherited : Inherited Steady where
  pure := steady_pure
  bind := Steady.bind
  natural width what _ := steady_natural width what
  units := Text.steady_units
  invalid := steady_throw .invalidUtf16

variable {ρ : Type}

/-- A record is written, and of less than its bytes none is read, but the end of the buffer is
met. -/
def EndsEarly (decoder : Decoder ρ) (encode : ρ → Except WireError Bytes)
    (Writable : ρ → Prop) : Prop :=
  ∀ r, Writable r → ∃ bytes, encode r = .ok bytes ∧
    ∀ cut, cut <+: bytes → cut ≠ bytes →
      ∃ what, decoder.ofBuffer cut = .error (.endOfStream what)

theorem EndsEarly.of_layout {decoder : Decoder ρ} {encode : ρ → Except WireError Bytes}
    {layout : Layout ρ} {Writable : ρ → Prop} (hsteady : decoder.Steady)
    (hreads : layout.Reads decoder fun _ => True)
    (hwrites : ∀ {r}, Writable r → encode r = .ok (layout.bytes r))
    (hwritable : ∀ {r}, layout.Writable r ↔ Writable r) :
    EndsEarly decoder encode Writable := by
  intro r hr
  refine ⟨layout.bytes r, hwrites hr, ?_⟩
  intro cut hcut hne
  have hwhole : decoder (.ofBytes (layout.bytes r)) = .ok r (.ofBytes []) := by
    apply (hreads _ _ _).mpr
    exact ⟨_, [], ⟨trivial, hwritable.mpr hr, rfl⟩, (List.append_nil _).symm, rfl⟩
  obtain ⟨what, s, hread⟩ := hsteady.cut_off hwhole hcut hne
  exact ⟨what, by rw [Decoder.ofBuffer, hread]⟩

/-- **Datasets that are cut off** come to the end of their buffer.  Of device, storage or object
information without the character of number zero in its texts, and with arrays that their count
fields can tell, all bytes but some at the end make no record: reading them meets the end, and no
other error, wherever they stop. -/
theorem datasets_cut_off :
    EndsEarly DeviceInfo.decoder DeviceInfo.encode DeviceInfo.Writable ∧
      EndsEarly StorageInfo.decoder StorageInfo.encode StorageInfo.Writable ∧
      EndsEarly ObjectInfo.decoder ObjectInfo.encode ObjectInfo.Writable := by
  have hsteady := Decoder.steady_inherited
  refine ⟨?device, ?storage, ?object⟩
  case device =>
    exact .of_layout hsteady.deviceInfo DeviceInfo.reads_decoder DeviceInfo.encode_eq
      DeviceInfo.writable_layout
  case storage =>
    exact .of_layout hsteady.storageInfo StorageInfo.reads_decoder
      (fun _ => StorageInfo.encode_eq) StorageInfo.writable_layout
  case object =>
    exact .of_layout hsteady.objectInfo ObjectInfo.reads_decoder
      (fun _ => ObjectInfo.encode_eq) ObjectInfo.writable_layout

end PictureTransfer
