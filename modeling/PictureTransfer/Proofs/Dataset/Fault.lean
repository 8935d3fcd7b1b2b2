import PictureTransfer.Proofs.Dataset.Parts
import PictureTransfer.Proofs.Packet.Fault
import PictureTransfer.Proofs.Wire.Streaming

/-!
# What goes wrong with data

The data of a transaction is read once its packets are all there, off a source of its
bytes that does not fail.  Data that does not read is an error of its own, which nobody
can take for a packet that was cut off or for a connection that failed:
`Decoder.FailsInData`.

* `Decoder.failsInData_natural` — a number that is cut off says so by its own
  name;
* `Decoder.failsInData_inherited` — nor does a whole dataset say anything else;
* `WireError.OfData.isFatal_iff` — what passes for fatal all the same is data that ended
  early.
-/

namespace PictureTransfer

/-- An error of data: neither a packet that was cut off nor a connection that failed. -/
structure WireError.OfData (cause : WireError) : Prop where
  inStep : (Error.wire cause).breaksStep = false
  noFault : ∀ fault, cause ≠ .io fault

/-- Of the errors of data, just the early end is one of those that are fatal. -/
theorem WireError.OfData.isFatal_iff {cause : WireError} (h : cause.OfData) :
    cause.isFatal = true ↔ ∃ what, cause = .endOfStream what := by
  cases cause with
  | endOfStream what => exact iff_of_true rfl ⟨what, rfl⟩
  | io fault => exact absurd rfl (h.noFault fault)
  | _ => simp [isFatal]

namespace Decoder

variable {α β : Type}

/-- Off a source that does not fail, the decoder reports errors of data only. -/
abbrev FailsInData (decoder : Decoder α) : Prop :=
  StepSafe (fun s : Source => s.fault = none) WireError.OfData decoder

/-- A name that is not one of the two parts of a packet. -/
abbrev NamesData (what : String) : Prop := what ≠ "packet header" ∧ what ≠ "packet payload"

theorem failsInData_exactly (n : Nat) {what : String} (hname : NamesData what) :
    FailsInData (exactly n what) where
  ok hfree h := by
    rw [exactly_eq] at h
    split at h
    · obtain ⟨-, rfl⟩ := EStateM.Result.ok.inj h
      exact hfree
    · simp at h
  error {s _ e} hfree h := by
    rw [exactly_eq, shortfall_of_end what (by simp [hfree])] at h
    split at h
    · simp at h
    · obtain ⟨rfl, -⟩ := EStateM.Result.error.inj h
      exact ⟨by simp [Error.breaksStep, hname.1, hname.2], by simp⟩

theorem failsInData_natural (width : Nat) {what : String} (hname : NamesData what) :
    FailsInData (natural width what) :=
  (failsInData_exactly width hname).bind fun _ => .pure _

end Decoder

open Decoder

namespace Text

/-- The units of a string that is cut off. -/
theorem failsInData_units : FailsInData units where
  ok hfree h := by
    obtain ⟨-, rest, -, rfl⟩ := units_ok h
    exact hfree
  error {s _ _} hfree h := by
    by_cases hzero : 0 ∈ unitsOfBytes s.queued
    · simp [units_of_zero hzero] at h
    · rw [units_of_no_zero hzero, shortfall_of_end "string" (by simp [hfree])] at h
      obtain ⟨rfl, -⟩ := EStateM.Result.error.inj h
      exact ⟨by simp [Error.breaksStep], by simp⟩

end Text

/-- **What datasets are read with** fails with errors of data only, and so do they. -/
theorem Decoder.failsInData_inherited : Inherited FailsInData where
  pure a := .pure a
  bind hfirst hnext := hfirst.bind hnext
  natural width what hwhat := by
    have hnames : ∀ what ∈ datasetNumbers, NamesData what := by decide
    exact failsInData_natural width (hnames what hwhat)
  units := Text.failsInData_units
  invalid := .throw ⟨rfl, by simp⟩

/-- A buffer that does not read. -/
theorem Decoder.ofBuffer_error {α : Type} {decoder : Decoder α} (h : FailsInData decoder)
    {buffer : Bytes} {cause : WireError} (hbuffer : decoder.ofBuffer buffer = .error cause) :
    cause.OfData := by
  unfold ofBuffer at hbuffer
  split at hbuffer
  · simp at hbuffer
  · rename_i hdecode
    simp only [Except.error.injEq] at hbuffer
    exact h.error rfl (hbuffer ▸ hdecode)

end PictureTransfer
