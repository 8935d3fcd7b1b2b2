import PictureTransfer.Utf16
import PictureTransfer.Wire.Decoder

/-!
# Strings

A string travels as its UTF-16 units, two bytes each, and a zero unit that
ends it.  It carries no length, so a reader takes units until it meets zero.

* `length_encode` — a string takes two bytes a unit and two for the zero;
* `natural_shortens` — reading a number leaves fewer bytes, which is why
  reading units ends.
-/

namespace PictureTransfer.Text

/-- The bytes of units, two each. -/
def unitBytes (units : List Nat) : Bytes := units.flatMap (LittleEndian.encode 2)

/-- The bytes of a string, its closing zero included. -/
def encode (text : String) : Bytes := unitBytes (Utf16.encode text.toList ++ [0])

/-- The count of bytes that a string takes. -/
def encodedLength (text : String) : Nat := ((Utf16.encode text.toList).length + 1) * 2

theorem length_unitBytes (units : List Nat) : (unitBytes units).length = units.length * 2 := by
  induction units with
  | nil => rfl
  | cons u us ih =>
      simp only [unitBytes, List.flatMap_cons, List.length_append, LittleEndian.length_encode,
        List.length_cons] at ih ⊢
      omega

@[simp] theorem length_encode (text : String) : (encode text).length = encodedLength text := by
  simp [encode, encodedLength, length_unitBytes]

/-- A number that was read took its bytes off the source. -/
theorem natural_shortens {width : Nat} {what : String} {s s' : Source} {n : Nat}
    (h : Decoder.natural width what s = .ok n s') :
    s'.queued.length + width = s.queued.length := by
  rw [Decoder.natural_eq] at h
  split at h
  · simp only [EStateM.Result.ok.injEq] at h
    rw [← h.2]
    simp
    omega
  · simp at h

/-- The units up to the first zero, which is read too. -/
def units (s : Source) : EStateM.Result WireError Source (List Nat) :=
  match _h : Decoder.natural 2 "string" s with
  | .error e s' => .error e s'
  | .ok u s' =>
      if u = 0 then .ok [] s'
      else
        match units s' with
        | .error e s'' => .error e s''
        | .ok us s'' => .ok (u :: us) s''
termination_by s.queued.length
decreasing_by
  have := natural_shortens _h
  omega

/-- The text that units spell. -/
def ofUnits (us : List Nat) : Except WireError String :=
  match Utf16.decode us with
  | some text => .ok (String.ofList text)
  | none => .error .invalidUtf16

/-- Reads a string off a source, through its closing zero. -/
def decoder : Decoder String := do
  let us ← units
  match ofUnits us with
  | .ok text => pure text
  | .error e => throw e

/-- The units of a byte string of even length. -/
def unitsOfBytes : Bytes → List Nat
  | low :: high :: rest => LittleEndian.decode [low, high] :: unitsOfBytes rest
  | _ => []

/-- The string that fills a byte string: the last unit and no other is
zero. -/
def ofBytes (bytes : Bytes) : Except WireError String :=
  if bytes.length % 2 ≠ 0 then
    .error (.wrongLength "string" (bytes.length + 1) bytes.length)
  else
    let us := unitsOfBytes bytes
    let body := us.takeWhile (· ≠ 0)
    if body.length + 1 = us.length then ofUnits body else .error .missingTerminator

end PictureTransfer.Text
