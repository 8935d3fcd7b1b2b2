import PictureTransfer.Wire.Integer

/-!
# Counted sequences

An array travels as the count of its elements in four bytes and then the
elements.  The count is taken at its word: a source that ends before the last
element fails the whole array.

* `WireArray.fits`, a field of the type — an array has no more elements than
  its count field can tell;
* `WireArray.length_toBytes` — an array takes its count field and the bytes of
  its elements.
-/

namespace PictureTransfer

namespace Sequence

variable {α : Type}

/-- The count of the elements and the elements, each as `element` writes it.
The count field holds lengths below `2 ^ 32`. -/
def encode (element : α → Bytes) (xs : List α) : Bytes :=
  LittleEndian.encode 4 xs.length ++ xs.flatMap element

/-- A given count of elements, one after the other. -/
def repeated (element : Decoder α) : Nat → Decoder (List α)
  | 0 => pure []
  | n + 1 => do
      let x ← element
      let xs ← repeated element n
      pure (x :: xs)

/-- The count of the elements, then that many of them. -/
def decoder (element : Decoder α) : Decoder (List α) := do
  let count ← Decoder.natural 4 "array count"
  repeated element count

/-- Elements of one size take that size each behind the count. -/
theorem length_encode {element : α → Bytes} {size : Nat}
    (h : ∀ x, (element x).length = size) (xs : List α) :
    (encode element xs).length = 4 + xs.length * size := by
  have hbody : (xs.flatMap element).length = xs.length * size := by
    induction xs with
    | nil => simp
    | cons x xs ih =>
        rw [List.flatMap_cons, List.length_append, h, ih, List.length_cons, Nat.succ_mul]
        omega
  rw [encode, List.length_append, LittleEndian.length_encode, hbody]

end Sequence

/-- An array of values of one integer type, with no more elements than its count
field can tell. -/
structure WireArray (t : IntType) where
  items : List (WireInt t)
  fits : items.length < LittleEndian.span 4
  deriving DecidableEq

namespace WireArray

variable {t : IntType}

@[ext] theorem ext {a b : WireArray t} (h : a.items = b.items) : a = b := by
  cases a
  cases b
  simp_all

/-- The array of some values, unless there are too many of them. -/
def ofItems (items : List (WireInt t)) : Except WireError (WireArray t) :=
  if h : items.length < LittleEndian.span 4 then .ok ⟨items, h⟩
  else .error (.tooManyElements items.length)

/-- The bytes of an array. -/
def toBytes (a : WireArray t) : Bytes := Sequence.encode WireInt.toBytes a.items

/-- The count of bytes that an array takes. -/
def encodedLength (a : WireArray t) : Nat := 4 + a.items.length * t.bytes

/-- Reads an array off a source.  There are never too many elements, since their
count was read from four bytes. -/
def decoder (t : IntType) : Decoder (WireArray t) := do
  match ofItems (← Sequence.decoder (WireInt.decoder t)) with
  | .ok a => pure a
  | .error e => throw e

/-- The array at the start of a byte string; what follows it is ignored. -/
def ofBytes (t : IntType) (bytes : Bytes) : Except WireError (WireArray t) :=
  match decoder t (.ofBytes bytes) with
  | .ok a _ => .ok a
  | .error e _ => .error e

@[simp] theorem length_toBytes (a : WireArray t) : a.toBytes.length = a.encodedLength :=
  Sequence.length_encode WireInt.length_toBytes a.items

/-- The elements in order, each behind the name of its type. -/
def shown (a : WireArray t) : String :=
  "PtpArray \x7b items: [" ++ String.intercalate ", " (a.items.map WireInt.shown) ++ "] \x7d"

end WireArray

end PictureTransfer
