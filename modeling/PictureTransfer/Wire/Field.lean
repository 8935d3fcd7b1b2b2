import PictureTransfer.Wire.Sequence
import PictureTransfer.Wire.Text

/-!
# Writing and reading fields in order

A data buffer is a run of fields without tags.  `Writer` puts fields one after
the other; `Reader` takes shapes off a buffer one after the other, and can go
on after a shape that failed.

* `Reader.position_le`, a field of the type — the position stays in the buffer;
* `Reader.position_add_remaining` — what is read and what remains make up the
  buffer.
-/

namespace PictureTransfer

/-- A value to be written. -/
inductive Field where
  | integer (t : IntType) (value : WireInt t)
  | text (value : String)
  | array (t : IntType) (value : WireArray t)
  | raw (bytes : Bytes)

/-- The bytes of a field. -/
def Field.encode : Field → Bytes
  | integer _ value => value.toBytes
  | text value => Text.encode value
  | array _ value => value.toBytes
  | raw bytes => bytes

/-- What a reader may ask for. -/
inductive Shape where
  | integer (t : IntType)
  | text
  | array (t : IntType)
  /-- Passes over a count of bytes. -/
  | skip (n : Nat)
  /-- Looks at the unread bytes. -/
  | rest

/-- What a reader is given for a shape. -/
abbrev Shape.Value : Shape → Type
  | integer t => WireInt t
  | text => String
  | array t => WireArray t
  | skip _ => Unit
  | rest => Bytes

/-- How a shape is read. -/
def Shape.decoder : (shape : Shape) → Decoder shape.Value
  | integer t => WireInt.decoder t
  | text => Text.decoder
  | array t => WireArray.decoder t
  | skip n => Decoder.skip n
  | rest => Decoder.rest

/-- A buffer under construction. -/
structure Writer where
  bytes : Bytes := []

/-- Puts a field behind what is written. -/
def Writer.put (w : Writer) (field : Field) : Writer := ⟨w.bytes ++ field.encode⟩

/-- Puts fields in order. -/
def Writer.putAll (w : Writer) (fields : List Field) : Writer := fields.foldl Writer.put w

/-- A buffer and how far it has been read. -/
structure Reader where
  buffer : Bytes
  position : Nat
  position_le : position ≤ buffer.length

namespace Reader

/-- A buffer of which nothing has been read. -/
def ofBytes (buffer : Bytes) : Reader := ⟨buffer, 0, Nat.zero_le _⟩

/-- The unread bytes. -/
def rest (r : Reader) : Bytes := r.buffer.drop r.position

/-- The count of unread bytes. -/
def remaining (r : Reader) : Nat := r.buffer.length - r.position

theorem position_add_remaining (r : Reader) : r.position + r.remaining = r.buffer.length := by
  have := r.position_le
  simp only [remaining]
  omega

/-- The reader that has only `left` bytes to go. -/
def leave (r : Reader) (left : Nat) : Reader :=
  ⟨r.buffer, r.buffer.length - left, Nat.sub_le ..⟩

/-- Reads one shape.  A shape that fails still moves the position past the
bytes it used up. -/
def step (r : Reader) (shape : Shape) : Except WireError shape.Value × Reader :=
  match shape.decoder (.ofBytes r.rest) with
  | .ok value s => (.ok value, r.leave s.queued.length)
  | .error e s => (.error e, r.leave s.queued.length)

end Reader

end PictureTransfer
