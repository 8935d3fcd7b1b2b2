import PictureTransfer.Proofs.Wire.Counting
import PictureTransfer.Proofs.Wire.Lettering
import PictureTransfer.Wire.Field

/-!
# Buffers of fields

A buffer holds fields of any kinds one behind the other and nothing that tells them
apart.  A reader that asks for the shapes of the fields in the order in which they were
written is given each of them back, wherever the buffer goes on behind them: every
shape takes just the bytes of its own field, so the reader is never out of place.

* `Writer.bytes_putAll` — what is written is the fields one behind the other;
* `Field.decoder_shape` — the shape of a field reads the field and leaves what follows;
* `Reader.step_shape` — one step of a reader, `Reader.past_shapes` — a run of them,
  `Reader.step_behind` — one step behind a run;
* `Reader.fields_read_back` — whatever fields were written are read back.
-/

namespace PictureTransfer

namespace Field

/-- The shape that a field is read back with. -/
def shape : Field → Shape
  | integer t _ => .integer t
  | text _ => .text
  | array t _ => .array t
  | raw bytes => .skip bytes.length

/-- What reading a field gives back: its value, and nothing of bytes that are only passed
over. -/
def value : (field : Field) → field.shape.Value
  | integer _ value => value
  | text value => value
  | array _ value => value
  | raw _ => ()

/-- True of a field that can be read back: a text ends at its first character of number
zero. -/
def Readable : Field → Prop
  | text value => '\x00' ∉ value.toList
  | integer .. | array .. | raw _ => True

instance : DecidablePred Readable
  | text value => inferInstanceAs (Decidable ('\x00' ∉ value.toList))
  | integer .. | array .. | raw _ => inferInstanceAs (Decidable True)

/-- **The shape of a field reads the field** and leaves what stands behind it. -/
theorem decoder_shape {field : Field} (h : field.Readable) {s : Source} {rest : Bytes}
    (hqueued : s.queued = field.encode ++ rest) :
    field.shape.decoder s = .ok field.value { s with queued := rest } := by
  cases field with
  | integer t value => exact (WireInt.reads_decoder t _ _ _).mpr ⟨_, rest, rfl, hqueued, rfl⟩
  | text value => exact (Text.reads_decoder _ _ _).mpr ⟨_, rest, ⟨h, rfl⟩, hqueued, rfl⟩
  | array t value => exact (WireArray.reads_decoder t _ _ _).mpr ⟨_, rest, rfl, hqueued, rfl⟩
  | raw bytes => exact (Decoder.reads_skip bytes.length _ _ _).mpr ⟨_, rest, rfl, hqueued, rfl⟩

end Field

/-- What is written is the fields one behind the other. -/
theorem Writer.bytes_putAll (w : Writer) (fields : List Field) :
    (w.putAll fields).bytes = w.bytes ++ fields.flatMap Field.encode := by
  induction fields generalizing w with
  | nil => simp [putAll]
  | cons field fields ih =>
      have hfirst : (w.putAll (field :: fields)).bytes = ((w.put field).putAll fields).bytes := rfl
      rw [hfirst, ih, put, List.flatMap_cons, List.append_assoc]

namespace Reader

/-- The reader behind shapes that were asked for one after the other, whatever came of
them. -/
def past (r : Reader) (shapes : List Shape) : Reader :=
  shapes.foldl (fun r shape => (r.step shape).2) r

/-- The second reader is the first with some bytes more read. -/
structure Took (bytes : Bytes) (r r' : Reader) : Prop where
  position : r'.position = r.position + bytes.length
  rest : r.rest = bytes ++ r'.rest

theorem Took.refl (r : Reader) : Took [] r r := ⟨rfl, rfl⟩

theorem Took.append {bytes more : Bytes} {r middle r' : Reader} (h : Took bytes r middle)
    (hmore : Took more middle r') : Took (bytes ++ more) r r' where
  position := by rw [hmore.position, h.position, List.length_append, Nat.add_assoc]
  rest := by rw [h.rest, hmore.rest, List.append_assoc]

variable {r r' : Reader} {rest : Bytes}

/-- What is left when bytes were read off the front of the rest. -/
theorem Took.left {bytes : Bytes} (h : Took bytes r r') (hrest : r.rest = bytes ++ rest) :
    r'.rest = rest :=
  List.append_cancel_left (h.rest.symm.trans hrest)

/-- A reader with only the end of its rest to go has read what stands before it. -/
theorem took_leave {bytes : Bytes} (hrest : r.rest = bytes ++ rest) :
    Took bytes r (r.leave rest.length) := by
  have hbound := r.position_le
  have hlength : r.buffer.length - r.position = bytes.length + rest.length := by
    have hcount := congrArg List.length hrest
    rwa [Reader.rest, List.length_drop, List.length_append] at hcount
  have hposition : r.buffer.length - rest.length = r.position + bytes.length := by omega
  refine ⟨hposition, ?_⟩
  have hdrop : r.buffer.drop (r.position + bytes.length) = rest := by
    rw [← List.drop_drop]
    exact (congrArg (List.drop bytes.length) hrest).trans (List.drop_left' rfl)
  rw [hrest]
  exact congrArg (bytes ++ ·) (hposition ▸ hdrop).symm

variable {field : Field} {fields : List Field}

/-- **One step**: the shape of the field that comes next gives it back. -/
theorem step_shape (h : field.Readable) (hrest : r.rest = field.encode ++ rest) :
    (r.step field.shape).1 = .ok field.value ∧ Took field.encode r (r.step field.shape).2 := by
  have hread := Field.decoder_shape (s := .ofBytes r.rest) h hrest
  have hstep : r.step field.shape = (.ok field.value, r.leave rest.length) := by
    unfold step
    rw [hread]
  rw [hstep]
  exact ⟨rfl, took_leave hrest⟩

/-- **A run of steps**: the shapes of the fields that come next take just these fields. -/
theorem past_shapes (h : ∀ field ∈ fields, field.Readable)
    (hrest : r.rest = fields.flatMap Field.encode ++ rest) :
    Took (fields.flatMap Field.encode) r (r.past (fields.map Field.shape)) := by
  induction fields generalizing r with
  | nil => exact .refl r
  | cons field fields ih =>
      obtain ⟨hfirst, hothers⟩ := List.forall_mem_cons.mp h
      rw [List.flatMap_cons, List.append_assoc] at hrest
      have hstep := (step_shape hfirst hrest).2
      rw [List.flatMap_cons]
      exact hstep.append (ih hothers (hstep.left hrest))

/-- **One step behind others**: the shapes of the fields in front lead to the field. -/
theorem step_behind {front back : List Field} (h : ∀ f ∈ front ++ field :: back, f.Readable)
    (hrest : r.rest = (front ++ field :: back).flatMap Field.encode ++ rest) :
    let step := (r.past (front.map Field.shape)).step field.shape
    step.1 = .ok field.value ∧ Took ((front ++ [field]).flatMap Field.encode) r step.2 := by
  obtain ⟨hfront, hthis, -⟩ := List.forall_mem_append.mp h |>.imp_right List.forall_mem_cons.mp
  have hahead : r.rest = front.flatMap Field.encode ++
      (field.encode ++ (back.flatMap Field.encode ++ rest)) := by
    rw [hrest]
    simp
  have hpast := past_shapes hfront hahead
  obtain ⟨hvalue, hstep⟩ := step_shape hthis (hpast.left hahead)
  have hboth := hpast.append hstep
  exact ⟨hvalue, by simpa using hboth⟩

/-- **Whatever fields were written are read back.**  Asked for the shapes of the fields in
order, the reader of a buffer that begins with them gives back each one of them, and stands
behind it where the writer stood when it had written it; behind the last one it has just the
rest of the buffer to go. -/
theorem fields_read_back (fields : List Field) (h : ∀ field ∈ fields, field.Readable)
    (rest : Bytes) :
    let reader := ofBytes ((Writer.putAll {} fields).bytes ++ rest)
    (∀ front field back, fields = front ++ field :: back →
      let step := (reader.past (front.map Field.shape)).step field.shape
      step.1 = .ok field.value ∧
        step.2.position = (Writer.putAll {} (front ++ [field])).bytes.length) ∧
    (reader.past (fields.map Field.shape)).rest = rest := by
  intro reader
  have hwritten : ∀ fields, (Writer.putAll {} fields).bytes = fields.flatMap Field.encode :=
    fun fields => Writer.bytes_putAll {} fields
  have hreader : reader.rest = fields.flatMap Field.encode ++ rest :=
    congrArg (· ++ rest) (hwritten fields)
  refine ⟨?_, (past_shapes h hreader).left hreader⟩
  intro front field back hfields
  subst hfields
  obtain ⟨hvalue, hstep⟩ := step_behind h hreader
  refine ⟨hvalue, ?_⟩
  rw [hwritten, hstep.position]
  exact Nat.zero_add _

/-- A negative number, a text beyond the first plane, an array and bytes of no type. -/
def mixed : List Field :=
  [.integer ⟨true, .two⟩ (.minimum _), .text "R5 📷",
    .array .uint16 ⟨[.zero _, .maximum _], by decide⟩, .raw [1, 2, 3]]

/-- They are read back in front of two bytes that are left. -/
theorem fields_read_back_mixed :
    (∀ field ∈ mixed, field.Readable) ∧
      let reader := ofBytes ((Writer.putAll {} mixed).bytes ++ [0xAA, 0xBB])
      (∀ front field back, mixed = front ++ field :: back →
        let step := (reader.past (front.map Field.shape)).step field.shape
        step.1 = .ok field.value ∧
          step.2.position = (Writer.putAll {} (front ++ [field])).bytes.length) ∧
      (reader.past (mixed.map Field.shape)).rest = [0xAA, 0xBB] := by
  have hreadable : ∀ field ∈ mixed, field.Readable := by decide +kernel
  exact ⟨hreadable, fields_read_back mixed hreadable [0xAA, 0xBB]⟩

end Reader

end PictureTransfer
