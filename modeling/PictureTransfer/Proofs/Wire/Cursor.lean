import PictureTransfer.Proofs.Wire.Buffer
import PictureTransfer.Proofs.Wire.Extent
import PictureTransfer.Proofs.Wire.Streaming

/-!
# Where a reader stands

A reader may be asked for any shapes one after the other, and goes on after those that fail.
What a step came to says how far it led.  A value costs the bytes that spell it, which stand
in front of the reader.  Bytes that are too few to be passed over stay where they are, a string
that spells no text is passed over through its zero unit, and any other failure costs every byte
that is left.  So the reader never goes back, and never past the end of its buffer.

* `Shape.decoder_ok_iff` — a value is read just if bytes that spell it are next;
* `Shape.failed_of_decoder` — the three ways in which a step fails, and what each leaves;
* `Reader.lands_step` — one step, `Reader.past_onward` — a run of them;
* `Reader.steps_accounted` — any step behind any others.
-/

namespace PictureTransfer

namespace Shape

/-- The count of bytes that a value takes. -/
def width : (shape : Shape) → shape.Value → Nat
  | .integer t, _ => t.bytes
  | .text, value => Text.encodedLength value
  | .array t, value => 4 + value.items.length * t.bytes
  | .skip n, _ => n
  | .rest, _ => 0

/-- The bytes that spell a value to a reader that has some bytes to go.  A text ends at its zero
unit and nowhere before, and those who look at the unread bytes take none of them. -/
def Spells (unread : Bytes) : (shape : Shape) → shape.Value → Bytes → Prop
  | .integer _, value, bytes => bytes = value.toBytes
  | .text, value, bytes => '\x00' ∉ value.toList ∧ bytes = Text.encode value
  | .array _, value, bytes => bytes = value.toBytes
  | .skip n, _, bytes => bytes.length = n
  | .rest, value, bytes => value = unread ∧ bytes = []

variable {shape : Shape} {value : shape.Value} {unread bytes : Bytes} {s s' : Source} {e : WireError}

theorem Spells.length (h : shape.Spells unread value bytes) : bytes.length = shape.width value := by
  cases shape with
  | integer t =>
      obtain rfl : bytes = WireInt.toBytes value := h
      exact WireInt.length_toBytes value
  | text =>
      obtain ⟨-, rfl⟩ := h
      exact Text.length_encode value
  | array t =>
      obtain rfl : bytes = WireArray.toBytes value := h
      exact WireArray.length_toBytes value
  | skip n => exact h
  | rest =>
      obtain ⟨-, rfl⟩ := h
      rfl

/-- **A value is read** just if bytes that spell it are next, and these are taken. -/
theorem decoder_ok_iff : shape.decoder s = .ok value s' ↔
    ∃ bytes rest, shape.Spells s.queued value bytes ∧ s.queued = bytes ++ rest ∧
      s' = { s with queued := rest } := by
  cases shape with
  | integer t => exact WireInt.reads_decoder t s s' value
  | text => exact Text.reads_decoder s s' value
  | array t => exact WireArray.reads_decoder t s s' value
  | skip n => exact Decoder.reads_skip n s s' value
  | rest =>
      constructor
      · intro h
        obtain ⟨rfl, rfl⟩ := EStateM.Result.ok.inj h
        exact ⟨[], _, ⟨rfl, rfl⟩, rfl, rfl⟩
      · intro h
        obtain ⟨_, rest, ⟨rfl, rfl⟩, hqueued, rfl⟩ := h
        obtain rfl : s.queued = rest := hqueued
        rfl

/-- How a shape fails, and what is left of the source then. -/
inductive Failed (s : Source) : Shape → WireError → Source → Prop
  | short {n : Nat} (hshort : s.queued.length < n) :
      Failed s (.skip n) (.endOfStream "skipped bytes") s
  | invalid (hzero : 0 ∈ Text.unitsOfBytes s.queued)
      (hlone : ¬ Utf16.WellFormed (Text.spelling s.queued)) :
      Failed s .text .invalidUtf16 (Text.behind s)
  | ended {shape : Shape} (what : String) (hskip : ∀ n, shape ≠ .skip n) :
      Failed s shape (Decoder.shortfall what s) { s with queued := [], fault := none }

/-- **A failure** is one of the three. -/
theorem failed_of_decoder (h : shape.decoder s = .error e s') : Failed s shape e s' := by
  cases shape with
  | integer t =>
      by_cases hwhole : t.bytes ≤ s.queued.length
      · obtain ⟨v, hv⟩ := (WireInt.draws_decoder t).whole hwhole
        exact absurd (hv.symm.trans h) (by simp)
      · have hshort := (WireInt.draws_decoder t).short (by omega : s.queued.length < t.bytes)
        obtain ⟨rfl, rfl⟩ := EStateM.Result.error.inj (hshort.symm.trans h)
        exact .ended t.name (by simp)
  | text =>
      have hread := (Text.decoder_eq s).symm.trans h
      split at hread
      · next hzero =>
        split at hread
        · simp at hread
        · next hnone =>
          obtain ⟨rfl, rfl⟩ := EStateM.Result.error.inj hread
          refine .invalid hzero ?_
          rw [Utf16.wellFormed_iff, hnone]
          simp
      · obtain ⟨rfl, rfl⟩ := EStateM.Result.error.inj hread
        exact .ended "string" (by simp)
  | array t =>
      obtain ⟨rfl, rfl⟩ := WireArray.decoder_error h
      exact .ended _ (by simp)
  | skip n =>
      have hskip : Decoder.skip n s = .error e s' := h
      unfold Decoder.skip at hskip
      split at hskip
      · next hshort =>
        obtain ⟨rfl, rfl⟩ := EStateM.Result.error.inj hskip
        exact .short hshort
      · simp at hskip
  | rest => exact absurd h (by simp [decoder, Decoder.rest])

end Shape

namespace Reader

variable {r : Reader} {shape : Shape}

/-- The reader that has all of its rest to go has not moved. -/
theorem leave_rest (r : Reader) : r.leave r.rest.length = r := by
  have hbound := r.position_le
  have hposition : r.buffer.length - r.rest.length = r.position := by
    rw [rest, List.length_drop]
    omega
  cases r
  simp only [leave, mk.injEq, true_and]
  exact hposition

theorem step_of_ok {value : shape.Value} {s : Source}
    (h : shape.decoder (.ofBytes r.rest) = .ok value s) :
    r.step shape = (.ok value, r.leave s.queued.length) := by
  unfold step
  rw [h]

theorem step_of_error {e : WireError} {s : Source}
    (h : shape.decoder (.ofBytes r.rest) = .error e s) :
    r.step shape = (.error e, r.leave s.queued.length) := by
  unfold step
  rw [h]

/-- Where a step leaves a reader, by what came of it. -/
structure Lands (r : Reader) (shape : Shape) (outcome : Except WireError shape.Value)
    (r' : Reader) : Prop where
  buffer : r'.buffer = r.buffer
  spelt : ∀ value, outcome = .ok value ↔
    ∃ bytes, shape.Spells r.rest value bytes ∧ bytes <+: r.rest
  read : ∀ value, outcome = .ok value → r'.position = r.position + shape.width value
  short : ∀ n e, shape = .skip n → outcome = .error e → r' = r
  invalid : outcome = .error .invalidUtf16 → 0 ∈ Text.unitsOfBytes r.rest ∧
    r'.position = r.position + ((Text.spelling r.rest).length + 1) * 2
  ended : ∀ e, outcome = .error e → e ≠ .invalidUtf16 → (∀ n, shape ≠ .skip n) →
    r'.position = r.buffer.length

/-- A value leads past the bytes that spell it. -/
theorem lands_of_ok {value : shape.Value} {s : Source}
    (h : shape.decoder (.ofBytes r.rest) = .ok value s) :
    r.Lands shape (.ok value) (r.leave s.queued.length) := by
  obtain ⟨bytes, rest, hspelt, hrest, rfl⟩ := Shape.decoder_ok_iff.mp h
  have htook : Took bytes r (r.leave rest.length) := took_leave hrest
  constructor
  case buffer => rfl
  case spelt =>
    intro found
    constructor
    · intro hfound
      obtain rfl := Except.ok.inj hfound
      exact ⟨bytes, hspelt, rest, hrest.symm⟩
    · intro hnext
      obtain ⟨front, hfront, behind, hbehind⟩ := hnext
      have hsame := Shape.decoder_ok_iff (s := .ofBytes r.rest).mpr
        ⟨front, behind, hfront, hbehind.symm, rfl⟩
      rw [h] at hsame
      rw [(EStateM.Result.ok.inj hsame).1]
  case read =>
    intro found hfound
    obtain rfl := Except.ok.inj hfound
    rw [htook.position, hspelt.length]
  case short => simp
  case invalid => simp
  case ended => simp

/-- A failure leads nowhere, past the zero unit, or to the end. -/
theorem lands_of_error {e : WireError} {s : Source}
    (h : shape.decoder (.ofBytes r.rest) = .error e s) :
    r.Lands shape (.error e) (r.leave s.queued.length) := by
  have hfailed := Shape.failed_of_decoder h
  constructor
  case buffer => rfl
  case spelt =>
    intro value
    constructor
    · intro hvalue
      simp at hvalue
    · intro hnext
      obtain ⟨bytes, hspelt, rest, hrest⟩ := hnext
      have hread := Shape.decoder_ok_iff (s := .ofBytes r.rest).mpr
        ⟨bytes, rest, hspelt, hrest.symm, rfl⟩
      simp [h] at hread
  case read => simp
  case short =>
    rintro n _ rfl -
    cases hfailed with
    | short hshort => exact r.leave_rest
    | ended what hskip => exact absurd rfl (hskip n)
  case invalid =>
    intro hinvalid
    obtain rfl := Except.error.inj hinvalid
    cases hfailed with
    | invalid hzero hlone =>
        obtain ⟨-, hrest⟩ := Text.queued_eq hzero
        have htook := took_leave hrest
        refine ⟨hzero, ?_⟩
        rw [htook.position, Text.length_unitBytes, List.length_append, List.length_singleton]
        rfl
  case ended =>
    rintro _ hsame hvalid hskip
    obtain rfl := Except.error.inj hsame
    cases hfailed with
    | short hshort => exact absurd rfl (hskip _)
    | invalid hzero hlone => exact absurd rfl hvalid
    | ended what hskip => rfl

/-- **One step**, whatever comes of it. -/
theorem lands_step (r : Reader) (shape : Shape) :
    r.Lands shape (r.step shape).1 (r.step shape).2 := by
  cases h : shape.decoder (.ofBytes r.rest) with
  | ok value s =>
      rw [step_of_ok h]
      exact lands_of_ok h
  | error e s =>
      rw [step_of_error h]
      exact lands_of_error h

variable {r' : Reader} {outcome : Except WireError shape.Value}

/-- No step leads back. -/
theorem Lands.position_le (h : r.Lands shape outcome r') : r.position ≤ r'.position := by
  have hbound := r.position_le
  cases outcome with
  | ok value =>
      have hread := h.read value rfl
      omega
  | error e =>
      by_cases hskip : ∃ n, shape = .skip n
      · obtain ⟨n, hskip⟩ := hskip
        have hsame := congrArg position (h.short n e hskip rfl)
        omega
      · by_cases hinvalid : e = .invalidUtf16
        · subst hinvalid
          have hpast := (h.invalid rfl).2
          omega
        · have hended := h.ended e rfl hinvalid fun n hn => hskip ⟨n, hn⟩
          omega

theorem past_append (r : Reader) (shapes more : List Shape) :
    r.past (shapes ++ more) = (r.past shapes).past more :=
  List.foldl_append

/-- **A run of steps** leads back nowhere, in a buffer that stays the same. -/
theorem past_onward (r : Reader) (shapes : List Shape) :
    (r.past shapes).buffer = r.buffer ∧ r.position ≤ (r.past shapes).position := by
  induction shapes generalizing r with
  | nil => exact ⟨rfl, Nat.le_refl _⟩
  | cons shape shapes ih =>
      have hstep := r.lands_step shape
      obtain ⟨hbuffer, hposition⟩ := ih (r.step shape).2
      exact ⟨hbuffer.trans hstep.buffer, Nat.le_trans hstep.position_le hposition⟩

/-- **Any step behind any others.**  Whatever shapes were asked for, and whatever came of them,
what the reader has read and what remains make up the buffer, and a look at the rest shows the
buffer from there on.  No further shapes lead it back, and the next one leads as far as its
value takes; nowhere, if it passes over more bytes than there are; past the zero unit, if it is
a string that spells no text; and to the end, if it fails in any other way. -/
theorem steps_accounted (buffer : Bytes) (steps : List Shape) :
    let r := (ofBytes buffer).past steps
    r.position + r.remaining = buffer.length ∧
    (r.step .rest).1 = .ok (buffer.drop r.position) ∧
    (∀ more, r.position ≤ ((ofBytes buffer).past (steps ++ more)).position) ∧
    ∀ shape, r.Lands shape (r.step shape).1 ((ofBytes buffer).past (steps ++ [shape])) := by
  intro r
  have hbuffer : r.buffer = buffer := (past_onward (ofBytes buffer) steps).1
  refine ⟨?whole, ?rest, ?onward, ?next⟩
  case whole =>
    rw [position_add_remaining, hbuffer]
  case rest =>
    rw [← hbuffer]
    rfl
  case onward =>
    intro more
    rw [past_append]
    exact (past_onward r more).2
  case next =>
    intro shape
    rw [past_append]
    exact lands_step r shape

-- Behind a lone surrogate the reader goes on at the next field.
example :
    let r := (ofBytes [0x00, 0xD8, 0, 0, 7, 0]).past [.text]
    r.position = 4 ∧ (r.step (.integer .uint16)).2.position = 6 := by decide +kernel

end Reader

end PictureTransfer
