import PictureTransfer.Toml.Document

/-!
# Numbers that are written and read back

A number is written in decimal digits alone, the first of which is no needless zero.  Whatever
stands behind it on its line, if that is the line's end, it is read as an integer: it is neither
a date nor a time nor a float, each of which would need a mark that is not there.

* `Numeral.valueOf_toDigits`, `Numeral.head?_toDigits` — the digits of a number;
* `Number.decimal_figures` — they are read to their end;
* `Moment.read_figures`, `Number.float_figures` — and are nothing else;
* `Document.value_figures` — so the value that they stand for is the number.
-/

namespace PictureTransfer

namespace Numeral

theorem isDigit_ten_of_isDigit {c : Char} (h : c.isDigit = true) :
    isDigit 10 c = true ∧ (Hex.valueOf? c).getD 0 = c.toNat - 48 := by
  have bounds : 48 ≤ c.toNat ∧ c.toNat ≤ 57 := by
    simpa [Char.isDigit, UInt32.le_iff_toNat_le] using h
  have value : Hex.valueOf? c = some (c.toNat - 48) := if_pos bounds
  refine ⟨?_, by rw [value]; rfl⟩
  simp only [isDigit, value, decide_eq_true_eq]
  omega

/-- The digits of a number in decimal are digits. -/
theorem isDigit_toDigits {n : Nat} : ∀ c ∈ Nat.toDigits 10 n, isDigit 10 c = true := fun _ hc =>
  (isDigit_ten_of_isDigit (Nat.isDigit_of_mem_toDigits (by decide) (by decide) hc)).1

/-- They make up the number. -/
theorem valueOf_toDigits (n : Nat) : valueOf 10 (Nat.toDigits 10 n) = n := by
  have same : ∀ ds : List Char, (∀ c ∈ ds, c.isDigit = true) → ∀ sum,
      ds.foldl (fun sum d => 10 * sum + (Hex.valueOf? d).getD 0) sum =
        Nat.ofDigitChars 10 ds sum := by
    intro ds digits
    induction ds with
    | nil => exact fun _ => rfl
    | cons d ds ih =>
        intro sum
        have value := (isDigit_ten_of_isDigit (digits d List.mem_cons_self)).2
        rw [List.foldl_cons, value]
        exact ih (fun c hc => digits c (List.mem_cons_of_mem d hc)) _
  have digits : ∀ c ∈ Nat.toDigits 10 n, c.isDigit = true := fun _ member =>
    Nat.isDigit_of_mem_toDigits (by decide) (by decide) member
  exact (same _ digits 0).trans Nat.ofDigitChars_ten_toDigits

/-- None but zero begins with a zero. -/
theorem head?_toDigits {n : Nat} (h : n ≠ 0) : (Nat.toDigits 10 n).head? ≠ some '0' := by
  induction n using Nat.strongRecOn with
  | ind n ih =>
      by_cases small : n < 10
      · rw [Nat.toDigits_of_lt_base small]
        simpa using h
      · have front := ih (n / 10) (by omega) (by omega)
        rw [Nat.toDigits_of_base_le (by decide) (Nat.le_of_not_lt small)]
        cases digits : Nat.toDigits 10 (n / 10) with
        | nil => exact absurd digits Nat.toDigits_ne_nil
        | cons d ds => rwa [digits] at front

end Numeral

namespace Toml

/-- Digits that are written for a number: one at least, and a zero in front only if it is the
number zero. -/
structure Figures (ds : List Char) : Prop where
  digits : ∀ c ∈ ds, Numeral.isDigit 10 c = true
  nonempty : ds ≠ []
  zero : ds.head? = some '0' → ds = ['0']

theorem figures_toDigits (n : Nat) : Figures (Nat.toDigits 10 n) where
  digits := Numeral.isDigit_toDigits
  nonempty := Nat.toDigits_ne_nil
  zero hhead := by
    by_cases hn : n = 0
    · subst hn
      rfl
    · exact absurd hhead (Numeral.head?_toDigits hn)

/-- A digit is none of the characters that are marks in a number. -/
theorem ne_of_isDigit {c d : Char} (h : Numeral.isDigit 10 c = true)
    (hd : Numeral.isDigit 10 d = false) : c ≠ d := by
  rintro rfl
  exact Bool.noConfusion (h.symm.trans hd)

variable {ds : List Char}

/-- The first figure is a digit. -/
theorem Figures.cons (h : Figures ds) : ∃ d tail, ds = d :: tail ∧
    Numeral.isDigit 10 d = true ∧ ∀ c ∈ tail, Numeral.isDigit 10 c = true := by
  cases ds with
  | nil => exact absurd rfl h.nonempty
  | cons d tail =>
      exact ⟨d, tail, rfl, h.digits d List.mem_cons_self,
        fun c hc => h.digits c (List.mem_cons_of_mem d hc)⟩

namespace Number

theorem moreDigits_figures (h : ∀ c ∈ ds, Numeral.isDigit 10 c = true) (rest : List Char) :
    moreDigits (Numeral.isDigit 10) (ds ++ '\n' :: rest) = some (ds, '\n' :: rest) := by
  induction ds with
  | nil => rfl
  | cons d ds ih =>
      have hdigit := h d List.mem_cons_self
      have hbar : d ≠ '_' := ne_of_isDigit hdigit (by decide)
      have hmore := ih fun c hc => h c (List.mem_cons_of_mem d hc)
      rw [List.cons_append, moreDigits.eq_def]
      simp [hbar, hdigit, hmore]

/-- **Figures are read to their end**, the end of the line. -/
theorem decimalDigits_figures (h : Figures ds) (rest : List Char) :
    decimalDigits (ds ++ '\n' :: rest) = some (ds, '\n' :: rest) := by
  obtain ⟨d, tail, rfl, hdigit, htail⟩ := h.cons
  by_cases hzero : d = '0'
  · subst hzero
    rw [h.zero rfl]
    rfl
  · have hmore := moreDigits_figures htail rest
    rw [List.cons_append, decimalDigits.eq_def]
    simp [hzero, digits, hdigit, hmore]

theorem decimal_figures (h : Figures ds) (rest : List Char) :
    decimal (ds ++ '\n' :: rest) = some (Numeral.valueOf 10 ds, '\n' :: rest) := by
  simp [decimal, decimalDigits_figures h rest]

/-- Nothing in front of figures says that they are in another base or have a sign. -/
theorem unbounded_figures (h : Figures ds) (rest : List Char) :
    unbounded (ds ++ '\n' :: rest) =
      some (((Numeral.valueOf 10 ds : Nat) : Int), '\n' :: rest) := by
  have hdecimal := decimal_figures h rest
  obtain ⟨d, tail, rfl, hdigit, -⟩ := h.cons
  by_cases hzero : d = '0'
  · subst hzero
    rw [h.zero rfl]
    rfl
  · have hplus : d ≠ '+' := ne_of_isDigit hdigit (by decide)
    have hminus : d ≠ '-' := ne_of_isDigit hdigit (by decide)
    rw [List.cons_append] at hdecimal ⊢
    rw [unbounded.eq_def]
    simp [hzero, hplus, hminus, hdecimal]

/-- No sign is read off figures. -/
theorem sign_figures (h : Figures ds) (rest : List Char) :
    sign (ds ++ '\n' :: rest) = (false, ds ++ '\n' :: rest) := by
  obtain ⟨d, tail, rfl, hdigit, -⟩ := h.cons
  have hplus : d ≠ '+' := ne_of_isDigit hdigit (by decide)
  have hminus : d ≠ '-' := ne_of_isDigit hdigit (by decide)
  rw [List.cons_append, sign.eq_def]
  simp [hplus, hminus]

/-- **Figures are no float**: they have neither a fraction nor an exponent. -/
theorem float_figures (h : Figures ds) (rest : List Char) : float (ds ++ '\n' :: rest) = none := by
  have hfloating : floating (ds ++ '\n' :: rest) = none := by
    simp [floating, sign_figures h, decimalDigits_figures h, fraction, exponent]
  have hspecial : special (ds ++ '\n' :: rest) = none := by
    obtain ⟨d, tail, rfl, hdigit, -⟩ := h.cons
    have hi : d ≠ 'i' := ne_of_isDigit hdigit (by decide)
    have hn : d ≠ 'n' := ne_of_isDigit hdigit (by decide)
    rw [List.cons_append, special.eq_def]
    simp [hi, hn]
  simp [float, hfloating, sign_figures h, hspecial]

end Number

namespace Moment

/-- Behind a field of a moment that is read off digits comes a digit or the end of the line. -/
theorem field_digits (h : ∀ c ∈ ds, Numeral.isDigit 10 c = true) {count least greatest n : Nat}
    {rest left : List Char}
    (hread : field count least greatest (ds ++ '\n' :: rest) = some (n, left)) :
    ∃ ds', left = ds' ++ '\n' :: rest ∧ ∀ c ∈ ds', Numeral.isDigit 10 c = true := by
  unfold field at hread
  dsimp only at hread
  split at hread
  · rename_i hfield
    obtain ⟨-, hdigits, -⟩ := hfield
    obtain ⟨-, rfl⟩ := Prod.mk.inj (Option.some.inj hread)
    have hwithin : count ≤ ds.length := by
      -- Else the end of the line would be one of the digits of the field.
      refine Nat.le_of_not_lt fun hcount => ?_
      obtain ⟨k, hk⟩ : ∃ k, count - ds.length = k + 1 := ⟨count - ds.length - 1, by omega⟩
      have hmem : '\n' ∈ (ds ++ '\n' :: rest).take count := by
        rw [List.take_append, hk, List.take_succ_cons]
        simp
      exact absurd (List.all_eq_true.mp hdigits _ hmem) (by decide)
    refine ⟨ds.drop count, ?_, fun c hc => h c (List.mem_of_mem_drop hc)⟩
    rw [List.drop_append, Nat.sub_eq_zero_of_le hwithin, List.drop_zero]
  · simp at hread

/-- A mark is none of these. -/
theorem mark_digits (h : ∀ c ∈ ds, Numeral.isDigit 10 c = true) {c : Char} (hc : c ≠ '\n')
    (hdigit : Numeral.isDigit 10 c = false) (rest : List Char) :
    mark c (ds ++ '\n' :: rest) = none := by
  cases ds with
  | nil => simp [mark, hc]
  | cons d ds =>
      have hne : d ≠ c := ne_of_isDigit (h d List.mem_cons_self) hdigit
      simp [mark, Ne.symm hne]

/-- **Figures are no moment**: behind the first field of a date or a time they lack the mark. -/
theorem read_figures (h : Figures ds) (rest : List Char) : read (ds ++ '\n' :: rest) = none := by
  have hfirst : ∀ {count least greatest : Nat} {c : Char}, c ≠ '\n' →
      Numeral.isDigit 10 c = false → ∀ {n left},
      field count least greatest (ds ++ '\n' :: rest) = some (n, left) → mark c left = none := by
    intro count least greatest c hc hdigit n left hread
    obtain ⟨ds', rfl, hdigits⟩ := field_digits h.digits hread
    exact mark_digits hdigits hc hdigit rest
  have hdate : date (ds ++ '\n' :: rest) = none := by
    unfold date
    cases hread : field 4 0 9999 (ds ++ '\n' :: rest) with
    | none => rfl
    | some found =>
        have hmark := hfirst (c := '-') (by decide) (by decide) hread
        simp [hmark]
  have htime : time (ds ++ '\n' :: rest) = none := by
    unfold time
    cases hread : field 2 0 23 (ds ++ '\n' :: rest) with
    | none => rfl
    | some found =>
        have hmark := hfirst (c := ':') (by decide) (by decide) hread
        simp [hmark]
  simp [read, hdate, htime]

end Moment

namespace Document

/-- **A number is read back** from its digits, if it is one that can be written. -/
theorem value_figures {n : Nat} (h : Number.inRange n = true) (depth : Nat) (rest : List Char) :
    value depth (Nat.toDigits 10 n ++ '\n' :: rest) = some (.integer n, '\n' :: rest) := by
  have hfigures := figures_toDigits n
  have hmoment := Moment.read_figures hfigures rest
  have hfloat := Number.float_figures hfigures rest
  have hinteger : Number.integer (Nat.toDigits 10 n ++ '\n' :: rest) =
      some ((n : Int), '\n' :: rest) := by
    simp [Number.integer, Number.unbounded_figures hfigures, Numeral.valueOf_toDigits, h]
  have hnumber : number (Nat.toDigits 10 n ++ '\n' :: rest) = some (.integer n, '\n' :: rest) := by
    simp [number, hmoment, hfloat, hinteger]
  rw [← hnumber]
  obtain ⟨d, tail, hdigits, hdigit, -⟩ := hfigures.cons
  rw [hdigits, List.cons_append, value.eq_def]
  have hquote : d ≠ '"' := ne_of_isDigit hdigit (by decide)
  have hmark : d ≠ '\'' := ne_of_isDigit hdigit (by decide)
  have htrue : d ≠ 't' := ne_of_isDigit hdigit (by decide)
  have hfalse : d ≠ 'f' := ne_of_isDigit hdigit (by decide)
  have harray : d ≠ '[' := ne_of_isDigit hdigit (by decide)
  have hrecord : d ≠ '{' := ne_of_isDigit hdigit (by decide)
  simp [hquote, hmark, htrue, hfalse, harray, hrecord]

end Document

end Toml

end PictureTransfer
