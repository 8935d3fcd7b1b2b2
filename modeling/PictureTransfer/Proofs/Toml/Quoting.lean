import PictureTransfer.Toml.Text

/-!
# Texts that are written and read back

A text is written in the plainest of six forms, and read by one of four readers, which its
opening marks select.  Each reader takes a text unit by unit: a character as it stands, or its
escape.  Between three marks, up to two marks may stand as they are, and then the reader has to
look ahead for whether they are the closing ones; `Spelt` says how marks and units may follow one
another so that this goes well.

* `escape_spells`, `basic_unit`, `multiBasic_unit` — a character is read off its escape;
* `reads_spelt` — a text between three marks, for either of the two marks (`Framing`);
* `spelt_escaped`, `spelt_plain` — what is written goes by that;
* `read_write` — whatever the text, and whatever but a mark stands behind it.
-/

namespace PictureTransfer.Toml.Text

theorem behind_some (c : Char) (text rest : List Char) :
    behind c (some (text, rest)) = some (c :: text, rest) := rfl

theorem isPlain_of_lineEnd {c : Char} (h : isPlain c = true) : c ≠ '\n' ∧ c ≠ '\r' := by
  refine ⟨?_, ?_⟩ <;> rintro rfl <;> exact absurd h (by decide)

/-! ## Escapes -/

/-- The ways to write a character between quotation marks; line ends may stand as they are in a
text over several `lines` only. -/
inductive Escape (lines : Bool) : Char → List Char → Prop
  | plain {c : Char} : isPlain c = true → c ≠ '"' → c ≠ '\\' → Escape lines c [c]
  | lineEnd : lines = true → Escape lines '\n' ['\n']
  | short {c e : Char} : shortEscape? e = some c → Escape lines c ['\\', e]
  | number {c d₁ d₂ d₃ d₄ : Char} :
      scalar? [d₁, d₂, d₃, d₄] = some c → Escape lines c ['\\', 'u', d₁, d₂, d₃, d₄]

/-- A character that may not stand on a line has its number in four digits. -/
theorem scalar?_upperDigits {c : Char} (h : isPlain c = false) :
    scalar? (Hex.upperDigits 4 c.toNat) = some c := by
  have table : ∀ n : Fin 128, scalar? (Hex.upperDigits 4 n.val) = some (Char.ofNat n.val) := by
    decide +kernel
  have small : c.toNat < 128 := by
    simp only [isPlain, Bool.or_eq_false_iff, Bool.and_eq_false_iff, decide_eq_false_iff_not] at h
    omega
  have there := table ⟨c.toNat, small⟩
  rwa [Char.ofNat_toNat] at there

theorem upperDigits_four (n : Nat) : ∃ d₁ d₂ d₃ d₄, Hex.upperDigits 4 n = [d₁, d₂, d₃, d₄] :=
  ⟨_, _, _, _, rfl⟩

/-- **What is written for a character** is one of its escapes. -/
theorem escape_spells (lines : Bool) (c : Char) : Escape lines c (escape lines c) := by
  unfold escape
  split
  case h_4 =>
    cases lines with
    | true => exact .lineEnd rfl
    | false => exact .short rfl
  case h_8 hquote hback htab hline hfeed hreturn hbackslash =>
    cases hplain : isPlain c with
    | true => exact .plain hplain hquote hbackslash
    | false =>
        obtain ⟨d₁, d₂, d₃, d₄, digits⟩ := upperDigits_four c.toNat
        have number := scalar?_upperDigits hplain
        rw [digits] at number
        simp only [Bool.false_eq_true, if_false, digits]
        exact .number number
  all_goals exact .short rfl

variable {lines : Bool} {c : Char} {spelling : List Char}

/-- An escape begins with a backslash, unless the character stands for itself. -/
theorem Escape.head (h : Escape lines c spelling) : ∃ d tail, spelling = d :: tail ∧
    (d = '\\' ∨ d = c ∧ c ≠ '"' ∧ (isPlain c = true ∨ lines = true ∧ c = '\n')) := by
  cases h with
  | plain hplain hquote => exact ⟨_, _, rfl, .inr ⟨rfl, hquote, .inl hplain⟩⟩
  | lineEnd hlines => exact ⟨_, _, rfl, .inr ⟨rfl, by decide, .inr ⟨hlines, rfl⟩⟩⟩
  | short | number => exact ⟨_, _, rfl, .inl rfl⟩

theorem ne_mark_of_shortEscape? {e : Char} (h : shortEscape? e = some c) : e ≠ 'u' ∧ e ≠ 'U' := by
  refine ⟨?_, ?_⟩ <;> rintro rfl <;> simp [shortEscape?] at h

/-- **On one line** a character is read off any of its escapes. -/
theorem basic_unit (h : Escape false c spelling) (more : List Char) :
    basic (spelling ++ more) = behind c (basic more) := by
  cases h with
  | plain hplain hquote hbackslash =>
      rw [List.singleton_append, basic.eq_def]
      simp [hplain, hbackslash]
  | lineEnd hlines => exact Bool.noConfusion hlines
  | short hshort =>
      obtain ⟨hu, hU⟩ := ne_mark_of_shortEscape? hshort
      rw [List.cons_append, List.singleton_append, basic.eq_def]
      simp [hshort, hu, hU]
  | number hnumber =>
      rw [List.cons_append, basic.eq_def]
      simp [hnumber]

/-- **Over several lines** too. -/
theorem multiBasic_unit (h : Escape true c spelling) (more : List Char) :
    multiBasic false (spelling ++ more) = behind c (multiBasic false more) := by
  cases h with
  | plain hplain hquote hbackslash =>
      have hreturn := (isPlain_of_lineEnd hplain).2
      rw [List.singleton_append, multiBasic.eq_def]
      simp [hplain, hquote, hbackslash, hreturn]
  | lineEnd =>
      rw [List.singleton_append, multiBasic.eq_def]
      simp
  | short hshort =>
      obtain ⟨hu, hU⟩ := ne_mark_of_shortEscape? hshort
      rw [List.cons_append, List.singleton_append, multiBasic.eq_def]
      simp [hshort, hu, hU]
  | number hnumber =>
      rw [List.cons_append, multiBasic.eq_def]
      simp [hnumber]

/-! ## Texts on one line -/

/-- A text on one line is read off its escapes. -/
theorem basic_escaped (text rest : List Char) :
    basic (escaped 0 false 0 text ++ '"' :: rest) = some (text, rest) := by
  induction text with
  | nil => rfl
  | cons c text ih =>
      have hunit : escaped 0 false 0 (c :: text) = escape false c ++ escaped 0 false 0 text := by
        simp [escaped]
      rw [hunit, List.append_assoc, basic_unit (escape_spells false c), ih, behind_some]

/-- A text without escapes stands for itself. -/
theorem literal_plain {text : List Char} (h : ∀ c ∈ text, isPlain c = true ∧ c ≠ '\'')
    (rest : List Char) : literal (text ++ '\'' :: rest) = some (text, rest) := by
  induction text with
  | nil => rfl
  | cons c text ih =>
      obtain ⟨hplain, hmark⟩ := h c List.mem_cons_self
      have hrest := ih fun d hd => h d (List.mem_cons_of_mem _ hd)
      rw [List.cons_append, literal.eq_def]
      simp [hplain, hrest, behind_some]

/-! ## Texts between three marks -/

/-- A reader of texts between three marks.  It ends at three of them, or behind one or two that
are of the text; it takes a mark where not two others follow, and a character off its units, none
of which begins with a mark. -/
structure Framing (mark : Char) (unit : Char → List Char → Prop)
    (reader : Parser (List Char)) : Prop where
  ends : ∀ left ≤ 2, ∀ rest, rest.head? ≠ some mark →
    reader (List.replicate (left + 3) mark ++ rest) = some (List.replicate left mark, rest)
  takesMark : ∀ more, ¬ [mark, mark] <+: more → reader (mark :: more) = behind mark (reader more)
  takesUnit : ∀ {c spelling}, unit c spelling →
    ∀ more, reader (spelling ++ more) = behind c (reader more)
  head : ∀ {c spelling}, unit c spelling → ∃ d tail, spelling = d :: tail ∧ d ≠ mark

/-- A text and its spelling in units and marks, no more than two marks in a row; `run` marks have
just gone before. -/
inductive Spelt (mark : Char) (unit : Char → List Char → Prop) :
    Nat → List Char → List Char → Prop
  | nil {run : Nat} : Spelt mark unit run [] []
  | mark {run : Nat} {text spelt : List Char} :
      run < 2 → Spelt mark unit (run + 1) text spelt →
      Spelt mark unit run (mark :: text) (mark :: spelt)
  | unit {run : Nat} {c : Char} {spelling text spelt : List Char} :
      unit c spelling → Spelt mark unit 0 text spelt →
      Spelt mark unit run (c :: text) (spelling ++ spelt)

/-- Three marks. -/
def marks (mark : Char) : List Char := List.replicate 3 mark

variable {mark : Char} {unit : Char → List Char → Prop} {reader : Parser (List Char)}

/-- A unit hides the marks behind it. -/
theorem not_marks_behind_unit (h : Framing mark unit reader) (hunit : unit c spelling)
    (more : List Char) : ¬ [mark] <+: spelling ++ more := by
  obtain ⟨d, tail, rfl, hd⟩ := h.head hunit
  intro hprefix
  have hsame : mark = d := by simpa using hprefix
  exact hd hsame.symm

/-- **Between three marks** a text is read off its spelling. -/
theorem reads_spelt (h : Framing mark unit reader) {run : Nat} {text spelt : List Char}
    (hspelt : Spelt mark unit run text spelt) {rest : List Char} (hrest : rest.head? ≠ some mark) :
    reader (spelt ++ (marks mark ++ rest)) = some (text, rest) := by
  induction hspelt with
  | nil => exact h.ends 0 (by omega) rest hrest
  | unit hunit _ ih => rw [List.append_assoc, h.takesUnit hunit, ih, behind_some]
  | @mark run text spelt hrun hmore ih =>
      -- The reader looks two characters ahead, so it matters what the next two units are.
      cases hmore with
      | nil => exact h.ends 1 (by omega) rest hrest
      | unit hunit hlater =>
          have hnext : ∀ more, ¬ [mark, mark] <+: _ ++ more := fun more hprefix =>
            not_marks_behind_unit h hunit more ((List.prefix_append [mark] [mark]).trans hprefix)
          rw [List.append_assoc] at ih
          rw [List.cons_append, List.append_assoc, h.takesMark _ (hnext _), ih, behind_some]
      | mark hrun' hmore =>
          cases hmore with
          | nil => exact h.ends 2 (by omega) rest hrest
          | mark hrun'' => omega
          | unit hunit hlater =>
              have hnext : ∀ more, ¬ [mark, mark] <+: mark :: (_ ++ more) :=
                fun more hprefix => not_marks_behind_unit h hunit more
                  ((List.prefix_cons_inj mark).mp hprefix)
              rw [List.cons_append, List.append_assoc] at ih
              rw [List.cons_append, List.cons_append, List.append_assoc, h.takesMark _ (hnext _),
                ih, behind_some]

theorem not_marks_of_second {more : List Char} (h : ¬ [mark, mark] <+: more) (rest : List Char) :
    more ≠ mark :: mark :: rest := by
  rintro rfl
  exact h ⟨rest, rfl⟩

theorem ne_cons_of_head? {rest : List Char} (h : rest.head? ≠ some mark) (more : List Char) :
    rest ≠ mark :: more := by
  rintro rfl
  exact h rfl

/-- Characters that may stand between three apostrophes as they are. -/
def Literal (c : Char) (spelling : List Char) : Prop :=
  c ≠ '\'' ∧ (isPlain c = true ∨ c = '\n') ∧ spelling = [c]

/-- Quotation marks frame characters and their escapes. -/
theorem multiBasic_framing : Framing '"' (Escape true) (multiBasic false) where
  ends left hleft rest hrest := by
    have hnext := ne_cons_of_head? hrest
    match left, hleft with
    | 0, _ =>
        rw [multiBasic.eq_def]
        simp [List.replicate_succ, hnext]
    | 1, _ =>
        rw [multiBasic.eq_def]
        simp [List.replicate_succ]
    | 2, _ =>
        rw [multiBasic.eq_def]
        simp [List.replicate_succ]
  takesMark more hmore := by
    have hnext := not_marks_of_second hmore
    have hplain : isPlain '"' = true := by decide
    rw [multiBasic.eq_def]
    simp [hnext, hplain]
  takesUnit := multiBasic_unit
  head hunit := by
    obtain ⟨d, tail, hspelling, hd⟩ := hunit.head
    refine ⟨d, tail, hspelling, ?_⟩
    rcases hd with rfl | ⟨rfl, hquote, _⟩
    · decide
    · exact hquote

/-- Apostrophes frame characters as they are. -/
theorem multiLiteral_framing : Framing '\'' Literal multiLiteral where
  ends left hleft rest hrest := by
    have hnext := ne_cons_of_head? hrest
    match left, hleft with
    | 0, _ =>
        rw [multiLiteral.eq_def]
        simp [List.replicate_succ, hnext]
    | 1, _ =>
        rw [multiLiteral.eq_def]
        simp [List.replicate_succ]
    | 2, _ =>
        rw [multiLiteral.eq_def]
        simp [List.replicate_succ]
  takesMark more hmore := by
    have hnext := not_marks_of_second hmore
    have hplain : isPlain '\'' = true := by decide
    rw [multiLiteral.eq_def]
    simp [hnext, hplain]
  takesUnit := by
    rintro c spelling ⟨hmark, hstands, rfl⟩ more
    have hreturn : c ≠ '\r' := by
      rintro rfl
      exact absurd hstands (by decide)
    rw [List.singleton_append, multiLiteral.eq_def]
    rcases hstands with hplain | rfl
    · simp [hplain, hmark, hreturn]
    · simp
  head := by
    rintro c spelling ⟨hmark, -, rfl⟩
    exact ⟨c, [], rfl, hmark⟩

/-- What is written between three quotation marks. -/
theorem spelt_escaped (run : Nat) (text : List Char) :
    Spelt '"' (Escape true) run text (escaped 2 true run text) := by
  induction text generalizing run with
  | nil => exact .nil
  | cons c text ih =>
      unfold escaped
      split
      · rename_i hraw
        obtain ⟨rfl, hrun⟩ := hraw
        exact .mark hrun (ih _)
      · exact .unit (escape_spells true c) (ih 0)

theorem le_longestRun (mark : Char) (run : Nat) (text : List Char) :
    run ≤ longestRun mark run text := by
  induction text generalizing run with
  | nil => exact Nat.le_refl run
  | cons c text ih =>
      unfold longestRun
      split
      · exact Nat.le_of_succ_le (ih (run + 1))
      · exact Nat.le_max_left ..

/-- A text with no more than two apostrophes in a row may stand between three as it is. -/
theorem spelt_plain {run : Nat} {text : List Char} (hrun : longestRun '\'' run text ≤ 2)
    (h : ∀ c ∈ text, isPlain c = true ∨ c = '\n') : Spelt '\'' Literal run text text := by
  induction text generalizing run with
  | nil => exact .nil
  | cons c text ih =>
      have hstands := h c List.mem_cons_self
      have hothers := fun d hd => h d (List.mem_cons_of_mem c hd)
      unfold longestRun at hrun
      split at hrun
      · rename_i hmark
        subst hmark
        have hleast := le_longestRun '\'' (run + 1) text
        exact .mark (by omega) (ih hrun hothers)
      · rename_i hmark
        exact .unit ⟨hmark, hstands, rfl⟩ (ih (by omega) hothers)

/-- A text without a run of marks has no mark. -/
theorem not_mem_of_longestRun {text : List Char} (h : longestRun mark 0 text = 0) :
    mark ∉ text := by
  induction text with
  | nil => exact List.not_mem_nil
  | cons c text ih =>
      unfold longestRun at h
      split at h
      · have hleast := le_longestRun mark (0 + 1) text
        omega
      · rename_i hmark
        have hrest : longestRun mark 0 text = 0 := by omega
        simp [ih hrest, Ne.symm hmark]

/-! ## The forms of a text -/

/-- Behind opening marks a text begins where it should, if a line end was put in front of one of
several lines. -/
theorem withoutFirstLineEnd_framed {body : List Char} {several : Bool}
    (h : several = false → body.head? ≠ some '\n' ∧ body.head? ≠ some '\r') :
    withoutFirstLineEnd ((if several then ['\n'] else []) ++ body) = body := by
  cases several with
  | true => rfl
  | false =>
      obtain ⟨hline, hreturn⟩ := h rfl
      cases body with
      | nil => rfl
      | cons c body =>
          have hline' : c ≠ '\n' := fun hc => hline (congrArg some hc)
          have hreturn' : c ≠ '\r' := fun hc => hreturn (congrArg some hc)
          unfold withoutFirstLineEnd
          simp [hline', hreturn']

/-- The escapes of a text begin with a line end only if the text does. -/
theorem head?_escaped {text : List Char} (h : '\n' ∉ text) :
    ∀ c ∈ (escaped 2 true 0 text).head?, c ≠ '\n' ∧ c ≠ '\r' := by
  cases text with
  | nil => simp [escaped]
  | cons c text =>
      intro d hd
      unfold escaped at hd
      split at hd
      · rename_i hraw
        obtain rfl : c = d := by simpa using hd
        rw [hraw.1]
        decide
      · obtain ⟨e, tail, hescape, he⟩ := (escape_spells true c).head
        rw [hescape] at hd
        obtain rfl : e = d := by simpa using hd
        rcases he with rfl | ⟨rfl, _, hplain | ⟨_, rfl⟩⟩
        · decide
        · exact isPlain_of_lineEnd hplain
        · exact absurd List.mem_cons_self h

variable {text rest : List Char}

/-- A text between three marks is read off its spelling, over however many lines. -/
theorem reads_framed (h : Framing mark unit reader) (hmark : mark ≠ '\n' ∧ mark ≠ '\r')
    {several : Bool} {body : List Char} (hbody : Spelt mark unit 0 text body)
    (hseveral : several = false → ∀ c ∈ body.head?, c ≠ '\n' ∧ c ≠ '\r')
    (hrest : rest.head? ≠ some mark) :
    reader (withoutFirstLineEnd
        ((if several then ['\n'] else []) ++ (body ++ (marks mark ++ rest)))) =
      some (text, rest) := by
  rw [withoutFirstLineEnd_framed, reads_spelt h hbody hrest]
  intro hone
  have hfirst := hseveral hone
  cases body with
  | nil => exact ⟨fun hc => hmark.1 (Option.some.inj hc), fun hc => hmark.2 (Option.some.inj hc)⟩
  | cons c body =>
      obtain ⟨hline, hreturn⟩ := hfirst c rfl
      exact ⟨fun hc => hline (Option.some.inj hc), fun hc => hreturn (Option.some.inj hc)⟩

theorem read_framed_escaped (hrest : rest.head? ≠ some '"') {several : Bool}
    (hseveral : several = false → '\n' ∉ text) :
    read (framed '"' several (escaped 2 true 0 text) ++ rest) = some (text, rest) := by
  have hframed := reads_framed multiBasic_framing (by decide) (spelt_escaped 0 text)
    (fun hone => head?_escaped (hseveral hone)) hrest
  rw [← hframed]
  simp only [framed, List.append_assoc]
  rfl

theorem read_framed_plain (hrest : rest.head? ≠ some '\'') {several : Bool}
    (hrun : longestRun '\'' 0 text ≤ 2) (hplain : ∀ c ∈ text, isPlain c = true ∨ c = '\n')
    (hseveral : several = false → '\n' ∉ text) :
    read (framed '\'' several text ++ rest) = some (text, rest) := by
  have hfirst : several = false → ∀ c ∈ text.head?, c ≠ '\n' ∧ c ≠ '\r' := by
    intro hone c hc
    have hmem := List.mem_of_mem_head? hc
    rcases hplain c hmem with hplain | rfl
    · exact isPlain_of_lineEnd hplain
    · exact absurd hmem (hseveral hone)
  have hframed := reads_framed multiLiteral_framing (by decide) (spelt_plain hrun hplain)
    hfirst hrest
  rw [← hframed]
  simp only [framed, List.append_assoc]
  rfl

/-- On one line an opening mark is not followed by two more: not even where the text is empty,
since no mark stands behind it. -/
theorem read_escaped (hrest : rest.head? ≠ some '"') :
    read ('"' :: (escaped 0 false 0 text ++ '"' :: rest)) = some (text, rest) := by
  have hbasic := basic_escaped text rest
  have hone : ∀ more, escaped 0 false 0 text ++ '"' :: rest ≠ '"' :: '"' :: more := by
    cases text with
    | nil =>
        intro more hmarks
        exact ne_cons_of_head? hrest more (List.cons.inj hmarks).2
    | cons c text =>
        obtain ⟨d, tail, hescape, hd⟩ := (escape_spells false c).head
        have hne : d ≠ '"' := by
          rcases hd with rfl | ⟨rfl, hquote, _⟩
          · decide
          · exact hquote
        intro more hmarks
        simp [escaped, hescape] at hmarks
        exact hne hmarks.1
  rw [read.eq_def]
  simp [hone, oneLine, hbasic]

theorem read_plain (hrest : rest.head? ≠ some '\'')
    (hplain : ∀ c ∈ text, isPlain c = true ∧ c ≠ '\'') :
    read ('\'' :: (text ++ '\'' :: rest)) = some (text, rest) := by
  have hliteral := literal_plain hplain rest
  have hone : ∀ more, text ++ '\'' :: rest ≠ '\'' :: '\'' :: more := by
    cases text with
    | nil =>
        intro more hmarks
        exact ne_cons_of_head? hrest more (List.cons.inj hmarks).2
    | cons c text =>
        intro more hmarks
        exact (hplain c List.mem_cons_self).2 (List.cons.inj hmarks).1
  rw [read.eq_def]
  simp [hone, oneLine, hliteral]

/-- A text without control characters has none but line ends that may not stand on a line. -/
theorem stands_of_controls (h : text.any isControl = false) :
    ∀ c ∈ text, isPlain c = true ∨ c = '\n' := by
  intro c hc
  have hcontrol := List.any_eq_false.mp h c hc
  cases hplain : isPlain c with
  | true => exact .inl rfl
  | false => exact .inr (by simpa [isControl, hplain] using hcontrol)

/-- **Every text is read back** from its plainest form, unless a mark stands behind it. -/
theorem read_write (text : List Char) (hquote : rest.head? ≠ some '"')
    (hmark : rest.head? ≠ some '\'') : read (write text ++ rest) = some (text, rest) := by
  have hone : text.contains '\n' = false → '\n' ∉ text := by simp
  have hescaped : read ('"' :: escaped 0 false 0 text ++ ['"'] ++ rest) = some (text, rest) := by
    rw [List.append_assoc]
    exact read_escaped hquote
  dsimp only [write]
  split
  · exact hescaped
  split
  · rename_i hform
    simp only [Bool.and_eq_true, Bool.not_eq_true', decide_eq_true_eq] at hform
    obtain ⟨⟨hcontrols, hnone⟩, hseveral⟩ := hform
    rw [List.append_assoc]
    refine read_plain hmark fun c hc => ⟨?_, ?_⟩
    · refine (stands_of_controls hcontrols c hc).resolve_right ?_
      rintro rfl
      exact hone hseveral hc
    · rintro rfl
      exact not_mem_of_longestRun hnone hc
  split
  · exact read_framed_escaped hquote hone
  split
  · rename_i hform
    simp only [Bool.and_eq_true, Bool.not_eq_true', decide_eq_true_eq] at hform
    exact read_framed_plain hmark hform.2 (stands_of_controls hform.1) hone
  split
  · exact read_framed_escaped hquote Bool.noConfusion
  · exact hescaped

end PictureTransfer.Toml.Text
