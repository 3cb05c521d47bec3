import FirmwareSymbols.Raster.Job
import Mathlib.Data.List.Infix

/-!
# The resolution that a document gets

On a line, a width attribute starts and further on an attribute in millimetres ends. The search finds every text that
stands between the two (`hasMillimetreWidth_iff`). This is the width itself if no quote is in this text. If there is one,
the width has ended before, and the millimetres are those of another attribute. The resolution for documents in
millimetres is chosen in both cases (`dpiOf_text_iff`), so a width in pixels is mistaken for one in millimetres if an
attribute in millimetres follows it on its line.
-/

namespace FirmwareSymbols.Raster

/-- From the start of a width attribute on the line up to an `mm` before a quote there is `value`. -/
def WidthReaches (line value : List Char) : Prop := widthAttribute ++ value ++ millimetreEnd <:+: line

/-- A width on the line is given in millimetres. -/
def GivesMillimetreWidth (line : List Char) : Prop :=
  ∃ value, value ≠ [] ∧ '"' ∉ value ∧ WidthReaches line value

/-- After a width has ended, another attribute on the line is given in millimetres. -/
def GivesMillimetresLater (line : List Char) : Prop := ∃ value, '"' ∈ value ∧ WidthReaches line value

variable {pattern s rest line value : List Char}

/-! ### Searching a line -/

theorem mem_afterEach_iff (hpattern : pattern ≠ []) :
    rest ∈ afterEach pattern s ↔ ∃ before, before ++ pattern ++ rest = s := by
  induction s with
  | nil => simp [afterEach, hpattern]
  | cons c s ih =>
    -- an occurrence starts with the first character or after it
    have hsplit : (∃ before, before ++ pattern ++ rest = c :: s) ↔
        pattern ++ rest = c :: s ∨ ∃ before, before ++ pattern ++ rest = s := by
      constructor
      · rintro ⟨before, h⟩
        cases before with
        | nil => exact .inl h
        | cons d before => exact .inr ⟨before, (List.cons.inj h).2⟩
      · rintro (h | ⟨before, h⟩)
        · exact ⟨[], h⟩
        · exact ⟨c :: before, congrArg (c :: ·) h⟩
    rw [hsplit, ← ih, afterEach, ← List.isPrefixOf?_eq_some_iff_append_eq]
    cases hfirst : pattern.isPrefixOf? (c :: s) with
    | none => simp
    | some found => simp [eq_comm]

theorem isEmpty_afterEach_iff (hpattern : pattern ≠ []) : (afterEach pattern s).isEmpty = false ↔ pattern <:+: s := by
  rw [List.isEmpty_eq_false_iff_exists_mem]
  simp only [mem_afterEach_iff hpattern]
  exact exists_comm

theorem widthReaches_iff : WidthReaches line value ↔
    ∃ rest ∈ afterEach widthAttribute line, value ++ millimetreEnd <+: rest := by
  have hpattern : widthAttribute ≠ [] := by decide
  unfold WidthReaches
  constructor
  · rintro ⟨before, after, h⟩
    refine ⟨value ++ millimetreEnd ++ after, (mem_afterEach_iff hpattern).2 ⟨before, ?_⟩, after, rfl⟩
    simpa using h
  · rintro ⟨rest, hrest, after, rfl⟩
    obtain ⟨before, h⟩ := (mem_afterEach_iff hpattern).1 hrest
    refine ⟨before, after, ?_⟩
    simpa using h

/-- What stands before the millimetres may be anything but nothing. -/
theorem hasMillimetreWidth_iff : hasMillimetreWidth line = true ↔ ∃ value, value ≠ [] ∧ WidthReaches line value := by
  have hend : millimetreEnd ≠ [] := by decide
  have hfound (rest : List Char) : (!(afterEach millimetreEnd rest.tail).isEmpty) = true ↔
      ∃ value, value ≠ [] ∧ value ++ millimetreEnd <+: rest := by
    rw [Bool.not_eq_true', isEmpty_afterEach_iff hend]
    cases rest with
    | nil => simp [hend]
    | cons c rest =>
      constructor
      · rintro ⟨before, after, h⟩
        exact ⟨c :: before, List.cons_ne_nil _ _, after, congrArg (c :: ·) h⟩
      · rintro ⟨value, hvalue, after, h⟩
        obtain ⟨d, before, rfl⟩ := List.exists_cons_of_ne_nil hvalue
        exact ⟨before, after, (List.cons.inj h).2⟩
  simp only [hasMillimetreWidth, List.any_eq_true, hfound, widthReaches_iff]
  constructor
  · rintro ⟨rest, hrest, value, hvalue, hreaches⟩
    exact ⟨value, hvalue, rest, hrest, hreaches⟩
  · rintro ⟨value, hvalue, rest, hrest, hreaches⟩
    exact ⟨rest, hrest, value, hvalue, hreaches⟩

/-- The millimetres are those of the width or of an attribute after it. -/
theorem hasMillimetreWidth_iff_or :
    hasMillimetreWidth line = true ↔ GivesMillimetreWidth line ∨ GivesMillimetresLater line := by
  rw [hasMillimetreWidth_iff]
  constructor
  · rintro ⟨value, hvalue, hreaches⟩
    by_cases hquote : '"' ∈ value
    · exact .inr ⟨value, hquote, hreaches⟩
    · exact .inl ⟨value, hvalue, hquote, hreaches⟩
  · rintro (⟨value, hvalue, -, hreaches⟩ | ⟨value, hquote, hreaches⟩)
    · exact ⟨value, hvalue, hreaches⟩
    · exact ⟨value, List.ne_nil_of_mem hquote, hreaches⟩

instance : DecidablePred GivesMillimetreWidth := fun line =>
  decidable_of_iff (∃ rest ∈ afterEach widthAttribute line, ∃ value ∈ rest.inits,
    value ≠ [] ∧ '"' ∉ value ∧ value ++ millimetreEnd <+: rest) <| by
    simp only [GivesMillimetreWidth, widthReaches_iff, List.mem_inits]
    constructor
    · rintro ⟨rest, hrest, value, -, hvalue, hquote, hreaches⟩
      exact ⟨value, hvalue, hquote, rest, hrest, hreaches⟩
    · rintro ⟨value, hvalue, hquote, rest, hrest, hreaches⟩
      exact ⟨rest, hrest, value, (List.prefix_append _ _).trans hreaches, hvalue, hquote, hreaches⟩

/-! ### Main statements -/

theorem dpiOf_eq_millimetre_iff {svg : String} :
    dpiOf svg = .millimetre ↔ ∃ line ∈ Text.lines svg.toList, hasMillimetreWidth line = true := by
  rw [← List.any_eq_true, dpiOf]
  cases (Text.lines svg.toList).any hasMillimetreWidth <;> simp

/-- A document gets the resolution for millimetres if on one of its lines a width is given in millimetres, or another
attribute is after a width; else it gets the one for pixels. So it is the width alone that decides, unless the only
millimetres are those of attributes that follow a width on its line. -/
theorem dpiOf_text_iff (svg : String) :
    let given := ∃ line ∈ Text.lines svg.toList, GivesMillimetreWidth line
    let later := ∃ line ∈ Text.lines svg.toList, GivesMillimetresLater line
    ((dpiOf svg).text = "47.44" ↔ given ∨ later) ∧ ((dpiOf svg).text = "60.72" ↔ ¬ given ∧ ¬ later) ∧
      (((dpiOf svg).text = "47.44" ↔ given) ↔ (later → given)) := by
  intro given later
  have hdpi : dpiOf svg = .millimetre ↔ given ∨ later := by
    rw [dpiOf_eq_millimetre_iff]
    simp only [hasMillimetreWidth_iff_or, and_or_left, exists_or]
    rfl
  have hmillimetre : (dpiOf svg).text = "47.44" ↔ dpiOf svg = .millimetre := by
    cases dpiOf svg <;> decide
  have hpixel : (dpiOf svg).text = "60.72" ↔ ¬ dpiOf svg = .millimetre := by
    cases dpiOf svg <;> decide
  rw [hmillimetre, hpixel, hdpi, not_or]
  exact ⟨Iff.rfl, Iff.rfl, or_iff_left_iff_imp⟩

/-- A height in millimetres after a width in pixels, on one line. -/
theorem height_mistaken_for_width :
    (dpiOf "<svg width=\"240\" height=\"128.5mm\">").text = "47.44" ∧
      ¬ ∃ line ∈ Text.lines "<svg width=\"240\" height=\"128.5mm\">".toList, GivesMillimetreWidth line := by
  decide

end FirmwareSymbols.Raster
