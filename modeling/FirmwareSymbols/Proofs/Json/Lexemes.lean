import FirmwareSymbols.Proofs.Json.Grammar
import FirmwareSymbols.Proofs.Json.Writer
import FirmwareSymbols.Proofs.Text.Digits
import Mathlib.Data.List.Basic

/-!
# Reading the parts of values

Blanks, strings and numbers are read as the grammar spells them, in both directions: what is spelled is read, whatever
text follows (`stringBody_spelled`, `number_spelled`), and what is read was spelled at the front of the text
(`spells_of_stringBody`, `spells_of_number`). A number needs a text behind it that does not continue it
(`EndsNumber`).
-/

namespace FirmwareSymbols.Json

/-! ### Blanks -/

private theorem isBlank_iff {c : Char} : isBlank c = true ↔ c = ' ' ∨ c = '\n' ∨ c = '\t' ∨ c = '\r' := by
  simp [isBlank, or_assoc]

theorem exists_blanks (s : List Char) : ∃ b, IsBlanks b ∧ s = b ++ skipBlanks s := by
  refine ⟨s.takeWhile isBlank, ?_, List.takeWhile_append_dropWhile.symm⟩
  intro c hc
  exact isBlank_iff.1 (List.all_eq_true.1 List.all_takeWhile c hc)

theorem skipBlanks_append {b : List Char} (hb : IsBlanks b) (s : List Char) : skipBlanks (b ++ s) = skipBlanks s := by
  induction b with
  | nil => rfl
  | cons c b ih =>
    have hc : isBlank c = true := isBlank_iff.2 (hb c (by simp))
    rw [List.cons_append, skipBlanks, List.dropWhile_cons_of_pos hc]
    exact ih fun d hd => hb d (by simp [hd])

theorem skipBlanks_cons {c : Char} (hc : isBlank c = false) (s : List Char) : skipBlanks (c :: s) = c :: s :=
  List.dropWhile_cons_of_neg (by simp [hc])

/-! ### Strings -/

private theorem spellsHex_of_hex4? {a b c d : Char} {n : Nat} (h : hex4? a b c d = some n) :
    SpellsHex [a, b, c, d] n := by
  simp only [hex4?, Option.bind_eq_bind, Option.bind_eq_some_iff, Option.pure_def, Option.some.injEq] at h
  obtain ⟨i, hi, j, hj, k, hk, l, hl, rfl⟩ := h
  have : ((i * 16 + j) * 16 + k) * 16 + l = 4096 * i + 256 * j + 16 * k + l := by omega
  rw [this]
  exact .mk hi hj hk hl

private theorem SpellsHex.hex4?_eq {digits : List Char} {n : Nat} (h : SpellsHex digits n) :
    ∃ a b c d, digits = [a, b, c, d] ∧ hex4? a b c d = some n := by
  cases h with
  | mk hi hj hk hl =>
    refine ⟨_, _, _, _, rfl, ?_⟩
    simp only [hex4?, hi, hj, hk, hl, Option.bind_eq_bind, Option.bind_some, Option.pure_def, Option.some.injEq]
    omega

private theorem shortEscape?_eq_some_iff {letter c : Char} :
    shortEscape? letter = some c ↔ (letter, c) ∈ shortEscapes := by
  constructor
  · intro h
    unfold shortEscape? at h
    split at h <;> simp only [Option.some.injEq, reduceCtorEq] at h <;> subst h <;> decide
  · intro h
    simp only [shortEscapes, List.mem_cons, Prod.mk.injEq, List.not_mem_nil, or_false] at h
    rcases h with ⟨rfl, rfl⟩ | ⟨rfl, rfl⟩ | ⟨rfl, rfl⟩ | ⟨rfl, rfl⟩ | ⟨rfl, rfl⟩ | ⟨rfl, rfl⟩ | ⟨rfl, rfl⟩ | ⟨rfl, rfl⟩ <;> rfl

theorem isHighSurrogate_iff {n : Nat} : isHighSurrogate n = true ↔ 0xd800 ≤ n ∧ n < 0xdc00 := by
  simp [isHighSurrogate]

theorem isLowSurrogate_iff {n : Nat} : isLowSurrogate n = true ↔ 0xdc00 ≤ n ∧ n < 0xe000 := by
  simp [isLowSurrogate]

private theorem le_toNat {c d : Char} (h : c ≤ d) : c.toNat ≤ d.toNat := h

theorem hexDigit?_lt {c : Char} {n : Nat} (h : Text.hexDigit? c = some n) : n < 16 := by
  unfold Text.hexDigit? at h
  simp only [Bool.and_eq_true, decide_eq_true_eq] at h
  have h9 : ('9' : Char).toNat = 57 := rfl
  have hf : ('f' : Char).toNat = 102 := rfl
  have hF : ('F' : Char).toNat = 70 := rfl
  have h0 : ('0' : Char).toNat = 48 := rfl
  have ha : ('a' : Char).toNat = 97 := rfl
  have hA : ('A' : Char).toNat = 65 := rfl
  split at h
  next hc =>
    have := le_toNat hc.2
    simp only [Option.some.injEq] at h
    omega
  · split at h
    next hc =>
      have := le_toNat hc.2
      simp only [Option.some.injEq] at h
      omega
    · split at h
      next hc =>
        have := le_toNat hc.2
        simp only [Option.some.injEq] at h
        omega
      · simp at h

theorem SpellsHex.lt {digits : List Char} {n : Nat} (h : SpellsHex digits n) : n < 65536 := by
  cases h with
  | mk ha hb hc hd =>
    have := hexDigit?_lt ha
    have := hexDigit?_lt hb
    have := hexDigit?_lt hc
    have := hexDigit?_lt hd
    omega

/-- A spelled character is read as that character. -/
theorem stringBody_spelledChar {s : List Char} {c : Char} (h : SpellsChar s c) (rest : List Char) :
    stringBody (s ++ rest) = prepend c (stringBody rest) := by
  cases h with
  | plain hquote hslash hcontrol => exact stringBody_raw hquote hslash (by omega) rest
  | short h => exact stringBody_short (shortEscape?_eq_some_iff.2 h) rest
  | @code digits _ h =>
    have hvalid : c.toNat < 0xd800 ∨ 0xdfff < c.toNat ∧ c.toNat < 0x110000 := c.valid
    have hhigh : isHighSurrogate c.toNat = false := by
      rw [Bool.eq_false_iff, ne_eq, isHighSurrogate_iff]
      omega
    have hlow : isLowSurrogate c.toNat = false := by
      rw [Bool.eq_false_iff, ne_eq, isLowSurrogate_iff]
      omega
    obtain ⟨_, _, _, _, rfl, hn⟩ := h.hex4?_eq
    simp only [List.cons_append, List.nil_append]
    rw [stringBody, hn]
    simp only [hhigh, hlow, Bool.false_eq_true, if_false, Char.ofNat_toNat]
  | @pair digits digits' high low _ h h' hhigh hlow hc =>
    have hjoin : joinSurrogates high low = c := by
      rw [joinSurrogates, ← hc, Char.ofNat_toNat]
    obtain ⟨_, _, _, _, rfl, hn⟩ := h.hex4?_eq
    obtain ⟨_, _, _, _, rfl, hm⟩ := h'.hex4?_eq
    simp only [List.cons_append, List.nil_append]
    rw [stringBody, hn]
    simp only [isHighSurrogate_iff.2 hhigh, if_true, hm, isLowSurrogate_iff.2 hlow, hjoin]

/-- A spelled text with its closing quote is read as that text. -/
theorem stringBody_spelled {s text : List Char} (h : SpellsText s text) (rest : List Char) :
    stringBody (s ++ '"' :: rest) = some (text, rest) := by
  induction h with
  | nil => rw [List.nil_append, stringBody]
  | cons hc _ ih =>
    rw [List.append_assoc, stringBody_spelledChar hc, ih]
    rfl

private theorem toNat_ofNat {n : Nat} (h : n.isValidChar) : (Char.ofNat n).toNat = n := by
  rw [Char.ofNat, dif_pos h]
  rfl

private theorem prepend_eq_some {c : Char} {r : Option (List Char × List Char)} {text rest : List Char}
    (h : prepend c r = some (text, rest)) : ∃ text', r = some (text', rest) ∧ text = c :: text' := by
  obtain ⟨⟨text', rest'⟩, hr, he⟩ := Option.map_eq_some_iff.1 h
  simp only [Prod.mk.injEq] at he
  obtain ⟨rfl, rfl⟩ := he
  exact ⟨text', hr, rfl⟩

/-- What is read up to the closing quote is spelled there. -/
theorem spells_of_stringBody {s text rest : List Char} (h : stringBody s = some (text, rest)) :
    ∃ t, SpellsText t text ∧ s = t ++ '"' :: rest := by
  -- reading a character first, in whatever way it is spelled
  have step : ∀ {t : List Char} {c : Char} {s' : List Char} {text : List Char}, SpellsChar t c →
      (∀ {text}, stringBody s' = some (text, rest) → ∃ t, SpellsText t text ∧ s' = t ++ '"' :: rest) →
      prepend c (stringBody s') = some (text, rest) →
      ∃ t', SpellsText t' text ∧ t ++ s' = t' ++ '"' :: rest := by
    intro t c s' text hc ih h
    obtain ⟨text', hr, rfl⟩ := prepend_eq_some h
    obtain ⟨t', ht', rfl⟩ := ih hr
    exact ⟨t ++ t', .cons hc ht', by simp⟩
  fun_induction stringBody s generalizing text with
  | case1 => simp at h
  | case2 s =>
    simp only [Option.some.injEq, Prod.mk.injEq] at h
    obtain ⟨rfl, rfl⟩ := h
    exact ⟨[], .nil, rfl⟩
  | case3 | case4 | case6 | case7 | case8 | case10 | case12 => simp at h
  | case5 a b c d n hn hhigh a' b' c' d' s' m hm hlow ih =>
    have hh := isHighSurrogate_iff.1 hhigh
    have hl := isLowSurrogate_iff.1 hlow
    have hc : (joinSurrogates n m).toNat = 0x10000 + (n - 0xd800) * 0x400 + (m - 0xdc00) := by
      have hv : (0x10000 + (n - 0xd800) * 0x400 + (m - 0xdc00)).isValidChar := Or.inr (by omega)
      exact toNat_ofNat hv
    exact step (.pair (spellsHex_of_hex4? hn) (spellsHex_of_hex4? hm) hh hl hc) (ih ·) h
  | case9 a b c d s n hn hhigh hlow ih =>
    rw [isHighSurrogate_iff] at hhigh
    rw [isLowSurrogate_iff] at hlow
    have hspell := spellsHex_of_hex4? hn
    have hlt := hspell.lt
    have hv : n.isValidChar := by
      simp only [Nat.isValidChar]
      omega
    have hc : (Char.ofNat n).toNat = n := toNat_ofNat hv
    exact step (.code (hc.symm ▸ hspell)) (ih ·) h
  | case11 c s hu e he ih => exact step (.short (shortEscape?_eq_some_iff.1 he)) (ih ·) h
  | case13 c s hquote hu hslash hplain ih =>
    simp only [Bool.or_eq_true, decide_eq_true_eq, not_or, Nat.not_lt] at hplain
    exact step (.plain (fun h => hquote h) hplain.1 hplain.2) (ih ·) h

/-! ### Numbers -/

/-- No number goes on with this text. -/
def EndsNumber (s : List Char) : Prop := ∀ c ∈ s.head?, Text.isDigit c = false ∧ c ≠ '.' ∧ c ≠ 'e' ∧ c ≠ 'E'

private theorem isDigits_of_digits? {s ds rest : List Char} (h : Text.digits? s = some (ds, rest)) :
    IsDigits ds ∧ s = ds ++ rest := by
  obtain ⟨hne, hds, -, hs⟩ := Text.digits?_eq_some h
  exact ⟨⟨hne, hds⟩, hs⟩

private theorem wholePart_append {ds rest : List Char} (h : IsDigits ds) (hzero : ds.head? = some '0' → ds = ['0'])
    (hrest : ∀ c ∈ rest.head?, Text.isDigit c = false) : wholePart (ds ++ rest) = some (ds, rest) := by
  have hlead : ¬ (ds.head? = some '0' && ds.length ≠ 1) = true := by
    simp only [ne_eq, decide_not, Bool.and_eq_true, decide_eq_true_eq, Bool.not_eq_true', decide_eq_false_iff_not,
      not_and, not_not]
    intro hhead
    rw [hzero hhead]
    rfl
  rw [wholePart, Text.digits?_append h.1 h.2 hrest]
  exact if_neg hlead

private theorem isDigits_of_wholePart {s ds rest : List Char} (h : wholePart s = some (ds, rest)) :
    IsDigits ds ∧ (ds.head? = some '0' → ds = ['0']) ∧ s = ds ++ rest := by
  rw [wholePart, Option.bind_eq_bind, Option.bind_eq_some_iff, Prod.exists] at h
  obtain ⟨ds', rest', hd, hif⟩ := h
  obtain ⟨hds, rfl⟩ := isDigits_of_digits? hd
  simp only [Option.ite_none_left_eq_some, Option.some.injEq, Prod.mk.injEq, Bool.and_eq_true, decide_eq_true_eq,
    not_and, ne_eq, not_not] at hif
  obtain ⟨hlead, rfl, rfl⟩ := hif
  refine ⟨hds, ?_, rfl⟩
  intro hhead
  obtain ⟨c, rfl⟩ := List.length_eq_one_iff.1 (hlead hhead)
  simpa using hhead

private theorem fractionPart_append {s ds rest : List Char} (h : SpellsFraction s ds)
    (hrest : ∀ c ∈ rest.head?, Text.isDigit c = false ∧ c ≠ '.') : fractionPart (s ++ rest) = some (ds, rest) := by
  cases h with
  | digits h => exact Text.digits?_append h.1 h.2 fun c hc => (hrest c hc).1
  | absent =>
    rw [List.nil_append, fractionPart]
    rintro s' rfl
    exact (hrest '.' rfl).2 rfl

private theorem spellsFraction_of_fractionPart {s ds rest : List Char} (h : fractionPart s = some (ds, rest)) :
    ∃ t, SpellsFraction t ds ∧ s = t ++ rest := by
  unfold fractionPart at h
  split at h
  · obtain ⟨hds, rfl⟩ := isDigits_of_digits? h
    exact ⟨'.' :: ds, .digits hds, rfl⟩
  · simp only [Option.some.injEq, Prod.mk.injEq] at h
    obtain ⟨rfl, rfl⟩ := h
    exact ⟨[], .absent, rfl⟩

private theorem exponentDigits_append {ds rest : List Char} (negative : Bool) (h : IsDigits ds)
    (hrest : ∀ c ∈ rest.head?, Text.isDigit c = false) :
    exponentDigits negative (ds ++ rest) =
      some (if negative then -(Text.digitsValue ds : Int) else Text.digitsValue ds, rest) := by
  rw [exponentDigits, Text.digits?_append h.1 h.2 hrest]
  rfl

private theorem isDigits_of_exponentDigits {negative : Bool} {s rest : List Char} {x : Int}
    (h : exponentDigits negative s = some (x, rest)) :
    ∃ ds, IsDigits ds ∧ s = ds ++ rest ∧
      x = if negative then -(Text.digitsValue ds : Int) else Text.digitsValue ds := by
  obtain ⟨⟨ds, rest'⟩, hd, he⟩ := Option.map_eq_some_iff.1 h
  simp only [Prod.mk.injEq] at he
  obtain ⟨rfl, rfl⟩ := he
  obtain ⟨hds, rfl⟩ := isDigits_of_digits? hd
  exact ⟨ds, hds, rfl, rfl⟩

private theorem exponentPart_append {s rest : List Char} {x : Int} (h : SpellsExponent s x) (hrest : EndsNumber rest) :
    exponentPart (s ++ rest) = some (x, rest) := by
  have hdigit : ∀ c ∈ rest.head?, Text.isDigit c = false := fun c hc => (hrest c hc).1
  cases h with
  | absent =>
    cases rest with
    | nil => rfl
    | cons c rest =>
      obtain ⟨-, -, he, hE⟩ := hrest c rfl
      have hmark : ¬ (decide (c = 'e') || decide (c = 'E')) = true := by simp [he, hE]
      unfold exponentPart
      exact if_neg hmark
  | @plain e ds he h =>
    have hmark : (decide (e = 'e') || decide (e = 'E')) = true := by simpa using he
    obtain ⟨d, ds', rfl⟩ := List.exists_cons_of_ne_nil h.1
    have hd : Text.isDigit d = true := h.2 d (by simp)
    unfold exponentPart
    refine (if_pos hmark).trans ?_
    -- a digit is no sign
    have hplus : d ≠ '+' := by
      rintro rfl
      exact absurd hd (by decide)
    have hminus : d ≠ '-' := by
      rintro rfl
      exact absurd hd (by decide)
    simpa [hplus, hminus] using exponentDigits_append false h hdigit
  | @plus e ds he h =>
    have hmark : (decide (e = 'e') || decide (e = 'E')) = true := by simpa using he
    unfold exponentPart
    refine (if_pos hmark).trans ?_
    exact exponentDigits_append false h hdigit
  | @minus e ds he h =>
    have hmark : (decide (e = 'e') || decide (e = 'E')) = true := by simpa using he
    unfold exponentPart
    refine (if_pos hmark).trans ?_
    exact exponentDigits_append true h hdigit

private theorem spellsExponent_of_exponentPart {s rest : List Char} {x : Int} (h : exponentPart s = some (x, rest)) :
    ∃ t, SpellsExponent t x ∧ s = t ++ rest := by
  unfold exponentPart at h
  split at h
  next e s =>
    split at h
    next hmark =>
      have he : e = 'e' ∨ e = 'E' := by simpa using hmark
      split at h
      · obtain ⟨ds, hds, rfl, rfl⟩ := isDigits_of_exponentDigits h
        exact ⟨e :: '+' :: ds, .plus he hds, rfl⟩
      · obtain ⟨ds, hds, rfl, rfl⟩ := isDigits_of_exponentDigits h
        exact ⟨e :: '-' :: ds, .minus he hds, rfl⟩
      · obtain ⟨ds, hds, rfl, rfl⟩ := isDigits_of_exponentDigits h
        exact ⟨e :: ds, .plain he hds, rfl⟩
    · simp only [Option.some.injEq, Prod.mk.injEq] at h
      obtain ⟨rfl, rfl⟩ := h
      exact ⟨[], .absent, rfl⟩
  · simp only [Option.some.injEq, Prod.mk.injEq] at h
    obtain ⟨rfl, rfl⟩ := h
    exact ⟨[], .absent, rfl⟩

private theorem head_exponent {s rest : List Char} {x : Int} (h : SpellsExponent s x) (hrest : EndsNumber rest) :
    ∀ c ∈ (s ++ rest).head?, Text.isDigit c = false ∧ c ≠ '.' := by
  have hmark : ∀ e : Char, e = 'e' ∨ e = 'E' → Text.isDigit e = false ∧ e ≠ '.' := by
    rintro e (rfl | rfl) <;> decide
  intro c hc
  cases h with
  | absent => exact ⟨(hrest c hc).1, (hrest c hc).2.1⟩
  | plain he h | plus he h | minus he h =>
    obtain rfl := Option.some.inj hc
    exact hmark _ he

private theorem head_fraction {s ds rest : List Char} (h : SpellsFraction s ds)
    (hrest : ∀ c ∈ rest.head?, Text.isDigit c = false ∧ c ≠ '.') :
    ∀ c ∈ (s ++ rest).head?, Text.isDigit c = false := by
  intro c hc
  cases h with
  | absent => exact (hrest c hc).1
  | digits h =>
    obtain rfl := Option.some.inj hc
    decide

/-- A spelled number is read as it is written, if the text after it does not continue it. -/
theorem number_spelled {s rest : List Char} {l : Literal} (h : SpellsUnsigned s l) (hrest : EndsNumber rest) :
    number l.negative (s ++ rest) = some (.number l, rest) := by
  obtain ⟨fraction, exponent, hfraction, hexponent, rfl⟩ := h.parts
  have hafter := head_exponent hexponent hrest
  have hsplit : l.whole ++ fraction ++ exponent ++ rest = l.whole ++ (fraction ++ (exponent ++ rest)) := by simp
  rw [hsplit, number, wholePart_append h.whole h.leading (head_fraction hfraction hafter)]
  simp only [Option.bind_eq_bind, Option.bind_some, fractionPart_append hfraction hafter,
    exponentPart_append hexponent hrest, h.inRange, if_true]

theorem spells_of_number {negative : Bool} {s rest : List Char} {v : Value} (h : number negative s = some (v, rest)) :
    ∃ t l, SpellsUnsigned t l ∧ l.negative = negative ∧ v = .number l ∧ s = t ++ rest := by
  simp only [number, Option.bind_eq_bind, Option.bind_eq_some_iff, Prod.exists] at h
  obtain ⟨whole, s₁, hwhole, fraction, s₂, hfraction, exponent, s₃, hexponent, h⟩ := h
  split at h
  next hrange =>
    simp only [Option.some.injEq, Prod.mk.injEq] at h
    obtain ⟨rfl, rfl⟩ := h
    obtain ⟨hds, hlead, rfl⟩ := isDigits_of_wholePart hwhole
    obtain ⟨f, hf, rfl⟩ := spellsFraction_of_fractionPart hfraction
    obtain ⟨e, he, rfl⟩ := spellsExponent_of_exponentPart hexponent
    exact ⟨whole ++ f ++ e, _, ⟨hds, hlead, ⟨f, e, hf, he, rfl⟩, hrange⟩, rfl, rfl, by simp⟩
  · simp at h

end FirmwareSymbols.Json
