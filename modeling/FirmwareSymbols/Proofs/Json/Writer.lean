import FirmwareSymbols.Json.Reader
import FirmwareSymbols.Json.Writer

/-!
# Reading back written strings

The reader undoes the writer, whatever text follows:

* one character: its escaped form is read as the character (`stringBody_escapeChar`), by the three kinds of escapes;
* one string: `stringBody_escaped`, by induction on its characters;
* an array of strings: `items_written`, by induction on the strings, and `parse?_stringArray` for a whole document.
-/

namespace FirmwareSymbols.Json

/-! ### Characters -/

private theorem hexDigit?_hexChar {n : Nat} (h : n < 16) : Text.hexDigit? (hexChar n) = some n := by
  have key : ∀ n : Fin 16, Text.hexDigit? (hexChar n) = some n.val := by decide
  exact key ⟨n, h⟩

/-- The four digits of a control character. -/
private theorem hex4?_control {n : Nat} (h : n < 0x20) :
    hex4? '0' '0' (hexChar (n / 16)) (hexChar (n % 16)) = some n := by
  have h0 : Text.hexDigit? '0' = some 0 := by decide
  have hh : Text.hexDigit? (hexChar (n / 16)) = some (n / 16) := hexDigit?_hexChar (by omega)
  have hl : Text.hexDigit? (hexChar (n % 16)) = some (n % 16) := hexDigit?_hexChar (by omega)
  simp only [hex4?, h0, hh, hl, Option.bind_eq_bind, Option.bind_some, Option.pure_def, Option.some.injEq]
  omega

theorem stringBody_short {c e : Char} (hc : shortEscape? c = some e) (rest : List Char) :
    stringBody ('\\' :: c :: rest) = prepend e (stringBody rest) := by
  have hu : c ≠ 'u' := by
    rintro rfl
    simp [shortEscape?] at hc
  simp [stringBody, hu, hc]

private theorem stringBody_control {c : Char} (hc : c.toNat < 0x20) (rest : List Char) :
    stringBody ('\\' :: 'u' :: '0' :: '0' :: hexChar (c.toNat / 16) :: hexChar (c.toNat % 16) :: rest) =
      prepend c (stringBody rest) := by
  have hhigh : isHighSurrogate c.toNat = false := by
    simp only [isHighSurrogate, Bool.and_eq_false_iff, decide_eq_false_iff_not]
    omega
  have hlow : isLowSurrogate c.toNat = false := by
    simp only [isLowSurrogate, Bool.and_eq_false_iff, decide_eq_false_iff_not]
    omega
  rw [stringBody, hex4?_control hc]
  simp only [hhigh, hlow, Bool.false_eq_true, if_false, Char.ofNat_toNat]

theorem stringBody_raw {c : Char} (hq : c ≠ '"') (hb : c ≠ '\\') (hc : ¬ c.toNat < 0x20)
    (rest : List Char) : stringBody (c :: rest) = prepend c (stringBody rest) := by
  rw [stringBody]
  · simp [hb, hc]
  · exact hq
  · intro _ _ _ _ _ h
    exact absurd h hb
  · intro _ _ h
    exact absurd h hb

/-- The reader takes the written form of a character as one character. -/
theorem stringBody_escapeChar (c : Char) (rest : List Char) :
    stringBody (escapeChar c ++ rest) = prepend c (stringBody rest) := by
  unfold escapeChar
  split
  next h => subst h; exact stringBody_short rfl rest
  next hq =>
    split
    next h => subst h; exact stringBody_short rfl rest
    next hb =>
      split
      next h => subst h; exact stringBody_short rfl rest
      split
      next h => subst h; exact stringBody_short rfl rest
      split
      next h => subst h; exact stringBody_short rfl rest
      split
      next h => subst h; exact stringBody_short rfl rest
      split
      next h => subst h; exact stringBody_short rfl rest
      split
      next h => exact stringBody_control h rest
      next h => exact stringBody_raw hq hb h rest

/-! ### Strings -/

theorem stringBody_escaped (text rest : List Char) :
    stringBody (text.flatMap escapeChar ++ '"' :: rest) = some (text, rest) := by
  induction text with
  | nil => rw [List.flatMap_nil, List.nil_append, stringBody]
  | cons c text ih =>
    rw [List.flatMap_cons, List.append_assoc, stringBody_escapeChar, ih]
    rfl

/-- A quoted text is read as that text, at any depth. -/
theorem value_quote (depth : Nat) (text rest : List Char) :
    value depth (quote text ++ rest) = some (.string text, rest) := by
  have hskip : skipBlanks (quote text ++ rest) = '"' :: (text.flatMap escapeChar ++ '"' :: rest) := by
    simp [quote, skipBlanks, isBlank]
  rw [value, hskip]
  simp only [stringBody_escaped, Option.map_some]

/-! ### Arrays -/

/-- What stands between the brackets of a written array. -/
private def written (texts : List (List Char)) : List Char := List.intercalate [','] (texts.map quote)

private theorem written_cons_cons (text next : List Char) (texts : List (List Char)) :
    written (text :: next :: texts) = quote text ++ ',' :: written (next :: texts) := by
  simp [written, List.intercalate]

private theorem length_le_written (texts : List (List Char)) : texts.length ≤ (written texts).length := by
  induction texts with
  | nil => simp
  | cons text texts ih =>
    cases texts with
    | nil => simp [written, List.intercalate, quote]
    | cons next texts =>
      rw [written_cons_cons]
      simp only [List.length_append, List.length_cons] at ih ⊢
      omega

/-- The items of a written array are its strings. -/
theorem items_written (depth : Nat) (text : List Char) (texts : List (List Char)) (fuel : Nat) (rest : List Char)
    (hfuel : texts.length < fuel) :
    items (value depth) fuel (written (text :: texts) ++ ']' :: rest) =
      some ((text :: texts).map .string, rest) := by
  have hcomma : ∀ s, skipBlanks (',' :: s) = ',' :: s := by simp [skipBlanks, isBlank]
  have hclose : ∀ s, skipBlanks (']' :: s) = ']' :: s := by simp [skipBlanks, isBlank]
  induction texts generalizing text fuel with
  | nil =>
    obtain ⟨n, rfl⟩ : ∃ n, fuel = n + 1 := ⟨fuel - 1, by omega⟩
    have hw : written [text] = quote text := by simp [written, List.intercalate]
    rw [items, hw, value_quote]
    simp [hclose]
  | cons next texts ih =>
    simp only [List.length_cons] at hfuel
    obtain ⟨n, rfl⟩ : ∃ n, fuel = n + 1 := ⟨fuel - 1, by omega⟩
    have hn : texts.length < n := by omega
    rw [items, written_cons_cons, List.append_assoc, value_quote]
    simp only [Option.bind_eq_bind, Option.bind_some, List.cons_append, hcomma, ih next n hn, Option.map_some,
      List.map_cons]

/-- A written array of strings is read as the array of these strings. -/
theorem parse?_stringArray (texts : List (List Char)) :
    parse? (stringArray texts) = some (.array (texts.map .string)) := by
  have hopen : ∀ s, skipBlanks ('[' :: s) = '[' :: s := by simp [skipBlanks, isBlank]
  have key : value maxDepth (stringArray texts) = some (.array (texts.map .string), []) := by
    rw [stringArray, bracketed, value, hopen]
    show array (value 126) (written texts ++ [']']) = _
    cases texts with
    | nil => rfl
    | cons text texts =>
      -- the first character is a quote, so the array is not empty
      have hhead : ∃ s, skipBlanks (written (text :: texts) ++ [']']) = '"' :: s := by
        cases texts <;> simp [written, List.intercalate, quote, skipBlanks, isBlank]
      obtain ⟨s, hs⟩ := hhead
      -- the reader allows as many items as there are characters
      have hlen : texts.length < (written (text :: texts) ++ [']']).length := by
        have := length_le_written (text :: texts)
        simp only [List.length_cons, List.length_append] at this ⊢
        omega
      rw [array, hs]
      rw [items_written 126 text texts _ [] hlen]
      rfl
  rw [parse?, key]
  rfl

end FirmwareSymbols.Json
