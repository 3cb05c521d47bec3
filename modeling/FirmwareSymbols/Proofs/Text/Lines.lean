import FirmwareSymbols.Proofs.Text.Split
import FirmwareSymbols.Text.Lines
import Mathlib.Data.List.DropRight

/-!
# Lines of a text

Texts that are written one on a line are read back as they are, but for a carriage return at their end
(`lines_flatMap`). What is read of a line, its blanks at the end removed, has neither a line feed nor a blank at its
end (`isLine_of_mem_lines`), and texts of this kind lose nothing (`IsLine.trimEnd_eq`).
-/

namespace FirmwareSymbols.Text

/-- The text has no line feed, and no blank at its end. -/
structure IsLine (t : String) : Prop where
  noFeed : '\n' ∉ t.toList
  noBlankEnd : ∀ c, t.toList.getLast? = some c → isBlank c = false

instance (t : String) : Decidable (IsLine t) :=
  decidable_of_iff ('\n' ∉ t.toList ∧ t.toList.getLast?.all (fun c => !isBlank c) = true) <| by
    simp only [Option.all_eq_true, Bool.not_eq_true']
    exact ⟨fun h => ⟨h.1, h.2⟩, fun h => ⟨h.noFeed, h.noBlankEnd⟩⟩

/-! ### Blanks at the end -/

theorem trimEnd_concat (s : List Char) (c : Char) :
    trimEnd (s ++ [c]) = if isBlank c then trimEnd s else s ++ [c] := by
  have hkeep : ∀ s : List Char,
      s.foldr (fun d rest => if rest.isEmpty && isBlank d then [] else d :: rest) [c] = s ++ [c] := by
    intro s
    induction s with
    | nil => rfl
    | cons d s ih =>
      rw [List.foldr_cons, ih]
      simp
  unfold trimEnd
  rw [List.foldr_append]
  by_cases hc : isBlank c = true
  · simp [hc]
  · rw [if_neg hc, ← hkeep s]
    simp [hc]

theorem trimEnd_eq_rdropWhile (s : List Char) : trimEnd s = s.rdropWhile isBlank := by
  induction s using List.reverseRecOn with
  | nil => rfl
  | append_singleton s c ih => rw [trimEnd_concat, List.rdropWhile_concat, ih]

/-- Blanks that are added at the end are removed with those that are there. -/
theorem trimEnd_append_blanks (line : List Char) {blanks : List Char} (h : ∀ c ∈ blanks, isBlank c = true) :
    trimEnd (line ++ blanks) = trimEnd line := by
  have hreverse : ∀ c ∈ blanks.reverse, isBlank c = true := fun c hc => h c (List.mem_reverse.1 hc)
  rw [trimEnd_eq_rdropWhile, trimEnd_eq_rdropWhile, List.rdropWhile, List.rdropWhile, List.reverse_append,
    List.dropWhile_append_of_pos hreverse]

/-- The carriage return of a line end is a blank. -/
theorem trimEnd_dropReturn (line : List Char) : trimEnd (dropReturn line) = trimEnd line := by
  unfold dropReturn
  split
  next h =>
    obtain ⟨before, rfl⟩ := List.getLast?_eq_some_iff.1 h
    rw [List.dropLast_concat, trimEnd_concat, if_pos (by decide)]
  next => rfl

theorem IsLine.trimEnd_eq {t : String} (h : IsLine t) : trimEnd t.toList = t.toList := by
  rw [trimEnd_eq_rdropWhile, List.rdropWhile_eq_self_iff]
  intro hne hblank
  rw [h.noBlankEnd _ (List.getLast?_eq_some_getLast hne)] at hblank
  exact Bool.false_ne_true hblank

/-! ### Lines -/

/-- The first line feed ends the first line. -/
theorem lines_append {line : List Char} (h : '\n' ∉ line) (rest : List Char) :
    lines (line ++ '\n' :: rest) = dropReturn line :: lines rest := by
  have hpieces : splitAt '\n' (line ++ '\n' :: rest) = line :: splitAt '\n' rest := by
    rw [splitAt_append, splitAt_of_not_mem h, List.singleton_append]
  have hne := splitAt_ne_nil '\n' rest
  unfold lines
  rw [hpieces]
  simp only [List.dropLast_cons_of_ne_nil hne, List.getLast?_cons_of_ne_nil hne, List.map_cons]
  split <;> rfl

/-- Texts that are written one on a line are the lines of what is written. -/
theorem lines_flatMap {texts : List (List Char)} (h : ∀ t ∈ texts, '\n' ∉ t) :
    lines (texts.flatMap fun t => t ++ ['\n']) = texts.map dropReturn := by
  induction texts with
  | nil => rfl
  | cons t texts ih =>
    rw [List.flatMap_cons, List.append_assoc, List.singleton_append, lines_append (h t List.mem_cons_self),
      ih fun t' ht' => h t' (List.mem_cons_of_mem _ ht'), List.map_cons]

/-- A text without a line feed is one line, unless it is empty. -/
theorem lines_of_not_mem {s : List Char} (h : '\n' ∉ s) (hne : s ≠ []) : lines s = [s] := by
  obtain ⟨c, cs, rfl⟩ := List.exists_cons_of_ne_nil hne
  simp [lines, splitAt_of_not_mem h]

theorem not_mem_of_mem_lines {s line : List Char} (h : line ∈ lines s) : '\n' ∉ line := by
  have hended : ∀ line ∈ (splitAt '\n' s).dropLast.map dropReturn, '\n' ∉ line := by
    intro line hline
    obtain ⟨piece, hpiece, rfl⟩ := List.mem_map.1 hline
    have hclean := not_mem_of_mem_splitAt (List.dropLast_subset _ hpiece)
    unfold dropReturn
    split
    · exact fun hm => hclean (List.dropLast_subset _ hm)
    · exact hclean
  unfold lines at h
  dsimp only at h
  split at h
  next c cs hlast =>
    rcases List.mem_append.1 h with h | h
    · exact hended line h
    · obtain rfl := List.mem_singleton.1 h
      exact not_mem_of_mem_splitAt (List.mem_of_getLast? hlast)
  next => exact hended line h

/-- Lines and pieces differ in carriage returns at their ends and in an empty piece at the end of the text. -/
theorem exists_mem_lines_iff {s t : List Char} (hne : t ≠ []) :
    (∃ line ∈ lines s, trimEnd line = t) ↔ ∃ piece ∈ splitAt '\n' s, trimEnd piece = t := by
  obtain ⟨before, last, hpieces⟩ := List.eq_nil_or_concat' (splitAt '\n' s) |>.resolve_left (splitAt_ne_nil '\n' s)
  have hended : (∃ line ∈ before.map dropReturn, trimEnd line = t) ↔ ∃ piece ∈ before, trimEnd piece = t := by
    simp only [List.mem_map, exists_exists_and_eq_and, trimEnd_dropReturn]
  have hlines : lines s = before.map dropReturn ++ if last = [] then [] else [last] := by
    unfold lines
    rw [hpieces]
    cases last <;> simp
  rw [hlines, hpieces]
  by_cases hlast : last = []
  · subst hlast
    have hnil : trimEnd [] ≠ t := hne.symm
    simpa [hnil] using hended
  · simp only [if_neg hlast, List.mem_append, or_and_right, exists_or, hended]

/-- What is read of a line has no line feed and no blank at its end. -/
theorem isLine_of_mem_lines {s line : List Char} (h : line ∈ lines s) : IsLine (String.ofList (trimEnd line)) where
  noFeed := by
    rw [String.toList_ofList, trimEnd_eq_rdropWhile]
    exact fun hm => not_mem_of_mem_lines h ((List.rdropWhile_prefix isBlank line).subset hm)
  noBlankEnd := by
    rw [String.toList_ofList, trimEnd_eq_rdropWhile]
    intro c hc
    have hne : line.rdropWhile isBlank ≠ [] := List.ne_nil_of_mem (List.mem_of_getLast? hc)
    rw [List.getLast?_eq_some_getLast hne, Option.some.injEq] at hc
    rw [← hc, Bool.eq_false_iff]
    exact List.rdropWhile_last_not isBlank line hne

end FirmwareSymbols.Text
