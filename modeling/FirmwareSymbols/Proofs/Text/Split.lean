import FirmwareSymbols.Text.Split
import Mathlib.Data.List.Basic

/-!
# Pieces of a text

Cutting a text at a separator gives pieces without it (`not_mem_of_mem_splitAt`), and the pieces of two texts that are
joined by a separator are those of the one followed by those of the other (`splitAt_append`).
-/

namespace FirmwareSymbols.Text

variable {separator : Char}

theorem addToPieces_append (c : Char) {pieces more : List (List Char)} (h : pieces ≠ []) :
    addToPieces separator c (pieces ++ more) = addToPieces separator c pieces ++ more := by
  obtain ⟨p, ps, rfl⟩ := List.exists_cons_of_ne_nil h
  unfold addToPieces
  split <;> rfl

/-- The pieces before and after a separator. -/
theorem splitAt_append (before after : List Char) :
    splitAt separator (before ++ separator :: after) = splitAt separator before ++ splitAt separator after := by
  induction before with
  | nil => simp [splitAt, addToPieces]
  | cons c before ih =>
    have hne := splitAt_ne_nil separator before
    unfold splitAt at ih hne ⊢
    rw [List.cons_append, List.foldr_cons, ih, addToPieces_append c hne, List.foldr_cons]

theorem splitAt_of_not_mem {s : List Char} (h : separator ∉ s) : splitAt separator s = [s] := by
  induction s with
  | nil => rfl
  | cons c s ih =>
    rw [List.mem_cons, not_or] at h
    have hs := ih h.2
    unfold splitAt at hs ⊢
    rw [List.foldr_cons, hs, addToPieces, if_neg (Ne.symm h.1)]

/-- What is added after the last separator belongs to the last piece. -/
theorem exists_splitAt_append (s : List Char) {more : List Char} (h : separator ∉ more) :
    ∃ before last, splitAt separator s = before ++ [last] ∧ splitAt separator (s ++ more) = before ++ [last ++ more] := by
  induction s with
  | nil => exact ⟨[], [], rfl, splitAt_of_not_mem h⟩
  | cons c s ih =>
    obtain ⟨before, last, hs, hmore⟩ := ih
    unfold splitAt at hs hmore ⊢
    rw [List.cons_append, List.foldr_cons, List.foldr_cons, hs, hmore]
    by_cases hc : c = separator
    · exact ⟨[] :: before, last, if_pos hc, if_pos hc⟩
    · cases before with
      | nil => exact ⟨[], c :: last, if_neg hc, if_neg hc⟩
      | cons piece before => exact ⟨(c :: piece) :: before, last, if_neg hc, if_neg hc⟩

/-- A separator ends its piece, so no piece has one. -/
theorem not_mem_of_mem_splitAt {s piece : List Char} (h : piece ∈ splitAt separator s) : separator ∉ piece := by
  induction s generalizing piece with
  | nil =>
    obtain rfl := List.mem_singleton.1 h
    exact List.not_mem_nil
  | cons c s ih =>
    obtain ⟨p, ps, hps⟩ := List.exists_cons_of_ne_nil (splitAt_ne_nil separator s)
    have hsplit : splitAt separator (c :: s) = addToPieces separator c (splitAt separator s) := rfl
    rw [hsplit, hps, addToPieces] at h
    rw [hps] at ih
    split at h
    · rcases List.mem_cons.1 h with rfl | h
      · exact List.not_mem_nil
      · exact ih h
    next hc =>
      rcases List.mem_cons.1 h with rfl | h
      · rw [List.mem_cons, not_or]
        exact ⟨Ne.symm hc, ih List.mem_cons_self⟩
      · exact ih (List.mem_cons_of_mem _ h)

theorem splitAt_eq_splitOn (separator : Char) (s : List Char) : splitAt separator s = s.splitOn separator := by
  induction s with
  | nil => rfl
  | cons c s ih =>
    obtain ⟨piece, pieces, hpieces⟩ := List.exists_cons_of_ne_nil (splitAt_ne_nil separator s)
    have hsplit : splitAt separator (c :: s) = addToPieces separator c (splitAt separator s) := rfl
    rw [hsplit, List.splitOn_cons_eq_if_modifyHead, ← ih, hpieces, addToPieces]
    by_cases hc : c = separator
    · rw [if_pos hc, if_pos (beq_iff_eq.2 hc)]
    · rw [if_neg hc, if_neg (mt beq_iff_eq.1 hc), List.modifyHead_cons]

end FirmwareSymbols.Text
