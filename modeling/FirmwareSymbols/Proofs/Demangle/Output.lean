import FirmwareSymbols.Demangle.Output
import Mathlib.Init

/-!
# What is written

Pieces that fit are written one after the other (`Output.writeAll_eq_append`). A note stands for those that do not, so
nothing at all is written only of pieces that are empty (`Output.writeAll_eq_empty_iff`).
-/

namespace FirmwareSymbols.Demangle

theorem limitNote_ne_empty : limitNote ≠ "" := by decide

namespace Output

@[simp] theorem text_empty : empty.text = "" := rfl

theorem text_of_write? {o o' : Output} {piece : String} (h : o.write? piece = some o') :
    o'.text = o.text ++ piece := by
  unfold write? at h
  split at h
  · obtain rfl := Option.some.inj h
    unfold text
    rw [List.reverse_cons, String.join_append, String.join_cons, String.join_nil, String.append_empty]
  · simp at h

theorem writeAll_eq_append {o : Output} {pieces : List String} (h : (String.join pieces).utf8ByteSize ≤ o.room) :
    o.writeAll pieces = o.text ++ String.join pieces := by
  induction pieces generalizing o with
  | nil => rw [writeAll, String.join_nil, String.append_empty]
  | cons piece rest ih =>
    rw [String.join_cons, String.utf8ByteSize_append] at h
    have hwrite : o.write? piece = some ⟨piece :: o.pieces, o.room - piece.utf8ByteSize⟩ := if_pos (by omega)
    rw [writeAll, hwrite]
    dsimp only
    rw [ih (by dsimp only; omega), text_of_write? hwrite, String.append_assoc, String.join_cons]

theorem writeAll_eq_empty_iff {o : Output} {pieces : List String} :
    o.writeAll pieces = "" ↔ o.text = "" ∧ String.join pieces = "" := by
  constructor
  · intro h
    induction pieces generalizing o with
    | nil => exact ⟨h, rfl⟩
    | cons piece rest ih =>
      rw [writeAll] at h
      split at h
      next o' hwrite =>
        obtain ⟨htext, hrest⟩ := ih h
        rw [text_of_write? hwrite, String.append_eq_empty_iff] at htext
        exact ⟨htext.1, by rw [String.join_cons, htext.2, hrest, String.append_empty]⟩
      · rw [String.append_eq_empty_iff] at h
        exact absurd h.2 limitNote_ne_empty
  · rintro ⟨htext, hpieces⟩
    rw [writeAll_eq_append (by rw [hpieces]; exact Nat.zero_le _), htext, hpieces, String.append_empty]

end Output

end FirmwareSymbols.Demangle
