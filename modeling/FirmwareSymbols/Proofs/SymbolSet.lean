import FirmwareSymbols.SymbolSet
import Mathlib.Data.List.Sort

/-!
# Members of symbol sets

A set is determined by its members (`SymbolSet.ext`), and each operation is described by the members of its result:
insertion of one name or of many (`mem_insert`, `mem_insertMany`), building a set from a list (`mem_ofList`), union
(`mem_union`), removal (`erase?_eq_none_iff`, `mem_of_erase?_eq_some`) and difference (`mem_difference`).
-/

namespace FirmwareSymbols

/-- Ascending lists with the same members are equal. -/
theorem Ascending.eq_of_mem_iff {α : Type} {key : α → String} {l m : List α} (hl : Ascending key l)
    (hm : Ascending key m) (h : ∀ x, x ∈ l ↔ x ∈ m) : l = m := by
  have : Std.Irrefl (fun a b : α => key a < key b) := ⟨fun a => String.lt_irrefl (key a)⟩
  have : Std.Antisymm (fun a b : α => key a < key b) := ⟨fun _ _ h₁ h₂ => absurd h₁ (String.lt_asymm h₂)⟩
  exact List.Pairwise.eq_of_mem_iff hl hm h

theorem Ascending.perm_insert? {α : Type} {key : α → String} {x : α} {l m : List α} (h : insert? key x l = some m) :
    m.Perm (x :: l) := by
  induction l generalizing m with
  | nil =>
    simp only [insert?, Option.some.injEq] at h
    subst h
    exact List.Perm.refl _
  | cons y l ih =>
    unfold insert? at h
    split at h
    · simp only [Option.some.injEq] at h
      subst h
      exact List.Perm.refl _
    · split at h
      · simp at h
      · obtain ⟨m, hm, rfl⟩ := Option.map_eq_some_iff.1 h
        exact ((ih hm).cons y).trans (List.Perm.swap x y l)

namespace SymbolSet

variable {s t : SymbolSet} {name : String}

instance : Decidable (name ∈ s) := inferInstanceAs (Decidable (name ∈ s.names))

theorem mem_iff_mem_names : name ∈ s ↔ name ∈ s.names := Iff.rfl

theorem ne_empty_of_mem (h : name ∈ s) : name ≠ "" := by
  rintro rfl
  exact s.noEmptyName h

theorem nodup_names (s : SymbolSet) : s.names.Nodup := by
  refine List.Pairwise.imp ?_ s.ascending
  rintro a _ hlt rfl
  exact String.lt_irrefl a hlt

/-- Sets with the same members are equal. -/
theorem ext (h : ∀ name, name ∈ s ↔ name ∈ t) : s = t := by
  obtain ⟨l, hl, hl'⟩ := s
  obtain ⟨m, hm, hm'⟩ := t
  have hlm : l = m := Ascending.eq_of_mem_iff hl hm h
  subst hlm
  rfl

@[simp] theorem contains_eq_true : s.contains name = true ↔ name ∈ s := by
  simp [contains, mem_iff_mem_names]

theorem not_mem_empty : name ∉ empty := List.not_mem_nil

theorem isEmpty_iff : s.isEmpty = true ↔ ∀ name, name ∉ s := by
  rw [isEmpty, List.isEmpty_iff, List.eq_nil_iff_forall_not_mem]
  rfl

theorem eq_empty_of_isEmpty (h : s.isEmpty = true) : s = empty := by
  apply ext
  intro name
  exact ⟨fun hm => absurd hm (isEmpty_iff.1 h name), fun hm => absurd hm not_mem_empty⟩

/-! ### Insertion -/

/-- A set does not grow by the empty name or by a member. -/
theorem insert?_eq_none_iff {new : String} : s.insert? new = none ↔ new = "" ∨ new ∈ s := by
  have key : Ascending.insert? id new s.names = none ↔ new ∈ s := by
    rw [Ascending.insert?_eq_none_iff s.ascending]
    simp [mem_iff_mem_names]
  unfold insert?
  by_cases hne : new = ""
  · simp [hne]
  · rw [dif_neg hne, or_iff_right hne]
    split
    next h => exact ⟨fun _ => key.1 h, fun _ => rfl⟩
    next l h =>
      have hl : Ascending.insert? id new s.names ≠ none := by
        rw [h]
        exact Option.some_ne_none l
      exact ⟨fun h' => absurd h' (Option.some_ne_none _), fun hm => absurd (key.2 hm) hl⟩

theorem mem_insert {new : String} : name ∈ s.insert new ↔ name ∈ s ∨ (name = new ∧ new ≠ "") := by
  unfold insert insert?
  by_cases hne : new = ""
  · simp [hne]
  · rw [dif_neg hne]
    split
    next h =>
      -- nothing was inserted because the name is a member already
      obtain ⟨y, hy, rfl⟩ := (Ascending.insert?_eq_none_iff s.ascending).1 h
      simp only [Option.getD_none, id_eq]
      constructor
      · intro hm
        exact Or.inl hm
      · rintro (hm | ⟨rfl, -⟩)
        · exact hm
        · exact hy
    next l h =>
      simp only [Option.getD_some, mem_iff_mem_names, Ascending.mem_insert? h]
      rw [or_comm]
      simp [hne]

theorem mem_insertMany {names : List String} : name ∈ s.insertMany names ↔ name ∈ s ∨ (name ∈ names ∧ name ≠ "") := by
  unfold insertMany
  induction names generalizing s with
  | nil => simp
  | cons n names ih =>
    rw [List.foldl_cons, ih, mem_insert, List.mem_cons, or_assoc]
    by_cases hn : name = n
    · subst hn
      have : name ∈ names ∧ name ≠ "" → name ≠ "" := And.right
      tauto
    · simp [hn]

/-- The set of a list has its names but the empty one. -/
theorem mem_ofList {names : List String} : name ∈ ofList names ↔ name ∈ names ∧ name ≠ "" := by
  rw [ofList, mem_insertMany]
  simp [not_mem_empty]

theorem mem_union : name ∈ s ∪ t ↔ name ∈ s ∨ name ∈ t := mem_foldl_place s.ascending

/-- Reading the members of a set back gives the set. -/
theorem ofList_names (s : SymbolSet) : ofList s.names = s := by
  apply ext
  intro name
  rw [mem_ofList]
  exact ⟨And.left, fun h => ⟨h, ne_empty_of_mem h⟩⟩

/-! ### Removal and difference -/

theorem erase?_eq_none_iff : s.erase? name = none ↔ name ∉ s := by
  have key : Ascending.erase? id name s.names = none ↔ name ∉ s.names := by
    rw [Ascending.erase?_eq_none_iff]
    constructor
    · intro h hm
      exact h name hm rfl
    · rintro h y hy rfl
      exact h hy
  unfold erase?
  split
  next h => exact ⟨fun _ => key.1 h, fun _ => rfl⟩
  next l h =>
    have hl : Ascending.erase? id name s.names ≠ none := by
      rw [h]
      exact Option.some_ne_none l
    exact ⟨fun h' => absurd h' (Option.some_ne_none _), fun hm => absurd (key.2 hm) hl⟩

private theorem mem_erase?_iff {l l' : List String} (hl : Ascending id l) (h : Ascending.erase? id name l = some l')
    {other : String} : other ∈ l' ↔ other ∈ l ∧ other ≠ name := by
  induction l generalizing l' with
  | nil => simp [Ascending.erase?] at h
  | cons y ys ih =>
    unfold Ascending at hl
    rw [List.pairwise_cons] at hl
    unfold Ascending.erase? at h
    split at h
    next heq =>
      simp only [Option.some.injEq] at h
      subst h heq
      rw [List.mem_cons]
      constructor
      · intro ho
        refine ⟨Or.inr ho, ?_⟩
        -- the list is strictly ascending, so the removed name does not occur again
        rintro rfl
        exact String.lt_irrefl _ (hl.1 other ho)
      · rintro ⟨rfl | ho, hne⟩
        · exact absurd rfl hne
        · exact ho
    next hne =>
      obtain ⟨m, hm, rfl⟩ := Option.map_eq_some_iff.1 h
      simp only [List.mem_cons, ih hl.2 hm]
      constructor
      · rintro (rfl | ⟨ho, hon⟩)
        · exact ⟨Or.inl rfl, fun h => hne h.symm⟩
        · exact ⟨Or.inr ho, hon⟩
      · rintro ⟨rfl | ho, hon⟩
        · exact Or.inl rfl
        · exact Or.inr ⟨ho, hon⟩

/-- Removing a member leaves the other members. -/
theorem mem_of_erase?_eq_some (h : s.erase? name = some t) :
    name ∈ s ∧ ∀ other, other ∈ t ↔ other ∈ s ∧ other ≠ name := by
  constructor
  · by_contra hm
    rw [erase?_eq_none_iff.2 hm] at h
    simp at h
  · unfold erase? at h
    split at h
    · simp at h
    next l hl =>
      simp only [Option.some.injEq] at h
      subst h
      intro other
      exact mem_erase?_iff s.ascending hl

theorem mem_erase {other : String} : other ∈ s.erase name ↔ other ∈ s ∧ other ≠ name := by
  unfold erase
  cases h : s.erase? name with
  | none =>
    have hm : name ∉ s := erase?_eq_none_iff.1 h
    constructor
    · intro ho
      refine ⟨ho, ?_⟩
      rintro rfl
      exact hm ho
    · exact And.left
  | some t => exact (mem_of_erase?_eq_some h).2 other

theorem mem_difference : name ∈ s.difference t ↔ name ∈ s ∧ name ∉ t := by
  unfold difference
  rw [List.mem_filter, Bool.not_eq_true', Bool.eq_false_iff, ne_eq, contains_eq_true]
  rfl

end SymbolSet

end FirmwareSymbols
