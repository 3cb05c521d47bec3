/-!
# Ascending lists

Lists whose elements carry a text key and stand in strictly ascending order of it, the order of texts being the
one of their code points (which is the byte order of their UTF-8 forms). Insertion and removal say by `none` that
they change nothing, and keep the order (`Ascending.insert?_some`, `Ascending.erase?_some`).
-/

namespace FirmwareSymbols

/-- Each key is below all later ones. -/
def Ascending {α : Type} (key : α → String) (l : List α) : Prop :=
  l.Pairwise (fun a b => key a < key b)

namespace Ascending

variable {α : Type} {key : α → String}

/-- Puts `x` at its place, or gives `none` if its key is there already. -/
def insert? (key : α → String) (x : α) : List α → Option (List α)
  | [] => some [x]
  | y :: ys =>
    if key x < key y then some (x :: y :: ys)
    else if key x = key y then none
    else (insert? key x ys).map (y :: ·)

/-- Takes out the element with this key, or gives `none` if there is none. -/
def erase? (key : α → String) (k : String) : List α → Option (List α)
  | [] => none
  | y :: ys => if k = key y then some ys else (erase? key k ys).map (y :: ·)

theorem nil : Ascending key ([] : List α) := List.Pairwise.nil

theorem mem_insert? {x : α} {l l' : List α} (h : insert? key x l = some l') {z : α} :
    z ∈ l' ↔ z = x ∨ z ∈ l := by
  induction l generalizing l' with
  | nil => simp only [insert?, Option.some.injEq] at h; subst h; simp
  | cons y ys ih =>
    unfold insert? at h
    split at h
    · simp only [Option.some.injEq] at h; subst h; simp
    · split at h
      · simp at h
      · obtain ⟨m, hm, rfl⟩ := Option.map_eq_some_iff.1 h
        simp only [List.mem_cons, ih hm]
        exact or_left_comm

private theorem lt_of_not {a b : String} (h₁ : ¬ a < b) (h₂ : a ≠ b) : b < a := by
  have := String.not_lt.1 h₁
  exact Std.lt_of_le_of_ne this (fun h => h₂ h.symm)

theorem insert?_some {x : α} {l l' : List α} (hl : Ascending key l) (h : insert? key x l = some l') :
    Ascending key l' := by
  induction l generalizing l' with
  | nil => simp only [insert?, Option.some.injEq] at h; subst h; exact List.pairwise_singleton _ _
  | cons y ys ih =>
    unfold Ascending at hl
    rw [List.pairwise_cons] at hl
    unfold insert? at h
    split at h
    next hlt =>
      simp only [Option.some.injEq] at h
      subst h
      refine List.pairwise_cons.2 ⟨?_, List.pairwise_cons.2 hl⟩
      intro z hz
      rcases List.mem_cons.1 hz with rfl | hz
      · exact hlt
      · exact String.lt_trans hlt (hl.1 z hz)
    next hge =>
      split at h
      · simp at h
      next hne =>
        obtain ⟨m, hm, rfl⟩ := Option.map_eq_some_iff.1 h
        refine List.pairwise_cons.2 ⟨?_, ih hl.2 hm⟩
        intro z hz
        rcases (mem_insert? hm).1 hz with rfl | hz
        · exact lt_of_not hge hne
        · exact hl.1 z hz

/-- Nothing is inserted exactly when the key is there already. -/
theorem insert?_eq_none_iff {x : α} {l : List α} (hl : Ascending key l) :
    insert? key x l = none ↔ ∃ y ∈ l, key y = key x := by
  induction l with
  | nil => simp [insert?]
  | cons y ys ih =>
    unfold Ascending at hl
    rw [List.pairwise_cons] at hl
    unfold insert?
    split
    next hlt =>
      simp only [reduceCtorEq, List.mem_cons, exists_eq_or_imp, false_iff, not_or, not_exists, not_and]
      refine ⟨fun h => String.lt_irrefl _ (h ▸ hlt), fun z hz h => ?_⟩
      exact String.lt_irrefl _ (h ▸ String.lt_trans hlt (hl.1 z hz))
    next hge =>
      split
      next heq => simp [heq]
      next hne =>
        rw [Option.map_eq_none_iff, ih hl.2]
        simp [Ne.symm hne]

theorem erase?_sublist {k : String} {l l' : List α} (h : erase? key k l = some l') : l'.Sublist l := by
  induction l generalizing l' with
  | nil => simp [erase?] at h
  | cons y ys ih =>
    unfold erase? at h
    split at h
    · simp only [Option.some.injEq] at h; subst h; exact List.sublist_cons_self _ _
    · obtain ⟨m, hm, rfl⟩ := Option.map_eq_some_iff.1 h
      exact (ih hm).cons_cons y

theorem erase?_some {k : String} {l l' : List α} (hl : Ascending key l) (h : erase? key k l = some l') :
    Ascending key l' :=
  hl.sublist (erase?_sublist h)

/-- Nothing is removed exactly when the key is absent. -/
theorem erase?_eq_none_iff {k : String} {l : List α} : erase? key k l = none ↔ ∀ y ∈ l, key y ≠ k := by
  induction l with
  | nil => simp [erase?]
  | cons y ys ih =>
    unfold erase?
    split
    next heq => simp [heq]
    next hne => simp [ih, Ne.symm hne]

end Ascending

end FirmwareSymbols
