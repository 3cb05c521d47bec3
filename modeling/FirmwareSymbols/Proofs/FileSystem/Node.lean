import FirmwareSymbols.FileSystem.Write
import FirmwareSymbols.Proofs.FileSystem.Resolve

/-!
# Changing one node

What a file system is after one node was set or removed (`node?_set`, `node?_remove`), and which paths notice it. If one
file system has the nodes of another one and perhaps more (`Within`), every path that leads somewhere in the smaller
one leads to the same place in the larger one (`Within.follow_eq`). A path does not lead through a node that is neither
a directory nor a link, so it leads to the same place without this node, unless it ends there (`follow_remove`).
-/

namespace FirmwareSymbols.FileSystem

variable {fs larger : FileSystem} {followLast : Bool} {links : Nat} {l k d : Location} {n m : Node} {p : Path}
  {name : String} {todo : List String}

/-! ### Nodes -/

private theorem lookup_node (q : Location × Node) (nodes : List (Location × Node)) :
    (q :: nodes).lookup k = if k = q.1 then some q.2 else nodes.lookup k := by
  rw [List.lookup_cons]
  by_cases h : k = q.1
  · simp [h]
  · have hb : (k == q.1) = false := by simpa using h
    rw [hb, if_neg h]

private theorem lookup_setNode (nodes : List (Location × Node)) :
    (setNode l n nodes).lookup k = if k = l then some n else nodes.lookup k := by
  induction nodes with
  | nil => exact lookup_node (l, n) []
  | cons q nodes ih =>
    obtain ⟨j, o⟩ := q
    unfold setNode
    by_cases hj : j = l
    · subst hj
      rw [if_pos rfl, lookup_node, lookup_node]
      by_cases hk : k = j
      · rw [if_pos hk, if_pos hk]
      · rw [if_neg hk, if_neg hk, if_neg hk]
    · rw [if_neg hj, lookup_node, lookup_node, ih]
      by_cases hk : k = l
      · subst hk
        rw [if_neg (Ne.symm hj), if_pos rfl, if_pos rfl]
      · rw [if_neg hk, if_neg hk]

private theorem lookup_filter_ne (nodes : List (Location × Node)) :
    (nodes.filter fun q => q.1 ≠ l).lookup k = if k = l then none else nodes.lookup k := by
  induction nodes with
  | nil => simp
  | cons q nodes ih =>
    obtain ⟨j, o⟩ := q
    by_cases hj : j = l
    · subst hj
      rw [List.filter_cons_of_neg (by simp), ih, lookup_node]
      by_cases hk : k = j
      · rw [if_pos hk, if_pos hk]
      · rw [if_neg hk, if_neg hk, if_neg hk]
    · rw [List.filter_cons_of_pos (by simpa using hj), lookup_node, lookup_node, ih]
      by_cases hk : k = l
      · subst hk
        rw [if_neg (Ne.symm hj), if_pos rfl, if_pos rfl]
      · rw [if_neg hk, if_neg hk]

theorem node?_set (hl : l ≠ []) (k : Location) : (fs.set l n).node? k = if k = l then some n else fs.node? k := by
  unfold node? set
  by_cases hk : k = []
  · subst hk
    rw [if_pos rfl, if_pos rfl, if_neg (Ne.symm hl)]
  · rw [if_neg hk, if_neg hk, lookup_setNode]

theorem node?_set_self (hl : l ≠ []) : (fs.set l n).node? l = some n := by
  rw [node?_set hl, if_pos rfl]

theorem node?_set_of_ne (hl : l ≠ []) (hk : k ≠ l) : (fs.set l n).node? k = fs.node? k := by
  rw [node?_set hl, if_neg hk]

theorem node?_remove (hl : l ≠ []) (k : Location) : (fs.remove l).node? k = if k = l then none else fs.node? k := by
  unfold node? remove
  by_cases hk : k = []
  · subst hk
    rw [if_pos rfl, if_pos rfl, if_neg (Ne.symm hl)]
  · rw [if_neg hk, if_neg hk]
    exact lookup_filter_ne fs.nodes

@[simp] theorem working_set : (fs.set l n).working = fs.working := rfl

@[simp] theorem device_set : (fs.set l n).device = fs.device := rfl

/-- Setting a node twice is setting it once. -/
theorem set_set : (fs.set l n).set l m = fs.set l m := by
  have hnodes (nodes : List (Location × Node)) : setNode l m (setNode l n nodes) = setNode l m nodes := by
    induction nodes with
    | nil => simp [setNode]
    | cons q nodes ih =>
      obtain ⟨j, o⟩ := q
      by_cases hj : j = l <;> simp [setNode, hj, ih]
  simp only [set, hnodes]

/-- What is removed may have been anything. -/
theorem remove_set : (fs.set l n).remove l = fs.remove l := by
  have hnodes (nodes : List (Location × Node)) :
      (setNode l n nodes).filter (fun q => q.1 ≠ l) = nodes.filter fun q => q.1 ≠ l := by
    induction nodes with
    | nil => simp [setNode]
    | cons q nodes ih =>
      obtain ⟨j, o⟩ := q
      by_cases hj : j = l
      · simp [setNode, hj]
      · rw [setNode, if_neg hj, List.filter_cons_of_pos (by simpa using hj),
          List.filter_cons_of_pos (by simpa using hj), ih]
  simp only [set, remove]
  rw [hnodes]

theorem remove_of_node?_eq_none (h : fs.node? l = none) : fs.remove l = fs := by
  have hnodes : fs.nodes.filter (fun q => q.1 ≠ l) = fs.nodes := by
    rw [List.filter_eq_self]
    intro q hq
    unfold node? at h
    split at h
    · cases h
    have hne : l ≠ q.1 := by simpa using List.lookup_eq_none_iff.1 h q hq
    exact decide_eq_true hne.symm
  simp only [remove]
  rw [hnodes]

/-! ### More nodes -/

/-- The larger file system has all nodes of the other one, and its paths start at the same place. -/
structure Within (fs larger : FileSystem) : Prop where
  node : ∀ l n, fs.node? l = some n → larger.node? l = some n
  working : larger.working = fs.working

theorem within_set_of_none (hd : d ≠ []) (h : fs.node? d = none) (n : Node) : Within fs (fs.set d n) where
  node l m hl := by
    rw [node?_set_of_ne hd, hl]
    rintro rfl
    exact nomatch h.symm.trans hl
  working := rfl

theorem within_of_remove (hd : d ≠ []) (fs : FileSystem) : Within (fs.remove d) fs where
  node l n hl := by
    rw [node?_remove hd] at hl
    split at hl
    · cases hl
    · exact hl
  working := rfl

/-- Without a node the file system is within the one where it was replaced. -/
theorem within_set_of_remove (hd : d ≠ []) (fs : FileSystem) (n : Node) : Within (fs.remove d) (fs.set d n) := by
  rw [← remove_set (n := n)]
  exact within_of_remove hd (fs.set d n)

/-- Steps that lead somewhere lead there among more nodes too. -/
theorem Within.follow_eq (h : Within fs larger) (hfollow : fs.follow followLast links l todo = .ok k) :
    larger.follow followLast links l todo = .ok k := by
  fun_induction follow fs followLast links l todo with
  | case1 links l =>
    rw [follow]
    exact hfollow
  | case2 links l rest hl ih => exact (follow_current (h.node _ _ hl)).trans (ih hfollow)
  | case3 links l rest hl hdot ih => exact (follow_parent (h.node _ _ hl)).trans (ih hfollow)
  | case6 links l step rest hl hdot hdots hshort target hnode hlast =>
    obtain ⟨hrest, hfollowLast⟩ : rest = [] ∧ followLast = false := by simpa using hlast
    subst hrest hfollowLast
    rw [follow_last (h.node _ _ hl) ⟨hdot, hdots, hshort⟩ (h.node _ _ hnode)]
    exact hfollow
  | case8 l step rest hl hdot hdots hshort target hnode hlast links ih =>
    rw [follow_link (h.node _ _ hl) ⟨hdot, hdots, hshort⟩ (h.node _ _ hnode) hlast]
    exact ih hfollow
  | case9 links l step rest hl hdot hdots hshort node hlink hnode ih =>
    exact (follow_entry (h.node _ _ hl) ⟨hdot, hdots, hshort⟩ (h.node _ _ hnode) hlink).trans (ih hfollow)
  | case4 | case5 | case7 | case10 | case11 => cases hfollow

theorem admissible_of_locate (h : fs.locate p = .ok l) :
    p.hasNul = false ∧ p.text ≠ "" ∧ p.text.utf8ByteSize ≤ maxPathBytes := by
  unfold locate at h
  split at h
  · cases h
  next hnul =>
    split at h
    · cases h
    next hne =>
      split at h
      · cases h
      next hshort => exact ⟨by simpa using hnul, hne, Nat.not_lt.1 hshort⟩

/-- A path that leads somewhere leads there among more nodes too. -/
theorem Within.locate_eq (h : Within fs larger) (hlocate : fs.locate p = .ok l) : larger.locate p = .ok l := by
  obtain ⟨hnul, hne, hshort⟩ := admissible_of_locate hlocate
  rw [locate_eq_follow hnul hne hshort, h.working]
  exact h.follow_eq (follow_of_locate hlocate)

/-- A path that leads to a node leads to it among more nodes too. -/
theorem Within.stat_eq (h : Within fs larger) (hstat : fs.stat p = .ok (l, n)) : larger.stat p = .ok (l, n) := by
  obtain ⟨hlocate, hl⟩ := stat_eq_ok_iff.1 hstat
  exact stat_eq_ok_iff.2 ⟨h.locate_eq hlocate, h.node _ _ hl⟩

/-! ### Fewer nodes -/

/-- Steps that do not end at a node which is neither a directory nor a link can do without it. -/
theorem follow_remove (hdir : fs.node? d ≠ some .directory) (hlink : ∀ target, fs.node? d ≠ some (.link target))
    (hfollow : fs.follow followLast links l todo = .ok k) (hk : k ≠ d) :
    (fs.remove d).follow followLast links l todo = .ok k := by
  have hd : d ≠ [] := by
    rintro rfl
    exact hdir rfl
  have hkeep {j : Location} {n : Node} (hj : fs.node? j = some n) (hne : j ≠ d) :
      (fs.remove d).node? j = some n := by
    rw [node?_remove hd, if_neg hne, hj]
  have hstays {j : Location} (hj : fs.node? j = some .directory) : (fs.remove d).node? j = some .directory :=
    hkeep hj fun h => hdir (h ▸ hj)
  fun_induction follow fs followLast links l todo with
  | case1 links l =>
    rw [follow]
    exact hfollow
  | case2 links l rest hl ih => exact (follow_current (hstays hl)).trans (ih hfollow)
  | case3 links l rest hl hdot ih => exact (follow_parent (hstays hl)).trans (ih hfollow)
  | case6 links l step rest hl hdot hdots hshort target hnode hlast =>
    obtain ⟨hrest, hfollowLast⟩ : rest = [] ∧ followLast = false := by simpa using hlast
    subst hrest hfollowLast
    rw [follow_last (hstays hl) ⟨hdot, hdots, hshort⟩ (hkeep hnode fun h => hlink target (h ▸ hnode))]
    exact hfollow
  | case8 l step rest hl hdot hdots hshort target hnode hlast links ih =>
    rw [follow_link (hstays hl) ⟨hdot, hdots, hshort⟩ (hkeep hnode fun h => hlink target (h ▸ hnode)) hlast]
    exact ih hfollow
  | case9 links l step rest hl hdot hdots hshort node hisLink hnode ih =>
    have hne : l ++ [step] ≠ d := by
      -- the steps would have to end there
      rintro rfl
      cases rest with
      | nil =>
        rw [follow] at hfollow
        exact hk (Except.ok.inj hfollow).symm
      | cons next rest =>
        rw [follow, hnode] at hfollow
        cases node with
        | directory => exact hdir hnode
        | link target => exact hlink target hnode
        | file | sealed | null => cases hfollow
    exact (follow_entry (hstays hl) ⟨hdot, hdots, hshort⟩ (hkeep hnode hne) hisLink).trans (ih hfollow)
  | case4 | case5 | case7 | case10 | case11 => cases hfollow

end FirmwareSymbols.FileSystem
