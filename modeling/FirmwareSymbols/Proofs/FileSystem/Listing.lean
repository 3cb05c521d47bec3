import FirmwareSymbols.Proofs.FileSystem.Discovery
import FirmwareSymbols.Proofs.FileSystem.Node

/-!
# The order of listings

Two file systems may have the same files and differ in the order in which directories list their entries (`SameFiles`).
Each directory can list its entries in every order, whatever the others do (`exists_sameFiles_of_perm`). What is said
by locations and paths alone does not depend on the order: where entries lead, which directories can be reached, which
entries are wanted, and which path names which entry.
-/

namespace FirmwareSymbols.FileSystem

variable {fs fs' : FileSystem} {extensions : List String} {root dir p : Path} {start l k : Location} {name : String}
  {node : Node} {entry : String × Node}

/-- The file systems have the same files; their directories may list them in different orders. -/
structure SameFiles (fs fs' : FileSystem) : Prop where
  nodes : fs'.nodes.Perm fs.nodes
  working : fs'.working = fs.working
  device : fs'.device = fs.device

namespace SameFiles

theorem refl (fs : FileSystem) : fs.SameFiles fs := ⟨List.Perm.refl _, rfl, rfl⟩

theorem symm (h : fs.SameFiles fs') : fs'.SameFiles fs := ⟨h.nodes.symm, h.working.symm, h.device.symm⟩

theorem trans {fs'' : FileSystem} (h : fs.SameFiles fs') (h' : fs'.SameFiles fs'') : fs.SameFiles fs'' :=
  ⟨h'.nodes.trans h.nodes, h'.working.trans h.working, h'.device.trans h.device⟩

theorem list_eq (h : fs.SameFiles fs') (l : Location) : fs'.device.list l = fs.device.list l := by rw [h.device]

theorem listed_eq (h : fs.SameFiles fs') (l : Location) : fs'.listed l = fs.listed l := by
  funext child
  rw [listed, listed, h.device]

theorem mem_entries_iff (h : fs.SameFiles fs') : entry ∈ fs'.entries l ↔ entry ∈ fs.entries l := by
  rw [entries, entries, listing, listing, h.listed_eq]
  exact (((h.nodes.filterMap _).map _).filterMap _).mem_iff

theorem wellFormed (h : fs.SameFiles fs') (hwf : fs.WellFormed) : fs'.WellFormed where
  distinct := (h.nodes.map Prod.fst).nodup_iff.2 hwf.distinct
  names := fun q hq => hwf.names q (h.nodes.mem_iff.1 hq)

theorem node?_eq (h : fs.SameFiles fs') (hwf : fs.WellFormed) (l : Location) : fs'.node? l = fs.node? l := by
  by_cases hl : l = []
  · rw [node?, node?, if_pos hl, if_pos hl]
  · refine Option.ext fun node => ?_
    rw [(h.wellFormed hwf).node?_eq_some_iff hl, hwf.node?_eq_some_iff hl]
    exact h.nodes.mem_iff

theorem within (h : fs.SameFiles fs') (hwf : fs.WellFormed) : Within fs fs' where
  node := fun l _ hnode => (h.node?_eq hwf l).trans hnode
  working := h.working

theorem leadsTo_iff (h : fs.SameFiles fs') (hwf : fs.WellFormed) : fs'.LeadsTo l name k ↔ fs.LeadsTo l name k := by
  constructor
  · rintro ⟨hfollow, hk⟩
    exact ⟨(h.symm.within (h.wellFormed hwf)).follow_eq hfollow, (h.node?_eq hwf k).symm.trans hk⟩
  · rintro ⟨hfollow, hk⟩
    exact ⟨(h.within hwf).follow_eq hfollow, (h.node?_eq hwf k).trans hk⟩

theorem isWanted_iff (h : fs.SameFiles fs') (hwf : fs.WellFormed) :
    fs'.IsWanted extensions l name ↔ fs.IsWanted extensions l name := by
  simp only [IsWanted, h.mem_entries_iff, h.leadsTo_iff hwf]

private theorem reachable_of_reachable (h : fs.SameFiles fs') (hwf : fs.WellFormed) (hl : fs.Reachable start l) :
    fs'.Reachable start l := by
  induction hl with
  | root => exact .root
  | entry _ hlist hentry hleads ih =>
    exact .entry ih ((h.list_eq _).trans hlist) (h.mem_entries_iff.2 hentry) ((h.leadsTo_iff hwf).2 hleads)

theorem reachable_iff (h : fs.SameFiles fs') (hwf : fs.WellFormed) : fs'.Reachable start l ↔ fs.Reachable start l :=
  ⟨h.symm.reachable_of_reachable (h.wellFormed hwf), h.reachable_of_reachable hwf⟩

theorem trail {path : List Location} (h : fs.SameFiles fs') (hwf : fs.WellFormed) (ht : Trail fs root start dir path) :
    Trail fs' root start dir path := by
  induction ht with
  | root => exact .root
  | entry _ hlist hentry hleads hnew ih =>
    exact .entry ih ((h.list_eq _).trans hlist) (h.mem_entries_iff.2 hentry) ((h.leadsTo_iff hwf).2 hleads) hnew

theorem resolvesTrails (h : fs.SameFiles fs') (hwf : fs.WellFormed) (hresolves : fs.ResolvesTrails root start) :
    fs'.ResolvesTrails root start := by
  intro dir l before name node k htrail hlist hentry hleads
  obtain ⟨k', hk'⟩ := hresolves dir l before name node k (h.symm.trail (h.wellFormed hwf) htrail)
    ((h.list_eq l).symm.trans hlist) (h.mem_entries_iff.1 hentry) ((h.leadsTo_iff hwf).1 hleads)
  exact ⟨k', (h.within hwf).locate_eq hk'⟩

private theorem entryLocation_of_ok (h : fs.SameFiles fs') (hwf : fs.WellFormed) (hp : fs.entryLocation p = .ok l) :
    fs'.entryLocation p = .ok l := by
  rw [entryLocation, h.working]
  exact (h.within hwf).follow_eq hp

/-- A path names the same entry in every order. -/
theorem site?_eq (h : fs.SameFiles fs') (hwf : fs.WellFormed) : fs'.site? p = fs.site? p := by
  unfold site?
  cases hp : fs.entryLocation p with
  | ok l => rw [h.entryLocation_of_ok hwf hp]
  | error cause =>
    cases hp' : fs'.entryLocation p with
    | ok l => exact nomatch hp.symm.trans (h.symm.entryLocation_of_ok (h.wellFormed hwf) hp')
    | error cause' => rfl

end SameFiles

/-! ### Every order is possible -/

/-- The node with its name in a directory, if it lies directly in it. -/
private def childIn? (l : Location) (q : Location × Node) : Option (String × Node) :=
  (nameIn? l q.1).map fun name => (name, q.2)

/-- The node of a child. -/
private def nodeOf (l : Location) (e : String × Node) : Location × Node := (l ++ [e.1], e.2)

private theorem children_eq (fs : FileSystem) (l : Location) : fs.children l = fs.nodes.filterMap (childIn? l) := rfl

private theorem childIn?_eq_some_iff {q : Location × Node} : childIn? l q = some entry ↔ q = nodeOf l entry := by
  rw [childIn?, Option.map_eq_some_iff]
  constructor
  · rintro ⟨name, hname, rfl⟩
    rw [nodeOf, ← nameIn?_eq_some_iff.1 hname]
  · rintro rfl
    exact ⟨entry.1, nameIn?_eq_some_iff.2 rfl, rfl⟩

private theorem filterMap_map_nodeOf (l : Location) (order : List (String × Node)) :
    (order.map (nodeOf l)).filterMap (childIn? l) = order := by
  rw [List.filterMap_map]
  refine (List.filterMap_congr fun e _ => ?_).trans List.filterMap_some
  exact childIn?_eq_some_iff.2 rfl

/-- The nodes that lie directly in a directory are those of its children. -/
private theorem filter_isSome_childIn? (nodes : List (Location × Node)) (l : Location) :
    nodes.filter (fun q => (childIn? l q).isSome) = (nodes.filterMap (childIn? l)).map (nodeOf l) := by
  induction nodes with
  | nil => rfl
  | cons q nodes ih =>
    cases h : childIn? l q with
    | none => rw [List.filter_cons_of_neg (by simp [h]), List.filterMap_cons_none h, ih]
    | some e =>
      rw [List.filter_cons_of_pos (by simp [h]), List.filterMap_cons_some h, ih, List.map_cons,
        ← childIn?_eq_some_iff.1 h]

/-- A directory can list its children in every order while the others keep theirs. -/
private theorem exists_sameFiles_of_perm_children {order : List (String × Node)} (h : order.Perm (fs.children l)) :
    ∃ fs', fs.SameFiles fs' ∧ fs'.children l = order ∧ ∀ b, b ≠ l → fs'.children b = fs.children b := by
  -- first the nodes that lie elsewhere, as they were, then the children in the new order
  let elsewhere := fs.nodes.filter fun q => !(childIn? l q).isSome
  refine ⟨{ fs with nodes := elsewhere ++ order.map (nodeOf l) }, ⟨?_, rfl, rfl⟩, ?_, fun b hb => ?_⟩
  · have hinside : (order.map (nodeOf l)).Perm (fs.nodes.filter fun q => (childIn? l q).isSome) := by
      rw [filter_isSome_childIn?]
      exact h.map _
    refine (hinside.append_left elsewhere).trans ?_
    exact List.perm_append_comm.trans (List.filter_append_perm (fun q => (childIn? l q).isSome) fs.nodes)
  · have hnone : elsewhere.filterMap (childIn? l) = [] := by
      rw [List.filterMap_eq_nil_iff]
      intro q hq
      have hq' := (List.mem_filter.1 hq).2
      rwa [Bool.not_eq_true', Option.isSome_eq_false_iff, Option.isNone_iff_eq_none] at hq'
    rw [children_eq, List.filterMap_append, hnone, filterMap_map_nodeOf, List.nil_append]
  · -- no node lies directly in two directories
    have hout (q : Location × Node) (e : String × Node) (hq : childIn? b q = some e) : childIn? l q = none := by
      refine Option.eq_none_iff_forall_ne_some.2 fun e' hq' => hb ?_
      have heq := (childIn?_eq_some_iff.1 hq).symm.trans (childIn?_eq_some_iff.1 hq')
      exact (List.append_inj' (Prod.mk.inj heq).1 rfl).1
    have hnone : (order.map (nodeOf l)).filterMap (childIn? b) = [] := by
      rw [List.filterMap_eq_nil_iff]
      intro q hq
      obtain ⟨e, -, rfl⟩ := List.mem_map.1 hq
      refine Option.eq_none_iff_forall_ne_some.2 fun e' he' => ?_
      exact nomatch (childIn?_eq_some_iff.2 rfl).symm.trans (hout (nodeOf l e) e' he')
    have hkeep : elsewhere.filterMap (childIn? b) = fs.children b := by
      rw [List.filterMap_filter, children_eq]
      refine List.filterMap_congr fun q _ => ?_
      cases hq : childIn? b q with
      | none => exact ite_self none
      | some e =>
        rw [hout q e hq]
        rfl
    rw [children_eq, List.filterMap_append, hnone, hkeep, List.append_nil]

/-- A directory can list its entries in every order while the others keep theirs. -/
theorem exists_sameFiles_of_perm {order : List (String × Node)} (h : order.Perm (fs.entries l)) :
    ∃ fs', fs.SameFiles fs' ∧ fs'.entries l = order ∧ ∀ b, b ≠ l → fs'.entries b = fs.entries b := by
  -- the entries in the new order, and then what the listing does not tell
  let told (child : String × Node) : Bool := fs.device.hide (l ++ [child.1]) = none
  have hchildren : (order ++ (fs.children l).filter fun child => !told child).Perm (fs.children l) := by
    refine (h.append_right _).trans ?_
    rw [entries_eq_filter]
    exact List.filter_append_perm told (fs.children l)
  obtain ⟨fs', hsame, horder, hothers⟩ := exists_sameFiles_of_perm_children hchildren
  refine ⟨fs', hsame, ?_, fun b hb => ?_⟩
  · have htold : order.filter told = order := by
      refine List.filter_eq_self.2 fun e he => ?_
      exact decide_eq_true (FileSystem.mem_entries_iff.1 (h.mem_iff.1 he)).2
    rw [entries_eq_filter, hsame.device, horder, List.filter_append]
    refine (congrArg₂ _ htold ?_).trans (List.append_nil order)
    rw [List.filter_filter, List.filter_eq_nil_iff]
    intro e _ hboth
    simp [told] at hboth
  · rw [entries, entries, listing, listing, hothers b hb, hsame.listed_eq]

end FirmwareSymbols.FileSystem
