import FirmwareSymbols.FileSystem.Discovery
import FirmwareSymbols.Proofs.FileSystem.Resolve
import Mathlib.Data.List.Nodup

/-!
# Directories that can be reached

What a walk over directories is about, said by locations and without any walk: which directories are reached from a
root through entries that are directories or links to directories (`Reachable`), and the paths that lead to them
without passing a directory twice (`Trail`). An entry counts if the listing of its directory tells all of it (`entries`).
If the paths of trails can be resolved (`ResolvesTrails`), the directory at the end of a trail is found by its path
(`Trail.stat_eq`), and an entry is taken for a directory exactly if it is or leads to one (`entryIsDirectory_iff`).
-/

namespace FirmwareSymbols

/-- The entry, if all is told of it. -/
def Listed.told? : Listed → Option (String × Node)
  | .entry name node => some (name, node)
  | .unknown .. | .unread _ => none

theorem Listed.told?_eq_some_iff {item : Listed} {name : String} {node : Node} :
    item.told? = some (name, node) ↔ item = .entry name node := by
  cases item <;> simp [told?]

namespace FileSystem

variable {fs : FileSystem} {l k start : Location} {root dir : Path} {name : String} {node : Node}

/-! ### Entries -/

/-- Each node has a location of its own, made of names. -/
structure WellFormed (fs : FileSystem) : Prop where
  distinct : (fs.nodes.map Prod.fst).Nodup
  names : ∀ p ∈ fs.nodes, ∀ name ∈ p.1, IsName name

instance : DecidablePred WellFormed := fun fs =>
  decidable_of_iff ((fs.nodes.map Prod.fst).Nodup ∧ ∀ p ∈ fs.nodes, ∀ name ∈ p.1, IsName name)
    ⟨fun ⟨distinct, names⟩ => ⟨distinct, names⟩, fun h => ⟨h.distinct, h.names⟩⟩

theorem nameIn?_eq_some_iff : nameIn? l k = some name ↔ k = l ++ [name] := by
  unfold nameIn?
  constructor
  · intro h
    split at h
    next hdrop =>
      obtain ⟨before, rfl⟩ := List.getLast?_eq_some_iff.1 h
      rw [List.dropLast_concat] at hdrop
      rw [hdrop]
    · cases h
  · rintro rfl
    rw [List.dropLast_concat, if_pos rfl, List.getLast?_concat]

theorem mem_nodes_of_mem_children (h : (name, node) ∈ fs.children l) : (l ++ [name], node) ∈ fs.nodes := by
  obtain ⟨⟨k, n⟩, hmem, hk⟩ := List.mem_filterMap.1 h
  obtain ⟨name', hname, heq⟩ := Option.map_eq_some_iff.1 hk
  obtain ⟨rfl, rfl⟩ := Prod.mk.inj heq
  rw [← nameIn?_eq_some_iff.1 hname]
  exact hmem

theorem WellFormed.isName (h : fs.WellFormed) (hchild : (name, node) ∈ fs.children l) : IsName name :=
  h.names _ (mem_nodes_of_mem_children hchild) name (by simp)

private theorem lookup_eq_some_of_mem {nodes : List (Location × Node)} (hdistinct : (nodes.map Prod.fst).Nodup)
    (h : (l, node) ∈ nodes) : nodes.lookup l = some node := by
  induction nodes with
  | nil => cases h
  | cons p nodes ih =>
    obtain ⟨k, n⟩ := p
    rw [List.map_cons, List.nodup_cons] at hdistinct
    rcases List.mem_cons.1 h with heq | hmem
    · obtain ⟨rfl, rfl⟩ := Prod.mk.inj heq
      simp
    · have hne : (l == k) = false := by
        rw [beq_eq_false_iff_ne]
        rintro rfl
        exact hdistinct.1 (List.mem_map.2 ⟨(l, node), hmem, rfl⟩)
      rw [List.lookup_cons, hne]
      exact ih hdistinct.2 hmem

theorem WellFormed.node?_eq (h : fs.WellFormed) (hchild : (name, node) ∈ fs.children l) :
    fs.node? (l ++ [name]) = some node := by
  rw [node?, if_neg (by simp)]
  exact lookup_eq_some_of_mem h.distinct (mem_nodes_of_mem_children hchild)

theorem WellFormed.node?_eq_some_iff (h : fs.WellFormed) (hl : l ≠ []) :
    fs.node? l = some node ↔ (l, node) ∈ fs.nodes := by
  rw [node?, if_neg hl]
  refine ⟨fun hnode => ?_, lookup_eq_some_of_mem h.distinct⟩
  obtain ⟨before, after, hnodes, -⟩ := List.lookup_eq_some_iff.1 hnode
  rw [hnodes]
  exact List.mem_append_right _ List.mem_cons_self

/-- What lies directly in a directory has different names. -/
theorem WellFormed.nodup_names (h : fs.WellFormed) (l : Location) : ((fs.children l).map Prod.fst).Nodup := by
  have hnames : (fs.children l).map Prod.fst = (fs.nodes.map Prod.fst).filterMap (nameIn? l) := by
    rw [children, List.map_filterMap, List.filterMap_map]
    apply List.filterMap_congr
    intro p _
    cases h : nameIn? l p.1 <;> simp [h]
  rw [hnames]
  refine List.Nodup.filterMap ?_ h.distinct
  intro k k' name hk hk'
  rw [nameIn?_eq_some_iff.1 hk, nameIn?_eq_some_iff.1 hk']

/-- The entries of a directory of which the listing tells all. -/
def entries (fs : FileSystem) (l : Location) : List (String × Node) := (fs.listing l).filterMap Listed.told?

theorem told?_listed (fs : FileSystem) (l : Location) (child : String × Node) :
    (fs.listed l child).told? = if fs.device.hide (l ++ [child.1]) = none then some child else none := by
  unfold listed
  cases fs.device.hide (l ++ [child.1]) with
  | none => rfl
  | some hidden => cases hidden <;> rfl

theorem entries_eq_filter (fs : FileSystem) (l : Location) :
    fs.entries l = (fs.children l).filter fun e => fs.device.hide (l ++ [e.1]) = none := by
  rw [entries, listing, List.filterMap_map, ← List.filterMap_eq_filter]
  refine List.filterMap_congr fun child _ => ?_
  rw [Function.comp_apply, told?_listed, Option.guard_apply]
  simp only [decide_eq_true_eq]

theorem mem_entries_iff : (name, node) ∈ fs.entries l ↔
    (name, node) ∈ fs.children l ∧ fs.device.hide (l ++ [name]) = none := by
  rw [entries_eq_filter, List.mem_filter, decide_eq_true_eq]

theorem mem_children (h : (name, node) ∈ fs.entries l) : (name, node) ∈ fs.children l := (mem_entries_iff.1 h).1

theorem mem_entries_of_mem_listing (h : .entry name node ∈ fs.listing l) : (name, node) ∈ fs.entries l :=
  List.mem_filterMap.2 ⟨_, h, rfl⟩

theorem mem_listing (h : (name, node) ∈ fs.entries l) : .entry name node ∈ fs.listing l := by
  obtain ⟨item, hitem, htold⟩ := List.mem_filterMap.1 h
  rwa [← Listed.told?_eq_some_iff.1 htold]

/-! ### Directories -/

/-- The entry is a directory, or a link that leads to one. -/
def LeadsTo (fs : FileSystem) (l : Location) (name : String) (k : Location) : Prop :=
  fs.follow true maxLinks l [name] = .ok k ∧ fs.node? k = some .directory

theorem LeadsTo.unique {k' : Location} (h : fs.LeadsTo l name k) (h' : fs.LeadsTo l name k') : k = k' :=
  Except.ok.inj (h.1.symm.trans h'.1)

/-- The directories that are reached from a root through directories that can be listed. -/
inductive Reachable (fs : FileSystem) (root : Location) : Location → Prop
  | root : Reachable fs root root
  | entry {l k : Location} {name : String} {node : Node} :
      Reachable fs root l → fs.device.list l = none → (name, node) ∈ fs.entries l → fs.LeadsTo l name k →
      Reachable fs root k

/-- The path leads from the root to the first of these directories, through the others and through none of them
twice. -/
inductive Trail (fs : FileSystem) (root : Path) (start : Location) : Path → List Location → Prop
  | root : Trail fs root start root [start]
  | entry {dir : Path} {l k : Location} {before : List Location} {name : String} {node : Node} :
      Trail fs root start dir (l :: before) → fs.device.list l = none → (name, node) ∈ fs.entries l →
      fs.LeadsTo l name k → k ∉ l :: before → Trail fs root start (dir.join name) (k :: l :: before)

/-- Every directory has a location by the path on which it is met: paths are not too long, and do not lead through too
many links. -/
def ResolvesTrails (fs : FileSystem) (root : Path) (start : Location) : Prop :=
  ∀ dir l before name node k, Trail fs root start dir (l :: before) → fs.device.list l = none →
    (name, node) ∈ fs.entries l → fs.LeadsTo l name k → ∃ k', fs.locate (dir.join name) = .ok k'

theorem Trail.reachable {before : List Location} (h : Trail fs root start dir (l :: before)) :
    fs.Reachable start l := by
  generalize hpath : l :: before = path at h
  induction h generalizing l before with
  | root =>
    obtain ⟨rfl, -⟩ := List.cons.inj hpath
    exact .root
  | entry _ hlist hentry hleads _ ih =>
    obtain ⟨rfl, -⟩ := List.cons.inj hpath
    exact .entry (ih rfl) hlist hentry hleads

/-- Names lead along a trail. -/
theorem Trail.exists_names {path : List Location} (hwf : fs.WellFormed) (h : Trail fs root start dir path) :
    ∃ names : List String, (∀ name ∈ names, IsName name) ∧ dir = names.foldl Path.join root := by
  induction h with
  | root => exact ⟨[], nofun, rfl⟩
  | entry _ _ hentry _ _ ih =>
    obtain ⟨names, hnames, rfl⟩ := ih
    refine ⟨names ++ [_], List.forall_mem_append.2 ⟨hnames, ?_⟩, (List.foldl_concat ..).symm⟩
    exact List.forall_mem_singleton.2 (hwf.isName (mem_children hentry))

/-- The path of an entry that can be resolved leads where the entry leads. -/
theorem leadsTo_of_locate (hdir : fs.stat dir = .ok (l, .directory)) (hname : IsName name)
    (hlocate : fs.locate (dir.join name) = .ok k) : fs.follow true maxLinks l [name] = .ok k := by
  obtain ⟨left, hleft, hfollow⟩ := follow_join hdir hname
  have hk := follow_of_locate hlocate
  rw [hfollow true] at hk
  exact follow_mono hleft hk

/-- The directory at the end of a trail is found by its path. -/
theorem Trail.stat_eq {before : List Location} (hwf : fs.WellFormed) (hroot : fs.stat root = .ok (start, .directory))
    (hresolves : fs.ResolvesTrails root start) (h : Trail fs root start dir (l :: before)) :
    fs.stat dir = .ok (l, .directory) := by
  generalize hpath : l :: before = path at h
  induction h generalizing l before with
  | root =>
    obtain ⟨rfl, -⟩ := List.cons.inj hpath
    exact hroot
  | entry htrail hlist hentry hleads _ ih =>
    obtain ⟨rfl, -⟩ := List.cons.inj hpath
    obtain ⟨k', hk'⟩ := hresolves _ _ _ _ _ _ htrail hlist hentry hleads
    have hfollow := leadsTo_of_locate (ih rfl) (hwf.isName (mem_children hentry)) hk'
    obtain rfl := Except.ok.inj (hleads.1.symm.trans hfollow)
    exact stat_eq_ok_iff.2 ⟨hk', hleads.2⟩

/-- An entry that is no link leads to itself, if it is a directory. -/
theorem leadsTo_iff (hwf : fs.WellFormed) (hl : fs.node? l = some .directory) (hchild : (name, node) ∈ fs.children l)
    (hlink : ∀ target, node ≠ .link target) : fs.LeadsTo l name k ↔ k = l ++ [name] ∧ node = .directory := by
  have hnode := hwf.node?_eq hchild
  rw [LeadsTo, follow_entry hl (isStep_of_isName (hwf.isName hchild)) hnode hlink, follow, Except.ok.injEq]
  constructor
  · rintro ⟨rfl, hk⟩
    exact ⟨rfl, Option.some.inj (hnode.symm.trans hk)⟩
  · rintro ⟨rfl, rfl⟩
    exact ⟨rfl, hnode⟩

/-- An entry is taken for a directory exactly if it is or leads to one. -/
theorem entryIsDirectory_iff (hwf : fs.WellFormed) (hdir : fs.stat dir = .ok (l, .directory))
    (hchild : (name, node) ∈ fs.children l)
    (hresolves : ∀ k, fs.LeadsTo l name k → ∃ k', fs.locate (dir.join name) = .ok k') :
    fs.entryIsDirectory (dir.join name) node = true ↔ ∃ k, fs.LeadsTo l name k := by
  have hname := hwf.isName hchild
  have hself (k : Location) := leadsTo_iff (k := k) hwf (stat_eq_ok_iff.1 hdir).2 hchild
  cases node with
  | directory => exact ⟨fun _ => ⟨l ++ [name], (hself _ nofun).2 ⟨rfl, rfl⟩⟩, fun _ => rfl⟩
  | file | sealed | null =>
    refine ⟨nofun, ?_⟩
    rintro ⟨k, hk⟩
    exact nomatch ((hself k nofun).1 hk).2
  | link target =>
    show fs.isDirectory (dir.join name) = true ↔ _
    unfold isDirectory
    constructor
    · intro h
      split at h
      next k hstat =>
        obtain ⟨hlocate, hk⟩ := stat_eq_ok_iff.1 hstat
        exact ⟨k, leadsTo_of_locate hdir hname hlocate, hk⟩
      · cases h
    · rintro ⟨k, hk⟩
      obtain ⟨k', hlocate⟩ := hresolves k hk
      obtain rfl := Except.ok.inj (hk.1.symm.trans (leadsTo_of_locate hdir hname hlocate))
      rw [stat_eq_ok_iff.2 ⟨hlocate, hk.2⟩]

/-- The entry that the path of an entry names. -/
theorem entryLocation_join (hwf : fs.WellFormed) (hdir : fs.stat dir = .ok (l, .directory))
    (hchild : (name, node) ∈ fs.children l) : fs.entryLocation (dir.join name) = .ok (l ++ [name]) := by
  have hname := hwf.isName hchild
  obtain ⟨left, -, hfollow⟩ := follow_join hdir hname
  rw [entryLocation, hfollow false]
  exact follow_last (stat_eq_ok_iff.1 hdir).2 (isStep_of_isName hname) (hwf.node?_eq hchild)

end FileSystem

end FirmwareSymbols
