import FirmwareSymbols.Proofs.FileSystem.Walk

/-!
# What is discovered below a root

The objects below a root that can be listed are, each once, the entries of the reachable directories that are no
directories and have one of the extensions. An entry is known by its directory and its name (`site?`), so that many paths
to one directory make no difference. Each reachable directory that cannot be listed, and each entry of a reachable
directory that cannot be read, is told by one failure (`Refuses`).
-/

namespace FirmwareSymbols

namespace FileSystem

/-- What is a permutation of images is the image of a permutation. -/
private theorem exists_perm_of_perm_map {α β : Type} {f : α → β} {l : List β} {m : List α} (h : l.Perm (m.map f)) :
    ∃ m' : List α, m'.Perm m ∧ l = m'.map f := by
  have hmap : List.Forall₂ (fun b a => b = f a) (m.map f) m :=
    List.forall₂_map_left_iff.2 (List.forall₂_same.2 fun _ _ => rfl)
  obtain ⟨m', hforall, hperm⟩ := List.perm_comp_forall₂ h hmap
  refine ⟨m', hperm, ?_⟩
  rw [← List.forall₂_eq_eq_eq]
  exact List.forall₂_map_right_iff.2 hforall

/-- The directory of the entry that a path names, and its name there. -/
def site? (fs : FileSystem) (p : Path) : Option (Location × String) :=
  match fs.entryLocation p, p.fileName? with
  | .ok l, some name => some (l.dropLast, name)
  | _, _ => none

/-- The name is that of an entry that neither is a directory nor leads to one, and it has one of the extensions. -/
def IsWanted (fs : FileSystem) (extensions : List String) (l : Location) (name : String) : Prop :=
  (∃ node, (name, node) ∈ fs.entries l) ∧ (∀ k, ¬ fs.LeadsTo l name k) ∧
    (Path.splitName name).2.any extensions.contains = true

/-- What a walk may fail to read: a directory, or an entry of one. -/
inductive Place
  | directory (l : Location)
  | entry (l : Location) (name : String)

/-- The directory that the place is or lies in. -/
def Place.location : Place → Location
  | .directory l | .entry l _ => l

/-- The directory cannot be listed, or its listing does not tell all of the entry. -/
def IsRefused (fs : FileSystem) : Place → Prop
  | .directory l => fs.device.list l ≠ none
  | .entry l name =>
    fs.device.list l = none ∧ (∃ node, (name, node) ∈ fs.children l) ∧ fs.device.hide (l ++ [name]) ≠ none

/-- The place is refused for this cause, and the failure that tells so names this path: that of the directory if not even
the name of an entry can be read. -/
inductive Refuses (fs : FileSystem) : Place → Path → IoCause → Prop
  | directory {l : Location} {dir : Path} {cause : IoCause} :
      fs.stat dir = .ok (l, .directory) → fs.device.list l = some cause → Refuses fs (.directory l) dir cause
  | entry {l : Location} {name : String} {dir : Path} {cause : IoCause} :
      fs.stat dir = .ok (l, .directory) → fs.device.hide (l ++ [name]) = some (.entry cause) →
      Refuses fs (.entry l name) dir cause
  | kind {l : Location} {name : String} {dir : Path} {cause : IoCause} :
      fs.stat dir = .ok (l, .directory) → fs.device.hide (l ++ [name]) = some (.kind cause) →
      Refuses fs (.entry l name) (dir.join name) cause

/-- The discovery misses nothing that can be reached and lists nothing twice. -/
structure IsComplete (fs : FileSystem) (extensions : List String) (start : Location) (d : Discovery) : Prop where
  objects : ∀ site, site ∈ d.objects.map fs.site? ↔
    ∃ l name, site = some (l, name) ∧ fs.Reachable start l ∧ fs.device.list l = none ∧ fs.IsWanted extensions l name
  once : (d.objects.map fs.site?).Nodup
  ascending : d.objects.Pairwise fun p q => p.le q = true ∧ q.le p = false
  failures : ∃ refused : List (Place × Path × IoCause),
    d.failures = refused.map (fun r => .io r.2.1 r.2.2) ∧ (refused.map Prod.fst).Nodup ∧
      (∀ place, place ∈ refused.map Prod.fst ↔ fs.Reachable start place.location ∧ fs.IsRefused place) ∧
        ∀ r ∈ refused, fs.Refuses r.1 r.2.1 r.2.2

variable {fs : FileSystem} {extensions : List String} {root dir : Path} {start l : Location} {name : String}
  {node : Node} {w : Walk}

/-! ### Objects and their sites -/

theorem site?_join (hwf : fs.WellFormed) (hdir : fs.stat dir = .ok (l, .directory))
    (hentry : (name, node) ∈ fs.entries l) : fs.site? (dir.join name) = some (l, name) := by
  have hne := text_ne_of_locate (stat_eq_ok_iff.1 hdir).1
  have hchild := mem_children hentry
  rw [site?, entryLocation_join hwf hdir hchild, Path.fileName?_join hne (hwf.isName hchild)]
  simp

/-- The entries of a visited directory, none if it cannot be listed. -/
def entriesAt (fs : FileSystem) (l : Location) : List (String × Node) := (fs.listingAt l).filterMap Listed.told?

theorem mem_entriesAt_iff : (name, node) ∈ fs.entriesAt l ↔ fs.device.list l = none ∧ (name, node) ∈ fs.entries l := by
  unfold entriesAt listingAt
  split
  next h => exact (and_iff_right h).symm
  next h => exact iff_of_false List.not_mem_nil fun hentry => h hentry.1

/-- The sites of the objects of a visited directory. -/
def sitesAt (fs : FileSystem) (extensions : List String) (visit : Location × Path) : List (Location × String) :=
  (((fs.entriesAt visit.1).filter (fs.isObject extensions visit.2)).map Prod.fst).map (Prod.mk visit.1)

theorem map_site?_objectsAt (hwf : fs.WellFormed) (hdir : fs.stat dir = .ok (l, .directory)) :
    (fs.objectsAt extensions (l, dir)).map fs.site? = (fs.sitesAt extensions (l, dir)).map some := by
  show (((fs.entriesAt l).filter _).map _).map _ = _
  unfold sitesAt
  simp only [List.map_map]
  refine List.map_congr_left fun e he => ?_
  exact site?_join hwf hdir (mem_entriesAt_iff.1 (List.mem_of_mem_filter he)).2

theorem nodup_sitesAt (hwf : fs.WellFormed) (visit : Location × Path) : (fs.sitesAt extensions visit).Nodup := by
  refine List.Nodup.map (fun _ _ h => (Prod.mk.inj h).2) ?_
  refine (List.filter_sublist.map Prod.fst).nodup ?_
  unfold entriesAt listingAt
  split
  · show ((fs.entries visit.1).map Prod.fst).Nodup
    rw [entries_eq_filter]
    exact (List.filter_sublist.map Prod.fst).nodup (hwf.nodup_names visit.1)
  · exact List.nodup_nil

theorem mem_sitesAt_iff {visit : Location × Path} : (l, name) ∈ fs.sitesAt extensions visit ↔
    l = visit.1 ∧ fs.device.list l = none ∧
      ∃ node, (name, node) ∈ fs.entries l ∧ fs.isObject extensions visit.2 (name, node) = true := by
  unfold sitesAt
  constructor
  · intro h
    obtain ⟨_, hname, heq⟩ := List.mem_map.1 h
    obtain ⟨rfl, rfl⟩ := Prod.mk.inj heq
    obtain ⟨⟨_, node⟩, hmem, rfl⟩ := List.mem_map.1 hname
    obtain ⟨hentry, hobject⟩ := List.mem_filter.1 hmem
    obtain ⟨hlist, hentry⟩ := mem_entriesAt_iff.1 hentry
    exact ⟨rfl, hlist, node, hentry, hobject⟩
  · rintro ⟨rfl, hlist, node, hentry, hobject⟩
    refine List.mem_map_of_mem (List.mem_map.2 ⟨(name, node), List.mem_filter.2 ⟨?_, hobject⟩, rfl⟩)
    exact mem_entriesAt_iff.2 ⟨hlist, hentry⟩

/-! ### Failures and their places -/

/-- A child of a directory of which the listing does not tell all, with the path and the cause that its failure has. -/
def hiddenChild? (fs : FileSystem) (l : Location) (dir : Path) (child : String × Node) :
    Option (Place × Path × IoCause) :=
  match fs.device.hide (l ++ [child.1]) with
  | none => none
  | some (.kind cause) => some (.entry l child.1, dir.join child.1, cause)
  | some (.entry cause) => some (.entry l child.1, dir, cause)

/-- What could not be read of a visited directory, with the paths and causes of the failures. -/
def refusalsAt (fs : FileSystem) (visit : Location × Path) : List (Place × Path × IoCause) :=
  match fs.device.list visit.1 with
  | some cause => [(.directory visit.1, visit.2, cause)]
  | none => (fs.children visit.1).filterMap (fs.hiddenChild? visit.1 visit.2)

section

variable {child : String × Node} {r : Place × Path × IoCause}

theorem place_of_hiddenChild? (h : fs.hiddenChild? l dir child = some r) : r.1 = .entry l child.1 := by
  unfold hiddenChild? at h
  split at h <;> cases h <;> rfl

theorem hide_of_hiddenChild? (h : fs.hiddenChild? l dir child = some r) :
    fs.device.hide (l ++ [child.1]) ≠ none := by
  intro hnone
  rw [hiddenChild?, hnone] at h
  cases h

theorem exists_hiddenChild? (dir : Path) (node : Node) (h : fs.device.hide (l ++ [name]) ≠ none) :
    ∃ r, fs.hiddenChild? l dir (name, node) = some r := by
  unfold hiddenChild?
  split
  next hnone => exact absurd hnone h
  all_goals exact ⟨_, rfl⟩

end

theorem failuresAt_eq_map (fs : FileSystem) (visit : Location × Path) :
    fs.failuresAt visit = (fs.refusalsAt visit).map fun r => .io r.2.1 r.2.2 := by
  unfold failuresAt failureAt? refusalsAt listingAt
  cases hlist : fs.device.list visit.1 with
  | some cause => rfl
  | none =>
    rw [Option.map_none, if_pos rfl, failuresIn, listing, List.filterMap_map, List.map_filterMap]
    refine List.filterMap_congr fun child _ => ?_
    rw [Function.comp_apply, listed, hiddenChild?]
    cases fs.device.hide (visit.1 ++ [child.1]) with
    | none => rfl
    | some hidden => cases hidden <;> rfl

theorem mem_places_iff {visit : Location × Path} {place : Place} :
    place ∈ (fs.refusalsAt visit).map Prod.fst ↔ place.location = visit.1 ∧ fs.IsRefused place := by
  unfold refusalsAt
  constructor
  · intro h
    split at h
    next cause hlist =>
      obtain rfl := List.mem_singleton.1 h
      exact ⟨rfl, by simp [IsRefused, hlist]⟩
    next hlist =>
      obtain ⟨r, hr, rfl⟩ := List.mem_map.1 h
      obtain ⟨⟨name, node⟩, hchild, hr⟩ := List.mem_filterMap.1 hr
      rw [place_of_hiddenChild? hr]
      exact ⟨rfl, hlist, ⟨node, hchild⟩, hide_of_hiddenChild? hr⟩
  · rintro ⟨hlocation, hrefused⟩
    cases place with
    | directory l =>
      obtain rfl : l = visit.1 := hlocation
      obtain ⟨cause, hlist⟩ := Option.ne_none_iff_exists'.1 hrefused
      rw [hlist]
      exact List.mem_singleton_self _
    | entry l name =>
      obtain rfl : l = visit.1 := hlocation
      obtain ⟨hlist, ⟨node, hchild⟩, hhidden⟩ := hrefused
      obtain ⟨r, hr⟩ := exists_hiddenChild? visit.2 node hhidden
      rw [hlist]
      exact List.mem_map.2 ⟨r, List.mem_filterMap.2 ⟨_, hchild, hr⟩, place_of_hiddenChild? hr⟩

theorem nodup_places (hwf : fs.WellFormed) (visit : Location × Path) :
    ((fs.refusalsAt visit).map Prod.fst).Nodup := by
  unfold refusalsAt
  split
  · exact List.nodup_singleton _
  · refine List.pairwise_map.2 (List.pairwise_filterMap.2 ?_)
    refine (List.pairwise_map.1 (hwf.nodup_names visit.1)).imp fun hne r hr r' hr' heq => hne ?_
    rw [place_of_hiddenChild? hr, place_of_hiddenChild? hr'] at heq
    exact (Place.entry.inj heq).2

theorem refuses_of_mem_refusalsAt (hdir : fs.stat dir = .ok (l, .directory)) {r : Place × Path × IoCause}
    (h : r ∈ fs.refusalsAt (l, dir)) : fs.Refuses r.1 r.2.1 r.2.2 := by
  unfold refusalsAt at h
  split at h
  next cause hlist =>
    obtain rfl := List.mem_singleton.1 h
    exact .directory hdir hlist
  next hlist =>
    obtain ⟨⟨name, node⟩, hchild, hr⟩ := List.mem_filterMap.1 h
    unfold hiddenChild? at hr
    split at hr
    · cases hr
    next cause hhidden =>
      cases hr
      exact .kind hdir hhidden
    next cause hhidden =>
      cases hr
      exact .entry hdir hhidden

namespace WalkInvariant

/-! ### After a walk -/

variable (hwf : fs.WellFormed) (hroot : fs.stat root = .ok (start, .directory))
  (hresolves : fs.ResolvesTrails root start) (I : WalkInvariant fs extensions root start w)

include hwf hroot hresolves I

/-- An entry of a visited directory is taken for an object exactly if it is wanted. -/
theorem isObject_iff (hl : (l, dir) ∈ w.visited) (hlist : fs.device.list l = none)
    (hentry : (name, node) ∈ fs.entries l) :
    fs.isObject extensions dir (name, node) = true ↔
      (∀ k, ¬ fs.LeadsTo l name k) ∧ (Path.splitName name).2.any extensions.contains = true := by
  have hdir := I.stat_eq hwf hroot hresolves hl
  have hdirectory := entryIsDirectory_iff hwf hdir (mem_children hentry) fun k =>
    I.exists_locate hresolves hl hlist hentry
  have hne := text_ne_of_locate (stat_eq_ok_iff.1 hdir).1
  rw [isObject, Path.extension?_join hne (hwf.isName (mem_children hentry)), Bool.and_eq_true, Bool.not_eq_true',
    Bool.eq_false_iff, Ne, hdirectory, not_exists]

/-- The objects, by their sites, are found one directory after another. -/
theorem map_site?_objects :
    (w.visited.flatMap (fs.objectsAt extensions)).map fs.site? =
      (w.visited.flatMap (fs.sitesAt extensions)).map some := by
  rw [List.map_flatMap, List.map_flatMap]
  exact List.flatMap_congr fun v hv => map_site?_objectsAt hwf (I.stat_eq hwf hroot hresolves hv)

omit hroot hresolves in
/-- No site is found twice. -/
theorem nodup_sites : (w.visited.flatMap (fs.sitesAt extensions)).Nodup := by
  refine List.nodup_flatMap.2 ⟨fun v _ => nodup_sitesAt hwf v, ?_⟩
  refine (List.pairwise_map.1 I.nodup).imp fun hne => ?_
  rintro ⟨l, name⟩ h h'
  exact hne ((mem_sitesAt_iff.1 h).1.symm.trans (mem_sitesAt_iff.1 h').1)

theorem mem_sites_iff (hdone : w.pending = []) : (l, name) ∈ w.visited.flatMap (fs.sitesAt extensions) ↔
    fs.Reachable start l ∧ fs.device.list l = none ∧ fs.IsWanted extensions l name := by
  rw [← I.mem_locations_iff hdone, List.mem_flatMap]
  constructor
  · rintro ⟨⟨_, dir⟩, hvisited, hsite⟩
    obtain ⟨rfl, hlist, node, hentry, hobject⟩ := mem_sitesAt_iff.1 hsite
    exact ⟨List.mem_map_of_mem hvisited, hlist, ⟨node, hentry⟩,
      (I.isObject_iff hwf hroot hresolves hvisited hlist hentry).1 hobject⟩
  · rintro ⟨hl, hlist, ⟨node, hentry⟩, hobject⟩
    obtain ⟨⟨_, dir⟩, hvisited, rfl⟩ := List.mem_map.1 hl
    exact ⟨_, hvisited, mem_sitesAt_iff.2 ⟨rfl, hlist, node, hentry,
      (I.isObject_iff hwf hroot hresolves hvisited hlist hentry).2 hobject⟩⟩

omit hroot hresolves in
/-- Names lead from the root to every object. -/
theorem exists_names_of_mem_objects {p : Path} (hp : p ∈ w.visited.flatMap (fs.objectsAt extensions)) :
    ∃ names : List String, (∀ name ∈ names, IsName name) ∧ p = names.foldl Path.join root := by
  obtain ⟨⟨l, dir⟩, hvisited, hp⟩ := List.mem_flatMap.1 hp
  obtain ⟨before, htrail, -⟩ := I.trails _ hvisited
  obtain ⟨names, hnames, rfl⟩ := htrail.exists_names hwf
  obtain ⟨⟨name, node⟩, hmem, rfl⟩ := List.mem_map.1 hp
  have hentry : (name, node) ∈ fs.entriesAt l := List.mem_of_mem_filter hmem
  have hname := hwf.isName (mem_children (mem_entriesAt_iff.1 hentry).2)
  refine ⟨names ++ [name], List.forall_mem_append.2 ⟨hnames, List.forall_mem_singleton.2 hname⟩, ?_⟩
  exact (List.foldl_concat ..).symm

/-- Different objects differ in their components. -/
theorem pairwise_objects : (w.visited.flatMap (fs.objectsAt extensions)).Pairwise
    fun p q => p.components ≠ q.components := by
  have hne := text_ne_of_locate (stat_eq_ok_iff.1 hroot).1
  have hsites : ((w.visited.flatMap (fs.objectsAt extensions)).map fs.site?).Nodup := by
    rw [I.map_site?_objects hwf hroot hresolves]
    exact (I.nodup_sites hwf).map fun _ _ => Option.some.inj
  refine (List.pairwise_map.1 hsites).imp_of_mem fun {p q} hp hq hpq heq => hpq ?_
  obtain ⟨names, hnames, rfl⟩ := I.exists_names_of_mem_objects hwf hp
  obtain ⟨names', hnames', rfl⟩ := I.exists_names_of_mem_objects hwf hq
  -- the components are those of the root and then the names, so the names are the same
  rw [Path.names_eq_of_components_eq hne hnames hnames' heq]

omit hroot hresolves in
/-- No place is refused twice. -/
theorem nodup_refused : ((w.visited.flatMap fs.refusalsAt).map Prod.fst).Nodup := by
  rw [List.map_flatMap]
  refine List.nodup_flatMap.2 ⟨fun v _ => nodup_places hwf v, ?_⟩
  refine (List.pairwise_map.1 I.nodup).imp fun hne => ?_
  intro place h h'
  exact hne ((mem_places_iff.1 h).1.symm.trans (mem_places_iff.1 h').1)

omit hwf hroot hresolves in
theorem mem_refused_iff (hdone : w.pending = []) {place : Place} :
    place ∈ (w.visited.flatMap fs.refusalsAt).map Prod.fst ↔
      fs.Reachable start place.location ∧ fs.IsRefused place := by
  rw [← I.mem_locations_iff hdone, List.map_flatMap, List.mem_flatMap]
  constructor
  · rintro ⟨v, hv, hplace⟩
    obtain ⟨hlocation, hrefused⟩ := mem_places_iff.1 hplace
    exact ⟨hlocation ▸ List.mem_map_of_mem hv, hrefused⟩
  · rintro ⟨hlocation, hrefused⟩
    obtain ⟨v, hv, heq⟩ := List.mem_map.1 hlocation
    exact ⟨v, hv, mem_places_iff.2 ⟨heq.symm, hrefused⟩⟩

/-- The failures are those of the refused places, in some order. -/
theorem exists_refused (hdone : w.pending = []) : ∃ refused : List (Place × Path × IoCause),
    w.failures = refused.map (fun r => .io r.2.1 r.2.2) ∧ (refused.map Prod.fst).Nodup ∧
      (∀ place, place ∈ refused.map Prod.fst ↔ fs.Reachable start place.location ∧ fs.IsRefused place) ∧
        ∀ r ∈ refused, fs.Refuses r.1 r.2.1 r.2.2 := by
  have hfailures := I.failures_perm hdone
  rw [List.flatMap_congr fun v _ => failuresAt_eq_map fs v, ← List.map_flatMap] at hfailures
  obtain ⟨refused, hperm, heq⟩ := exists_perm_of_perm_map hfailures
  have hplaces := hperm.map Prod.fst
  refine ⟨refused, heq, hplaces.nodup_iff.2 (I.nodup_refused hwf), fun place => ?_, fun r hr => ?_⟩
  · rw [hplaces.mem_iff]
    exact I.mem_refused_iff hdone
  · obtain ⟨⟨l, dir⟩, hv, hr⟩ := List.mem_flatMap.1 (hperm.mem_iff.1 hr)
    exact refuses_of_mem_refusalsAt (I.stat_eq hwf hroot hresolves hv) hr

/-- A finished walk is a complete discovery. -/
theorem isComplete (hdone : w.pending = []) :
    fs.IsComplete extensions start ⟨Path.sort w.objects, w.failures⟩ := by
  have hperm : (Path.sort w.objects).Perm (w.visited.flatMap (fs.objectsAt extensions)) :=
    (List.mergeSort_perm _ _).trans (I.objects_perm hdone)
  have hsites : ((Path.sort w.objects).map fs.site?).Perm ((w.visited.flatMap (fs.sitesAt extensions)).map some) := by
    rw [← I.map_site?_objects hwf hroot hresolves]
    exact hperm.map fs.site?
  constructor
  case objects =>
    intro site
    rw [hsites.mem_iff, List.mem_map]
    constructor
    · rintro ⟨⟨l, name⟩, hmem, rfl⟩
      exact ⟨l, name, rfl, (I.mem_sites_iff hwf hroot hresolves hdone).1 hmem⟩
    · rintro ⟨l, name, rfl, hwanted⟩
      exact ⟨(l, name), (I.mem_sites_iff hwf hroot hresolves hdone).2 hwanted, rfl⟩
  case once => exact hsites.nodup_iff.2 ((I.nodup_sites hwf).map fun _ _ => Option.some.inj)
  case ascending =>
    have hpairwise := (I.objects_perm hdone).symm.pairwise (I.pairwise_objects hwf hroot hresolves) fun h => h.symm
    exact Path.pairwise_sort hpairwise
  case failures => exact I.exists_refused hwf hroot hresolves hdone

end WalkInvariant

/-- The walk below a root when it is finished. -/
def finishedWalk (fs : FileSystem) (extensions : List String) (root : Path) (start : Location) : Walk :=
  (fs.walk extensions (.atRoot start root (fs.listing start))).result

theorem result_discoverObjects (hroot : fs.stat root = .ok (start, .directory)) :
    (fs.discoverObjects root extensions).result =
      match fs.device.list start with
      | some cause => .error (.io root cause)
      | none =>
        let w := fs.finishedWalk extensions root start
        .ok ⟨Path.sort w.objects, w.failures⟩ := by
  rw [discoverObjects, hroot]
  simp only [readDirectory_eq hroot]
  cases fs.device.list start <;> rfl

/-- A root that can be listed: the walk visits each directory that can be reached once, and what is discovered is
complete. -/
theorem discoverObjects_complete (fs : FileSystem) (root : Path) (start : Location) (extensions : List String)
    (hwf : fs.WellFormed) (hroot : fs.stat root = .ok (start, .directory)) (hlist : fs.device.list start = none)
    (hresolves : fs.ResolvesTrails root start) :
    let w := (fs.walk extensions (.atRoot start root (fs.listing start))).result
    (w.locations.Nodup ∧ ∀ l, l ∈ w.locations ↔ fs.Reachable start l) ∧
      ∃ d, (fs.discoverObjects root extensions).result = .ok d ∧ d = ⟨Path.sort w.objects, w.failures⟩ ∧
        fs.IsComplete extensions start d := by
  intro w
  obtain ⟨I, hdone⟩ : WalkInvariant fs extensions root start w ∧ w.pending = [] :=
    (WalkInvariant.atRoot hlist).walk hwf hroot hresolves
  refine ⟨⟨I.nodup, fun l => I.mem_locations_iff hdone⟩, _, ?_, rfl, I.isComplete hwf hroot hresolves hdone⟩
  rw [result_discoverObjects hroot, hlist]
  rfl

/-- A discovery has no failures exactly if no place that can be reached from its root is refused. -/
theorem exists_failures_eq_nil_iff (hwf : fs.WellFormed) (hroot : fs.stat root = .ok (start, .directory))
    (hresolves : fs.ResolvesTrails root start) :
    (∃ d, (fs.discoverObjects root extensions).result = .ok d ∧ d.failures = []) ↔
      ∀ place, fs.Reachable start place.location → ¬ fs.IsRefused place := by
  rw [result_discoverObjects hroot]
  cases hlist : fs.device.list start with
  | some cause =>
    refine iff_of_false (by rintro ⟨d, ⟨⟩, -⟩) fun h => h (.directory start) .root ?_
    simp [IsRefused, hlist]
  | none =>
    obtain ⟨I, hdone⟩ : WalkInvariant fs extensions root start (fs.finishedWalk extensions root start) ∧
      (fs.finishedWalk extensions root start).pending = [] := (WalkInvariant.atRoot hlist).walk hwf hroot hresolves
    obtain ⟨refused, hfailures, -, hplaces, -⟩ := I.exists_refused hwf hroot hresolves hdone
    simp only [Except.ok.injEq, exists_eq_left', hfailures, List.map_eq_nil_iff]
    rw [← List.map_eq_nil_iff (f := Prod.fst), List.eq_nil_iff_forall_not_mem]
    simp only [hplaces, not_and]

/-! ### A tree with a loop -/

/-- A directory with an object and a link back to the root, beside a dangling link and a directory that cannot be
listed. -/
def loopTree : FileSystem where
  nodes := [(["lib"], .directory), (["shut"], .directory), (["gone.o"], .link ⟨"nowhere"⟩),
    (["lib", "a.o"], .file .empty false), (["lib", "loop"], .link ⟨".."⟩)]
  working := []
  device := { list := fun l => if l = ["shut"] then some .permissionDenied else none }

theorem wellFormed_loopTree : loopTree.WellFormed := by decide

theorem stat_loopTree : loopTree.stat ⟨"."⟩ = .ok ([], .directory) := by
  have hsteps : steps ⟨"."⟩ = ["."] := by decide
  refine stat_eq_ok_iff.2 ⟨?_, rfl⟩
  rw [locate_eq_follow (by decide) (by decide) (by decide), hsteps, follow_current rfl, follow]
  rfl

private theorem leadsTo_loopTree_root {k : Location} {name : String} {node : Node}
    (hentry : (name, node) ∈ loopTree.entries []) (h : loopTree.LeadsTo [] name k) :
    (name = "lib" ∧ k = ["lib"]) ∨ (name = "shut" ∧ k = ["shut"]) := by
  have hself := leadsTo_iff (k := k) wellFormed_loopTree rfl (mem_children hentry)
  have hmem : (name, node) ∈ [("lib", .directory), ("shut", .directory), ("gone.o", .link ⟨"nowhere"⟩)] := hentry
  simp only [List.mem_cons, Prod.mk.injEq, List.not_mem_nil, or_false] at hmem
  rcases hmem with ⟨rfl, rfl⟩ | ⟨rfl, rfl⟩ | ⟨rfl, rfl⟩
  · exact .inl ⟨rfl, ((hself nofun).1 h).1⟩
  · exact .inr ⟨rfl, ((hself nofun).1 h).1⟩
  · have htarget : steps ⟨"nowhere"⟩ = ["nowhere"] := by decide
    have hstart : start ⟨"nowhere"⟩ [] = [] := by decide
    have hfollow := h.1
    rw [maxLinks, follow_link rfl (by decide) rfl (by simp), htarget, hstart, List.append_nil,
      follow_missing rfl (by decide) rfl] at hfollow
    cases hfollow

private theorem follow_loop (n : Nat) : loopTree.follow true (n + 1) ["lib"] ["loop"] = .ok [] := by
  have htarget : steps ⟨".."⟩ = [".."] := by decide
  have hstart : start ⟨".."⟩ ["lib"] = ["lib"] := by decide
  rw [follow_link rfl (by decide) rfl (by simp), htarget, hstart, List.append_nil, follow_parent rfl,
    follow]
  rfl

private theorem leadsTo_loopTree_lib {k : Location} {name : String} {node : Node}
    (hentry : (name, node) ∈ loopTree.entries ["lib"]) (h : loopTree.LeadsTo ["lib"] name k) :
    name = "loop" ∧ k = [] := by
  have hself := leadsTo_iff (k := k) wellFormed_loopTree rfl (mem_children hentry)
  have hmem : (name, node) ∈ [("a.o", .file .empty false), ("loop", .link ⟨".."⟩)] := hentry
  simp only [List.mem_cons, Prod.mk.injEq, List.not_mem_nil, or_false] at hmem
  rcases hmem with ⟨rfl, rfl⟩ | ⟨rfl, rfl⟩
  · exact nomatch ((hself nofun).1 h).2
  · exact ⟨rfl, Except.ok.inj (h.1.symm.trans (follow_loop 39))⟩

theorem trail_loopTree {dir : Path} {path : List Location} (h : Trail loopTree ⟨"."⟩ [] dir path) :
    (dir = ⟨"."⟩ ∧ path = [[]]) ∨ (dir = ⟨"./lib"⟩ ∧ path = [["lib"], []]) ∨ path = [["shut"], []] := by
  induction h with
  | root => exact .inl ⟨rfl, rfl⟩
  | entry _ hlist hentry hleads hnew ih =>
    rcases ih with ⟨rfl, hpath⟩ | ⟨rfl, hpath⟩ | hpath <;> obtain ⟨rfl, rfl⟩ := List.cons.inj hpath
    · rcases leadsTo_loopTree_root hentry hleads with ⟨rfl, rfl⟩ | ⟨rfl, rfl⟩
      · exact .inr (.inl ⟨by decide, rfl⟩)
      · exact .inr (.inr rfl)
    · obtain ⟨rfl, rfl⟩ := leadsTo_loopTree_lib hentry hleads
      simp at hnew
    · cases hlist

theorem resolvesTrails_loopTree : loopTree.ResolvesTrails ⟨"."⟩ [] := by
  intro dir l before name node k htrail hlist hentry hleads
  refine ⟨k, ?_⟩
  rcases trail_loopTree htrail with ⟨rfl, hpath⟩ | ⟨rfl, hpath⟩ | hpath <;> obtain ⟨rfl, rfl⟩ := List.cons.inj hpath
  · have hlocate : loopTree.locate (Path.join ⟨"."⟩ name) = loopTree.follow true maxLinks [] [".", name] := by
      rcases leadsTo_loopTree_root hentry hleads with ⟨rfl, -⟩ | ⟨rfl, -⟩ <;>
        exact locate_eq_follow (by decide) (by decide) (by decide)
    rw [hlocate, follow_current rfl]
    exact hleads.1
  · obtain ⟨rfl, rfl⟩ := leadsTo_loopTree_lib hentry hleads
    have hlocate : loopTree.locate (Path.join ⟨"./lib"⟩ "loop") =
        loopTree.follow true maxLinks [] [".", "lib", "loop"] := locate_eq_follow (by decide) (by decide) (by decide)
    rw [hlocate, follow_current rfl, follow_entry rfl (by decide) rfl (by simp)]
    exact hleads.1
  · cases hlist

/-- The object and the dangling link are found. -/
theorem loopTree_discovered : ∃ d, (loopTree.discoverObjects ⟨"."⟩ ["o"]).result = .ok d ∧
    loopTree.IsComplete ["o"] [] d ∧ some (["lib"], "a.o") ∈ d.objects.map loopTree.site? ∧
      some ([], "gone.o") ∈ d.objects.map loopTree.site? := by
  obtain ⟨-, d, hd, -, hcomplete⟩ := discoverObjects_complete loopTree ⟨"."⟩ [] ["o"] wellFormed_loopTree
    stat_loopTree rfl resolvesTrails_loopTree
  have hlib : (("lib", .directory) : String × Node) ∈ loopTree.entries [] := .head _
  have hobject : (("a.o", .file .empty false) : String × Node) ∈ loopTree.entries ["lib"] := .head _
  have hgone : (("gone.o", .link ⟨"nowhere"⟩) : String × Node) ∈ loopTree.entries [] := .tail _ (.tail _ (.head _))
  have hreach : loopTree.Reachable [] ["lib"] :=
    .entry .root rfl hlib ((leadsTo_iff wellFormed_loopTree rfl (mem_children hlib) nofun).2 ⟨rfl, rfl⟩)
  refine ⟨d, hd, hcomplete, (hcomplete.objects _).2 ⟨_, _, rfl, hreach, rfl, ⟨_, hobject⟩, fun k hk => ?_, by decide⟩,
    (hcomplete.objects _).2 ⟨_, _, rfl, .root, rfl, ⟨_, hgone⟩, fun k hk => ?_, by decide⟩⟩
  · exact absurd (leadsTo_loopTree_lib hobject hk).1 (by decide)
  · rcases leadsTo_loopTree_root hgone hk with ⟨h, -⟩ | ⟨h, -⟩ <;> exact absurd h (by decide)

end FileSystem

end FirmwareSymbols
