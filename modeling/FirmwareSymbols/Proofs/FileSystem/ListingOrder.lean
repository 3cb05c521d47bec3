import FirmwareSymbols.Proofs.FileSystem.LeadingTrail

/-!
# Discovered paths and the order of listings

In whatever order directories list their entries, the same files are discovered (`IsRoot.map_site?_perm`). But a file has
the path on which the walk came to its directory, and the order decides on which of the direct trails it comes there. So
the paths are the same in every order exactly if no directory with a wanted entry is at the end of direct trails of
different paths (`HasOneRoute`).
-/

namespace FirmwareSymbols

namespace FileSystem

variable {fs fs' : FileSystem} {extensions : List String} {root dir dir' p : Path} {start l : Location} {name : String}
  {path before before' : List Location} {w : Walk}

/-- The paths of what is discovered below a root, if it can be listed. -/
def discoveredPaths (fs : FileSystem) (root : Path) (extensions : List String) : Except ToolError (List Path) :=
  (fs.discoverObjects root extensions).result.map Discovery.objects

/-- The paths of all direct trails to a directory with a wanted entry are the same. -/
def HasOneRoute (fs : FileSystem) (extensions : List String) (root : Path) (start : Location) : Prop :=
  ∀ l name, fs.device.list l = none → fs.IsWanted extensions l name → ∀ dir dir' before before',
    DirectTrail fs root start dir (l :: before) → DirectTrail fs root start dir' (l :: before') → dir = dir'

/-! ### What a walk has found -/

/-- The path of an entry tells the path of its directory. -/
theorem DirectTrail.eq_of_join_eq (hwf : fs.WellFormed) (hroot : fs.stat root = .ok (start, .directory))
    (h : DirectTrail fs root start dir path) (h' : DirectTrail fs root start dir' before) (hname : IsName name)
    (heq : dir.join name = dir'.join name) : dir = dir' := by
  have hne := text_ne_of_locate (stat_eq_ok_iff.1 hroot).1
  obtain ⟨names, hnames, rfl⟩ := h.trail.exists_names hwf
  obtain ⟨names', hnames', rfl⟩ := h'.trail.exists_names hwf
  have hconcat : names ++ [name] = names' ++ [name] := by
    have hlast (names : List String) (h : ∀ name ∈ names, IsName name) : ∀ n ∈ names ++ [name], IsName n :=
      List.forall_mem_append.2 ⟨h, List.forall_mem_singleton.2 hname⟩
    refine Path.names_eq_of_components_eq hne (hlast names hnames) (hlast names' hnames') ?_
    rw [List.foldl_concat, List.foldl_concat, heq]
  rw [List.append_cancel_right hconcat]

/-- The objects of a finished walk are the wanted entries of the visited directories, each by the path of the visit. -/
theorem WalkInvariant.mem_objects_iff (hwf : fs.WellFormed) (hroot : fs.stat root = .ok (start, .directory))
    (hresolves : fs.ResolvesTrails root start) (I : WalkInvariant fs extensions root start w) (hdone : w.pending = []) :
    p ∈ w.objects ↔ ∃ l dir name, (l, dir) ∈ w.visited ∧ fs.device.list l = none ∧ fs.IsWanted extensions l name ∧
      p = dir.join name := by
  rw [(I.objects_perm hdone).mem_iff, List.mem_flatMap]
  constructor
  · rintro ⟨⟨l, dir⟩, hvisited, hp⟩
    obtain ⟨⟨name, node⟩, hmem, rfl⟩ := List.mem_map.1 hp
    obtain ⟨hentry, hobject⟩ := List.mem_filter.1 hmem
    obtain ⟨hlist, hentry⟩ := mem_entriesAt_iff.1 hentry
    obtain ⟨hnone, hextension⟩ := (I.isObject_iff hwf hroot hresolves hvisited hlist hentry).1 hobject
    exact ⟨l, dir, name, hvisited, hlist, ⟨⟨node, hentry⟩, hnone, hextension⟩, rfl⟩
  · rintro ⟨l, dir, name, hvisited, hlist, ⟨⟨node, hentry⟩, hwanted⟩, rfl⟩
    have hobject := (I.isObject_iff hwf hroot hresolves hvisited hlist hentry).2 hwanted
    refine ⟨(l, dir), hvisited, List.mem_map.2 ⟨(name, node), ?_, rfl⟩⟩
    exact List.mem_filter.2 ⟨mem_entriesAt_iff.2 ⟨hlist, hentry⟩, hobject⟩

/-- In another order there are the same direct trails. -/
theorem SameFiles.hasOneRoute (h : fs.SameFiles fs') (hwf : fs.WellFormed)
    (hone : fs.HasOneRoute extensions root start) : fs'.HasOneRoute extensions root start := by
  intro l name hlist hwanted dir dir' before before' ht ht'
  have hwf' := h.wellFormed hwf
  exact hone l name ((h.list_eq l).symm.trans hlist) ((h.isWanted_iff hwf).1 hwanted) dir dir' before before'
    (h.symm.directTrail hwf' ht) (h.symm.directTrail hwf' ht')

/-! ### A root that can be listed -/

/-- The root is a directory that can be listed, and the paths of trails from it can be resolved. -/
structure IsRoot (fs : FileSystem) (root : Path) (start : Location) : Prop where
  wellFormed : fs.WellFormed
  stat_eq : fs.stat root = .ok (start, .directory)
  listed : fs.device.list start = none
  resolves : fs.ResolvesTrails root start

namespace IsRoot

theorem sameFiles (R : fs.IsRoot root start) (h : fs.SameFiles fs') : fs'.IsRoot root start where
  wellFormed := h.wellFormed R.wellFormed
  stat_eq := (h.within R.wellFormed).stat_eq R.stat_eq
  listed := (h.list_eq start).trans R.listed
  resolves := h.resolvesTrails R.wellFormed R.resolves

theorem walkInvariant (R : fs.IsRoot root start) (extensions : List String) :
    WalkInvariant fs extensions root start (fs.finishedWalk extensions root start) ∧
      (fs.finishedWalk extensions root start).pending = [] :=
  (WalkInvariant.atRoot R.listed).walk R.wellFormed R.stat_eq R.resolves

theorem isComplete (R : fs.IsRoot root start) (extensions : List String) : fs.IsComplete extensions start
    ⟨Path.sort (fs.finishedWalk extensions root start).objects, (fs.finishedWalk extensions root start).failures⟩ := by
  obtain ⟨I, hdone⟩ := R.walkInvariant extensions
  exact I.isComplete R.wellFormed R.stat_eq R.resolves hdone

theorem exists_directTrail (R : fs.IsRoot root start)
    (hvisited : (l, dir) ∈ (fs.finishedWalk extensions root start).visited) :
    ∃ before, DirectTrail fs root start dir (l :: before) := by
  have I := (DirectInvariant.atRoot R.listed).walk R.wellFormed R.stat_eq R.resolves extensions
  obtain ⟨before, htrail, -⟩ := I.trails (l, dir) hvisited
  exact ⟨before, htrail⟩

theorem mem_objects_iff (R : fs.IsRoot root start) : p ∈ (fs.finishedWalk extensions root start).objects ↔
    ∃ l dir name, (l, dir) ∈ (fs.finishedWalk extensions root start).visited ∧ fs.device.list l = none ∧
      fs.IsWanted extensions l name ∧ p = dir.join name := by
  obtain ⟨I, hdone⟩ := R.walkInvariant extensions
  exact I.mem_objects_iff R.wellFormed R.stat_eq R.resolves hdone

/-- In every order the same files are discovered. -/
theorem map_site?_perm (R : fs.IsRoot root start) (h : fs.SameFiles fs') :
    ((Path.sort (fs'.finishedWalk extensions root start).objects).map fs.site?).Perm
      ((Path.sort (fs.finishedWalk extensions root start).objects).map fs.site?) := by
  have C := R.isComplete extensions
  have C' := (R.sameFiles h).isComplete extensions
  have hsite : fs'.site? = fs.site? := funext fun p => h.site?_eq R.wellFormed
  rw [← hsite]
  refine (List.perm_ext_iff_of_nodup C'.once (hsite ▸ C.once)).2 fun site => ?_
  rw [C'.objects, hsite, C.objects]
  simp only [h.reachable_iff R.wellFormed, h.list_eq, h.isWanted_iff R.wellFormed]

/-- Where all direct trails to wanted entries have the same path, no object gets another path in another order. -/
theorem objects_subset (R : fs.IsRoot root start) (h : fs.SameFiles fs') (hone : fs.HasOneRoute extensions root start) :
    (fs.finishedWalk extensions root start).objects ⊆ (fs'.finishedWalk extensions root start).objects := by
  intro p hp
  have R' := R.sameFiles h
  obtain ⟨l, dir, name, hvisited, hlist, hwanted, rfl⟩ := R.mem_objects_iff.1 hp
  obtain ⟨before, ht⟩ := R.exists_directTrail hvisited
  -- the other walk visits the directory as well, on a direct trail too
  obtain ⟨I', hdone'⟩ := R'.walkInvariant extensions
  have hreachable : fs'.Reachable start l := (h.reachable_iff R.wellFormed).2 ht.trail.reachable
  obtain ⟨⟨_, dir'⟩, hvisited', rfl⟩ := List.mem_map.1 ((I'.mem_locations_iff hdone').2 hreachable)
  obtain ⟨before', ht'⟩ := R'.exists_directTrail hvisited'
  obtain rfl := hone _ name hlist hwanted dir dir' before before' ht (h.symm.directTrail R'.wellFormed ht')
  exact R'.mem_objects_iff.2 ⟨_, dir, name, hvisited', (h.list_eq _).trans hlist,
    (h.isWanted_iff R.wellFormed).2 hwanted, rfl⟩

theorem discoveredPaths_eq (R : fs.IsRoot root start) : fs.discoveredPaths root extensions =
    .ok (Path.sort (fs.finishedWalk extensions root start).objects) := by
  rw [discoveredPaths, result_discoverObjects R.stat_eq, R.listed]
  rfl

theorem discoveredPaths_eq_of_hasOneRoute (R : fs.IsRoot root start) (h : fs.SameFiles fs')
    (hone : fs.HasOneRoute extensions root start) :
    fs'.discoveredPaths root extensions = fs.discoveredPaths root extensions := by
  have R' := R.sameFiles h
  rw [R.discoveredPaths_eq, R'.discoveredPaths_eq]
  refine congrArg Except.ok ?_
  refine Path.eq_of_ascending (R'.isComplete extensions).ascending (R.isComplete extensions).ascending fun p => ?_
  rw [Path.mem_sort, Path.mem_sort]
  exact ⟨fun hp => R'.objects_subset h.symm (h.hasOneRoute R.wellFormed hone) hp, fun hp => R.objects_subset h hone hp⟩

/-- A wanted entry of a directory at the end of a direct trail is found by the path of the trail in some order. -/
theorem exists_mem_sort (R : fs.IsRoot root start) (ht : DirectTrail fs root start dir (l :: before))
    (hlist : fs.device.list l = none) (hwanted : fs.IsWanted extensions l name) : ∃ fs', fs.SameFiles fs' ∧
      dir.join name ∈ Path.sort (fs'.finishedWalk extensions root start).objects := by
  obtain ⟨fs', h, hvisited⟩ := ht.exists_walk R.wellFormed R.stat_eq R.resolves extensions hlist
  refine ⟨fs', h, Path.mem_sort.2 ?_⟩
  exact (R.sameFiles h).mem_objects_iff.2 ⟨l, dir, name, hvisited, (h.list_eq l).trans hlist,
    (h.isWanted_iff R.wellFormed).2 hwanted, rfl⟩

theorem hasOneRoute_of_discoveredPaths_eq (R : fs.IsRoot root start)
    (hsame : ∀ fs', fs.SameFiles fs' → fs'.discoveredPaths root extensions = fs.discoveredPaths root extensions) :
    fs.HasOneRoute extensions root start := by
  intro l name hlist hwanted dir dir' before before' ht ht'
  obtain ⟨node, hentry⟩ := hwanted.1
  have hfound {dir : Path} {before : List Location} (ht : DirectTrail fs root start dir (l :: before)) :
      dir.join name ∈ Path.sort (fs.finishedWalk extensions root start).objects ∧
        fs.site? (dir.join name) = some (l, name) := by
    obtain ⟨fs', h, hmem⟩ := R.exists_mem_sort ht hlist hwanted
    have hpaths := hsame fs' h
    rw [R.discoveredPaths_eq, (R.sameFiles h).discoveredPaths_eq, Except.ok.injEq] at hpaths
    exact ⟨hpaths ▸ hmem, site?_join R.wellFormed (ht.trail.stat_eq R.wellFormed R.stat_eq R.resolves) hentry⟩
  -- both paths name the same entry, which is found once
  have heq := List.inj_on_of_nodup_map (R.isComplete extensions).once (hfound ht).1 (hfound ht').1
    ((hfound ht).2.trans (hfound ht').2.symm)
  exact ht.eq_of_join_eq R.wellFormed R.stat_eq ht' (R.wellFormed.isName (mem_children hentry)) heq

end IsRoot

/-- Below a root that can be listed the same files are discovered in every order of the listings. Their paths are the
same in every order exactly if all direct trails to each directory with a wanted entry have the same path. -/
theorem discovered_paths_eq_iff (fs : FileSystem) (root : Path) (start : Location) (extensions : List String)
    (R : fs.IsRoot root start) :
    (∀ fs', fs.SameFiles fs' → ∃ paths paths', fs.discoveredPaths root extensions = .ok paths ∧
      fs'.discoveredPaths root extensions = .ok paths' ∧ (paths'.map fs.site?).Perm (paths.map fs.site?)) ∧
    ((∀ fs', fs.SameFiles fs' → fs'.discoveredPaths root extensions = fs.discoveredPaths root extensions) ↔
      fs.HasOneRoute extensions root start) := by
  refine ⟨fun fs' h => ?_, R.hasOneRoute_of_discoveredPaths_eq, fun hone fs' h => ?_⟩
  · exact ⟨_, _, R.discoveredPaths_eq, (R.sameFiles h).discoveredPaths_eq, R.map_site?_perm h⟩
  · exact R.discoveredPaths_eq_of_hasOneRoute h hone

private theorem hasOneRoute_loopTree : loopTree.HasOneRoute ["o"] ⟨"."⟩ [] := by
  intro l name hlist _ dir dir' before before' ht ht'
  -- the directories on a trail tell its path
  have hdir {dir : Path} {before : List Location} (ht : DirectTrail loopTree ⟨"."⟩ [] dir (l :: before)) :
      (l = [] ∧ dir = ⟨"."⟩) ∨ (l = ["lib"] ∧ dir = ⟨"./lib"⟩) := by
    rcases trail_loopTree ht.trail with ⟨rfl, hpath⟩ | ⟨rfl, hpath⟩ | hpath <;> obtain ⟨rfl, -⟩ := List.cons.inj hpath
    · exact .inl ⟨rfl, rfl⟩
    · exact .inr ⟨rfl, rfl⟩
    · cases hlist
  rcases hdir ht with ⟨rfl, rfl⟩ | ⟨rfl, rfl⟩ <;> rcases hdir ht' with ⟨hl, rfl⟩ | ⟨hl, rfl⟩
  · rfl
  · cases hl
  · cases hl
  · rfl

/-- In the tree with a loop the paths are the same in every order. -/
theorem loopTree_keeps_paths : loopTree.HasOneRoute ["o"] ⟨"."⟩ [] ∧ ∀ fs', loopTree.SameFiles fs' →
    fs'.discoveredPaths ⟨"."⟩ ["o"] = loopTree.discoveredPaths ⟨"."⟩ ["o"] := by
  obtain ⟨-, hiff⟩ := discovered_paths_eq_iff loopTree ⟨"."⟩ [] ["o"]
    ⟨wellFormed_loopTree, stat_loopTree, rfl, resolvesTrails_loopTree⟩
  exact ⟨hasOneRoute_loopTree, hiff.2 hasOneRoute_loopTree⟩

/-! ### Two links to a directory -/

/-- A directory with an object, and another directory with two links to it, which are listed in this order. -/
def forkTree (first second : String) : FileSystem where
  nodes := [(["d"], .directory), (["d", "x.obj"], .file .empty false), (["r"], .directory),
    (["r", first], .link ⟨"../d"⟩), (["r", second], .link ⟨"../d"⟩)]
  working := []

private theorem stat_forkTree {first second : String} :
    (forkTree first second).stat ⟨"r"⟩ = .ok (["r"], .directory) :=
  stat_name (by decide) (by decide) rfl rfl nofun

private theorem locate_forkTree {first second name : String} (hname : name = "a" ∨ name = "b")
    (hlink : (forkTree first second).node? ["r", name] = some (.link ⟨"../d"⟩)) :
    (forkTree first second).locate (Path.join ⟨"r"⟩ name) = .ok ["d"] := by
  have hlocate : (forkTree first second).locate (Path.join ⟨"r"⟩ name) =
      (forkTree first second).follow true maxLinks [] ["r", name] := by
    rcases hname with rfl | rfl <;> exact locate_eq_follow (by decide) (by decide) (by decide)
  have hstep : IsStep name := by
    rcases hname with rfl | rfl <;> exact ⟨by decide, by decide, by decide⟩
  have htarget : steps ⟨"../d"⟩ = ["..", "d"] := by decide
  have hstart : FileSystem.start ⟨"../d"⟩ ["r"] = ["r"] := by decide
  rw [hlocate, follow_entry rfl (by decide) rfl (by simp), List.nil_append, maxLinks,
    follow_link rfl hstep hlink (by simp), htarget, hstart, List.append_nil, follow_parent rfl,
    follow_entry rfl (by decide) rfl (by simp), follow]
  rfl

private theorem discoveredPaths_forkTree {first second : String}
    (hfirst : (forkTree first second).locate (Path.join ⟨"r"⟩ first) = .ok ["d"])
    (hsecond : (forkTree first second).locate (Path.join ⟨"r"⟩ second) = .ok ["d"])
    (hobject : ((Path.join ⟨"r"⟩ first).join "x.obj").extension? = some "obj") :
    (forkTree first second).discoveredPaths ⟨"r"⟩ ["obj"] = .ok [(Path.join ⟨"r"⟩ first).join "x.obj"] := by
  have hdirectory {p : Path} (h : (forkTree first second).locate p = .ok ["d"]) :
      (forkTree first second).isDirectory p = true := by
    rw [isDirectory, stat_eq_ok_iff.2 ⟨h, rfl⟩]
  have hread : (forkTree first second).readDirectory (Path.join ⟨"r"⟩ first) =
      .ok [.entry "x.obj" (.file .empty false)] :=
    readDirectory_eq (stat_eq_ok_iff.2 ⟨hfirst, rfl⟩)
  have hlisting : (forkTree first second).listing ["r"] =
      [.entry first (.link ⟨"../d"⟩), .entry second (.link ⟨"../d"⟩)] := rfl
  -- the walk enters the directory by the first link, so the second one leads nowhere new
  have hlinks : ((forkTree first second).walkEntries ["obj"] ⟨"r"⟩ ⟨[(["r"], ⟨"r"⟩)], [], [], []⟩
      ((forkTree first second).listing ["r"])).result =
        ⟨[(["r"], ⟨"r"⟩), (["d"], Path.join ⟨"r"⟩ first)],
          [(Path.join ⟨"r"⟩ first, [.entry "x.obj" (.file .empty false)])], [], []⟩ := by
    simp [hlisting, walkEntries, walkListed, walkEntry, entryIsDirectory, hdirectory, hfirst, hsecond, hread,
      Walk.locations, Walk.mark, Walk.enter]
  have hobjects : ((forkTree first second).walkEntries ["obj"] (Path.join ⟨"r"⟩ first)
      ⟨[(["r"], ⟨"r"⟩), (["d"], Path.join ⟨"r"⟩ first)], [], [], []⟩ [.entry "x.obj" (.file .empty false)]).result =
        ⟨[(["r"], ⟨"r"⟩), (["d"], Path.join ⟨"r"⟩ first)], [], [(Path.join ⟨"r"⟩ first).join "x.obj"], []⟩ := by
    simp [walkEntries, walkListed, walkEntry, entryIsDirectory, hobject, Walk.found]
  rw [discoveredPaths, result_discoverObjects stat_forkTree, finishedWalk, Walk.atRoot, walk_of_pending rfl, hlinks,
    walk_of_pending rfl, hobjects, walk_of_pending_nil rfl]
  exact congrArg Except.ok (List.mergeSort_singleton _)

/-- The path of the object is that of the link which is listed first. -/
theorem forkTree_paths_differ : (forkTree "a" "b").WellFormed ∧ (forkTree "a" "b").SameFiles (forkTree "b" "a") ∧
    (forkTree "a" "b").discoveredPaths ⟨"r"⟩ ["obj"] = .ok [⟨"r/a/x.obj"⟩] ∧
    (forkTree "b" "a").discoveredPaths ⟨"r"⟩ ["obj"] = .ok [⟨"r/b/x.obj"⟩] := by
  refine ⟨by decide, ⟨?_, rfl, rfl⟩, ?_, ?_⟩
  · exact .cons _ (.cons _ (.cons _ (.swap _ _ _)))
  · exact discoveredPaths_forkTree (locate_forkTree (.inl rfl) rfl) (locate_forkTree (.inr rfl) rfl) (by decide)
  · exact discoveredPaths_forkTree (locate_forkTree (.inr rfl) rfl) (locate_forkTree (.inl rfl) rfl) (by decide)

end FileSystem

end FirmwareSymbols
