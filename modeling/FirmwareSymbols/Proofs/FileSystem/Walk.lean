import FirmwareSymbols.Proofs.FileSystem.Reachable
import Mathlib.Data.List.Perm.Basic

/-!
# The invariant of a walk

The entries of the pending directories are looked at one after another. `walkEntry_cases` says all that looking at one
entry can do, `WalkInvariant.step` that it keeps the invariant, and `WalkInvariant.walk` that a whole walk does, at
whose end nothing is pending. So a finished walk has visited exactly the directories that can be reached
(`WalkInvariant.mem_locations_iff`) and found the objects and the failures of them all (`WalkInvariant.objects_perm`,
`WalkInvariant.failures_perm`).
-/

namespace FirmwareSymbols

/-- The failure that stands for an entry of a directory of which not all is told. -/
def Listed.failure? (dir : Path) : Listed → Option ToolError
  | .entry .. => none
  | .unknown name cause => some (.io (dir.join name) cause)
  | .unread cause => some (.io dir cause)

namespace FileSystem

variable (fs : FileSystem) (extensions : List String)

/-- The entry is no directory, and its path has one of the extensions. -/
def isObject (dir : Path) (entry : String × Node) : Bool :=
  !fs.entryIsDirectory (dir.join entry.1) entry.2 && (dir.join entry.1).extension?.any extensions.contains

/-- The objects in a listing. -/
def objectsIn (dir : Path) (items : List Listed) : List Path :=
  ((items.filterMap Listed.told?).filter (fs.isObject extensions dir)).map fun entry => dir.join entry.1

/-- The failures in a listing. -/
def failuresIn (dir : Path) (items : List Listed) : List ToolError := items.filterMap (Listed.failure? dir)

/-- The listing of a directory, empty if it cannot be listed. -/
def listingAt (l : Location) : List Listed := if fs.device.list l = none then fs.listing l else []

/-- The objects of a visited directory. -/
def objectsAt (visit : Location × Path) : List Path := fs.objectsIn extensions visit.2 (fs.listingAt visit.1)

/-- The failure of a visited directory, if it cannot be listed. -/
def failureAt? (visit : Location × Path) : Option ToolError := (fs.device.list visit.1).map (.io visit.2)

/-- All failures of a visited directory. -/
def failuresAt (visit : Location × Path) : List ToolError :=
  (fs.failureAt? visit).toList ++ failuresIn visit.2 (fs.listingAt visit.1)

variable {fs extensions} {root dir : Path} {start l k : Location} {name : String} {node : Node} {w : Walk}
  {item : Listed} {es : List Listed} {rest : List (Path × List Listed)}

theorem listingAt_eq (h : fs.device.list l = none) : fs.listingAt l = fs.listing l := if_pos h

theorem objectsIn_cons (dir : Path) (item : Listed) (es : List Listed) :
    fs.objectsIn extensions dir (item :: es) = fs.objectsIn extensions dir [item] ++ fs.objectsIn extensions dir es := by
  unfold objectsIn
  rw [← List.map_append, ← List.filter_append, ← List.filterMap_append, List.singleton_append]

theorem failuresIn_cons (dir : Path) (item : Listed) (es : List Listed) :
    failuresIn dir (item :: es) = failuresIn dir [item] ++ failuresIn dir es := by
  unfold failuresIn
  rw [← List.filterMap_append, List.singleton_append]

theorem readDirectory_eq (h : fs.stat dir = .ok (l, .directory)) :
    fs.readDirectory dir =
      match fs.device.list l with
      | some cause => .error cause
      | none => .ok (fs.listing l) := by
  rw [readDirectory, h]
  rfl

/-- What looking at one entry does: a directory that was visited is passed over, another one is visited and becomes
pending unless it cannot be listed, and anything else is found if it is an object. -/
theorem walkEntry_cases (extensions : List String) (hwf : fs.WellFormed) (hdir : fs.stat dir = .ok (l, .directory))
    (hentry : (name, node) ∈ fs.entries l)
    (hresolves : ∀ k, fs.LeadsTo l name k → ∃ k', fs.locate (dir.join name) = .ok k') (w : Walk) :
    (∃ k, fs.LeadsTo l name k ∧ fs.isObject extensions dir (name, node) = false ∧
      ((k ∈ w.locations ∧ (fs.walkEntry extensions dir w (name, node)).result = w) ∨
        (k ∉ w.locations ∧ ∃ cause, fs.device.list k = some cause ∧
          (fs.walkEntry extensions dir w (name, node)).result =
            (w.mark k (dir.join name)).failed (dir.join name) cause) ∨
        (k ∉ w.locations ∧ fs.device.list k = none ∧
          (fs.walkEntry extensions dir w (name, node)).result =
            (w.mark k (dir.join name)).enter (dir.join name) (fs.listing k)))) ∨
    ((∀ k, ¬ fs.LeadsTo l name k) ∧
      (fs.walkEntry extensions dir w (name, node)).result =
        if fs.isObject extensions dir (name, node) then w.found (dir.join name) else w) := by
  have hdirectory := entryIsDirectory_iff hwf hdir (mem_children hentry) hresolves
  unfold walkEntry isObject
  by_cases h : fs.entryIsDirectory (dir.join name) node = true
  · left
    obtain ⟨k, hk⟩ := hdirectory.1 h
    obtain ⟨k', hlocate⟩ := hresolves k hk
    -- the walk resolves the path of the entry, which leads where the entry leads
    obtain rfl := Except.ok.inj (hk.1.symm.trans (leadsTo_of_locate hdir (hwf.isName (mem_children hentry)) hlocate))
    have hread := readDirectory_eq (stat_eq_ok_iff.2 ⟨hlocate, hk.2⟩)
    refine ⟨k, hk, by simp [h], ?_⟩
    simp only [h, if_true, hlocate]
    by_cases hvisited : k ∈ w.locations
    · exact .inl ⟨hvisited, by simp [hvisited]⟩
    · right
      cases hlist : fs.device.list k with
      | some cause =>
        left
        simp only [hlist] at hread
        exact ⟨hvisited, cause, rfl, by simp [hvisited, hread]⟩
      | none =>
        right
        simp only [hlist] at hread
        exact ⟨hvisited, rfl, by simp [hvisited, hread]⟩
  · right
    refine ⟨fun k hk => h (hdirectory.2 ⟨k, hk⟩), ?_⟩
    simp only [h, Bool.false_eq_true, if_false, Bool.not_false, Bool.true_and]
    split <;> rfl

/-! ### The invariant -/

/-- What holds during a walk: each visited directory has been met once, on a trail through visited directories; where
its entries lead was visited or is still to be looked at; and the objects and failures are those of the visited
directories, as far as their entries were looked at. -/
structure WalkInvariant (fs : FileSystem) (extensions : List String) (root : Path) (start : Location) (w : Walk) :
    Prop where
  root_visited : (start, root) ∈ w.visited
  nodup : w.locations.Nodup
  trails : ∀ v ∈ w.visited, ∃ before, Trail fs root start v.2 (v.1 :: before) ∧ ∀ k ∈ before, k ∈ w.locations
  pending : ∀ p ∈ w.pending, ∃ l, (l, p.1) ∈ w.visited ∧ fs.device.list l = none ∧ p.2 ⊆ fs.listing l
  closed : ∀ v ∈ w.visited, fs.device.list v.1 = none → ∀ e ∈ fs.entries v.1, ∀ k, fs.LeadsTo v.1 e.1 k →
    k ∈ w.locations ∨ ∃ p ∈ w.pending, p.1 = v.2 ∧ .entry e.1 e.2 ∈ p.2
  objects : (w.objects ++ w.pending.flatMap fun p => fs.objectsIn extensions p.1 p.2).Perm
    (w.visited.flatMap (fs.objectsAt extensions))
  failures : (w.failures ++ w.pending.flatMap fun p => failuresIn p.1 p.2).Perm (w.visited.flatMap fs.failuresAt)

namespace WalkInvariant

theorem atRoot (hlist : fs.device.list start = none) :
    WalkInvariant fs extensions root start (.atRoot start root (fs.listing start)) where
  root_visited := by simp [Walk.atRoot]
  nodup := by simp [Walk.atRoot, Walk.locations]
  trails := by
    intro v hv
    obtain rfl := List.mem_singleton.1 hv
    exact ⟨[], .root, by simp⟩
  pending := by
    intro p hp
    obtain rfl := List.mem_singleton.1 hp
    exact ⟨start, by simp [Walk.atRoot], hlist, List.Subset.refl _⟩
  closed := by
    intro v hv _ e he k _
    obtain rfl := List.mem_singleton.1 hv
    exact .inr ⟨(root, fs.listing start), by simp [Walk.atRoot], rfl, mem_listing he⟩
  objects := by simp [Walk.atRoot, objectsAt, listingAt_eq hlist]
  failures := by simp [Walk.atRoot, failuresAt, failureAt?, hlist, listingAt_eq hlist]

variable (I : WalkInvariant fs extensions root start w)

include I

/-- The order of what is pending does not matter. -/
theorem reorder {pending : List (Path × List Listed)} (h : w.pending.Perm pending) :
    WalkInvariant fs extensions root start { w with pending := pending } where
  root_visited := I.root_visited
  nodup := I.nodup
  trails := I.trails
  pending := fun p hp => I.pending p (h.mem_iff.2 hp)
  closed := by
    intro v hv hlist e he k hk
    rcases I.closed v hv hlist e he k hk with hvisited | ⟨p, hp, hdir, hmem⟩
    · exact .inl hvisited
    · exact .inr ⟨p, h.mem_iff.1 hp, hdir, hmem⟩
  objects := ((h.flatMap_right _).symm.append_left _).trans I.objects
  failures := ((h.flatMap_right _).symm.append_left _).trans I.failures

/-- The trail to a directory that was not visited yet. -/
theorem trail_entry (hl : (l, dir) ∈ w.visited) (hlist : fs.device.list l = none) (he : (name, node) ∈ fs.entries l)
    (hk : fs.LeadsTo l name k) (hnew : k ∉ w.locations) :
    ∃ before, Trail fs root start (dir.join name) (k :: before) ∧ ∀ k' ∈ before, k' ∈ w.locations := by
  obtain ⟨before, htrail, hbefore⟩ := I.trails (l, dir) hl
  have hmem : ∀ k' ∈ l :: before, k' ∈ w.locations := by
    intro k' hk'
    rcases List.mem_cons.1 hk' with rfl | hk'
    · exact List.mem_map_of_mem hl
    · exact hbefore k' hk'
  exact ⟨l :: before, htrail.entry hlist he hk fun h => hnew (hmem k h), hmem⟩

/-- A new directory is visited: its entries become pending, or its failure is recorded. -/
theorem visit (new : List (Path × List Listed)) (hnew : k ∉ w.locations)
    (htrail : ∃ before, Trail fs root start dir (k :: before) ∧ ∀ k' ∈ before, k' ∈ w.locations)
    (hpending : new = if fs.device.list k = none then [(dir, fs.listing k)] else []) :
    WalkInvariant fs extensions root start
      ⟨w.visited ++ [(k, dir)], new ++ w.pending, w.objects, w.failures ++ (fs.failureAt? (k, dir)).toList⟩ := by
  have hlocations : ∀ w' : Walk, w'.visited = w.visited ++ [(k, dir)] → w'.locations = w.locations ++ [k] := by
    intro w' hw'
    simp [Walk.locations, hw']
  constructor
  case root_visited => exact List.mem_append_left _ I.root_visited
  case nodup =>
    rw [hlocations _ rfl]
    exact List.nodup_append.2 ⟨I.nodup, List.nodup_singleton k, by rintro k' hk' _ hk rfl; simp_all⟩
  case trails =>
    intro v hv
    rw [hlocations _ rfl]
    have hv' : ∃ before, Trail fs root start v.2 (v.1 :: before) ∧ ∀ k' ∈ before, k' ∈ w.locations := by
      rcases List.mem_append.1 hv with hv | hv
      · exact I.trails v hv
      · obtain rfl := List.mem_singleton.1 hv
        exact htrail
    obtain ⟨before, ht, hbefore⟩ := hv'
    exact ⟨before, ht, fun k' hk' => List.mem_append_left _ (hbefore k' hk')⟩
  case pending =>
    intro p hp
    rcases List.mem_append.1 hp with hp | hp
    · subst hpending
      split at hp
      next hlist =>
        obtain rfl := List.mem_singleton.1 hp
        exact ⟨k, List.mem_append_right _ (List.mem_singleton_self _), hlist, List.Subset.refl _⟩
      · cases hp
    · obtain ⟨l, hl, hlist, hsub⟩ := I.pending p hp
      exact ⟨l, List.mem_append_left _ hl, hlist, hsub⟩
  case closed =>
    intro v hv hlist e he k' hk'
    rw [hlocations _ rfl]
    rcases List.mem_append.1 hv with hv | hv
    · rcases I.closed v hv hlist e he k' hk' with hvisited | ⟨p, hp, hdir, hmem⟩
      · exact .inl (List.mem_append_left _ hvisited)
      · exact .inr ⟨p, List.mem_append_right _ hp, hdir, hmem⟩
    · -- the entries of the new directory are all pending
      obtain rfl := List.mem_singleton.1 hv
      rw [if_pos hlist] at hpending
      exact .inr ⟨(dir, fs.listing k), by simp [hpending], rfl, mem_listing he⟩
  case objects =>
    have hat : new.flatMap (fun p => fs.objectsIn extensions p.1 p.2) = fs.objectsAt extensions (k, dir) := by
      subst hpending
      cases hlist : fs.device.list k <;> simp [objectsAt, listingAt, objectsIn, hlist]
    rw [List.flatMap_append, List.flatMap_append, List.flatMap_singleton, hat]
    exact (List.perm_append_comm.append_left _).trans (by simpa using I.objects.append_right _)
  case failures =>
    have hat : (fs.failureAt? (k, dir)).toList ++ new.flatMap (fun p => failuresIn p.1 p.2) =
        fs.failuresAt (k, dir) := by
      subst hpending
      cases hlist : fs.device.list k <;> simp [failuresAt, listingAt, failuresIn, hlist]
    rw [List.flatMap_append, List.flatMap_append, List.flatMap_singleton, ← hat]
    refine List.Perm.trans ?_ (I.failures.append_right _)
    rw [List.append_assoc, List.append_assoc]
    refine List.Perm.append_left _ ?_
    rw [← List.append_assoc]
    exact List.perm_append_comm

/-- The first pending entry is done with if it leads nowhere new; if it is an object it was found, and if it could not
be read the failure was recorded. -/
theorem pass {objects : List Path} {failures : List ToolError} (hw : w.pending = (dir, item :: es) :: rest)
    (hvisited : ∀ l k name node, (l, dir) ∈ w.visited → item = .entry name node → fs.LeadsTo l name k →
      k ∈ w.locations)
    (hobjects : objects = w.objects ++ fs.objectsIn extensions dir [item])
    (hfailures : failures = w.failures ++ failuresIn dir [item]) :
    WalkInvariant fs extensions root start
      { w with pending := (dir, es) :: rest, objects := objects, failures := failures } where
  root_visited := I.root_visited
  nodup := I.nodup
  trails := I.trails
  pending := by
    intro p hp
    rcases List.mem_cons.1 hp with rfl | hp
    · obtain ⟨l, hl, hlist, hsub⟩ := I.pending (dir, item :: es) (by simp [hw])
      exact ⟨l, hl, hlist, fun x hx => hsub (List.mem_cons_of_mem item hx)⟩
    · exact I.pending p (by simp [hw, hp])
  closed := by
    intro v hv hlist e he k hk
    rcases I.closed v hv hlist e he k hk with hk' | ⟨p, hp, hdir, hmem⟩
    · exact .inl hk'
    rw [hw] at hp
    rcases List.mem_cons.1 hp with rfl | hp
    · -- of what was pending only the first entry is missing now
      obtain rfl : dir = v.2 := hdir
      rcases List.mem_cons.1 hmem with heq | hmem
      · exact .inl (hvisited v.1 k e.1 e.2 hv heq.symm hk)
      · exact .inr ⟨(v.2, es), List.mem_cons_self, rfl, hmem⟩
    · exact .inr ⟨p, List.mem_cons_of_mem _ hp, hdir, hmem⟩
  objects := by
    have h := I.objects
    rw [hw, List.flatMap_cons, objectsIn_cons] at h
    rw [hobjects, List.flatMap_cons]
    simpa only [List.append_assoc] using h
  failures := by
    have h := I.failures
    rw [hw, List.flatMap_cons, failuresIn_cons] at h
    rw [hfailures, List.flatMap_cons]
    simpa only [List.append_assoc] using h

theorem pass_entry {objects : List Path} (hw : w.pending = (dir, .entry name node :: es) :: rest)
    (hvisited : ∀ l k, (l, dir) ∈ w.visited → fs.LeadsTo l name k → k ∈ w.locations)
    (hobjects : objects = w.objects ++ fs.objectsIn extensions dir [.entry name node]) :
    WalkInvariant fs extensions root start { w with pending := (dir, es) :: rest, objects := objects } := by
  refine I.pass hw ?_ hobjects (by simp [failuresIn, Listed.failure?])
  rintro l k _ _ hl ⟨⟩ hk
  exact hvisited l k hl hk

/-- A directory with no entries left is done with. -/
theorem finish (hw : w.pending = (dir, []) :: rest) :
    WalkInvariant fs extensions root start { w with pending := rest } where
  root_visited := I.root_visited
  nodup := I.nodup
  trails := I.trails
  pending := fun p hp => I.pending p (by simp [hw, hp])
  closed := by
    intro v hv hlist e he k hk
    rcases I.closed v hv hlist e he k hk with hk' | ⟨p, hp, hdir, hmem⟩
    · exact .inl hk'
    rw [hw] at hp
    rcases List.mem_cons.1 hp with rfl | hp
    · cases hmem
    · exact .inr ⟨p, hp, hdir, hmem⟩
  objects := by
    have h := I.objects
    rw [hw, List.flatMap_cons] at h
    exact h
  failures := by
    have h := I.failures
    rw [hw, List.flatMap_cons] at h
    exact h

omit I

variable (hwf : fs.WellFormed) (hroot : fs.stat root = .ok (start, .directory))
  (hresolves : fs.ResolvesTrails root start)

include hwf hroot hresolves

theorem stat_eq (I : WalkInvariant fs extensions root start w) (hl : (l, dir) ∈ w.visited) :
    fs.stat dir = .ok (l, .directory) := by
  obtain ⟨before, htrail, -⟩ := I.trails (l, dir) hl
  exact htrail.stat_eq hwf hroot hresolves

omit hwf hroot in
/-- An entry of a visited directory that leads to a directory has a path that does. -/
theorem exists_locate (I : WalkInvariant fs extensions root start w) (hl : (l, dir) ∈ w.visited)
    (hlist : fs.device.list l = none) (hentry : (name, node) ∈ fs.entries l) (hk : fs.LeadsTo l name k) :
    ∃ k', fs.locate (dir.join name) = .ok k' := by
  obtain ⟨before, htrail, -⟩ := I.trails (l, dir) hl
  exact hresolves dir l before name node k htrail hlist hentry hk

/-- Looking at one entry of which all is told keeps the invariant. -/
theorem step_entry (I : WalkInvariant fs extensions root start (w.enter dir (.entry name node :: es))) :
    WalkInvariant fs extensions root start
      ((fs.walkEntry extensions dir w (name, node)).result.enter dir es) := by
  obtain ⟨l, hl, hlist, hsub⟩ : ∃ l, (l, dir) ∈ w.visited ∧ fs.device.list l = none ∧
      Listed.entry name node :: es ⊆ fs.listing l := I.pending _ List.mem_cons_self
  have hentry : (name, node) ∈ fs.entries l := mem_entries_of_mem_listing (hsub List.mem_cons_self)
  have hdir : fs.stat dir = .ok (l, .directory) := I.stat_eq hwf hroot hresolves hl
  have hlocate (k : Location) : fs.LeadsTo l name k → ∃ k', fs.locate (dir.join name) = .ok k' :=
    I.exists_locate hresolves hl hlist hentry
  -- the path of the directory stands for one location only
  have honly {w' : Walk} {l' : Location} (I' : WalkInvariant fs extensions root start w')
      (hl' : (l', dir) ∈ w'.visited) : l' = l := by
    have hstat := (I'.stat_eq hwf hroot hresolves hl').symm.trans hdir
    exact (Prod.mk.inj (Except.ok.inj hstat)).1
  rcases walkEntry_cases extensions hwf hdir hentry hlocate w with ⟨k, hk, hobject, hcases⟩ | ⟨hnone, hresult⟩
  · have hobjects (objects : List Path) : objects = objects ++ fs.objectsIn extensions dir [.entry name node] := by
      simp [objectsIn, Listed.told?, hobject]
    rcases hcases with ⟨hvisited, hresult⟩ | ⟨hnew, cause, hcause, hresult⟩ | ⟨hnew, hlisted, hresult⟩
    · rw [hresult]
      refine I.pass_entry rfl (fun l' k' hl' hk' => ?_) (hobjects _)
      rwa [hk.unique (honly I hl' ▸ hk')] at hvisited
    · rw [hresult]
      have I' := I.visit [] hnew (I.trail_entry hl hlist hentry hk hnew) (by simp [hcause])
      have hfailure : (fs.failureAt? (k, dir.join name)).toList = [.io (dir.join name) cause] := by
        simp [failureAt?, hcause]
      rw [hfailure] at I'
      refine I'.pass_entry rfl (fun l' k' hl' hk' => ?_) (hobjects _)
      simp [Walk.locations, hk.unique (honly I' hl' ▸ hk')]
    · rw [hresult]
      -- the entries of the new directory come first, those of this one after them
      have I' := (I.visit _ hnew (I.trail_entry hl hlist hentry hk hnew) (if_pos hlisted).symm).reorder (.swap _ _ _)
      have hfailure : (fs.failureAt? (k, dir.join name)).toList = [] := by simp [failureAt?, hlisted]
      rw [hfailure, List.append_nil] at I'
      refine I'.pass_entry rfl (fun l' k' hl' hk' => ?_) (hobjects _)
      simp [Walk.locations, hk.unique (honly I' hl' ▸ hk')]
  · rw [hresult]
    have hnowhere : ∀ l' k', (l', dir) ∈ w.visited → fs.LeadsTo l' name k' → k' ∈ w.locations :=
      fun l' k' hl' hk' => absurd (honly I hl' ▸ hk') (hnone k')
    split
    next hobject => exact I.pass_entry rfl hnowhere (by simp [objectsIn, Listed.told?, hobject, Walk.found, Walk.enter])
    next hobject => exact I.pass_entry rfl hnowhere (by simp [objectsIn, Listed.told?, hobject, Walk.enter])

omit hwf hroot hresolves in
/-- What cannot be read is recorded and passed over. -/
private theorem step_of_failure {e : ToolError} (I : WalkInvariant fs extensions root start (w.enter dir (item :: es)))
    (htold : item.told? = none) (hfailure : item.failure? dir = some e) :
    WalkInvariant fs extensions root start (Walk.enter { w with failures := w.failures ++ [e] } dir es) := by
  refine I.pass (w := w.enter dir (item :: es)) rfl ?_ ?_ ?_
  · rintro l k name node - rfl
    cases htold
  · simp [objectsIn, htold, Walk.enter]
  · simp [failuresIn, hfailure, Walk.enter]

/-- Looking at what stands in the place of one entry keeps the invariant. -/
theorem step (I : WalkInvariant fs extensions root start (w.enter dir (item :: es))) :
    WalkInvariant fs extensions root start ((fs.walkListed extensions dir w item).result.enter dir es) := by
  cases item with
  | entry name node => exact I.step_entry hwf hroot hresolves
  | unknown name cause => exact I.step_of_failure rfl rfl
  | unread cause => exact I.step_of_failure rfl rfl

/-- Looking at the entries of one directory keeps the invariant. -/
theorem entries (I : WalkInvariant fs extensions root start (w.enter dir es)) :
    WalkInvariant fs extensions root start (fs.walkEntries extensions dir w es).result := by
  induction es generalizing w with
  | nil => exact I.finish rfl
  | cons e es ih => exact ih (I.step hwf hroot hresolves)

/-- A walk keeps the invariant and ends with nothing pending. -/
theorem walk (I : WalkInvariant fs extensions root start w) :
    WalkInvariant fs extensions root start (fs.walk extensions w).result ∧
      (fs.walk extensions w).result.pending = [] := by
  fun_induction FileSystem.walk fs extensions w with
  | case1 w h => exact ⟨I, h⟩
  | case2 w dir entries rest h step last ih =>
    have hfirst : WalkInvariant fs extensions root start (Walk.enter { w with pending := rest } dir entries) := by
      rw [Walk.enter, ← h]
      exact I
    exact ih (hfirst.entries hwf hroot hresolves)

omit hwf hroot hresolves

/-! ### A finished walk -/

/-- The directories that a finished walk visited are those that can be reached. -/
theorem mem_locations_iff (I : WalkInvariant fs extensions root start w) (hdone : w.pending = []) :
    l ∈ w.locations ↔ fs.Reachable start l := by
  constructor
  · intro h
    obtain ⟨⟨_, dir⟩, hvisited, rfl⟩ := List.mem_map.1 h
    obtain ⟨before, htrail, -⟩ := I.trails _ hvisited
    exact htrail.reachable
  · intro h
    induction h with
    | root => exact List.mem_map_of_mem I.root_visited
    | entry _ hlist hentry hleads ih =>
      obtain ⟨⟨_, dir⟩, hvisited, rfl⟩ := List.mem_map.1 ih
      -- where the entry leads was visited, for nothing is pending any more
      rcases I.closed _ hvisited hlist _ hentry _ hleads with h | ⟨p, hp, -⟩
      · exact h
      · rw [hdone] at hp
        cases hp

/-- A finished walk found the objects of the directories that it visited. -/
theorem objects_perm (I : WalkInvariant fs extensions root start w) (hdone : w.pending = []) :
    w.objects.Perm (w.visited.flatMap (fs.objectsAt extensions)) := by
  simpa [hdone] using I.objects

/-- A finished walk recorded the failures of the directories that it visited. -/
theorem failures_perm (I : WalkInvariant fs extensions root start w) (hdone : w.pending = []) :
    w.failures.Perm (w.visited.flatMap fs.failuresAt) := by
  simpa [hdone] using I.failures

end WalkInvariant

end FileSystem

end FirmwareSymbols
