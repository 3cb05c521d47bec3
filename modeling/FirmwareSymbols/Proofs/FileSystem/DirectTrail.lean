import FirmwareSymbols.Proofs.FileSystem.Listing

/-!
# Direct trails

A trail is direct if none of its directories but the last before the end has an entry that leads to the end, and so
for each part of it. A walk looks at all entries of a directory before it goes on to those below. So it meets every
directory on a direct trail (`DirectInvariant.walk`). Conversely every direct trail is the one that a walk takes if the
directories on it list their entries in a suitable order: those that lead elsewhere first, then the one that the trail
follows (`DirectTrail.exists_walk`).
-/

namespace FirmwareSymbols.FileSystem

variable {fs fs' : FileSystem} {extensions : List String} {root dir : Path} {start l k : Location} {name : String}
  {node : Node} {before path : List Location} {w : Walk} {item : Listed} {es : List Listed}

/-- The path leads from the root to the first of these directories, through the others and without a detour: from no
directory before the last one an entry leads to where the trail goes next. -/
inductive DirectTrail (fs : FileSystem) (root : Path) (start : Location) : Path → List Location → Prop
  | root : DirectTrail fs root start root [start]
  | entry {dir : Path} {l k : Location} {before : List Location} {name : String} {node : Node} :
      DirectTrail fs root start dir (l :: before) → fs.device.list l = none → (name, node) ∈ fs.entries l →
      fs.LeadsTo l name k → k ∉ l :: before → (∀ b ∈ before, ∀ e ∈ fs.entries b, ¬ fs.LeadsTo b e.1 k) →
      DirectTrail fs root start (dir.join name) (k :: l :: before)

theorem DirectTrail.trail (h : DirectTrail fs root start dir path) : Trail fs root start dir path := by
  induction h with
  | root => exact .root
  | entry _ hlist hentry hleads hnew _ ih => exact .entry ih hlist hentry hleads hnew

/-- A trail ends at none of the directories that it has passed. -/
theorem DirectTrail.not_mem (h : DirectTrail fs root start dir (l :: before)) : l ∉ before := by
  cases h with
  | root => exact List.not_mem_nil
  | entry _ _ _ _ hnew _ => exact hnew

theorem SameFiles.directTrail (h : fs.SameFiles fs') (hwf : fs.WellFormed) (ht : DirectTrail fs root start dir path) :
    DirectTrail fs' root start dir path := by
  induction ht with
  | root => exact .root
  | entry _ hlist hentry hleads hnew hdirect ih =>
    refine .entry ih ((h.list_eq _).trans hlist) (h.mem_entries_iff.2 hentry) ((h.leadsTo_iff hwf).2 hleads) hnew ?_
    exact fun b hb e he hk => hdirect b hb e (h.mem_entries_iff.1 he) ((h.leadsTo_iff hwf).1 hk)

/-! ### What a walk marks -/

/-- What looking at one entry does to the visited and the pending directories: nothing if the entry leads nowhere new,
and else it visits the directory that the entry leads to, which becomes pending if it can be listed. -/
private theorem walkEntry_marks (extensions : List String) (hwf : fs.WellFormed) (hdir : fs.stat dir = .ok (l, .directory))
    (hentry : (name, node) ∈ fs.entries l)
    (hresolves : ∀ k, fs.LeadsTo l name k → ∃ k', fs.locate (dir.join name) = .ok k') (w : Walk) :
    ((∀ k, fs.LeadsTo l name k → k ∈ w.locations) ∧
      (fs.walkEntry extensions dir w (name, node)).result.visited = w.visited ∧
      (fs.walkEntry extensions dir w (name, node)).result.pending = w.pending) ∨
    ∃ k, fs.LeadsTo l name k ∧ k ∉ w.locations ∧
      (fs.walkEntry extensions dir w (name, node)).result.visited = w.visited ++ [(k, dir.join name)] ∧
      (fs.walkEntry extensions dir w (name, node)).result.pending =
        (if fs.device.list k = none then [(dir.join name, fs.listing k)] else []) ++ w.pending := by
  rcases walkEntry_cases extensions hwf hdir hentry hresolves w with ⟨k, hk, -, hcases⟩ | ⟨hnone, hresult⟩
  · rcases hcases with ⟨hvisited, hresult⟩ | ⟨hnew, cause, hcause, hresult⟩ | ⟨hnew, hlisted, hresult⟩
    · left
      rw [hresult]
      exact ⟨fun k' hk' => hk.unique hk' ▸ hvisited, rfl, rfl⟩
    · right
      rw [hresult]
      refine ⟨k, hk, hnew, rfl, ?_⟩
      rw [hcause]
      rfl
    · right
      rw [hresult]
      refine ⟨k, hk, hnew, rfl, ?_⟩
      rw [if_pos hlisted]
      rfl
  · left
    rw [hresult]
    refine ⟨fun k hk => absurd hk (hnone k), ?_⟩
    split <;> exact ⟨rfl, rfl⟩

/-- The same for what a listing has in the place of the entry. If not all is told of the entry, it leads nowhere. -/
theorem walkListed_marks (extensions : List String) (hwf : fs.WellFormed) (hdir : fs.stat dir = .ok (l, .directory))
    (hitem : item ∈ fs.listing l)
    (hresolves : ∀ name node k, (name, node) ∈ fs.entries l → fs.LeadsTo l name k →
      ∃ k', fs.locate (dir.join name) = .ok k') (w : Walk) :
    ((∀ name node k, item = .entry name node → fs.LeadsTo l name k → k ∈ w.locations) ∧
      (fs.walkListed extensions dir w item).result.visited = w.visited ∧
      (fs.walkListed extensions dir w item).result.pending = w.pending) ∨
    ∃ name node k, item = .entry name node ∧ fs.LeadsTo l name k ∧ k ∉ w.locations ∧
      (fs.walkListed extensions dir w item).result.visited = w.visited ++ [(k, dir.join name)] ∧
      (fs.walkListed extensions dir w item).result.pending =
        (if fs.device.list k = none then [(dir.join name, fs.listing k)] else []) ++ w.pending := by
  cases item with
  | entry name node =>
    have hentry := mem_entries_of_mem_listing hitem
    rcases walkEntry_marks extensions hwf hdir hentry (hresolves name node · hentry) w with
      ⟨hold, hsame⟩ | ⟨k, hk⟩
    · refine .inl ⟨?_, hsame⟩
      rintro _ _ k ⟨⟩ hk
      exact hold k hk
    · exact .inr ⟨name, node, k, rfl, hk⟩
  | unknown | unread => exact .inl ⟨nofun, rfl, rfl⟩

/-- A walk forgets no directory that it has visited. -/
theorem visited_subset_walkEntry (fs : FileSystem) (extensions : List String) (dir : Path) (w : Walk)
    (entry : String × Node) : w.visited ⊆ (fs.walkEntry extensions dir w entry).result.visited := by
  have hmark (l : Location) (path : Path) : w.visited ⊆ (w.mark l path).visited := List.subset_append_left _ _
  unfold walkEntry
  simp only
  split
  · split
    · split <;> exact List.Subset.refl _
    next l _ =>
      split
      · exact List.Subset.refl _
      · split <;> exact hmark l _
  · split <;> exact List.Subset.refl _

theorem visited_subset_walkListed (fs : FileSystem) (extensions : List String) (dir : Path) (w : Walk)
    (item : Listed) : w.visited ⊆ (fs.walkListed extensions dir w item).result.visited := by
  cases item with
  | entry name node => exact visited_subset_walkEntry fs extensions dir w (name, node)
  | unknown | unread => exact List.Subset.refl _

theorem visited_subset_walkEntries (fs : FileSystem) (extensions : List String) (dir : Path) (w : Walk)
    (es : List Listed) : w.visited ⊆ (fs.walkEntries extensions dir w es).result.visited := by
  induction es generalizing w with
  | nil => exact List.Subset.refl _
  | cons item es ih => exact List.Subset.trans (visited_subset_walkListed fs extensions dir w item) (ih _)

theorem mem_visited_walk {v : Location × Path} (hv : v ∈ w.visited) : v ∈ (fs.walk extensions w).result.visited := by
  fun_induction FileSystem.walk fs extensions w with
  | case1 w h => exact hv
  | case2 w dir entries rest h step last ih =>
    exact ih (visited_subset_walkEntries fs extensions dir { w with pending := rest } entries hv)

/-! ### Walks take direct trails -/

/-- Where the entries of the directory lead was visited. -/
def IsScanned (fs : FileSystem) (w : Walk) (l : Location) : Prop :=
  ∀ e ∈ fs.entries l, ∀ k, fs.LeadsTo l e.1 k → k ∈ w.locations

theorem IsScanned.mono {w' : Walk} (h : fs.IsScanned w l) (hsub : w.visited ⊆ w'.visited) : fs.IsScanned w' l :=
  fun e he k hk => List.map_subset Prod.fst hsub (h e he k hk)

/-- What holds while the entries of a directory are looked at, if any is: each visited directory was met on a direct
trail through visited directories, all scanned but for the current one, and the entries of the pending directories are
all still to be looked at. -/
structure DirectInvariant (fs : FileSystem) (root : Path) (start : Location) (current : Option Location) (w : Walk) :
    Prop where
  trails : ∀ v ∈ w.visited, ∃ before, DirectTrail fs root start v.2 (v.1 :: before) ∧
    ∀ b ∈ before, b ∈ w.locations ∧ (fs.IsScanned w b ∨ current = some b)
  pending : ∀ p ∈ w.pending, ∃ l, (l, p.1) ∈ w.visited ∧ fs.device.list l = none ∧ p.2 = fs.listing l

namespace DirectInvariant

theorem atRoot (hlist : fs.device.list start = none) :
    DirectInvariant fs root start none (.atRoot start root (fs.listing start)) where
  trails := by
    intro v hv
    obtain rfl := List.mem_singleton.1 hv
    exact ⟨[], .root, nofun⟩
  pending := by
    intro p hp
    obtain rfl := List.mem_singleton.1 hp
    exact ⟨start, List.mem_singleton_self _, hlist, rfl⟩

/-- The next directory is entered. -/
theorem enter {rest : List (Path × List Listed)} (I : DirectInvariant fs root start none w)
    (hw : w.pending = (dir, es) :: rest) (l : Location) :
    DirectInvariant fs root start (some l) { w with pending := rest } where
  trails := by
    intro v hv
    obtain ⟨before, htrail, hbefore⟩ := I.trails v hv
    exact ⟨before, htrail, fun b hb => ⟨(hbefore b hb).1, .inl ((hbefore b hb).2.resolve_right nofun)⟩⟩
  pending := fun p hp => I.pending p (by simp [hw, hp])

/-- A directory is left when its entries have been looked at. -/
theorem leave (I : DirectInvariant fs root start (some l) w) (hl : fs.IsScanned w l) :
    DirectInvariant fs root start none w where
  trails := by
    intro v hv
    obtain ⟨before, htrail, hbefore⟩ := I.trails v hv
    refine ⟨before, htrail, fun b hb => ⟨(hbefore b hb).1, .inl ?_⟩⟩
    rcases (hbefore b hb).2 with h | h
    · exact h
    · rwa [← Option.some.inj h]
  pending := I.pending

/-- The trail to a directory that an entry of the current one leads to and that was not visited yet. -/
theorem trail_entry (I : DirectInvariant fs root start (some l) w) (hl : (l, dir) ∈ w.visited)
    (hlist : fs.device.list l = none) (hentry : (name, node) ∈ fs.entries l) (hk : fs.LeadsTo l name k)
    (hnew : k ∉ w.locations) :
    ∃ before, DirectTrail fs root start (dir.join name) (k :: before) ∧
      ∀ b ∈ before, b ∈ w.locations ∧ (fs.IsScanned w b ∨ l = b) := by
  obtain ⟨before, htrail, hbefore⟩ := I.trails (l, dir) hl
  have hvisited : ∀ b ∈ l :: before, b ∈ w.locations :=
    List.forall_mem_cons.2 ⟨List.mem_map_of_mem hl, fun b hb => (hbefore b hb).1⟩
  have hscanned : ∀ b ∈ before, fs.IsScanned w b := by
    intro b hb
    refine (hbefore b hb).2.resolve_right fun h => htrail.not_mem ?_
    rwa [Option.some.inj h]
  refine ⟨l :: before, htrail.entry hlist hentry hk (fun h => hnew (hvisited k h)) ?_, fun b hb => ⟨hvisited b hb, ?_⟩⟩
  · -- from a scanned directory no entry leads to a new one
    exact fun b hb e he h => hnew (hscanned b hb e he k h)
  · rcases List.mem_cons.1 hb with rfl | hb
    · exact .inr rfl
    · exact .inl (hscanned b hb)

variable (hwf : fs.WellFormed) (hroot : fs.stat root = .ok (start, .directory))
  (hresolves : fs.ResolvesTrails root start)

include hwf hroot hresolves

theorem stat_eq {current : Option Location} (I : DirectInvariant fs root start current w)
    (hl : (l, dir) ∈ w.visited) : fs.stat dir = .ok (l, .directory) := by
  obtain ⟨before, htrail, -⟩ := I.trails (l, dir) hl
  exact htrail.trail.stat_eq hwf hroot hresolves

omit hwf hroot in
theorem exists_locate {current : Option Location} (I : DirectInvariant fs root start current w)
    (hl : (l, dir) ∈ w.visited) (hlist : fs.device.list l = none) (hentry : (name, node) ∈ fs.entries l)
    (hk : fs.LeadsTo l name k) : ∃ k', fs.locate (dir.join name) = .ok k' := by
  obtain ⟨before, htrail, -⟩ := I.trails (l, dir) hl
  exact hresolves dir l before name node k htrail.trail hlist hentry hk

/-- Looking at one entry of the current directory keeps the invariant, and where the entry leads was visited then. -/
theorem step (extensions : List String) (I : DirectInvariant fs root start (some l) w) (hl : (l, dir) ∈ w.visited)
    (hlist : fs.device.list l = none) (hitem : item ∈ fs.listing l) :
    DirectInvariant fs root start (some l) (fs.walkListed extensions dir w item).result ∧
      ∀ name node k, item = .entry name node → fs.LeadsTo l name k →
        k ∈ (fs.walkListed extensions dir w item).result.locations := by
  have hsub := visited_subset_walkListed fs extensions dir w item
  have hkeep {b : Location} (h : b ∈ w.locations ∧ (fs.IsScanned w b ∨ some l = some b)) :
      b ∈ (fs.walkListed extensions dir w item).result.locations ∧
        (fs.IsScanned (fs.walkListed extensions dir w item).result b ∨ some l = some b) :=
    ⟨List.map_subset Prod.fst hsub h.1, h.2.imp_left fun h => h.mono hsub⟩
  rcases walkListed_marks extensions hwf (I.stat_eq hwf hroot hresolves hl) hitem
    (fun _ _ _ hentry => I.exists_locate hresolves hl hlist hentry) w with
    ⟨hold, hvisited, hpending⟩ | ⟨name, node, k, rfl, hk, hnew, hvisited, hpending⟩
  · refine ⟨⟨fun v hv => ?_, fun p hp => ?_⟩, fun name node k heq hk => ?_⟩
    · rw [hvisited] at hv
      obtain ⟨before, htrail, hbefore⟩ := I.trails v hv
      exact ⟨before, htrail, fun b hb => hkeep (hbefore b hb)⟩
    · rw [hpending] at hp
      obtain ⟨l', hl', hp'⟩ := I.pending p hp
      exact ⟨l', hsub hl', hp'⟩
    · exact List.map_subset Prod.fst hsub (hold name node k heq hk)
  · have hmarked : (k, dir.join name) ∈ (fs.walkListed extensions dir w (.entry name node)).result.visited := by
      rw [hvisited]
      exact List.mem_append_right _ (List.mem_singleton_self _)
    refine ⟨⟨fun v hv => ?_, fun p hp => ?_⟩, ?_⟩
    · rw [hvisited] at hv
      rcases List.mem_append.1 hv with hv | hv
      · obtain ⟨before, htrail, hbefore⟩ := I.trails v hv
        exact ⟨before, htrail, fun b hb => hkeep (hbefore b hb)⟩
      · obtain rfl := List.mem_singleton.1 hv
        obtain ⟨before, htrail, hbefore⟩ := I.trail_entry hl hlist (mem_entries_of_mem_listing hitem) hk hnew
        exact ⟨before, htrail, fun b hb => hkeep ((hbefore b hb).imp_right (Or.imp_right (congrArg some)))⟩
    · rw [hpending] at hp
      rcases List.mem_append.1 hp with hp | hp
      · split at hp
        next hlisted =>
          obtain rfl := List.mem_singleton.1 hp
          exact ⟨k, hmarked, hlisted, rfl⟩
        · cases hp
      · obtain ⟨l', hl', hp'⟩ := I.pending p hp
        exact ⟨l', hsub hl', hp'⟩
    · rintro _ _ k' ⟨⟩ hk'
      exact hk.unique hk' ▸ List.mem_map_of_mem hmarked

/-- Looking at entries of the current directory keeps the invariant, and where they lead was visited then. -/
theorem entries (extensions : List String) (I : DirectInvariant fs root start (some l) w) (hl : (l, dir) ∈ w.visited)
    (hlist : fs.device.list l = none) (hes : es ⊆ fs.listing l) :
    DirectInvariant fs root start (some l) (fs.walkEntries extensions dir w es).result ∧
      ∀ name node k, .entry name node ∈ es → fs.LeadsTo l name k →
        k ∈ (fs.walkEntries extensions dir w es).result.locations := by
  induction es generalizing w with
  | nil => exact ⟨I, nofun⟩
  | cons item es ih =>
    obtain ⟨I', hmarked⟩ := I.step hwf hroot hresolves extensions hl hlist (hes List.mem_cons_self)
    obtain ⟨I'', hrest⟩ := ih I' (visited_subset_walkListed fs extensions dir w item hl)
      fun x hx => hes (List.mem_cons_of_mem item hx)
    refine ⟨I'', fun name node k hmem hk => ?_⟩
    rcases List.mem_cons.1 hmem with heq | hmem
    · exact List.map_subset Prod.fst (visited_subset_walkEntries fs extensions dir _ es)
        (hmarked name node k heq.symm hk)
    · exact hrest name node k hmem hk

/-- A walk keeps the invariant: between two directories all that it has left are scanned. -/
theorem walk (extensions : List String) (I : DirectInvariant fs root start none w) :
    DirectInvariant fs root start none (fs.walk extensions w).result := by
  fun_induction FileSystem.walk fs extensions w with
  | case1 w h => exact I
  | case2 w dir entries rest h step last ih =>
    obtain ⟨l, hl, hlist, rfl⟩ := I.pending (dir, entries) (by simp [h])
    obtain ⟨I', hscanned⟩ := (I.enter h l).entries hwf hroot hresolves extensions hl hlist
      (List.Subset.refl _)
    exact ih (I'.leave fun e he k => hscanned e.1 e.2 k (mem_listing he))

end DirectInvariant

end FirmwareSymbols.FileSystem
