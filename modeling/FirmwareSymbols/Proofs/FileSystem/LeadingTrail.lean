import FirmwareSymbols.Proofs.FileSystem.DirectTrail

/-!
# Trails that the listings lead along

Every direct trail is the one that a walk takes if the directories on it list their entries in a suitable order: first
those that lead elsewhere, then the one that the trail follows, and then others that lead to the same directory. For
the walk then meets the next directory of the trail by the right entry, and goes on there before anywhere else
(`LeadingTrail.exists_comesTo`). The orders are found one directory after another (`DirectTrail.exists_leadingTrail`),
so each direct trail is taken in some order (`DirectTrail.exists_walk`).
-/

namespace FirmwareSymbols.FileSystem

variable {fs fs' : FileSystem} {extensions : List String} {root dir : Path} {start l k : Location} {name : String}
  {node : Node} {before path : List Location} {w : Walk} {item : Listed} {es : List Listed}
  {first last : List (String × Node)}

/-- A direct trail along which the listings lead. -/
inductive LeadingTrail (fs : FileSystem) (root : Path) (start : Location) : Path → List Location → Prop
  | root : LeadingTrail fs root start root [start]
  | entry {dir : Path} {l k : Location} {before : List Location} {name : String} {node : Node}
      {first last : List (String × Node)} :
      LeadingTrail fs root start dir (l :: before) → fs.device.list l = none →
      fs.entries l = first ++ (name, node) :: last → (∀ e ∈ first, ¬ fs.LeadsTo l e.1 k) → fs.LeadsTo l name k →
      (∀ e ∈ last, fs.LeadsTo l e.1 k) → k ∉ l :: before →
      (∀ b ∈ before, ∀ e ∈ fs.entries b, ¬ fs.LeadsTo b e.1 k) →
      LeadingTrail fs root start (dir.join name) (k :: l :: before)

theorem LeadingTrail.directTrail (h : LeadingTrail fs root start dir path) : DirectTrail fs root start dir path := by
  induction h with
  | root => exact .root
  | @entry dir l k before name node first last _ hlist hentries _ hleads _ hnew hdirect ih =>
    have hentry : (name, node) ∈ fs.entries l := by
      rw [hentries]
      exact List.mem_append_right _ List.mem_cons_self
    exact .entry ih hlist hentry hleads hnew hdirect

/-- Other directories than those that the trail leaves may change their order. -/
theorem LeadingTrail.relist (h : LeadingTrail fs root start dir path) (hsame : fs.SameFiles fs') (hwf : fs.WellFormed)
    (hkeep : ∀ b ∈ path.tail, fs'.entries b = fs.entries b) : LeadingTrail fs' root start dir path := by
  induction h with
  | root => exact .root
  | entry _ hlist hentries hfirst hleads hlast hnew hdirect ih =>
    have hbefore := ih fun b hb => hkeep b (List.mem_of_mem_tail hb)
    refine .entry hbefore ((hsame.list_eq _).trans hlist) ((hkeep _ List.mem_cons_self).trans hentries) ?_
      ((hsame.leadsTo_iff hwf).2 hleads) ?_ hnew ?_
    · exact fun e he hk => hfirst e he ((hsame.leadsTo_iff hwf).1 hk)
    · exact fun e he => (hsame.leadsTo_iff hwf).2 (hlast e he)
    · exact fun b hb e he hk => hdirect b hb e (hsame.mem_entries_iff.1 he) ((hsame.leadsTo_iff hwf).1 hk)

open scoped Classical in
/-- The entries of a directory in an order in which those that lead to `k` come last, and a given one of them first. -/
theorem exists_perm_of_leadsTo (hentry : (name, node) ∈ fs.entries l) (hleads : fs.LeadsTo l name k) :
    ∃ first last, (first ++ (name, node) :: last).Perm (fs.entries l) ∧ (∀ e ∈ first, ¬ fs.LeadsTo l e.1 k) ∧
      ∀ e ∈ last, fs.LeadsTo l e.1 k := by
  let leads (e : String × Node) : Bool := decide (fs.LeadsTo l e.1 k)
  have hmem : (name, node) ∈ (fs.entries l).filter leads := List.mem_filter.2 ⟨hentry, decide_eq_true hleads⟩
  obtain ⟨s, t, hsplit⟩ := List.append_of_mem hmem
  refine ⟨(fs.entries l).filter fun e => !leads e, s ++ t, ?_, fun e he => ?_, fun e he => ?_⟩
  · have hlast : ((name, node) :: (s ++ t)).Perm ((fs.entries l).filter leads) := by
      rw [hsplit]
      exact List.perm_middle.symm
    refine (hlast.append_left _).trans ?_
    exact List.perm_append_comm.trans (List.filter_append_perm leads (fs.entries l))
  · have hnot := (List.mem_filter.1 he).2
    simpa [leads] using hnot
  · have he' : e ∈ (fs.entries l).filter leads := by
      rw [hsplit]
      rcases List.mem_append.1 he with h | h
      · exact List.mem_append_left _ h
      · exact List.mem_append_right _ (List.mem_cons_of_mem _ h)
    exact of_decide_eq_true (List.mem_filter.1 he').2

/-- For every direct trail there are listings that lead along it. -/
theorem DirectTrail.exists_leadingTrail (hwf : fs.WellFormed) (h : DirectTrail fs root start dir path) :
    ∃ fs', fs.SameFiles fs' ∧ LeadingTrail fs' root start dir path := by
  induction h with
  | root => exact ⟨fs, .refl fs, .root⟩
  | @entry dir l k before name node hbefore hlist hentry hleads hnew hdirect ih =>
    obtain ⟨fs₁, hsame₁, htrail⟩ := ih
    have hwf₁ := hsame₁.wellFormed hwf
    obtain ⟨first, last, hperm, hfirst, hlast⟩ :=
      exists_perm_of_leadsTo (hsame₁.mem_entries_iff.2 hentry) ((hsame₁.leadsTo_iff hwf).2 hleads)
    -- only the last directory is listed anew, and no trail comes back to it
    obtain ⟨fs₂, hsame₂, hlisted, hothers⟩ := exists_sameFiles_of_perm hperm
    have hkeep : ∀ b ∈ before, fs₂.entries b = fs₁.entries b := by
      intro b hb
      refine hothers b ?_
      rintro rfl
      exact hbefore.not_mem hb
    have hsame := hsame₁.trans hsame₂
    refine ⟨fs₂, hsame, .entry (htrail.relist hsame₂ hwf₁ hkeep) ((hsame.list_eq l).trans hlist) hlisted ?_
      ((hsame.leadsTo_iff hwf).2 hleads) ?_ hnew ?_⟩
    · exact fun e he hk => hfirst e he ((hsame₂.leadsTo_iff hwf₁).1 hk)
    · exact fun e he => (hsame₂.leadsTo_iff hwf₁).2 (hlast e he)
    · exact fun b hb e he hk => hdirect b hb e (hsame.mem_entries_iff.1 he) ((hsame.leadsTo_iff hwf).1 hk)

/-! ### A walk along a trail -/

theorem walkEntries_append (fs : FileSystem) (extensions : List String) (dir : Path) (w : Walk)
    (es more : List Listed) : (fs.walkEntries extensions dir w (es ++ more)).result =
      (fs.walkEntries extensions dir (fs.walkEntries extensions dir w es).result more).result := by
  induction es generalizing w with
  | nil => rfl
  | cons e es ih => exact ih _

/-- The directory that was entered last is finished first. -/
theorem walk_of_pending {rest : List (Path × List Listed)} (hw : w.pending = (dir, es) :: rest) :
    (fs.walk extensions w).result =
      (fs.walk extensions (fs.walkEntries extensions dir { w with pending := rest } es).result).result := by
  fun_cases FileSystem.walk fs extensions w with
  | case1 h => exact nomatch hw.symm.trans h
  | case2 dir' es' rest' h step last =>
    obtain ⟨heq, rfl⟩ := List.cons.inj (hw.symm.trans h)
    obtain ⟨rfl, rfl⟩ := Prod.mk.inj heq
    rfl

theorem walk_of_pending_nil (hw : w.pending = []) : (fs.walk extensions w).result = w := by
  fun_cases FileSystem.walk fs extensions w with
  | case1 h => rfl
  | case2 dir' es' rest' h step last => exact nomatch hw.symm.trans h

/-- A listing is split where its entries are. -/
private theorem exists_split_of_entries (h : fs.entries l = first ++ (name, node) :: last) :
    ∃ before after, fs.listing l = before ++ .entry name node :: after ∧ before.filterMap Listed.told? = first ∧
      after.filterMap Listed.told? = last := by
  obtain ⟨before, rest, hlisting, hbefore, hrest⟩ := List.filterMap_eq_append_iff.1 h
  obtain ⟨skipped, item, after, rfl, hskipped, htold, hafter⟩ := List.filterMap_eq_cons_iff.1 hrest
  obtain rfl := Listed.told?_eq_some_iff.1 htold
  have hnone : skipped.filterMap Listed.told? = [] := List.filterMap_eq_nil_iff.2 hskipped
  refine ⟨before ++ skipped, after, ?_, ?_, hafter⟩
  · rw [hlisting, List.append_assoc]
  · rw [List.filterMap_append, hbefore, hnone, List.append_nil]

section Entries

variable (hwf : fs.WellFormed) (hdir : fs.stat dir = .ok (l, .directory))
  (hlocate : ∀ name node k, (name, node) ∈ fs.entries l → fs.LeadsTo l name k →
    ∃ k', fs.locate (dir.join name) = .ok k')

include hwf hdir hlocate

/-- An entry that leads to a new directory enters it, if it can be listed. -/
theorem walkListed_of_leadsTo (extensions : List String) (hitem : .entry name node ∈ fs.listing l)
    (hleads : fs.LeadsTo l name k) (hk : k ∉ w.locations) (hlist : fs.device.list k = none) :
    (fs.walkListed extensions dir w (.entry name node)).result.visited = w.visited ++ [(k, dir.join name)] ∧
      (fs.walkListed extensions dir w (.entry name node)).result.pending =
        (dir.join name, fs.listing k) :: w.pending := by
  rcases walkListed_marks extensions hwf hdir hitem hlocate w with
    ⟨hold, -, -⟩ | ⟨_, _, k', ⟨⟩, hk', -, hvisited, hpending⟩
  · exact absurd (hold name node k rfl hleads) hk
  · obtain rfl := hk'.unique hleads
    rw [if_pos hlist] at hpending
    exact ⟨hvisited, hpending⟩

/-- What is new after some entries is where one of them leads. -/
theorem mem_locations_walkEntries {j : Location} (hes : es ⊆ fs.listing l)
    (hj : j ∈ (fs.walkEntries extensions dir w es).result.locations) :
    j ∈ w.locations ∨ ∃ e ∈ es.filterMap Listed.told?, fs.LeadsTo l e.1 j := by
  induction es generalizing w with
  | nil => exact .inl hj
  | cons item es ih =>
    rcases ih (fun x hx => hes (List.mem_cons_of_mem item hx)) hj with h | ⟨e', he', h⟩
    · rcases walkListed_marks extensions hwf hdir (hes List.mem_cons_self) hlocate w with
        ⟨-, hvisited, -⟩ | ⟨name, node, k, rfl, hk, -, hvisited, -⟩
      · left
        rwa [Walk.locations, hvisited] at h
      · rw [Walk.locations, hvisited, List.map_append, List.mem_append, List.map_singleton, List.mem_singleton] at h
        rcases h with h | rfl
        · exact .inl h
        · exact .inr ⟨(name, node), List.mem_filterMap.2 ⟨_, List.mem_cons_self, rfl⟩, hk⟩
    · obtain ⟨item', hitem', htold⟩ := List.mem_filterMap.1 he'
      exact .inr ⟨e', List.mem_filterMap.2 ⟨item', List.mem_cons_of_mem item hitem', htold⟩, h⟩

/-- Entries that lead to a visited directory change neither what was visited nor what is pending. -/
theorem walkEntries_of_mem_locations (extensions : List String) (hes : es ⊆ fs.listing l) (hk : k ∈ w.locations)
    (hleads : ∀ e ∈ es.filterMap Listed.told?, fs.LeadsTo l e.1 k) :
    (fs.walkEntries extensions dir w es).result.visited = w.visited ∧
      (fs.walkEntries extensions dir w es).result.pending = w.pending := by
  induction es generalizing w with
  | nil => exact ⟨rfl, rfl⟩
  | cons item es ih =>
    rcases walkListed_marks extensions hwf hdir (hes List.mem_cons_self) hlocate w with
      ⟨-, hvisited, hpending⟩ | ⟨name, node, k', rfl, hk', hnew, -, -⟩
    · have hk' : k ∈ (fs.walkListed extensions dir w item).result.locations := by rwa [Walk.locations, hvisited]
      have hrest : ∀ e ∈ es.filterMap Listed.told?, fs.LeadsTo l e.1 k := by
        intro e he
        obtain ⟨item', hitem', htold⟩ := List.mem_filterMap.1 he
        exact hleads e (List.mem_filterMap.2 ⟨item', List.mem_cons_of_mem item hitem', htold⟩)
      obtain ⟨hvisited', hpending'⟩ := ih (fun x hx => hes (List.mem_cons_of_mem item hx)) hk' hrest
      exact ⟨hvisited'.trans hvisited, hpending'.trans hpending⟩
    · have hk'' := hleads (name, node) (List.mem_filterMap.2 ⟨_, List.mem_cons_self, rfl⟩)
      exact absurd (hk''.unique hk' ▸ hk) hnew

/-- In the order that leads along a trail the walk meets the next directory by the right entry and enters it. -/
theorem walkEntries_of_leading (extensions : List String) (hentries : fs.entries l = first ++ (name, node) :: last)
    (hfirst : ∀ e ∈ first, ¬ fs.LeadsTo l e.1 k) (hleads : fs.LeadsTo l name k)
    (hlast : ∀ e ∈ last, fs.LeadsTo l e.1 k) (hk : k ∉ w.locations) (hlist : fs.device.list k = none) :
    ∃ rest, (fs.walkEntries extensions dir w (fs.listing l)).result.pending =
        (dir.join name, fs.listing k) :: rest ∧
      (k, dir.join name) ∈ (fs.walkEntries extensions dir w (fs.listing l)).result.visited := by
  obtain ⟨before, after, hlisting, rfl, rfl⟩ := exists_split_of_entries hentries
  have hitem : .entry name node ∈ fs.listing l := by
    rw [hlisting]
    exact List.mem_append_right _ List.mem_cons_self
  have hsub : before ⊆ fs.listing l ∧ after ⊆ fs.listing l := by
    rw [hlisting]
    exact ⟨List.subset_append_left _ _, fun e he => List.mem_append_right _ (List.mem_cons_of_mem _ he)⟩
  -- the entries before the right one lead elsewhere
  have hnot : k ∉ (fs.walkEntries extensions dir w before).result.locations := by
    intro h
    rcases mem_locations_walkEntries hwf hdir hlocate hsub.1 h with h | ⟨e, he, h⟩
    · exact hk h
    · exact hfirst e he h
  obtain ⟨hvisited, hpending⟩ := walkListed_of_leadsTo hwf hdir hlocate extensions hitem hleads hnot hlist
  have hmem : (k, dir.join name) ∈ (fs.walkListed extensions dir (fs.walkEntries extensions dir w before).result
      (.entry name node)).result.visited := by
    rw [hvisited]
    exact List.mem_append_right _ (List.mem_singleton_self _)
  -- those after it lead to the same directory
  obtain ⟨hvisited', hpending'⟩ := walkEntries_of_mem_locations hwf hdir hlocate extensions hsub.2
    (List.mem_map_of_mem hmem) hlast
  rw [hlisting, walkEntries_append]
  refine ⟨_, hpending'.trans hpending, ?_⟩
  show _ ∈ (fs.walkEntries extensions dir _ after).result.visited
  rwa [hvisited']

end Entries

/-- The state of the walk from the root when it comes to a directory by this path: it has visited only directories on
the trail and those where entries of the earlier ones lead. -/
structure ComesTo (fs : FileSystem) (extensions : List String) (root : Path) (start : Location) (dir : Path)
    (l : Location) (before : List Location) (w : Walk) : Prop where
  result : (fs.walk extensions w).result = fs.finishedWalk extensions root start
  pending : ∃ rest, w.pending = (dir, fs.listing l) :: rest
  visited : (l, dir) ∈ w.visited
  locations : ∀ j ∈ w.locations, j ∈ l :: before ∨ ∃ b ∈ before, ∃ e ∈ fs.entries b, fs.LeadsTo b e.1 j

variable (hwf : fs.WellFormed) (hroot : fs.stat root = .ok (start, .directory))
  (hresolves : fs.ResolvesTrails root start)

include hwf hroot hresolves

/-- The walk goes along the trail that the listings lead along. -/
theorem LeadingTrail.exists_comesTo (extensions : List String) (h : LeadingTrail fs root start dir (l :: before))
    (hlist : fs.device.list l = none) : ∃ w, fs.ComesTo extensions root start dir l before w := by
  generalize hpath : l :: before = path at h
  induction h generalizing l before with
  | root =>
    obtain ⟨rfl, rfl⟩ := List.cons.inj hpath
    exact ⟨.atRoot l root (fs.listing l), rfl, ⟨[], rfl⟩, List.mem_singleton_self _, fun j hj => .inl hj⟩
  | @entry dir a k before name node first last htrail hlisted hentries hfirst hleads hlast hnew hdirect ih =>
    obtain ⟨rfl, rfl⟩ := List.cons.inj hpath
    obtain ⟨w, hresult, ⟨rest, hpending⟩, hvisited, hlocations⟩ := ih hlisted rfl
    have ht : Trail fs root start dir (a :: before) := htrail.directTrail.trail
    have hdir : fs.stat dir = .ok (a, .directory) := ht.stat_eq hwf hroot hresolves
    have hlocate := fun name node k hentry hk => hresolves dir a before name node k ht hlisted hentry hk
    -- a direct trail goes on to a directory where no entry of an earlier one leads
    have hl : l ∉ w.locations := by
      intro h
      rcases hlocations l h with h | ⟨b, hb, e, he, h⟩
      · exact hnew h
      · exact hdirect b hb e he h
    obtain ⟨rest', hpending', hvisited'⟩ := walkEntries_of_leading (w := { w with pending := rest }) hwf hdir hlocate
      extensions hentries hfirst hleads hlast hl hlist
    refine ⟨_, ?_, ⟨rest', hpending'⟩, hvisited', fun j hj => ?_⟩
    · rw [← walk_of_pending hpending, hresult]
    · rcases mem_locations_walkEntries hwf hdir hlocate (List.Subset.refl _) hj with h | ⟨e, he, h⟩
      · rcases hlocations j h with h | ⟨b, hb, h⟩
        · exact .inl (List.mem_cons_of_mem l h)
        · exact .inr ⟨b, List.mem_cons_of_mem a hb, h⟩
      · exact .inr ⟨a, List.mem_cons_self, e, he, h⟩

/-- Every direct trail is taken by the walk of some order of the listings. -/
theorem DirectTrail.exists_walk (extensions : List String) (h : DirectTrail fs root start dir (l :: before))
    (hlist : fs.device.list l = none) : ∃ fs', fs.SameFiles fs' ∧
      (l, dir) ∈ (fs'.finishedWalk extensions root start).visited := by
  obtain ⟨fs', hsame, htrail⟩ := h.exists_leadingTrail hwf
  have hwf' := hsame.wellFormed hwf
  have hroot' : fs'.stat root = .ok (start, .directory) := (hsame.within hwf).stat_eq hroot
  obtain ⟨w, hw⟩ := htrail.exists_comesTo hwf' hroot' (hsame.resolvesTrails hwf hresolves) extensions
    ((hsame.list_eq l).trans hlist)
  refine ⟨fs', hsame, ?_⟩
  rw [← hw.result]
  exact mem_visited_walk hw.visited

end FirmwareSymbols.FileSystem
