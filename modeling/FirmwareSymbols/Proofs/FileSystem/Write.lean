import FirmwareSymbols.Proofs.FileSystem.Node

/-!
# Writing is all or nothing

A path names an entry of a directory, whether there is one or not (`Names`). A write that is refused at no step puts a
regular file in the place of this entry (`IsDestination`, `writeAtomic_of_isDestination`), and a write that is refused
at any step leaves the file system as it was (`writeAtomic_of_not_isDestination`): the temporary file is the only node
that is added on the way, its name is fresh (`node?_freshName`), and it is removed again.
-/

namespace FirmwareSymbols.FileSystem

variable {fs larger : FileSystem} {l k d dir file : Location} {n node : Node} {p q : Path} {name : String}
  {todo : List String} {data : ByteArray}

/-! ### The entry that a path names -/

/-- The location of the entry that a path names, a link in the last place not followed. There need not be a node. -/
def Names (fs : FileSystem) (p : Path) (l : Location) : Prop :=
  ∃ dir name, fs.place p = .ok (dir, name) ∧ l = dir ++ [name]

theorem Names.unique (hl : fs.Names p l) (hk : fs.Names p k) : l = k := by
  obtain ⟨dir, name, hplace, rfl⟩ := hl
  obtain ⟨dir', name', hplace', rfl⟩ := hk
  obtain ⟨rfl, rfl⟩ := Prod.mk.inj (Except.ok.inj (hplace.symm.trans hplace'))
  rfl

theorem Names.ne_nil (h : fs.Names p l) : l ≠ [] := by
  obtain ⟨dir, name, -, rfl⟩ := h
  simp

/-- The steps of a path but for the last one lead to a directory, and the last one asks for an entry of it. -/
theorem place_eq_ok_iff : fs.place p = .ok (dir, name) ↔
    (p.hasNul = false ∧ p.text ≠ "" ∧ p.text.utf8ByteSize ≤ maxPathBytes) ∧
      ∃ todo, splitLast p = (todo, some name) ∧ fs.follow true maxLinks (start p fs.working) todo = .ok dir ∧
        fs.node? dir = some .directory ∧ IsStep name := by
  unfold place
  by_cases hnul : p.hasNul = true
  · simp [hnul]
  by_cases hne : p.text = ""
  · simp [hnul, hne]
  by_cases hshort : maxPathBytes < p.text.utf8ByteSize
  · simp [hnul, hne, hshort, Nat.not_le.2 hshort]
  have hadmissible : p.hasNul = false ∧ p.text ≠ "" ∧ p.text.utf8ByteSize ≤ maxPathBytes :=
    ⟨by simpa using hnul, hne, Nat.not_lt.1 hshort⟩
  rw [if_neg hnul, if_neg hne, if_neg hshort, and_iff_right hadmissible]
  rcases splitLast p with ⟨todo, _ | last⟩
  · simp
  constructor
  · intro h
    cases hfollow : fs.follow true maxLinks (start p fs.working) todo with
    | error cause => simp [hfollow, bind, Except.bind] at h
    | ok k =>
      simp only [hfollow, bind, Except.bind] at h
      split at h
      next hk =>
        split at h
        · cases h
        next hdots =>
          split at h
          · cases h
          next hlong =>
            obtain ⟨rfl, rfl⟩ := Prod.mk.inj (Except.ok.inj h)
            simp only [Bool.or_eq_true, decide_eq_true_eq, not_or] at hdots
            exact ⟨todo, rfl, hfollow, hk, hdots.1, hdots.2, hlong⟩
      · cases h
      · cases h
  · rintro ⟨_, heq, hfollow, hk, hdot, hdots, hlong⟩
    obtain ⟨rfl, hlast⟩ := Prod.mk.inj heq
    obtain rfl := Option.some.inj hlast
    simp [hfollow, hk, hdot, hdots, hlong, bind, Except.bind]

/-- The entry that a path names is the same among more nodes. -/
theorem Within.place_eq (h : Within fs larger) (hplace : fs.place p = .ok (dir, name)) :
    larger.place p = .ok (dir, name) := by
  obtain ⟨hadmissible, todo, hsplit, hfollow, hdir, hstep⟩ := place_eq_ok_iff.1 hplace
  refine place_eq_ok_iff.2 ⟨hadmissible, todo, hsplit, ?_, h.node _ _ hdir, hstep⟩
  rw [h.working]
  exact h.follow_eq hfollow

/-- A path names the same entry without a node that is neither a directory nor a link. -/
theorem place_remove (hdir : fs.node? d ≠ some .directory) (hlink : ∀ target, fs.node? d ≠ some (.link target))
    (hplace : fs.place p = .ok (dir, name)) : (fs.remove d).place p = .ok (dir, name) := by
  obtain ⟨hadmissible, todo, hsplit, hfollow, hnode, hstep⟩ := place_eq_ok_iff.1 hplace
  have hne : dir ≠ d := by
    rintro rfl
    exact hdir hnode
  have hd : d ≠ [] := by
    rintro rfl
    exact hdir rfl
  refine place_eq_ok_iff.2 ⟨hadmissible, todo, hsplit, follow_remove hdir hlink hfollow hne, ?_, hstep⟩
  rw [node?_remove hd, if_neg hne, hnode]

/-- A file that was put somewhere leads no path to another entry than before. -/
theorem Names.of_set {content : ByteArray} {executable : Bool} (hl : l ≠ [])
    (h : (fs.set l (.file content executable)).Names p k) : fs.Names p k := by
  obtain ⟨dir, name, hplace, rfl⟩ := h
  have hnode : (fs.set l (.file content executable)).node? l = some (.file content executable) := node?_set_self hl
  have hremove := place_remove (d := l) (by simp [hnode]) (by simp [hnode]) hplace
  rw [remove_set] at hremove
  exact ⟨dir, name, (within_of_remove hl fs).place_eq hremove, rfl⟩

/-- In the place of what is neither a directory nor a link a file is in the way of no path. -/
theorem Names.set {content : ByteArray} {executable : Bool} (hdir : fs.node? l ≠ some .directory)
    (hlink : ∀ target, fs.node? l ≠ some (.link target)) (h : fs.Names p k) :
    (fs.set l (.file content executable)).Names p k := by
  obtain ⟨dir, name, hplace, rfl⟩ := h
  have hl : l ≠ [] := by
    rintro rfl
    exact hdir rfl
  exact ⟨dir, name, (within_set_of_remove hl fs _).place_eq (place_remove hdir hlink hplace), rfl⟩

/-- A path that does not ask for a directory ends with the step to the entry that it names. -/
private theorem steps_eq_of_splitLast (hsplit : splitLast p = (todo, some name)) (hslash : endsWithSlash p = false) :
    steps p = todo ++ [name] := by
  obtain ⟨hinit, hlast⟩ := Prod.mk.inj hsplit
  obtain ⟨before, hparts⟩ := List.getLast?_eq_some_iff.1 hlast
  rw [hparts, List.dropLast_concat] at hinit
  have hnoslash : ¬ p.text.toList.getLast? = some '/' := by simpa [endsWithSlash] using hslash
  simp only [steps, if_neg hnoslash, hparts, hinit]

/-- What stands at the entry that a path names is found by the path, unless it is a link. -/
theorem stat_of_place (hplace : fs.place p = .ok (dir, name)) (hslash : endsWithSlash p = false)
    (hnode : fs.node? (dir ++ [name]) = some node) (hlink : ∀ target, node ≠ .link target) :
    fs.stat p = .ok (dir ++ [name], node) := by
  obtain ⟨⟨hnul, hne, hshort⟩, todo, hsplit, hfollow, hdir, hstep⟩ := place_eq_ok_iff.1 hplace
  have hsteps := steps_eq_of_splitLast hsplit hslash
  obtain ⟨left, -, hmore⟩ := follow_append hfollow
  refine stat_eq_ok_iff.2 ⟨?_, hnode⟩
  rw [locate_eq_follow hnul hne hshort, hsteps, hmore true [name] (by simp), follow_entry hdir hstep hnode hlink,
    follow]

/-- Where a path names an entry in one file system it does in each in which it leads somewhere. -/
theorem Names.of_stat {other : FileSystem} {found : Location × Node} (h : fs.Names p l)
    (hslash : endsWithSlash p = false) (hstat : other.stat p = .ok found) : ∃ k, other.Names p k := by
  obtain ⟨dir, name, hplace, rfl⟩ := h
  obtain ⟨hadmissible, todo, hsplit, -, -, hstep⟩ := place_eq_ok_iff.1 hplace
  have hfollow := follow_of_locate (stat_eq_ok_iff.1 hstat).1
  rw [steps_eq_of_splitLast hsplit hslash] at hfollow
  obtain ⟨k, hk⟩ := exists_follow_of_append hfollow
  obtain ⟨left, -, hmore⟩ := follow_append hk
  rw [hmore true [name] (by simp)] at hfollow
  have hdir := node?_of_follow_cons hfollow
  exact ⟨k ++ [name], k, name, place_eq_ok_iff.2 ⟨hadmissible, todo, hsplit, hk, hdir, hstep⟩, rfl⟩

/-! ### The temporary file -/

private theorem length_le_of_mem {children : List (String × Node)} (h : (name, node) ∈ children) :
    name.length ≤ children.foldr (fun e n => e.1.length + n) 0 := by
  induction children with
  | nil => cases h
  | cons e children ih =>
    rw [List.foldr_cons]
    rcases List.mem_cons.1 h with rfl | hmem
    · exact Nat.le_add_right _ _
    · have := ih hmem
      omega

theorem mem_children_of_node? (h : fs.node? (l ++ [name]) = some node) : (name, node) ∈ fs.children l := by
  rw [node?, if_neg (by simp)] at h
  obtain ⟨before, after, hnodes, -⟩ := List.lookup_eq_some_iff.1 h
  refine List.mem_filterMap.2 ⟨(l ++ [name], node), by simp [hnodes], ?_⟩
  simp [nameIn?]

/-- The name of the temporary file is longer than all names in the directory. -/
theorem node?_freshName (fs : FileSystem) (l : Location) : fs.node? (l ++ [fs.freshName l]) = none := by
  cases hnode : fs.node? (l ++ [fs.freshName l]) with
  | none => rfl
  | some node =>
    have hle := length_le_of_mem (mem_children_of_node? hnode)
    have hprefix : temporaryPrefix.toList.length = 4 := by decide
    have hname : fs.freshName l = String.ofList (temporaryPrefix.toList ++
      List.replicate ((fs.children l).foldr (fun e n => e.1.length + n) 0) 'x') := rfl
    rw [hname, String.length_ofList, List.length_append, List.length_replicate, hprefix] at hle
    omega

/-- A temporary file is an empty file in a directory, at a location where nothing was. -/
theorem createTemporary_eq_ok_iff {created : FileSystem} : fs.createTemporary p = .ok (l, name, created) ↔
    fs.isTemporaryTooLong p = false ∧ fs.device.create = none ∧ fs.stat p = .ok (l, .directory) ∧
      name = fs.freshName l ∧ created = fs.set (l ++ [name]) (.file .empty false) := by
  unfold createTemporary
  by_cases hlong : fs.isTemporaryTooLong p = true
  · simp [hlong, bind, Except.bind, throw, throwThe, MonadExceptOf.throw]
  rw [if_neg hlong, and_iff_right (by simpa using hlong)]
  cases hstat : fs.stat p with
  | error cause => simp [bind, Except.bind]
  | ok found =>
    obtain ⟨k, node⟩ := found
    cases node with
    | directory =>
      cases hcreate : fs.device.create with
      | some cause => simp [bind, Except.bind]
      | none =>
        simp only [bind, Except.bind, Except.ok.injEq, Prod.mk.injEq, true_and, and_true]
        constructor <;> rintro ⟨rfl, rfl, rfl⟩ <;> exact ⟨rfl, rfl, rfl⟩
    | file | link | null | sealed => simp [bind, Except.bind]

/-! ### All or nothing -/

/-- A file is moved to the entry that a path names, unless that is a directory or the path asks for one. -/
theorem rename_eq_ok_iff {after : FileSystem} : fs.rename file p = .ok after ↔
    endsWithSlash p = false ∧ fs.device.rename = none ∧ ∃ l n, fs.Names p l ∧ fs.node? l ≠ some .directory ∧
      fs.node? file = some n ∧ after = (fs.remove file).set l n := by
  unfold rename
  constructor
  · intro h
    cases hplace : fs.place p with
    | error cause => simp [hplace, bind, Except.bind] at h
    | ok found =>
      obtain ⟨dir, name⟩ := found
      simp only [hplace, bind, Except.bind] at h
      split at h
      · cases h
      next hslash =>
        split at h
        · cases h
        · cases h
        next n hfile hrename hdir =>
          exact ⟨by simpa using hslash, hrename, dir ++ [name], n, ⟨dir, name, hplace, rfl⟩, hdir, hfile,
            (Except.ok.inj h).symm⟩
        · cases h
  · rintro ⟨hslash, hrename, _, n, ⟨dir, name, hplace, rfl⟩, hdir, hfile, rfl⟩
    simp only [hplace, bind, Except.bind, hslash, hfile, hrename]
    cases hnode : fs.node? (dir ++ [name]) with
    | none => rfl
    | some node =>
      cases node with
      | directory => exact absurd hnode hdir
      | file | link | null | sealed => rfl

/-- No step of a write to the path is refused, and the file is put at `l`. -/
structure IsDestination (fs : FileSystem) (p : Path) (l : Location) : Prop where
  names : fs.Names p l
  asks_file : endsWithSlash p = false
  no_directory : fs.node? l ≠ some .directory
  in_directory : ∃ dir, fs.stat (directoryOf p) = .ok (dir, .directory)
  short : fs.isTemporaryTooLong (directoryOf p) = false
  create : fs.device.create = none
  write : fs.device.write = none
  rename : fs.device.rename = none

/-- A name in the working directory can be written to, unless a directory has it. -/
theorem isDestination_name (hname : IsName name) (hnul : '\x00' ∉ name.toList)
    (hworking : fs.node? fs.working = some .directory) (hdir : fs.node? (fs.working ++ [name]) ≠ some .directory)
    (hparent : directoryOf ⟨name⟩ = ⟨"."⟩) (hshort : fs.isTemporaryTooLong ⟨"."⟩ = false)
    (hdevice : fs.device.create = none ∧ fs.device.write = none ∧ fs.device.rename = none) :
    fs.IsDestination ⟨name⟩ (fs.working ++ [name]) where
  names := by
    have hsplit : splitLast ⟨name⟩ = ([], some name) := by
      simp [splitLast, Path.parts, Text.splitText, Text.splitAt_of_not_mem hname.no_slash, hname.nonempty]
    have hslash : name.toList.head? ≠ some '/' := fun h => hname.no_slash (List.mem_of_head? h)
    have hstart : start ⟨name⟩ fs.working = fs.working := by simp [start, Path.isAbsolute, hslash]
    refine ⟨fs.working, name, place_eq_ok_iff.2 ⟨⟨?_, hname.nonempty, ?_⟩, [], hsplit, ?_, hworking,
      isStep_of_isName hname⟩, rfl⟩
    · simpa [Path.hasNul] using hnul
    · exact Nat.le_trans hname.short (by decide)
    · rw [hstart, follow]
  asks_file := by
    have hlast : name.toList.getLast? ≠ some '/' := fun h => hname.no_slash (List.mem_of_getLast? h)
    simp [endsWithSlash, hlast]
  no_directory := hdir
  in_directory := by
    refine ⟨fs.working, stat_eq_ok_iff.2 ⟨?_, hworking⟩⟩
    have hsteps : steps ⟨"."⟩ = ["."] := by decide
    have hstart : start ⟨"."⟩ fs.working = fs.working := rfl
    rw [hparent, locate_eq_follow (by decide) (by decide) (by decide), hsteps, hstart, follow_current hworking, follow]
  short := by rw [hparent, hshort]
  create := hdevice.1
  write := hdevice.2.1
  rename := hdevice.2.2

/-- So can a name in the root, if the program runs there. -/
theorem isDestination_root (hname : IsName name) (hnul : '\x00' ∉ name.toList) (hparent : directoryOf ⟨name⟩ = ⟨"."⟩)
    (hworking : fs.working = []) (hdir : fs.node? [name] ≠ some .directory)
    (hdevice : fs.device.create = none ∧ fs.device.write = none ∧ fs.device.rename = none) :
    fs.IsDestination ⟨name⟩ [name] := by
  obtain ⟨nodes, working, device⟩ := fs
  obtain rfl : working = [] := hworking
  have hshort : (FileSystem.mk [] [] {}).isTemporaryTooLong ⟨"."⟩ = false := by decide
  exact isDestination_name hname hnul rfl hdir hparent hshort hdevice

/-- Beside a fresh file a path names the same entry as without it. -/
private theorem names_beside_iff {content : ByteArray} (hne : file ≠ []) (hfile : fs.node? file = none) :
    (fs.set file (.file content false)).Names p l ↔ fs.Names p l := by
  refine ⟨Names.of_set hne, ?_⟩
  rintro ⟨dir, name, hplace, rfl⟩
  exact ⟨dir, name, (within_set_of_none hne hfile _).place_eq hplace, rfl⟩

/-- A write that is refused at no step puts the file in the place of the entry that the path names. -/
theorem writeAtomic_of_isDestination (h : fs.IsDestination p l) (data : ByteArray) :
    fs.writeAtomic p data = (.ok (), fs.set l (.file data false)) := by
  obtain ⟨dir, hdir⟩ := h.in_directory
  have hcreate := createTemporary_eq_ok_iff.2 ⟨h.short, h.create, hdir, rfl, rfl⟩
  have hne : dir ++ [fs.freshName dir] ≠ [] := by simp
  have hfresh := node?_freshName fs dir
  have hrename : (fs.set (dir ++ [fs.freshName dir]) (.file data false)).rename (dir ++ [fs.freshName dir]) p =
      .ok (fs.set l (.file data false)) := by
    refine rename_eq_ok_iff.2 ⟨h.asks_file, h.rename, l, .file data false, (names_beside_iff hne hfresh).2 h.names, ?_,
      node?_set_self hne, ?_⟩
    · rw [node?_set hne]
      split
      · simp
      · exact h.no_directory
    · rw [remove_set, remove_of_node?_eq_none hfresh]
  unfold writeAtomic
  simp only [hcreate, device_set, h.write, set_set, hrename]

/-- A write that is refused at some step changes nothing. -/
theorem writeAtomic_of_not_isDestination (h : ∀ l, ¬ fs.IsDestination p l) (data : ByteArray) :
    ∃ e, fs.writeAtomic p data = (.error e, fs) := by
  unfold writeAtomic
  dsimp only
  cases hcreate : fs.createTemporary (directoryOf p) with
  | error cause => exact ⟨_, rfl⟩
  | ok temporary =>
    obtain ⟨dir, name, created⟩ := temporary
    obtain ⟨hshort, hdevice, hdir, rfl, rfl⟩ := createTemporary_eq_ok_iff.1 hcreate
    have hne : dir ++ [fs.freshName dir] ≠ [] := by simp
    have hfresh := node?_freshName fs dir
    -- from here on the temporary file is all that differs, so removing it leaves nothing behind
    dsimp only
    rw [device_set]
    cases hwrite : fs.device.write with
    | some cause => exact ⟨_, by rw [remove_set, remove_of_node?_eq_none hfresh]⟩
    | none =>
      dsimp only
      rw [set_set]
      cases hrename : (fs.set (dir ++ [fs.freshName dir]) (.file data false)).rename (dir ++ [fs.freshName dir]) p with
      | error cause => exact ⟨_, by rw [remove_set, remove_of_node?_eq_none hfresh]⟩
      | ok after =>
        -- every step went through, so the path had a destination
        obtain ⟨hslash, hmoved, l, -, hnames, hnode, -, -⟩ := rename_eq_ok_iff.1 hrename
        refine absurd ?_ (h l)
        refine ⟨(names_beside_iff hne hfresh).1 hnames, hslash, ?_, ⟨dir, hdir⟩, hshort, hdevice, hwrite, hmoved⟩
        exact fun hl => hnode ((within_set_of_none hne hfresh _).node _ _ hl)

/-- A write that succeeds had a destination. -/
theorem exists_isDestination_of_ok (h : (fs.writeAtomic p data).1 = .ok ()) : ∃ l, fs.IsDestination p l := by
  by_contra hnone
  obtain ⟨e, he⟩ := writeAtomic_of_not_isDestination (not_exists.1 hnone) data
  rw [he] at h
  cases h

/-- A write that fails changes nothing. -/
theorem writeAtomic_of_error {e : ToolError} (h : (fs.writeAtomic p data).1 = .error e) :
    fs.writeAtomic p data = (.error e, fs) := by
  have hnone (l : Location) : ¬ fs.IsDestination p l := by
    intro hl
    rw [writeAtomic_of_isDestination hl data] at h
    cases h
  obtain ⟨e', he⟩ := writeAtomic_of_not_isDestination hnone data
  rw [he] at h ⊢
  rw [Except.error.inj h]

/-- A regular file with these bytes has taken the place of what was at the location, if anything, and all else is as
before: the other nodes, and where the paths lead that can do without the entry. -/
structure IsReplaced (fs after : FileSystem) (l : Location) (data : ByteArray) : Prop where
  file : after.node? l = some (.file data false)
  others : ∀ k, k ≠ l → after.node? k = fs.node? k
  paths : ∀ q found, (fs.remove l).stat q = .ok found → fs.stat q = .ok found ∧ after.stat q = .ok found
  working : after.working = fs.working
  device : after.device = fs.device

theorem isReplaced_set (hl : l ≠ []) (fs : FileSystem) (data : ByteArray) :
    fs.IsReplaced (fs.set l (.file data false)) l data where
  file := node?_set_self hl
  others _ hk := node?_set_of_ne hl hk
  paths _ _ hfound := ⟨(within_of_remove hl fs).stat_eq hfound, (within_set_of_remove hl fs _).stat_eq hfound⟩
  working := working_set
  device := device_set

/-- A write that succeeds has put the file in the place of the entry that the path names. -/
theorem exists_names_of_ok (h : (fs.writeAtomic p data).1 = .ok ()) :
    ∃ l, fs.Names p l ∧ fs.writeAtomic p data = (.ok (), fs.set l (.file data false)) := by
  obtain ⟨l, hl⟩ := exists_isDestination_of_ok h
  exact ⟨l, hl.names, writeAtomic_of_isDestination hl data⟩

/-- A write succeeds exactly if no step is refused. If it fails nothing has changed. If it succeeds the entry that the
path names is a regular file with these bytes, and all else is as before; the path itself reads the bytes back if that
of its directory can do without the entry. -/
theorem writeAtomic_all_or_nothing (fs : FileSystem) (p : Path) (data : ByteArray) :
    let written := fs.writeAtomic p data
    (written.1 = .ok () ↔ ∃ l, fs.IsDestination p l) ∧
    (∀ e, written.1 = .error e → written.2 = fs) ∧
    (written.1 = .ok () → ∃ l, fs.Names p l ∧ fs.IsReplaced written.2 l data ∧
      ∀ found, (fs.remove l).place p = .ok found → written.2.readBytes p = .ok data) := by
  intro written
  refine ⟨⟨exists_isDestination_of_ok, ?_⟩, ?_, ?_⟩
  · rintro ⟨l, hl⟩
    exact congrArg Prod.fst (writeAtomic_of_isDestination hl data)
  · intro e he
    exact congrArg Prod.snd (writeAtomic_of_error he)
  · intro hok
    obtain ⟨l, hl⟩ := exists_isDestination_of_ok hok
    have hl' := hl.names.ne_nil
    have hwritten : written.2 = fs.set l (.file data false) :=
      congrArg Prod.snd (writeAtomic_of_isDestination hl data)
    rw [hwritten]
    refine ⟨l, hl.names, isReplaced_set hl' fs data, ?_⟩
    rintro ⟨dir, name⟩ hplace
    have hnamed : fs.Names p (dir ++ [name]) := ⟨dir, name, (within_of_remove hl' fs).place_eq hplace, rfl⟩
    obtain rfl := hl.names.unique hnamed
    have hstat := stat_of_place ((within_set_of_remove hl' fs (.file data false)).place_eq hplace) hl.asks_file
      (node?_set_self hl') nofun
    rw [readBytes, hstat]
    rfl

/-- A list that is a link to a file beside its directory, on a device that may refuse to move files. -/
def linkedOutput (refused : Option IoCause) : FileSystem where
  nodes := [(["keep.txt"], .file "old".toUTF8 false), (["out"], .directory), (["out", "list"], .link ⟨"../keep.txt"⟩)]
  working := []
  device := { rename := refused }

private theorem follow_out {fs : FileSystem} (h : fs.node? ["out"] = some .directory) :
    fs.follow true maxLinks [] ["out"] = .ok ["out"] := by
  rw [follow_entry rfl (by decide) h (by simp), follow]
  rfl

private theorem place_list {fs : FileSystem} (hworking : fs.working = []) (h : fs.node? ["out"] = some .directory) :
    fs.place ⟨"out/list"⟩ = .ok (["out"], "list") := by
  have hsplit : splitLast ⟨"out/list"⟩ = (["out"], some "list") := by decide
  have hstart : start ⟨"out/list"⟩ fs.working = [] := by simp [start, hworking]
  refine place_eq_ok_iff.2 ⟨⟨by decide, by decide, by decide⟩, ["out"], hsplit, ?_, h, by decide, by decide, by decide⟩
  rw [hstart]
  exact follow_out h

theorem link_replaced_or_kept :
    let written := (linkedOutput none).writeAtomic ⟨"out/list"⟩ "new".toUTF8
    let refused := (linkedOutput (some .permissionDenied)).writeAtomic ⟨"out/list"⟩ "new".toUTF8
    written.1 = .ok () ∧ written.2.node? ["out", "list"] = some (.file "new".toUTF8 false) ∧
      written.2.node? ["keep.txt"] = some (.file "old".toUTF8 false) ∧
      written.2.readBytes ⟨"out/list"⟩ = .ok "new".toUTF8 ∧
      (∃ e, refused.1 = .error e) ∧ refused.2 = linkedOutput (some .permissionDenied) := by
  have hdirectory : directoryOf ⟨"out/list"⟩ = ⟨"out"⟩ := by decide
  have hname : IsName "out" := by decide
  have hlocate : (linkedOutput none).locate ⟨"out"⟩ = .ok ["out"] := by
    rw [locate_name hname (by decide)]
    exact follow_out rfl
  have hdestination : (linkedOutput none).IsDestination ⟨"out/list"⟩ ["out", "list"] :=
    { names := ⟨["out"], "list", place_list rfl rfl, rfl⟩
      asks_file := by decide
      no_directory := by
        show some (Node.link ⟨"../keep.txt"⟩) ≠ some .directory
        simp
      in_directory := ⟨["out"], by rw [hdirectory]; exact stat_eq_ok_iff.2 ⟨hlocate, rfl⟩⟩
      short := by decide
      create := rfl
      write := rfl
      rename := rfl }
  obtain ⟨hsucceeds, -, hwritten⟩ := writeAtomic_all_or_nothing (linkedOutput none) ⟨"out/list"⟩ "new".toUTF8
  obtain ⟨hfails, hkept, -⟩ :=
    writeAtomic_all_or_nothing (linkedOutput (some .permissionDenied)) ⟨"out/list"⟩ "new".toUTF8
  have hok := hsucceeds.2 ⟨_, hdestination⟩
  obtain ⟨l, hl, hreplaced, hread⟩ := hwritten hok
  obtain rfl := hdestination.names.unique hl
  have hrefused :
      ∃ e, ((linkedOutput (some .permissionDenied)).writeAtomic ⟨"out/list"⟩ "new".toUTF8).1 = .error e := by
    cases h : ((linkedOutput (some .permissionDenied)).writeAtomic ⟨"out/list"⟩ "new".toUTF8).1 with
    | error e => exact ⟨e, rfl⟩
    | ok done =>
      obtain ⟨l, hl⟩ := hfails.1 h
      exact nomatch hl.rename
  obtain ⟨e, he⟩ := hrefused
  exact ⟨hok, hreplaced.file, hreplaced.others ["keep.txt"] (by decide), hread (["out"], "list") (place_list rfl rfl),
    ⟨e, he⟩, hkept e he⟩

end FirmwareSymbols.FileSystem
