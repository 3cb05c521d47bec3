import FirmwareSymbols.AllowList
import FirmwareSymbols.Proofs.Elf.Assembly
import FirmwareSymbols.Proofs.FileSystem.Resolve
import FirmwareSymbols.Proofs.Log
import FirmwareSymbols.Proofs.Policy

/-!
# What an allow-list holds

The names of a built allow-list are the implicit ones and those that the readable inputs provide, whatever the order of
files and directories (`build_of_readable_inputs`). The inputs are folded into the list one after another: one step
adds the names of its input, or its failure (`mem_addInput_iff`, `failures_addInput`), and the run collects them
(`mem_foldl_addInput_iff`, `failures_foldl_addInput`). Nothing but the overlap with the implicit names is noted.
-/

namespace FirmwareSymbols

namespace FileSystem

variable (fs : FileSystem)

/-- A row of the file offers a definition of the name. -/
def Provides (path : Path) (name : String) : Prop :=
  ∃ rows, fs.readSymbols path = .ok rows ∧ ∃ s ∈ rows, Policy.provided.accepts s = true ∧ s.name = name

/-- Why the symbols of a file cannot be read, if so. -/
def readFailure? (path : Path) : Option ToolError :=
  match fs.readSymbols path with
  | .error e => some e
  | .ok _ => none

/-! ### What is not noted -/

theorem notes_walkEntry (extensions : List String) (dir : Path) (w : Walk) (entry : String × Node) :
    (fs.walkEntry extensions dir w entry).notes = [] := by
  unfold walkEntry
  dsimp only
  repeat' split
  all_goals simp

theorem notes_walkListed (extensions : List String) (dir : Path) (w : Walk) (item : Listed) :
    (fs.walkListed extensions dir w item).notes = [] := by
  cases item with
  | entry name node => exact fs.notes_walkEntry extensions dir w (name, node)
  | unknown | unread => rfl

theorem notes_walkEntries (extensions : List String) (dir : Path) (w : Walk) (items : List Listed) :
    (fs.walkEntries extensions dir w items).notes = [] := by
  induction items generalizing w with
  | nil => rfl
  | cons item items ih => rw [walkEntries, Logged.notes_bind, notes_walkListed, ih, List.append_nil]

theorem notes_walk (extensions : List String) (w : Walk) : (fs.walk extensions w).notes = [] := by
  fun_induction walk fs extensions w with
  | case1 => rfl
  | case2 w dir entries rest h step last ih =>
    show (step >>= fun _ => last).notes = []
    rw [Logged.notes_bind, notes_walkEntries, ih, List.append_nil]

theorem notes_discoverObjects (root : Path) (extensions : List String) :
    (fs.discoverObjects root extensions).notes = [] := by
  unfold discoverObjects
  split
  · rfl
  · split
    · rfl
    · rw [Logged.notes_bind, notes_walk, Logged.notes_pure, List.append_nil]

/-- Nothing is discovered below an empty directory. -/
theorem discoverObjects_of_empty {fs : FileSystem} {root : Path} {l : Location} {extensions : List String}
    (hstat : fs.stat root = .ok (l, .directory)) (hlist : fs.device.list l = none) (hempty : fs.children l = []) :
    (fs.discoverObjects root extensions).result = .ok ⟨[], []⟩ := by
  have hread : fs.readDirectory root = .ok [] := by
    rw [readDirectory, hstat]
    simp only [bind, Except.bind, hlist, listing, hempty, List.map_nil]
  have hlast (w : Walk) (hdone : w.pending = []) : fs.walk extensions w = pure w := by
    obtain ⟨visited, pending, objects, failures⟩ := w
    obtain rfl : pending = [] := hdone
    rw [walk]
  rw [discoverObjects, hstat]
  simp only [hread, Logged.result_bind]
  rw [walk]
  simp [Walk.atRoot, walkEntries, hlast, Path.sort]

end FileSystem

theorem Policy.notes_filterFrom (policy : Policy) (row : Nat) (symbols : List Symbol) :
    (policy.filterFrom row symbols).notes = [] := by
  induction symbols generalizing row with
  | nil => rfl
  | cons s symbols ih =>
    unfold filterFrom
    split
    · simp [ih]
    · exact ih (row + 1)

namespace AllowList

variable (fs : FileSystem) (config : AllowListConfig)

/-! ### The inputs -/

/-- The object files below a directory, as far as it can be listed. -/
def objectsOf (dir : Path) : List Path :=
  match (fs.discoverObjects dir config.extensions).result with
  | .error _ => []
  | .ok discovery => discovery.objects

/-- What could not be listed of a directory. -/
def failuresOf (dir : Path) : List ToolError :=
  match (fs.discoverObjects dir config.extensions).result with
  | .error e => [e]
  | .ok discovery => discovery.failures

/-- The files, and then the object files of the directories. -/
def inputs (files dirs : List Path) : List Path := files ++ dirs.flatMap (objectsOf fs config)

theorem result_recordFailure (e : ToolError) : (recordFailure e).result = e := rfl

theorem notes_recordFailure (e : ToolError) : (recordFailure e).notes = [] := rfl

theorem result_inputsOf (dir : Path) :
    (inputsOf fs config dir).result = (objectsOf fs config dir, failuresOf fs config dir) := by
  unfold inputsOf objectsOf failuresOf
  rw [Logged.result_bind]
  cases (fs.discoverObjects dir config.extensions).result with
  | error e => simp [result_recordFailure]
  | ok discovery =>
    have hfailures : (discovery.failures.mapM recordFailure).result = discovery.failures := by
      rw [Logged.result_mapM]
      exact List.map_id discovery.failures
    dsimp only
    split <;> simp [hfailures]

theorem result_mapM_inputsOf (dirs : List Path) :
    (dirs.mapM (inputsOf fs config)).result =
      dirs.map fun dir => (objectsOf fs config dir, failuresOf fs config dir) := by
  rw [Logged.result_mapM]
  exact List.map_congr_left fun dir _ => result_inputsOf fs config dir

theorem notes_inputsOf (dir : Path) : (inputsOf fs config dir).notes = [] := by
  unfold inputsOf
  rw [Logged.notes_bind, fs.notes_discoverObjects]
  cases (fs.discoverObjects dir config.extensions).result with
  | error e => rfl
  | ok discovery =>
    have hfailures := Logged.notes_mapM_eq_nil notes_recordFailure discovery.failures
    dsimp only
    split <;> simp [hfailures]

/-! ### One input and all of them -/

variable {fs}

theorem addInput_of_error {a : AllowList} {path : Path} {e : ToolError} (h : fs.readSymbols path = .error e) :
    (addInput fs a path).result = { a with failures := a.failures ++ [e] } := by
  simp [addInput, FileSystem.extractSymbols, h, result_recordFailure]

theorem addInput_of_ok {a : AllowList} {path : Path} {rows : List Symbol} (h : fs.readSymbols path = .ok rows) :
    (addInput fs a path).result =
      { a with symbols := a.symbols.insertMany ((rows.filter Policy.provided.accepts).map Symbol.name) } := by
  simp [addInput, FileSystem.extractSymbols, h, Policy.result_filter]

theorem notes_addInput (a : AllowList) (path : Path) : (addInput fs a path).notes = [] := by
  unfold addInput FileSystem.extractSymbols
  cases fs.readSymbols path with
  | error e => simp [notes_recordFailure]
  | ok rows => simp [Policy.filter, Policy.notes_filterFrom]

/-- A file that can be read adds the names that it provides, any other one adds nothing. -/
theorem mem_addInput_iff {a : AllowList} {path : Path} {name : String} :
    name ∈ (addInput fs a path).result.symbols ↔ name ∈ a.symbols ∨ fs.Provides path name := by
  unfold FileSystem.Provides
  cases h : fs.readSymbols path with
  | error e => simp [addInput_of_error h]
  | ok rows =>
    rw [addInput_of_ok h, SymbolSet.mem_insertMany]
    apply or_congr_right
    simp only [List.mem_map, List.mem_filter, Except.ok.injEq, exists_eq_left']
    constructor
    · rintro ⟨⟨s, ⟨hs, haccepts⟩, rfl⟩, -⟩
      exact ⟨s, hs, haccepts, rfl⟩
    · rintro ⟨s, hs, haccepts, rfl⟩
      exact ⟨⟨s, ⟨hs, haccepts⟩, rfl⟩, (Policy.accepts_provided_iff.1 haccepts).1⟩

/-- A file that cannot be read adds its failure. -/
theorem failures_addInput (a : AllowList) (path : Path) :
    (addInput fs a path).result.failures = a.failures ++ (fs.readFailure? path).toList := by
  unfold FileSystem.readFailure?
  cases h : fs.readSymbols path with
  | error e => rw [addInput_of_error h, Option.toList_some]
  | ok rows => rw [addInput_of_ok h, Option.toList_none, List.append_nil]

theorem mem_foldl_addInput_iff {a : AllowList} {paths : List Path} {name : String} :
    name ∈ (paths.foldlM (addInput fs) a).result.symbols ↔
      name ∈ a.symbols ∨ ∃ path ∈ paths, fs.Provides path name := by
  rw [Logged.result_foldlM]
  induction paths generalizing a with
  | nil => simp
  | cons path paths ih =>
    rw [List.foldl_cons, ih, mem_addInput_iff, or_assoc]
    simp

theorem failures_foldl_addInput (a : AllowList) (paths : List Path) :
    (paths.foldlM (addInput fs) a).result.failures = a.failures ++ paths.filterMap fs.readFailure? := by
  rw [Logged.result_foldlM]
  induction paths generalizing a with
  | nil => simp
  | cons path paths ih =>
    rw [List.foldl_cons, ih, failures_addInput, List.append_assoc, List.filterMap_cons]
    cases fs.readFailure? path <;> rfl

/-! ### The whole list -/

/-- The list before the implicit names are added. -/
def found (fs : FileSystem) (config : AllowListConfig) (files dirs : List Path) : AllowList :=
  ((inputs fs config files dirs).foldlM (addInput fs) ⟨.empty, dirs.flatMap (failuresOf fs config)⟩).result

theorem result_build (files dirs : List Path) :
    (build fs config files dirs).result =
      { found fs config files dirs with
        symbols := (found fs config files dirs).symbols ∪ SymbolSet.ofList config.implicitNames } := by
  unfold build found inputs
  simp only [Logged.result_bind, Logged.result_pure, result_mapM_inputsOf, List.flatMap_map]

theorem notes_noteImplicit (implicit found : SymbolSet) :
    (noteImplicit implicit found).notes =
      (implicit.names.filter found.contains).map fun name => ⟨.info, implicitNote name⟩ := by
  rw [noteImplicit, Logged.notes_forM, List.map_eq_flatMap]
  rfl

theorem notes_build (files dirs : List Path) :
    (build fs config files dirs).notes =
      ((SymbolSet.ofList config.implicitNames).names.filter (found fs config files dirs).symbols.contains).map
        fun name => ⟨.info, implicitNote name⟩ := by
  unfold build found inputs
  simp only [Logged.notes_bind, Logged.notes_pure, result_mapM_inputsOf, List.flatMap_map, notes_noteImplicit,
    Logged.notes_mapM_eq_nil (notes_inputsOf fs config), Logged.notes_foldlM_eq_nil notes_addInput, List.nil_append,
    List.append_nil]

theorem mem_found_iff {files dirs : List Path} {name : String} :
    name ∈ (found fs config files dirs).symbols ↔ ∃ path ∈ inputs fs config files dirs, fs.Provides path name := by
  rw [found, mem_foldl_addInput_iff]
  simp [SymbolSet.not_mem_empty]

theorem failures_build (files dirs : List Path) :
    (build fs config files dirs).result.failures =
      dirs.flatMap (failuresOf fs config) ++ (inputs fs config files dirs).filterMap fs.readFailure? := by
  rw [result_build]
  exact failures_foldl_addInput _ _

theorem mem_build_iff {files dirs : List Path} {name : String} :
    name ∈ (build fs config files dirs).result.symbols ↔
      (name ∈ config.implicitNames ∧ name ≠ "") ∨
        ∃ path ∈ inputs fs config files dirs, fs.Provides path name := by
  rw [result_build, SymbolSet.mem_union, mem_found_iff, SymbolSet.mem_ofList, or_comm]

theorem mem_inputs_congr {files files' dirs dirs' : List Path} (hfiles : ∀ path, path ∈ files' ↔ path ∈ files)
    (hdirs : ∀ dir, dir ∈ dirs' ↔ dir ∈ dirs) (path : Path) :
    path ∈ inputs fs config files' dirs' ↔ path ∈ inputs fs config files dirs := by
  simp only [inputs, List.mem_append, List.mem_flatMap, hfiles, hdirs]

/-- The allow-list is made of the implicit names and of what each readable input provides. An input that cannot be
read gives one failure, after those of the directories. So the names depend only on which files and directories there
are, and the failures on how often each is there. The notes tell, in ascending order and once each, the implicit names
that an input provides as well. -/
theorem build_of_readable_inputs (fs : FileSystem) (config : AllowListConfig) (files dirs : List Path) :
    (∀ name, name ∈ (build fs config files dirs).result.symbols ↔
      (name ∈ config.implicitNames ∧ name ≠ "") ∨ ∃ path ∈ inputs fs config files dirs, fs.Provides path name) ∧
    (build fs config files dirs).result.failures =
      dirs.flatMap (failuresOf fs config) ++ (inputs fs config files dirs).filterMap fs.readFailure? ∧
    (∀ files' dirs', (∀ path, path ∈ files' ↔ path ∈ files) → (∀ dir, dir ∈ dirs' ↔ dir ∈ dirs) →
      (build fs config files' dirs').result.symbols = (build fs config files dirs).result.symbols) ∧
    (∀ files' dirs', files'.Perm files → dirs'.Perm dirs →
      (build fs config files' dirs').result.failures.Perm (build fs config files dirs).result.failures) ∧
    ∃ noted : List String, Ascending id noted ∧
      (∀ name, name ∈ noted ↔ (name ∈ config.implicitNames ∧ name ≠ "") ∧
        ∃ path ∈ inputs fs config files dirs, fs.Provides path name) ∧
      (build fs config files dirs).notes = noted.map fun name => ⟨.info, implicitNote name⟩ := by
  refine ⟨fun name => mem_build_iff config, failures_build config files dirs, ?_, ?_, ?_⟩
  · intro files' dirs' hfiles hdirs
    apply SymbolSet.ext
    intro name
    simp only [mem_build_iff, mem_inputs_congr config hfiles hdirs]
  · intro files' dirs' hfiles hdirs
    have hinputs : (inputs fs config files' dirs').Perm (inputs fs config files dirs) :=
      hfiles.append (hdirs.flatMap_right _)
    rw [failures_build, failures_build]
    exact (hdirs.flatMap_right _).append (hinputs.filterMap _)
  · refine ⟨_, List.Pairwise.filter _ (SymbolSet.ofList config.implicitNames).ascending, ?_, notes_build config files dirs⟩
    intro name
    rw [List.mem_filter, SymbolSet.contains_eq_true, mem_found_iff, ← SymbolSet.mem_iff_mem_names, SymbolSet.mem_ofList]

/-- The definition of `draw`. -/
def drawRow : Elf.SymbolRow := functionRow [0x64, 0x72, 0x61, 0x77] (by decide)

theorem symbol_drawRow : drawRow.symbol = ⟨"draw", .global, .func, .index 1, .default, 0x8000⟩ := by
  decide +kernel

/-- An object file that defines `draw`, and one that is too short to be any. -/
def drawFiles : FileSystem where
  nodes := [(["draw.o"], .file (imageOfRows [drawRow]) false), (["bad.o"], .file ⟨#[0x7f]⟩ false)]
  working := []

theorem provides_draw : drawFiles.Provides ⟨"draw.o"⟩ "draw" := by
  have hbytes : drawFiles.readBytes ⟨"draw.o"⟩ = .ok (imageOfRows [drawRow]) :=
    FileSystem.readBytes_name (by decide) (by decide) rfl rfl
  have hfits : Elf.FitsClass .w32 [drawRow] := by decide
  have hread : drawFiles.readSymbols ⟨"draw.o"⟩ = .ok [drawRow.symbol] := by
    rw [FileSystem.readSymbols, hbytes]
    exact parseSymbols_imageOfRows hfits ⟨"draw.o"⟩
  exact ⟨_, hread, drawRow.symbol, List.mem_singleton_self _, by rw [symbol_drawRow]; decide⟩

theorem draw_listed_in_any_order :
    (∀ path, path ∈ [⟨"none.o"⟩, ⟨"draw.o"⟩, ⟨"bad.o"⟩, ⟨"draw.o"⟩] ↔
      path ∈ ([⟨"draw.o"⟩, ⟨"bad.o"⟩, ⟨"none.o"⟩] : List Path)) ∧
    (build drawFiles {} [⟨"none.o"⟩, ⟨"draw.o"⟩, ⟨"bad.o"⟩, ⟨"draw.o"⟩] [⟨"objs"⟩]).result.symbols =
      (build drawFiles {} [⟨"draw.o"⟩, ⟨"bad.o"⟩, ⟨"none.o"⟩] [⟨"objs"⟩]).result.symbols ∧
    "draw" ∈ (build drawFiles {} [⟨"draw.o"⟩, ⟨"bad.o"⟩, ⟨"none.o"⟩] [⟨"objs"⟩]).result.symbols ∧
    (build drawFiles {} [⟨"none.o"⟩, ⟨"bad.o"⟩, ⟨"draw.o"⟩] [⟨"objs"⟩]).result.failures.Perm
      (build drawFiles {} [⟨"draw.o"⟩, ⟨"bad.o"⟩, ⟨"none.o"⟩] [⟨"objs"⟩]).result.failures := by
  have hmem : ∀ path, path ∈ [⟨"none.o"⟩, ⟨"draw.o"⟩, ⟨"bad.o"⟩, ⟨"draw.o"⟩] ↔
      path ∈ ([⟨"draw.o"⟩, ⟨"bad.o"⟩, ⟨"none.o"⟩] : List Path) := by
    intro path
    simp only [List.mem_cons, List.not_mem_nil, or_false]
    tauto
  have hperm : [⟨"none.o"⟩, ⟨"bad.o"⟩, ⟨"draw.o"⟩].Perm ([⟨"draw.o"⟩, ⟨"bad.o"⟩, ⟨"none.o"⟩] : List Path) := by decide
  obtain ⟨hsymbols, -, hsame, hfailures, -⟩ :=
    build_of_readable_inputs drawFiles {} [⟨"draw.o"⟩, ⟨"bad.o"⟩, ⟨"none.o"⟩] [⟨"objs"⟩]
  refine ⟨hmem, hsame _ _ hmem fun _ => Iff.rfl, ?_, hfailures _ _ hperm (List.Perm.refl _)⟩
  exact (hsymbols "draw").2 (.inr ⟨⟨"draw.o"⟩, by simp [inputs], provides_draw⟩)

end AllowList

end FirmwareSymbols
