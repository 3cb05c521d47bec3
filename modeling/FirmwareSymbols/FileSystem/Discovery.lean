import FirmwareSymbols.FileSystem.Read
import FirmwareSymbols.Log

/-!
# Discovering object files

A walk through all directories below a root. Links to directories are followed, and each directory is listed once,
however many paths lead to it. What cannot be listed or read below the root is recorded and the walk goes on.
-/

namespace FirmwareSymbols

/-- The files that were found, in path order, and the directories and entries that could not be read. -/
structure Discovery where
  objects : List Path
  failures : List ToolError

/-- The state of a walk: the directories that were asked for their entries, in this order and each with the path that
led to it, and those whose entries are still to be looked at. -/
structure Walk where
  visited : List (Location × Path)
  pending : List (Path × List Listed)
  objects : List Path
  failures : List ToolError

namespace Walk

/-- The locations of the visited directories. -/
def locations (w : Walk) : List Location := w.visited.map Prod.fst

def found (w : Walk) (file : Path) : Walk := { w with objects := w.objects ++ [file] }

def failed (w : Walk) (path : Path) (cause : IoCause) : Walk :=
  { w with failures := w.failures ++ [.io path cause] }

/-- Marks a directory as visited. -/
def mark (w : Walk) (l : Location) (dir : Path) : Walk := { w with visited := w.visited ++ [(l, dir)] }

/-- Puts the entries of a directory first. -/
def enter (w : Walk) (dir : Path) (entries : List Listed) : Walk :=
  { w with pending := (dir, entries) :: w.pending }

/-- Before the first entry is looked at, only the root was visited. -/
def atRoot (l : Location) (root : Path) (entries : List Listed) : Walk where
  visited := [(l, root)]
  pending := [(root, entries)]
  objects := []
  failures := []

end Walk

namespace FileSystem

/-- Whether an entry is a directory, or a link that leads to one. -/
def entryIsDirectory (fs : FileSystem) (path : Path) : Node → Bool
  | .directory => true
  | .file .. | .sealed .. | .null => false
  | .link _ => fs.isDirectory path

/-- Looks at an entry of a directory, of which all was told. -/
def walkEntry (fs : FileSystem) (extensions : List String) (dir : Path) (w : Walk) (entry : String × Node) :
    Logged Walk :=
  let path := dir.join entry.1
  if fs.entryIsDirectory path entry.2 then
    match fs.locate path with
    | .error _ =>
      match fs.readDirectory path with
      | .error cause => pure (w.failed path cause)
      | .ok _ => pure w
    | .ok l =>
      if l ∈ w.locations then do
        Logged.debug ("Skipping " ++ path.text ++ ", already scanned")
        return w
      else
        match fs.readDirectory path with
        | .error cause => pure ((w.mark l path).failed path cause)
        | .ok entries => pure ((w.mark l path).enter path entries)
  else if path.extension?.any extensions.contains then pure (w.found path)
  else pure w

/-- Looks at what a listing has in the place of an entry. -/
def walkListed (fs : FileSystem) (extensions : List String) (dir : Path) (w : Walk) : Listed → Logged Walk
  | .entry name node => fs.walkEntry extensions dir w (name, node)
  | .unknown name cause => pure (w.failed (dir.join name) cause)
  | .unread cause => pure (w.failed dir cause)

/-- Looks at the entries of a directory one after another. -/
def walkEntries (fs : FileSystem) (extensions : List String) (dir : Path) (w : Walk) : List Listed → Logged Walk
  | [] => pure w
  | entry :: rest => do
    let next ← fs.walkListed extensions dir w entry
    fs.walkEntries extensions dir next rest

/-- The directories that a walk did not visit yet. -/
def unvisited (fs : FileSystem) (w : Walk) : List Location := fs.directories.filter (· ∉ w.locations)

/-- What is still to be done: it shrinks with every directory that is finished. -/
def workLeft (fs : FileSystem) (w : Walk) : Nat := (fs.unvisited w).length + w.pending.length

theorem mem_directories {fs : FileSystem} {l : Location} (h : fs.node? l = some .directory) : l ∈ fs.directories := by
  unfold node? at h
  split at h
  next hl => simp [directories, hl]
  next hl =>
    obtain ⟨before, after, hnodes, -⟩ := List.lookup_eq_some_iff.1 h
    simp [directories, hnodes, hl]

/-- What can be listed is a directory. -/
theorem exists_directory_of_readDirectory {fs : FileSystem} {path : Path} {entries : List Listed}
    (h : fs.readDirectory path = .ok entries) : ∃ l ∈ fs.directories, fs.locate path = .ok l := by
  unfold readDirectory stat at h
  cases hl : fs.locate path with
  | error cause => simp [hl, bind, Except.bind] at h
  | ok l =>
    refine ⟨l, ?_, rfl⟩
    cases hn : fs.node? l with
    | none => simp [hl, hn, bind, Except.bind] at h
    | some n =>
      cases n with
      | directory => exact mem_directories hn
      | file | link | null | sealed => simp [hl, hn, bind, Except.bind] at h

private theorem unvisited_mark (fs : FileSystem) (w : Walk) (l : Location) (dir : Path) :
    fs.unvisited (w.mark l dir) = (fs.unvisited w).filter (· ≠ l) := by
  simp only [unvisited, List.filter_filter, Walk.mark, Walk.locations, List.map_append, List.map_cons, List.map_nil,
    List.mem_append, List.mem_singleton, not_or, Bool.decide_and]
  congr 1
  funext k
  exact Bool.and_comm _ _

private theorem workLeft_walkEntry_le (fs : FileSystem) (extensions : List String) (dir : Path) (w : Walk)
    (entry : String × Node) : fs.workLeft (fs.walkEntry extensions dir w entry).result ≤ fs.workLeft w := by
  unfold walkEntry
  simp only
  split
  · split
    · split <;> exact Nat.le_refl _
    next l hl =>
      split
      · exact Nat.le_refl _
      next hnew =>
        split
        · -- the directory counts as visited although it could not be listed
          show (fs.unvisited (w.mark l _)).length + w.pending.length ≤ _
          rw [unvisited_mark]
          exact Nat.add_le_add_right (List.length_filter_le _ _) _
        next entries hread =>
          -- one directory more is pending, and one less unvisited
          obtain ⟨l', hdir, hl'⟩ := exists_directory_of_readDirectory hread
          obtain rfl : l = l' := Except.ok.inj (hl.symm.trans hl')
          have hmem : l ∈ fs.unvisited w := by simp [unvisited, hdir, hnew]
          have hlt : ((fs.unvisited w).filter (· ≠ l)).length < (fs.unvisited w).length :=
            List.length_filter_lt_length_iff_exists.2 ⟨l, hmem, by simp⟩
          show (fs.unvisited (w.mark l _)).length + (w.pending.length + 1) ≤ (fs.unvisited w).length + _
          rw [unvisited_mark]
          omega
  · split <;> exact Nat.le_refl _

private theorem workLeft_walkListed_le (fs : FileSystem) (extensions : List String) (dir : Path) (w : Walk)
    (entry : Listed) : fs.workLeft (fs.walkListed extensions dir w entry).result ≤ fs.workLeft w := by
  cases entry with
  | entry name node => exact workLeft_walkEntry_le fs extensions dir w (name, node)
  | unknown | unread => exact Nat.le_refl _

private theorem workLeft_walkEntries_le (fs : FileSystem) (extensions : List String) (dir : Path) (w : Walk)
    (entries : List Listed) :
    fs.workLeft (fs.walkEntries extensions dir w entries).result ≤ fs.workLeft w := by
  induction entries generalizing w with
  | nil => exact Nat.le_refl _
  | cons entry rest ih => exact Nat.le_trans (ih _) (workLeft_walkListed_le fs extensions dir w entry)

/-- Finishes the pending directories, the last entered first. -/
def walk (fs : FileSystem) (extensions : List String) (w : Walk) : Logged Walk :=
  match _h : w.pending with
  | [] => pure w
  | (dir, entries) :: rest =>
    let step := fs.walkEntries extensions dir { w with pending := rest } entries
    let last := fs.walk extensions step.result
    ⟨last.result, step.log ++ last.log⟩
termination_by fs.workLeft w
decreasing_by
  have hle := workLeft_walkEntries_le fs extensions dir { w with pending := rest } entries
  refine Nat.lt_of_le_of_lt hle ?_
  simp only [workLeft, _h, List.length_cons]
  exact Nat.lt_succ_self _

/-- The files below a directory that have one of the extensions. It is an error only if the directory itself cannot
be listed. -/
def discoverObjects (fs : FileSystem) (root : Path) (extensions : List String) :
    Logged (Except ToolError Discovery) :=
  match fs.stat root with
  | .error cause => pure (.error (.io root cause))
  | .ok (l, _) =>
    match fs.readDirectory root with
    | .error cause => pure (.error (.io root cause))
    | .ok entries => do
      let w ← fs.walk extensions (.atRoot l root entries)
      return .ok ⟨Path.sort w.objects, w.failures⟩

end FileSystem

end FirmwareSymbols
