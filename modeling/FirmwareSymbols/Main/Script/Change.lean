import FirmwareSymbols.FileSystem.Write

/-!
# Changing directories

Entries of directories are removed, moved, linked, written in place, and their permissions changed. Where not told
otherwise a link in the last place of a path is the entry that is meant, not what it leads to.
-/

namespace FirmwareSymbols

namespace FileSystem

/-- Removes a node with all that is below it. -/
def removeTree (fs : FileSystem) (l : Location) : FileSystem :=
  { fs with nodes := fs.nodes.filter fun (k, _) => !l.isPrefixOf k }

/-- Moves a node with all that is below it into the place of what is at the goal. -/
def moveTree (fs : FileSystem) (source goal : Location) : FileSystem :=
  let kept := fs.nodes.filter fun (k, _) => !goal.isPrefixOf k
  { fs with nodes := kept.map fun (k, n) =>
      match source.isPrefixOf? k with
      | some below => (goal ++ below, n)
      | none => (k, n) }

/-- The node that a path leads to, a link in the last place not followed. -/
def entry (fs : FileSystem) (p : Path) : Except IoCause (Location × Node) := do
  let l ← fs.locate p false
  match fs.node? l with
  | some n => .ok (l, n)
  | none => .error .notFound

/-- Whether a path names an entry, even a link that leads nowhere. -/
def hasEntry (fs : FileSystem) (p : Path) : Bool := (fs.entry p).isOk

/-- Removes an entry that is no directory. -/
def removeEntry (fs : FileSystem) (p : Path) : Except IoCause FileSystem := do
  match ← fs.entry p with
  | (_, .directory) => .error .isDirectory
  | (l, _) => .ok (fs.remove l)

/-- Removes a directory without entries. -/
def removeDirectory (fs : FileSystem) (p : Path) : Except IoCause FileSystem := do
  match ← fs.entry p with
  | (l, .directory) =>
    if p.fileName?.isNone then .error (.other "Invalid argument")
    else if (fs.children l).isEmpty then .ok (fs.remove l)
    else .error .notEmpty
  | _ => .error .notDirectory

/-- Gives an entry a new path. What is there already is replaced, if it is of the same kind. -/
def moveEntry (fs : FileSystem) (source goal : Path) : Except IoCause FileSystem := do
  let (l, n) ← fs.entry source
  let (dir, name) ← fs.place goal
  let k := dir ++ [name]
  match n, fs.node? k with
  | .directory, some .directory =>
    if k = l then .ok fs
    else if l.isPrefixOf k then .error (.other "Invalid argument")
    else if (fs.children k).isEmpty then .ok (fs.moveTree l k)
    else .error .notEmpty
  | .directory, some _ => .error .notDirectory
  | .directory, none => if l.isPrefixOf k then .error (.other "Invalid argument") else .ok (fs.moveTree l k)
  | _, some .directory => .error .isDirectory
  | _, _ =>
    if endsWithSlash goal then .error .notDirectory
    else if k = l then .ok fs
    else .ok (fs.moveTree l k)

/-- Puts a new node at a path where nothing is. -/
def addEntry (fs : FileSystem) (p : Path) (n : Node) : Except IoCause FileSystem := do
  let (dir, name) ← fs.place p
  match fs.node? (dir ++ [name]) with
  | some _ => .error .alreadyExists
  | none => .ok (fs.set (dir ++ [name]) n)

/-- The location that a file to be opened for writing has or will have: links are followed, also dangling ones. -/
def openPlace (fs : FileSystem) : Nat → Path → Except IoCause Location
  | 0, _ => .error .tooManyLinks
  | n + 1, p => do
    if endsWithSlash p then
      let l ← fs.locate p
      match fs.node? l with
      | some .directory => .error .isDirectory
      | _ => .error .notDirectory
    else
      match splitLast p with
      | (_, some last) =>
        if last = "." || last = ".." then
          let _ ← fs.locate p
          .error .isDirectory
        else
          let (dir, name) ← fs.place p
          match fs.node? (dir ++ [name]) with
          | some (.link target) => openPlace { fs with working := dir } n target
          | some .directory => .error .isDirectory
          | _ => .ok (dir ++ [name])
      | (_, none) => .error (if p.text = "" then .notFound else .isDirectory)

/-- Writes a file in place, keeping its permissions; what `update` makes of the old content is the new one. -/
def writeInPlace (fs : FileSystem) (p : Path) (update : ByteArray → ByteArray) : Except IoCause FileSystem := do
  let l ← fs.openPlace (maxLinks + 1) p
  match fs.node? l with
  | some (.file content executable) => .ok (fs.set l (.file (update content) executable))
  | some (.sealed cause _) => .error cause
  | some .null => .ok fs
  | _ => .ok (fs.set l (.file (update .empty) false))

/-- Makes the file executable that a path leads to, or the contrary. -/
def setExecutable (fs : FileSystem) (p : Path) (executable : Bool) : Except IoCause FileSystem := do
  match ← fs.stat p with
  | (l, .file content _) => .ok (fs.set l (.file content executable))
  | (l, .sealed cause _) => .ok (fs.set l (.sealed cause executable))
  | _ => .ok fs

/-- Whether two paths lead to the same node. -/
def isSame (fs : FileSystem) (p q : Path) : Bool :=
  match fs.locate p, fs.locate q with
  | .ok l, .ok k => l = k
  | _, _ => false

end FileSystem

end FirmwareSymbols
