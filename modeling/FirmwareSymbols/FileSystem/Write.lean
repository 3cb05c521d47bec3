import FirmwareSymbols.FileSystem.Read

/-!
# Writing to a file system

`writeAtomic` writes a temporary file next to its destination and renames it over the destination. When a step
fails the temporary file is removed, so that nothing has changed. A symbolic link at the destination is replaced.
-/

namespace FirmwareSymbols

namespace FileSystem

/-- The last step of a path and the path of the directory that holds it, both as they are walked. -/
def splitLast (p : Path) : List String × Option String :=
  let parts := p.parts.filter (· ≠ "")
  (parts.dropLast, parts.getLast?)

def endsWithSlash (p : Path) : Bool := p.text.toList.getLast? = some '/'

/-- Where a node would be put that the path names: its directory exists, the node itself need not. -/
def place (fs : FileSystem) (p : Path) : Except IoCause (Location × String) :=
  if p.hasNul then .error .nulInPath
  else if p.text = "" then .error .notFound
  else if maxPathBytes < p.text.utf8ByteSize then .error .nameTooLong
  else
    match splitLast p with
    | (_, none) => .error .busy
    | (dir, some name) => do
      let l ← fs.follow true maxLinks (start p fs.working) dir
      match fs.node? l with
      | some .directory =>
        if name = "." || name = ".." then .error .busy
        else if maxNameBytes < name.utf8ByteSize then .error .nameTooLong
        else .ok (l, name)
      | some _ => .error .notDirectory
      | none => .error .notFound

/-- Moves the file at `source` over what the path names. -/
def rename (fs : FileSystem) (source : Location) (p : Path) : Except IoCause FileSystem := do
  let (dir, name) ← fs.place p
  if endsWithSlash p then .error .notDirectory
  else
    match fs.node? (dir ++ [name]), fs.node? source, fs.device.rename with
    | some .directory, _, _ => .error .isDirectory
    | _, _, some cause => .error cause
    | _, some n, none => .ok ((fs.remove source).set (dir ++ [name]) n)
    | _, none, none => .error .notFound

/-- How names of temporary files begin. -/
def temporaryPrefix : String := ".tmp"

/-- A name that is longer than every name in the directory. -/
def freshName (fs : FileSystem) (dir : Location) : String :=
  String.ofList (temporaryPrefix.toList ++
    List.replicate ((fs.children dir).foldr (fun e n => e.1.length + n) 0) 'x')

/-- How long the names of temporary files are, in bytes. -/
def temporaryNameBytes : Nat := 10

/-- The absolute path of a temporary file in the directory. -/
def temporaryPath (fs : FileSystem) (dir : Path) (name : String) : Path :=
  ((pathOf fs.working).join dir.text).join name

/-- Whether the absolute path of a temporary file in the directory is too long. -/
def isTemporaryTooLong (fs : FileSystem) (dir : Path) : Bool :=
  let file := fs.temporaryPath dir (String.ofList (List.replicate temporaryNameBytes 'x'))
  !dir.hasNul && maxPathBytes < file.text.utf8ByteSize

/-- Creates an empty file with a fresh name in the directory, and tells where the directory is. -/
def createTemporary (fs : FileSystem) (dir : Path) : Except IoCause (Location × String × FileSystem) := do
  if fs.isTemporaryTooLong dir then throw .nameTooLong
  match ← fs.stat dir with
  | (l, .directory) =>
    match fs.device.create with
    | some cause => .error cause
    | none => .ok (l, fs.freshName l, fs.set (l ++ [fs.freshName l]) (.file .empty false))
  | _ => .error .notDirectory

/-- The cause in the words that are used of a temporary file. -/
def temporaryCause (fs : FileSystem) (file : Path) (cause : IoCause) : IoCause :=
  let note := fs.device.temporaryNote file
  if note = "" then cause else .other (cause.message ++ note)

/-- The directory of a destination. -/
def directoryOf (p : Path) : Path :=
  match p.parent? with
  | some parent => if parent.text = "" then ⟨"."⟩ else parent
  | none => ⟨"."⟩

/-- Writes `data` to the path in one step. -/
def writeAtomic (fs : FileSystem) (p : Path) (data : ByteArray) : Except ToolError Unit × FileSystem :=
  let dir := directoryOf p
  match fs.createTemporary dir with
  | .error cause => (.error (.io dir (fs.temporaryCause (fs.temporaryPath dir temporaryPrefix) cause)), fs)
  | .ok (l, name, created) =>
    let file := l ++ [name]
    match created.device.write with
    | some cause =>
      let temporary := fs.temporaryPath dir name
      (.error (.io temporary (fs.temporaryCause temporary cause)), created.remove file)
    | none =>
      let written := created.set file (.file data false)
      match written.rename file p with
      | .error cause => (.error (.io p cause), written.remove file)
      | .ok renamed => (.ok (), renamed)

/-- Makes one directory. -/
def makeDirectory (fs : FileSystem) (p : Path) : Except IoCause FileSystem :=
  match fs.place p with
  | .error .busy => .error .alreadyExists
  | .error cause => .error cause
  | .ok (dir, name) =>
    match fs.node? (dir ++ [name]) with
    | some _ => .error .alreadyExists
    | none => .ok (fs.set (dir ++ [name]) .directory)

/-- Makes a directory and those above it, as far as they are missing. The path is cut at most `n` times. -/
def makeDirectoriesWithin (fs : FileSystem) : Nat → Path → Except IoCause FileSystem
  | 0, _ => .error .notFound
  | n + 1, p =>
    if p.text = "" then .ok fs
    else
      match fs.makeDirectory p with
      | .ok made => .ok made
      | .error .notFound =>
        match p.parent? with
        | none => .error (.other "failed to create whole tree")
        | some parent => do
          let above ← makeDirectoriesWithin fs n parent
          match above.makeDirectory p with
          | .ok made => .ok made
          | .error cause => if above.isDirectory p then .ok above else .error cause
      | .error cause => if fs.isDirectory p then .ok fs else .error cause

def makeDirectories (fs : FileSystem) (p : Path) : Except IoCause FileSystem :=
  fs.makeDirectoriesWithin (p.text.length + 1) p

end FileSystem

end FirmwareSymbols
