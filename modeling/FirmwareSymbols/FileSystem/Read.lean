import FirmwareSymbols.FileSystem.Resolve

/-!
# Reading from a file system

Contents of files, entries of directories, and what kind of node a path leads to.
-/

namespace FirmwareSymbols

namespace FileSystem

def readBytes (fs : FileSystem) (p : Path) : Except IoCause ByteArray := do
  match ← fs.stat p with
  | (_, .file content _) => .ok content
  | (_, .sealed cause _) => .error cause
  | (_, .null) => .ok .empty
  | (_, .directory) => .error .isDirectory
  | (_, .link _) => .error .notFound

/-- The content of a file that is UTF-8. -/
def readText (fs : FileSystem) (p : Path) : Except IoCause String := do
  match String.fromUTF8? (← fs.readBytes p) with
  | some text => .ok text
  | none => .error .invalidUtf8

/-- The listing of a directory. -/
def readDirectory (fs : FileSystem) (p : Path) : Except IoCause (List Listed) := do
  match ← fs.stat p with
  | (l, .directory) =>
    match fs.device.list l with
    | some cause => .error cause
    | none => .ok (fs.listing l)
  | _ => .error .notDirectory

def isDirectory (fs : FileSystem) (p : Path) : Bool :=
  match fs.stat p with
  | .ok (_, .directory) => true
  | _ => false

def isFile (fs : FileSystem) (p : Path) : Bool :=
  match fs.stat p with
  | .ok (_, .file ..) | .ok (_, .sealed ..) => true
  | _ => false

def isExecutable (fs : FileSystem) (p : Path) : Bool :=
  match fs.stat p with
  | .ok (_, .file _ executable) | .ok (_, .sealed _ executable) => executable
  | _ => false

end FileSystem

end FirmwareSymbols
