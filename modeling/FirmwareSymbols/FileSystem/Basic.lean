import FirmwareSymbols.ToolError

/-!
# File systems

A finite file system. A location is the list of names that leads to a node from the root, no symbolic link among
them; the root is always a directory. The order of the nodes is the order in which directories list their entries.
-/

namespace FirmwareSymbols

inductive Node
  | file (content : ByteArray) (executable : Bool)
  | directory
  | link (target : Path)
  /-- The device that holds nothing and keeps nothing of what is written to it. -/
  | null
  /-- A file that cannot be read. -/
  | sealed (cause : IoCause) (executable : Bool)

abbrev Location := List String

/-- What the listing of a directory does not tell of an entry, and why. -/
inductive Hidden
  /-- The entry itself: an error stands in its place. -/
  | entry (cause : IoCause)
  /-- Of what kind it is. -/
  | kind (cause : IoCause)
deriving DecidableEq, Repr

/-- What a listing has in the place of an entry. -/
inductive Listed
  | entry (name : String) (node : Node)
  /-- The kind of the entry is not told. -/
  | unknown (name : String) (cause : IoCause)
  /-- The entry could not be read. -/
  | unread (cause : IoCause)

/-- The name of the entry, if it could be read. -/
def Listed.name : Listed → Except IoCause String
  | .entry name _ | .unknown name _ => .ok name
  | .unread cause => .error cause

/-- What the device refuses; by default nothing. -/
structure Device where
  create : Option IoCause := none
  write : Option IoCause := none
  rename : Option IoCause := none
  /-- Why the entries of the directory at a location cannot be listed, if so. -/
  list : Location → Option IoCause := fun _ => none
  /-- What listings do not tell of the entry at a location, if anything. -/
  hide : Location → Option Hidden := fun _ => none
  /-- What is added to the words about a temporary file that is refused, from its path. -/
  temporaryNote : Path → String := fun _ => ""

structure FileSystem where
  nodes : List (Location × Node)
  working : Location
  device : Device := {}

namespace FileSystem

/-- The absolute path of a location. -/
def pathOf (l : Location) : Path := ⟨"/" ++ String.intercalate "/" l⟩

/-- The node at a location. -/
def node? (fs : FileSystem) (l : Location) : Option Node :=
  if l = [] then some .directory else fs.nodes.lookup l

/-- The name of `l` if it lies directly inside `dir`. -/
def nameIn? (dir l : Location) : Option String := if l.dropLast = dir then l.getLast? else none

/-- The nodes directly inside a directory with their names, in listing order. -/
def children (fs : FileSystem) (dir : Location) : List (String × Node) :=
  fs.nodes.filterMap fun (l, n) => (nameIn? dir l).map fun name => (name, n)

/-- What the listing of a directory has in the place of one of these. -/
def listed (fs : FileSystem) (dir : Location) (child : String × Node) : Listed :=
  match fs.device.hide (dir ++ [child.1]) with
  | none => .entry child.1 child.2
  | some (.kind cause) => .unknown child.1 cause
  | some (.entry cause) => .unread cause

/-- The listing of a directory. -/
def listing (fs : FileSystem) (dir : Location) : List Listed := (fs.children dir).map (fs.listed dir)

/-- Replaces the node at a location in a list of nodes, or puts it at the end. -/
def setNode (l : Location) (n : Node) : List (Location × Node) → List (Location × Node)
  | [] => [(l, n)]
  | (k, m) :: rest => if k = l then (k, n) :: rest else (k, m) :: setNode l n rest

def set (fs : FileSystem) (l : Location) (n : Node) : FileSystem := { fs with nodes := setNode l n fs.nodes }

def remove (fs : FileSystem) (l : Location) : FileSystem :=
  { fs with nodes := fs.nodes.filter fun (k, _) => k ≠ l }

/-- The locations of all directories. -/
def directories (fs : FileSystem) : List Location :=
  [] :: fs.nodes.filterMap fun (l, n) =>
    match n with
    | .directory => some l
    | _ => none

end FileSystem

end FirmwareSymbols
