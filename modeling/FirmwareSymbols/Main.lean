import FirmwareSymbols.CommandLine.Run
import FirmwareSymbols.Main.Script.Start

/-!
# The program

Takes a picture of the files that the arguments name, with the programs of the system, carries the call out on it, and
brings what has changed back to the disk. A file counts as executable if it starts like a script.
-/

namespace FirmwareSymbols.Program

/-- The names on the way to an absolute path. -/
def locationOf (path : String) : Location := (Path.mk path).parts.filter (· ≠ "")

def textOf (l : Location) : String := (FileSystem.pathOf l).text

def isScript (content : ByteArray) : Bool := (content.toList.take 2) = "#!".toUTF8.toList

/-- What was seen of the disk: nodes, and the locations that were looked at with all that is below them. -/
structure Picture where
  nodes : List (Location × Node) := []
  seen : List Location := []

namespace Picture

def add (p : Picture) (l : Location) (n : Node) : Picture := { p with nodes := FileSystem.setNode l n p.nodes }

/-- Adds the directories on the way to a location, and the location itself as a directory. -/
def addWay (p : Picture) (l : Location) : Picture :=
  ((List.range l.length).map fun n => l.take (n + 1)).foldl (fun p d => p.add d .directory) p

end Picture

/-- The cause of an error. -/
def causeOf : IO.Error → IoCause
  | .permissionDenied .. => .permissionDenied
  | e => .other e.toString

/-- The location that a path really leads to. -/
def realLocation (path : String) : IO Location := do return locationOf (← IO.FS.realPath path).toString

mutual

/-- Adds an entry of a directory and all that is below it or that it leads to. -/
partial def addEntry (p : Picture) (dir : Location) (name : String) : IO Picture := do
  let l := dir ++ [name]
  if p.seen.contains l then return p
  let p := { p with seen := l :: p.seen }
  let file := (← IO.FS.realPath (textOf dir)) / name
  match (← file.symlinkMetadata).type with
  | .dir =>
    let entries ← file.readDir
    entries.toList.foldlM (fun p e => addEntry p l e.fileName) (p.add l .directory)
  | .file =>
    try
      let content ← IO.FS.readBinFile file
      return p.add l (.file content (isScript content))
    catch e => return p.add l (.sealed (causeOf e) false)
  | .symlink =>
    let target := (← IO.FS.realPath file).toString
    let p := p.add l (.link ⟨target⟩)
    if ← file.pathExists then addAll p (locationOf target) else return p
  | .other => return if textOf l = "/dev/null" then p.add l .null else p

/-- Adds a location without links on its way, and all that is below it. -/
partial def addAll (p : Picture) (l : Location) : IO Picture :=
  match l.getLast? with
  | none => return p
  | some name => addEntry (p.addWay l.dropLast) l.dropLast name

end

/-- Adds what a text of the command line names, if it names something: the directory that holds it, and the entry. -/
def addMentioned (p : Picture) (text : String) : IO Picture := do
  let path := Path.mk text
  let parent := (path.parent?.map Path.text).getD "."
  try
    let dir ← realLocation (if parent = "" then "." else parent)
    let p := p.addWay dir
    match path.fileName? with
    | some name => (try addEntry p dir name catch _ => return p)
    | none => addAll p (← realLocation text)
  catch _ => return p

/-- The texts in an argument that may be paths: the pieces between commas, also after an equals sign. -/
def mentions (argument : String) : List String :=
  let value := String.ofList (argument.toList.dropWhile (· ≠ '=')).tail
  (Text.splitText ',' argument ++ Text.splitText ',' value).filter (· ≠ "")

/-- Brings one node to the disk if it is new or has changed. -/
def store (before : FileSystem) (l : Location) (n : Node) : IO Unit := do
  match n, before.node? l with
  | .directory, none => IO.FS.createDir (textOf l)
  | .file content _, some (.file old _) => if content != old then writeFile content
  | .file content _, _ => writeFile content
  | _, _ => return ()
where
  writeFile (content : ByteArray) : IO Unit := do
    let fresh := textOf (l.dropLast ++ [".tmp-" ++ l.getLast?.getD ""])
    IO.FS.writeBinFile fresh content
    IO.FS.rename fresh (textOf l)

/-- Nodes in an order in which directories come before what they hold. -/
def outermostFirst (nodes : List (Location × Node)) : List (Location × Node) :=
  nodes.mergeSort fun a b => a.1.length ≤ b.1.length

/-- Removes a node from the disk if it is there no more. -/
def discard (after : FileSystem) (l : Location) (n : Node) : IO Unit := do
  match n, after.node? l with
  | .directory, none => IO.FS.removeDir (textOf l)
  | .file _ _, none | .sealed _ _, none | .link _, none => IO.FS.removeFile (textOf l)
  | _, _ => return ()

/-- The variables that rasterizers may look at. -/
def variableNames : List String :=
  ["PATH", "HOME", "USER", "LOGNAME", "SHELL", "PWD", "LANG", "TMPDIR", "DISPLAY", "NO_COLOR", "CLICOLOR_FORCE",
    Raster.programVariable]

/-- The variables that are set. -/
def vars : IO (List (String × String)) :=
  variableNames.filterMapM fun name => do return (← IO.getEnv name).map fun value => (name, value)

/-- What is said of a temporary file beside the cause. -/
def temporaryNote (file : Path) : String := " at path " ++ String.ofList (Text.quoted '"' file.text.toList)

open CommandLine in
/-- What a call comes to, whose text was written to standard output as far as that takes it. -/
def printed (environment : Environment) (fs : FileSystem) (arguments : List String) : IO Result := do
  let result := execute environment fs arguments
  try
    IO.print result.stdout
    (← IO.getStdout).flush
    return result
  catch error =>
    return execute { environment with stdout := fun _ => some ("", causeOf error) } fs arguments

open CommandLine in
/-- Carries out a call and gives its exit status. -/
def run (arguments : List String) : IO UInt32 := do
  let vars ← vars
  let searchPath := vars.lookup "PATH"
  let rasterizer := vars.lookup Raster.programVariable
  let programs := ((searchPath.map (Text.splitText ':')).getD []).map fun dir =>
    ((Path.mk dir).join Raster.programName).text
  let working ← realLocation "."
  let texts := arguments.flatMap mentions ++ programs ++ rasterizer.toList
  let picture ← texts.foldlM addMentioned (Picture.addWay {} working)
  let nodes := picture.nodes.foldl (fun nodes (l, n) => FileSystem.setNode l n nodes) Script.systemNodes
  let fs : FileSystem := { nodes, working, device := { temporaryNote } }
  let environment : Environment :=
    { searchPath, rasterizer, launcher := Script.start vars, forceColor := vars.lookup "CLICOLOR_FORCE",
      noColor := vars.lookup "NO_COLOR" }
  let result ← printed environment fs arguments
  (outermostFirst fs.nodes).reverse.forM fun (l, n) => discard result.files l n
  (outermostFirst result.files.nodes).forM fun (l, n) => store fs l n
  IO.eprint result.stderr
  return UInt32.ofNat result.code

end FirmwareSymbols.Program

def main (arguments : List String) : IO UInt32 := FirmwareSymbols.Program.run arguments
