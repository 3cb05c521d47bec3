import FirmwareSymbols.FileSystem.Read
import FirmwareSymbols.Text.Utf8

/-!
# Files that can be executed

A program of the system is a binary that tells its name. A file that starts with the mark of scripts names its
interpreter, perhaps with one argument; the interpreter then gets the path of the script and the arguments. Programs
are looked up by name in the directories of a search path.
-/

namespace FirmwareSymbols.Script

/-- What a process becomes: a program of the system, the name by which it was called, and its arguments. -/
structure Image where
  program : String
  name : String
  arguments : List String
deriving DecidableEq, Repr

/-! ### Programs of the system -/

/-- The header of a binary without sections, for machines with 64 bits. -/
def binaryHeader : List UInt8 :=
  [0x7f, 0x45, 0x4c, 0x46, 2, 1, 1] ++ List.replicate 9 0 ++ [2, 0, 62, 0, 1, 0, 0, 0] ++ List.replicate 28 0 ++
    [64, 0] ++ List.replicate 10 0

/-- The binary of a program of the system. -/
def binary (program : String) : ByteArray := ⟨(binaryHeader ++ program.toUTF8.toList).toArray⟩

/-- The name of the program that a binary is. -/
def programOf? (content : ByteArray) : Option String :=
  (binaryHeader.isPrefixOf? content.toList).map Text.decodeLossy

/-! ### Interpreters -/

/-- How many bytes at the start of a script may name its interpreter. -/
def interpreterLimit : Nat := 256

def isGap (c : Char) : Bool := c = ' ' || c = '\t'

/-- The interpreter that a script names, and its argument if it has one. -/
def interpreter? (content : ByteArray) : Option (String × Option String) := do
  let start := content.toList.take interpreterLimit
  let rest ← "#!".toList.isPrefixOf? (Text.decodeLossy start).toList
  let line := (rest.takeWhile (· ≠ '\n')).dropWhile isGap
  let name := line.takeWhile fun c => !isGap c
  if name.isEmpty || (name.length = line.length && start.length = interpreterLimit && !rest.contains '\n') then none
  let argument := (((line.dropWhile fun c => !isGap c).dropWhile isGap).reverse.dropWhile isGap).reverse
  return (String.ofList name, if argument.isEmpty then none else some (String.ofList argument))

/-- How many files in a row may be each other's interpreters. -/
def interpreterDepth : Nat := 6

/-- What a process becomes that executes a file. -/
def imageWithin (files : FileSystem) : Nat → Path → String → List String → Except IoCause Image
  | 0, _, _, _ => .error .tooManyLinks
  | n + 1, path, name, arguments => do
    match ← files.stat path with
    | (_, .file content true) =>
      match programOf? content with
      | some program => .ok ⟨program, name, arguments⟩
      | none =>
        match interpreter? content with
        | some (interpreter, argument) =>
          imageWithin files n ⟨interpreter⟩ interpreter (argument.toList ++ path.text :: arguments)
        | none => .error .badExecutable
    | _ => .error .permissionDenied

def imageAt (files : FileSystem) (path : Path) (name : String) (arguments : List String) : Except IoCause Image :=
  imageWithin files interpreterDepth path name arguments

/-! ### Looking up names -/

/-- The paths at which a name may be found. An empty text in the search path stands for the working directory. -/
def candidates (searchPath name : String) : List Path :=
  if name.toList.contains '/' then [⟨name⟩]
  else (Text.splitText ':' searchPath).map fun dir => ⟨if dir = "" then name else dir ++ "/" ++ name⟩

/-- Causes that let the search for a program go on. -/
def isPassedOver (cause : IoCause) : Bool := [.notFound, .notDirectory, .permissionDenied].contains cause

/-- What is started by its name: the first candidate that is a program. If there is none, a refusal counts before
what was missing last. -/
def startedImage (files : FileSystem) (searchPath name : String) (arguments : List String) : Except IoCause Image :=
  if name = "" then .error .notFound
  else if !name.toList.contains '/' && FileSystem.maxNameBytes < name.utf8ByteSize then .error .nameTooLong
  else
    let found := (candidates searchPath name).map fun path => imageAt files path name arguments
    let isAnswer : Except IoCause Image → Bool
      | .ok _ => true
      | .error cause => !isPassedOver cause
    match found.find? isAnswer with
    | some answer => answer
    | none =>
      let causes := found.filterMap fun
        | .error cause => some cause
        | .ok _ => none
      .error (if causes.contains .permissionDenied then .permissionDenied else causes.getLast?.getD .notFound)

/-- The shell. -/
def shellPath : Path := ⟨"/bin/sh"⟩

/-- The program at a path; a file of unknown kind is a script for the shell. -/
def commandImage (files : FileSystem) (name : String) (arguments : List String) (path : Path) : Except IoCause Image :=
  match imageAt files path name arguments with
  | .error .badExecutable => imageAt files shellPath shellPath.text (path.text :: arguments)
  | answer => answer

/-- What a command of a script starts, and else the cause with the status that tells it. -/
def calledImage (files : FileSystem) (searchPath name : String) (arguments : List String) :
    Except (IoCause × Nat) Image :=
  let paths := candidates searchPath name
  let isRegular (path : Path) : Bool := files.isFile path
  if !name.toList.contains '/' && !paths.any isRegular then
    .error (if paths.any fun path => (files.stat path).isOk then .permissionDenied else .notFound, 127)
  else
    let found := paths.map (commandImage files name arguments)
    match found.find? Except.isOk with
    | some (.ok image) => .ok image
    | _ =>
      let causes := found.filterMap fun
        | .error cause => if cause = .notFound || cause = .notDirectory then none else some cause
        | .ok _ => none
      match causes.getLast? with
      | none => .error (.notFound, 127)
      | some cause => .error (cause, if cause = .tooManyLinks || cause = .nameTooLong then 127 else 126)

end FirmwareSymbols.Script
