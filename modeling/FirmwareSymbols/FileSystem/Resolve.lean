import FirmwareSymbols.FileSystem.Basic

/-!
# From paths to locations

A path is followed name by name from the root or from the working directory. Symbolic links on the way are replaced
by their targets, at most `maxLinks` of them. A slash at the end asks for a directory.
-/

namespace FirmwareSymbols

namespace FileSystem

/-- How many symbolic links one path may lead through. -/
def maxLinks : Nat := 40

/-- Longer paths are refused, in bytes. -/
def maxPathBytes : Nat := 4095

/-- Longer names are refused, in bytes. -/
def maxNameBytes : Nat := 255

/-- The steps of a path: its parts without the empty ones, and a dot in the place of a slash at the end. -/
def steps (p : Path) : List String :=
  let parts := p.parts.filter (· ≠ "")
  if p.text.toList.getLast? = some '/' then parts ++ ["."] else parts

/-- Where a path starts. -/
def start (p : Path) (current : Location) : Location := if p.isAbsolute then [] else current

/-- The location that the steps lead to from `l`. A link in the last place is followed only if `followLast`. -/
def follow (fs : FileSystem) (followLast : Bool) (links : Nat) (l : Location) (todo : List String) :
    Except IoCause Location :=
  match todo with
  | [] => .ok l
  | step :: rest =>
    match fs.node? l with
    | some .directory =>
      if step = "." then follow fs followLast links l rest
      else if step = ".." then follow fs followLast links l.dropLast rest
      else if maxNameBytes < step.utf8ByteSize then .error .nameTooLong
      else
        match fs.node? (l ++ [step]) with
        | none => .error .notFound
        | some (.link target) =>
          if rest.isEmpty && !followLast then .ok (l ++ [step])
          else
            match links with
            | 0 => .error .tooManyLinks
            | n + 1 => follow fs followLast n (start target l) (steps target ++ rest)
        | some _ => follow fs followLast links (l ++ [step]) rest
    | some _ => .error .notDirectory
    | none => .error .notFound
termination_by (links, todo.length)

/-- The location of a path that names an existing node. -/
def locate (fs : FileSystem) (p : Path) (followLast : Bool := true) : Except IoCause Location :=
  if p.hasNul then .error .nulInPath
  else if p.text = "" then .error .notFound
  else if maxPathBytes < p.text.utf8ByteSize then .error .nameTooLong
  else follow fs followLast maxLinks (start p fs.working) (steps p)

/-- The node that a path leads to. -/
def stat (fs : FileSystem) (p : Path) : Except IoCause (Location × Node) := do
  let l ← fs.locate p
  match fs.node? l with
  | some n => .ok (l, n)
  | none => .error .notFound

end FileSystem

end FirmwareSymbols
