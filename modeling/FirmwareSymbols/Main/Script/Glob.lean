import FirmwareSymbols.Main.Script.Change
import FirmwareSymbols.Main.Script.Expansion

/-!
# Paths that match a pattern

A field with characters that make it a pattern stands for all existing paths that match it, part by part, in order.
Names that start with a dot are matched only by patterns that do. A field that nothing matches stands for itself.
-/

namespace FirmwareSymbols.Script

/-- The parts of a field between its slashes. -/
def slashParts (marks : List Mark) : List (List Mark) :=
  marks.foldr (fun m parts =>
    match m.char, parts with
    | '/', _ => [] :: parts
    | _, [] => [[m]]
    | _, p :: rest => (m :: p) :: rest) [[]]

/-- The names in a directory that a part matches. -/
def matchingNames (files : FileSystem) (dir : String) (part : List Mark) : List String :=
  let pattern := matchers part
  let takesHidden := part.head?.any fun m => m.char = '.'
  let names := match files.readDirectory ⟨if dir = "" then "." else dir⟩ with
    | .ok entries => ["."] ++ [".."] ++ entries.filterMap fun (e : Listed) => e.name.toOption
    | .error _ => []
  names.filter fun name => (takesHidden || name.toList.head? ≠ some '.') && matchesText pattern name

/-- The existing paths that start like this and go on with parts that match. -/
def pathsFrom (files : FileSystem) (front : String) : List (List Mark) → List String
  | [] => if files.hasEntry ⟨front⟩ then [front] else []
  | part :: rest =>
    let more (name : String) : List String := pathsFrom files (front ++ name ++ if rest.isEmpty then "" else "/") rest
    if part.any Mark.isWild then (matchingNames files front part).flatMap more else more (textOf part)

/-- The texts that a field stands for. -/
def globbed (s : Shell) (files : FileSystem) (field : List Mark) : List String :=
  if s.hasOption 'f' || !field.any Mark.isWild then [textOf field]
  else
    match pathsFrom files "" (slashParts field) with
    | [] => [textOf field]
    | found => found.mergeSort fun a b => !decide (b < a)

namespace Level

/-- The texts that a word stands for. -/
def expanded (below : Level) (w : Word) : Action (List String) := do
  let fields ← below.fields w
  let m ← get
  return fields.flatMap (globbed m.shell m.files)

def expandedAll (below : Level) (ws : List Word) : Action (List String) := do
  return (← ws.mapM below.expanded).flatten

end Level

end FirmwareSymbols.Script
