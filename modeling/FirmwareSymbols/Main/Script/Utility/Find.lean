import FirmwareSymbols.Main.Script.Utility.Files
import FirmwareSymbols.Main.Script.Utility.Processes

/-!
# Walking through directories

A walk meets a path and, if that is a directory, all that is below it. What is done with each of them is told by an
expression, whose parts are tests and actions joined by words.
-/

namespace FirmwareSymbols.Script.Utility

/-- What is asked about an entry, or done with it. An action holds if it succeeds. -/
inductive Finding
  | always
  | name (ignoresCase : Bool) (pattern : String)
  | path (pattern : String)
  | type (letter : Char)
  | empty
  | print (ending : String)
  | delete
  /-- Runs a command, in which two braces stand for the path. -/
  | run (words : List String)
  | not (e : Finding)
  | and (e f : Finding)
  | or (e f : Finding)

namespace Finding

def isAction : Finding → Bool
  | print _ | delete | run _ => true
  | not e => e.isAction
  | and e f | or e f => e.isAction || f.isAction
  | always | name _ _ | path _ | type _ | empty => false

/-- Whether an entry is removed, so that what is below it has to come first. -/
def removes : Finding → Bool
  | delete => true
  | not e => e.removes
  | and e f | or e f => e.removes || f.removes
  | _ => false

end Finding

/-- How deep a walk goes, and what it looks for. -/
structure Walk where
  minDepth : Nat := 0
  maxDepth : Option Nat := none
  finding : Finding := .always

/-! ### Reading expressions -/

abbrev FindReading := StateT Walk (Except String)

/-- The argument of a word. -/
def findArgument (word : String) : List String → FindReading (String × List String)
  | [] => throw ("missing argument to `" ++ word ++ "'")
  | argument :: rest => return (argument, rest)

def findDepth (word : String) (words : List String) : FindReading (Nat × List String) := do
  let (argument, rest) ← findArgument word words
  match argument.toNat? with
  | some n => return (n, rest)
  | none =>
    throw ("Expected a positive decimal integer argument to " ++ word ++ ", but got " ++ quote argument)

mutual

/-- One test or action, and the words after it. -/
def findOne : Nat → List String → FindReading (Finding × List String)
  | 0, _ | _, [] => throw "expected an expression"
  | n + 1, word :: rest => do
    match word with
    | "!" | "-not" =>
      let (e, rest) ← findOne n rest
      return (.not e, rest)
    | "(" =>
      match ← findAny n rest with
      | (e, ")" :: rest) => return (e, rest)
      | _ => throw "invalid expression; I was expecting to find a ')' somewhere but did not see one."
    | "-name" => (fun (p, rest) => (.name false p, rest)) <$> findArgument word rest
    | "-iname" => (fun (p, rest) => (.name true p, rest)) <$> findArgument word rest
    | "-path" => (fun (p, rest) => (.path p, rest)) <$> findArgument word rest
    | "-type" =>
      let (letter, rest) ← findArgument word rest
      match letter.toList with
      | [c] => return (.type c, rest)
      | _ => throw ("Unknown argument to -type: " ++ letter)
    | "-empty" => return (.empty, rest)
    | "-print" => return (.print "\n", rest)
    | "-print0" => return (.print "\x00", rest)
    | "-delete" => return (.delete, rest)
    | "-true" => return (.always, rest)
    | "-maxdepth" =>
      let (d, rest) ← findDepth word rest
      modify fun w => { w with maxDepth := some d }
      return (.always, rest)
    | "-mindepth" =>
      let (d, rest) ← findDepth word rest
      modify fun w => { w with minDepth := d }
      return (.always, rest)
    | "-exec" =>
      match rest.dropWhile (· ≠ ";") with
      | [] => throw "missing argument to `-exec'"
      | _ :: after => return (.run (rest.takeWhile (· ≠ ";")), after)
    | _ => throw ("unknown predicate `" ++ word ++ "'")

/-- Tests of which all have to hold. -/
def findAll : Nat → List String → FindReading (Finding × List String)
  | 0, _ => throw "expected an expression"
  | n + 1, words => do
    let (e, rest) ← findOne n words
    let more (rest : List String) : FindReading (Finding × List String) := do
      let (f, rest) ← findAll n rest
      return (.and e f, rest)
    match rest with
    | [] | ")" :: _ | "-o" :: _ | "-or" :: _ => return (e, rest)
    | "-a" :: rest | "-and" :: rest => more rest
    | rest => more rest

/-- Tests of which one has to hold. -/
def findAny : Nat → List String → FindReading (Finding × List String)
  | 0, _ => throw "expected an expression"
  | n + 1, words => do
    let (e, rest) ← findAll n words
    match rest with
    | "-o" :: rest | "-or" :: rest =>
      let (f, rest) ← findAny n rest
      return (.or e f, rest)
    | rest => return (e, rest)

end

/-- What the words after the paths say. Entries are told if there is no other action. -/
def walk? (words : List String) : Except String Walk := do
  if words.isEmpty then return { finding := .print "\n" }
  let ((e, rest), w) ← (findAny (3 * words.length + 3) words).run {}
  if !rest.isEmpty then throw "invalid expression; you have too many ')'"
  return { w with finding := if e.isAction then e else .and e (.print "\n") }

/-! ### Walking -/

def typeLetter : Node → Char
  | .directory => 'd'
  | .link _ => 'l'
  | .file .. | .sealed .. => 'f'
  | .null => 'c'

def isEmptyNode (fs : FileSystem) (l : Location) : Node → Bool
  | .directory => (fs.children l).isEmpty
  | .file content _ => content.size = 0
  | .link _ | .null | .sealed .. => false

def fits (pattern text : String) : Bool := matchesText (matchers (pattern.toList.map fun c => ⟨c, false⟩)) text

/-- Whether an expression holds for an entry; its actions are carried out. -/
def Finding.holds (below : Level) (path : String) (l : Location) (n : Node) : Finding → Action Bool
  | always => return true
  | name ignoresCase pattern =>
    return if ignoresCase then fits pattern.toLower (baseName path).toLower else fits pattern (baseName path)
  | Finding.path pattern => return fits pattern path
  | type letter => return typeLetter n = letter
  | empty => return isEmptyNode (← files) l n
  | print ending => return (← writeString (path ++ ending)) = 0
  | delete => do
    if path = "." then return true
    let remove := if typeLetter n = 'd' then FileSystem.removeDirectory else FileSystem.removeEntry
    changeOr (remove · ⟨path⟩) ("cannot delete " ++ quote path)
  | run words => do
    let words := words.map fun w => path.intercalate (w.splitOn "\x7b\x7d")
    return (← runWords below words) = .code 0
  | not e => return !(← e.holds below path l n)
  | and e f => do if ← e.holds below path l n then f.holds below path l n else return false
  | or e f => do if ← e.holds below path l n then return true else f.holds below path l n

/-- Meets an entry and what is below it; directories are not nested deeper than `fuel`. -/
def Walk.visit (below : Level) (w : Walk) : Nat → Nat → String → Location → Node → Action Unit
  | 0, _, _, _, _ => pure ()
  | fuel + 1, depth, path, l, n => do
    let meet : Action Unit := do
      if w.minDepth ≤ depth then
        let _ ← w.finding.holds below path l n
    let inside : Action Unit := do
      if typeLetter n = 'd' && w.maxDepth.all (depth < ·) then
        let front := if path.toList.getLast? = some '/' then path else path ++ "/"
        for (name, entry) in (← files).children l do
          w.visit below fuel (depth + 1) (front ++ name) (l ++ [name]) entry
    if w.finding.removes then
      inside
      meet
    else
      meet
      inside

/-- Whether a word belongs to the expression. -/
def startsFinding (word : String) : Bool := word = "!" || word = "(" || word.toList.head? = some '-'

def find : Utility := fun below arguments => do
  let paths := arguments.takeWhile fun word => !startsFinding word
  match walk? (arguments.dropWhile fun word => !startsFinding word) with
  | .error text =>
    complain text
    return 1
  | .ok w =>
    eachOperand (if paths.isEmpty then ["."] else paths) fun path => do
      let fs ← files
      match fs.entry ⟨path⟩ with
      | .ok (l, n) =>
        w.visit below (fs.nodes.length + 2) 0 path l n
        return true
      | .error cause =>
        complain (quote path ++ ": " ++ cause.words)
        return false

end FirmwareSymbols.Script.Utility
