import FirmwareSymbols.Main.Script.Regex
import FirmwareSymbols.Main.Script.Utility.Lines

/-!
# Searching lines

Programs that look for lines in which one of some patterns matches: regular expressions, or texts.
-/

namespace FirmwareSymbols.Script.Utility

/-- A test for lines: where the first match starts and ends from a place on. -/
abbrev Finder := Place → Option (Place × Place)

/-- Finds a fixed text. -/
def textFinder (ignoresCase : Bool) (text : List Char) : Finder :=
  (text.foldr (fun c r => Regex.sequence (.one (.exactly c)) r) .nothing).find? ignoresCase

/-- Whether a match is a line, or consists of whole words. -/
def isWhole (call : Call) (m : Place × Place) : Bool :=
  (!call.has 'x' || (m.1.before.isNone && m.2.rest.isEmpty)) &&
    (!call.has 'w' || (!m.1.before.any isWordChar && !m.2.rest.head?.any isWordChar))

/-- The first match that is whole, among those that start at different places. -/
def firstWhole (call : Call) (find : Finder) : Nat → Place → Option (Place × Place)
  | 0, _ => none
  | n + 1, p =>
    match find p with
    | none => none
    | some m => if isWhole call m then some m else if m.1.rest.isEmpty then none else firstWhole call find n (m.1.skip 1)

/-- The matches in a line one after another. -/
def matchesIn (find : Finder) : Nat → Place → List (List Char)
  | 0, _ => []
  | n + 1, p =>
    match find p with
    | none => []
    | some (a, b) =>
      let next := if a.rest.length = b.rest.length then b.skip 1 else b
      let others := if p.rest.isEmpty then [] else matchesIn find n next
      if a.upTo b = [] then others else a.upTo b :: others

def grepOptions : List Known :=
  [⟨'E', "extended-regexp", false⟩, ⟨'F', "fixed-strings", false⟩, ⟨'G', "basic-regexp", false⟩,
    ⟨'i', "ignore-case", false⟩, ⟨'v', "invert-match", false⟩, ⟨'c', "count", false⟩, ⟨'n', "line-number", false⟩,
    ⟨'l', "files-with-matches", false⟩, ⟨'L', "files-without-match", false⟩, ⟨'o', "only-matching", false⟩,
    ⟨'q', "quiet", false⟩, ⟨'s', "no-messages", false⟩, ⟨'w', "word-regexp", false⟩, ⟨'x', "line-regexp", false⟩,
    ⟨'e', "regexp", true⟩, ⟨'h', "no-filename", false⟩, ⟨'H', "with-filename", false⟩, ⟨'m', "max-count", true⟩,
    ⟨'a', "text", false⟩, ⟨'f', "file", true⟩]

/-- The finders for the lines of patterns. -/
def findersOf (call : Call) (extended isFixed : Bool) (patterns : List String) : Except String (List Finder) :=
  patterns.mapM fun text => do
    let cs := byteChars text
    if isFixed then return textFinder (call.has 'i') cs
    return (← Regex.ofText extended cs).find? (call.has 'i')

/-- Writes what is found in one file; whether something was. -/
def grepFile (call : Call) (finders : List Finder) (mark : String) (data : Bytes) : Action Bool := do
  let lines := (linesOf data).map fun l => (chomped l).map byteChar
  let found (line : List Char) : Bool :=
    finders.any fun find => (firstWhole call find (line.length + 2) { rest := line }).isSome
  let limit := ((call.argument? 'm').bind natural?).getD lines.length
  let hits := ((lines.zipIdx 1).filter fun (line, _) => found line ≠ call.has 'v').take limit
  let isHit := !hits.isEmpty
  if call.has 'q' then return isHit
  if call.has 'l' || call.has 'L' then
    if isHit = call.has 'l' then let _ ← writeString (String.ofList (mark.toList.dropLast) ++ "\n")
    return isHit
  if call.has 'c' then
    let _ ← writeString (mark ++ toString hits.length ++ "\n")
    return isHit
  for (line, n) in hits do
    let front := mark ++ if call.has 'n' then toString n ++ ":" else ""
    let texts :=
      if call.has 'o' then
        finders.flatMap fun find => matchesIn (fun p => firstWhole call find (p.rest.length + 2) p) (line.length + 2) { rest := line }
      else [line]
    for text in texts do
      let _ ← write (front.toUTF8 ++ bytesOf (text ++ ['\n']))
  return isHit

/-- Searches files for lines with one of some patterns. -/
def grepWith (extended isFixed : Bool) : Utility := fun _ =>
  withOptions grepOptions false 2 fun call => do
    let given := (call.options.filter fun o => o.1 = 'e').map Prod.snd
    let (patterns, paths) :=
      if call.has 'e' then (given, call.operands) else (call.operands.take 1, call.operands.drop 1)
    if patterns.isEmpty then
      putError ("Usage: " ++ (← programName) ++ " [OPTION]... PATTERNS [FILE]...\nTry '" ++ (← programName) ++
        " --help' for more information.")
      return 2
    let extended := (extended || call.has 'E') && !call.has 'G'
    match findersOf call extended (isFixed || call.has 'F') (patterns.flatMap (Text.splitText '\n')) with
    | .error text =>
      complain text
      return 2
    | .ok finders =>
      let mut isFound := false
      let mut isFaulty := false
      let showsNames := (1 < paths.length || call.has 'H') && !call.has 'h'
      for path in if paths.isEmpty then ["-"] else paths do
        let name := if path = "-" then "(standard input)" else path
        let mark := if showsNames || call.has 'l' || call.has 'L' then name ++ ":" else ""
        match ← contentOf path with
        | .ok data => if ← grepFile call finders mark data.toList then isFound := true
        | .error cause =>
          if !call.has 's' then complain (path ++ ": " ++ cause.words)
          isFaulty := true
      return if isFaulty && !(isFound && call.has 'q') then 2 else if isFound then 0 else 1

end FirmwareSymbols.Script.Utility
