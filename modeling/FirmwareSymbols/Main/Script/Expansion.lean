import FirmwareSymbols.Main.Script.Arithmetic
import FirmwareSymbols.Main.Script.Level
import FirmwareSymbols.Main.Script.Pattern

/-!
# Expanding words

The texts that a word stands for when its references are replaced. A value that is not quoted is split into fields at
the separators, and a field without any character remains only if it was quoted.
-/

namespace FirmwareSymbols.Script

/-- The parts of an expanded word. -/
inductive Atom
  | mark (m : Mark)
  /-- A character of a value that was not quoted. -/
  | loose (c : Char)
  /-- A field is here even if it has no character. -/
  | present
  /-- Fields end here, or, where there are no fields, this text stands. -/
  | gap (joint : String)

/-- How fields are separated. -/
structure Splitting where
  separators : String

namespace Splitting

def isBlank (s : Splitting) (c : Char) : Bool := s.separators.toList.contains c && isSpace c

def isMark (s : Splitting) (c : Char) : Bool := s.separators.toList.contains c && !isSpace c

end Splitting

/-- The fields of atoms. `field` is the one that was begun, if any, and `afterBlank` tells whether blanks have just
ended one. -/
def fieldsFrom (split : Splitting) (field : Option (List Mark)) (afterBlank : Bool) : List Atom → List (List Mark)
  | [] => field.toList
  | .mark m :: rest => fieldsFrom split (some (field.getD [] ++ [m])) false rest
  | .present :: rest => fieldsFrom split (some (field.getD [])) false rest
  | .gap _ :: rest => field.toList ++ fieldsFrom split none false rest
  | .loose c :: rest =>
    if split.isBlank c then field.toList ++ fieldsFrom split none (afterBlank || field.isSome) rest
    else if split.isMark c then
      if field.isNone && afterBlank then fieldsFrom split none false rest
      else field.getD [] :: fieldsFrom split none false rest
    else fieldsFrom split (some (field.getD [] ++ [⟨c, false⟩])) false rest

/-- The characters of atoms as a single field. -/
def joinedAtoms (atoms : List Atom) : List Mark :=
  atoms.flatMap fun
    | .mark m => [m]
    | .loose c => [⟨c, false⟩]
    | .present => []
    | .gap joint => joint.toList.map fun c => ⟨c, true⟩

/-- A value as a part of a word. -/
def valueAtoms (quoted : Bool) (value : String) : List Atom :=
  if quoted then .present :: value.toList.map fun c => .mark ⟨c, true⟩ else value.toList.map .loose

/-- Text inside of a reference that is not quoted is split like values. -/
def Atom.loosened : Atom → Atom
  | .mark ⟨c, false⟩ => .loose c
  | a => a

/-- The text that stands between parameters which are joined. -/
def Shell.joint (s : Shell) : String := String.ofList (s.separators.toList.take 1)

/-- The options as letters. -/
def Shell.optionLetters (s : Shell) : String :=
  String.ofList ("pubaCEVvxsnmiIfe".toList.filter s.options.contains)

/-- The value that a name has. -/
def Shell.parameter? (s : Shell) (name : String) : Option String :=
  match Text.number? name.toList with
  | some (n, _) => if n = 0 then some s.name else s.parameters[n - 1]?
  | none =>
    match name with
    | "#" => some (toString s.parameters.length)
    | "?" => some (toString s.status)
    | "$" => some (toString s.process)
    | "!" => s.latest.map toString
    | "-" => some s.optionLetters
    | "*" | "@" => if s.parameters.isEmpty then none else some (s.joint.intercalate s.parameters)
    | _ => s.value? name

/-- A name that need not have a value. -/
def mayBeMissing (name : String) : Bool := name = "@" || name = "*"

/-- All parameters, each a field of its own, or joined. -/
def parameterAtoms (s : Shell) (quoted : Bool) (name : String) : List Atom :=
  if quoted && name = "*" then valueAtoms true (s.joint.intercalate s.parameters)
  else ((s.parameters.map (valueAtoms quoted)).intersperse [.gap s.joint]).flatten

/-- The value of a name that has one, as a part of a word. -/
def nameAtoms (s : Shell) (quoted : Bool) (name value : String) : List Atom :=
  if name = "@" || name = "*" then parameterAtoms s quoted name else valueAtoms quoted value

/-- The directory of the user in the place of a tilde at the front of a word, up to a slash. -/
def withHome (s : Shell) (stop : Char → Bool) (chars : List Char) : Option (String × List Char) :=
  match chars with
  | '~' :: rest =>
    if rest.isEmpty || rest.head?.any stop then (s.value? "HOME").map fun home => (home, rest) else none
  | _ => none

/-- Puts the directory of the user in the place of a tilde at the front of a word. -/
def homeExpanded (s : Shell) (w : Word) : Word :=
  match w with
  | .text false chars :: rest =>
    match withHome s (· = '/') chars with
    | some (home, more) =>
      if more.isEmpty && !rest.isEmpty then w else .text true home.toList :: .text false more :: rest
    | none => w
  | _ => w

/-- The same in a value that is assigned, also after each colon. -/
def homesExpanded (s : Shell) (w : Word) : Word :=
  match homeExpandedChars s w with
  | some w => w
  | none => w
where
  homeExpandedChars (s : Shell) : Word → Option Word
    | [.text false chars] =>
      let parts := (String.ofList chars).splitOn ":"
      let expanded := parts.map fun p =>
        match withHome s (· = '/') p.toList with
        | some (home, more) => home ++ String.ofList more
        | none => p
      if expanded = parts then none else some [.text true (":".intercalate expanded).toList]
    | w => some (homeExpanded s w)

namespace Level

/-- Gives a variable a value, unless it must not change. -/
def assign (name value : String) : Action Unit := do
  if (← shell).isReadOnly name then fail (name ++ ": is read only")
  modifyShell fun s => s.assign name value

/-- The value of an expression. -/
def arithmetic (text : String) : Action Int := do
  let refuse (fault : ArithmeticFault) : Action Int :=
    fail ("arithmetic expression: " ++ fault.text ++ ": \"" ++ text ++ "\"")
  let read (name : String) : Action Int := do
    let value := ((← shell).value? name).getD ""
    match variableValue? value with
    | some n => return n
    | none => fail ("Illegal number: " ++ value)
  match Arithmetic.ofText text with
  | .error fault => refuse fault
  | .ok e => e.value read (fun name n => assign name (toString n)) refuse

/-- Output as a part of a word: without the line feeds at its end, and without NUL. -/
def substitutedText (data : ByteArray) : String :=
  let bytes := (data.toList.filter (· ≠ 0)).reverse.dropWhile (· = 10)
  Text.decodeLossy bytes.reverse

/-- The message for a value that is missing. -/
def missingMessage (name : String) (alsoEmpty : Bool) (words : String) : String :=
  name ++ ": " ++
    (if words = "" then "parameter not set" ++ (if alsoEmpty then " or null" else "") else words)

/-- The value of a name that has to have one, if the options say so. -/
def requiredValue (name : String) : Action String := do
  let s ← shell
  match s.parameter? name with
  | some value => return value
  | none =>
    if s.hasOption 'u' && !mayBeMissing name then fail (missingMessage name false "") else return ""

mutual

def piece (below : Level) : Piece → Action (List Atom)
  | .text quoted chars =>
    return (if quoted then [.present] else []) ++ chars.map fun c => .mark ⟨c, quoted⟩
  | .value quoted name => do
    let value ← requiredValue name
    return nameAtoms (← shell) quoted name value
  | .size quoted name => do
    let value ← requiredValue name
    return valueAtoms quoted (toString value.utf8ByteSize)
  | .trimmed quoted name cut pattern => do
    let value ← requiredValue name
    let p := matchers (joinedAtoms (← below.word pattern))
    return valueAtoms quoted (cut.apply p value)
  | .optional quoted name handling alsoEmpty w => do
    let s ← shell
    let value := (s.parameter? name).filter fun v => v ≠ "" || !alsoEmpty
    let replaced : Action (List Atom) := do
      let atoms ← below.word w
      return if quoted then .present :: atoms else atoms.map Atom.loosened
    match handling, value with
    | .replaceValue, some _ => replaced
    | .replaceValue, none => return if quoted then [.present] else []
    | _, some value => return nameAtoms s quoted name value
    | .useWord, none => replaced
    | .assignWord, none =>
      if !isName name then fail (name ++ ": bad variable name")
      let text := textOf (joinedAtoms (← below.word w))
      assign name text
      return valueAtoms quoted text
    | .complain, none =>
      fail (missingMessage name alsoEmpty (textOf (joinedAtoms (← below.word w))))
  | .output quoted body => do
    let (data, status) ← below.outputOf (below.commands false body)
    modifyShell fun s => { s with substituted := some (statusNumber status) }
    return valueAtoms quoted (substitutedText data)
  | .arithmetic quoted expression => do
    let text := textOf (joinedAtoms (← below.word expression))
    return valueAtoms quoted (toString (← arithmetic text))
  | .faulty => fail "Bad substitution"

def word (below : Level) : List Piece → Action (List Atom)
  | [] => return []
  | p :: rest => do
    let front ← below.piece p
    return front ++ (← below.word rest)

end

/-- The fields of a word, before patterns are replaced. -/
def fields (below : Level) (w : Word) : Action (List (List Mark)) := do
  let atoms ← below.word (homeExpanded (← shell) w)
  return fieldsFrom ⟨(← shell).separators⟩ none false atoms

/-- The marks of a word that is not split. -/
def marks (below : Level) (w : Word) : Action (List Mark) := do
  return joinedAtoms (← below.word (homeExpanded (← shell) w))

/-- The text of a word that is not split into fields. -/
def plainText (below : Level) (w : Word) : Action String := do return textOf (← below.marks w)

/-- The text of a value that is assigned. -/
def assignedText (below : Level) (w : Word) : Action String := do
  return textOf (joinedAtoms (← below.word (homesExpanded (← shell) w)))

end Level

end FirmwareSymbols.Script
