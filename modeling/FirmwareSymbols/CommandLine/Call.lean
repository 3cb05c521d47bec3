import FirmwareSymbols.CommandLine.Similarity
import FirmwareSymbols.CommandLine.Values

/-!
# Reading a call

The arguments of a call are read one after another: options of the program, then a command, then options of the
command. The value of an option follows it after an equals sign or as the next argument. A value is looked at only
when the next option begins or the call is over.
-/

namespace FirmwareSymbols.CommandLine

/-- Why a call does not lead to a request. -/
inductive Answer
  /-- Help that was asked for. -/
  | help (text : Styled)
  /-- Help for a call that says nothing. -/
  | guidance (text : Styled)
  | problem (p : Problem)
deriving DecidableEq, Repr

/-- The options that were given, in the order of their first occurrence, each with its values. -/
abbrev Given := List (Opt × List String)

namespace Given

def options (g : Given) : List Opt := g.map Prod.fst

def has (g : Given) (o : Opt) : Bool := g.options.contains o

/-- Adds values to an option. -/
def add (g : Given) (o : Opt) (values : List String) : Given :=
  if g.has o then g.map fun (p, vs) => if p = o then (p, vs ++ values) else (p, vs) else g ++ [(o, values)]

def remove (g : Given) (o : Opt) : Given := g.filter fun (p, _) => p ≠ o

/-- The values of the option with this name, or its default. -/
def values (g : Given) (name : String) (default : List String := []) : List String :=
  ((g.find? fun (o, _) => o.name = name).map Prod.snd).getD default

def value? (g : Given) (name : String) : Option String := (g.values name).head?

end Given

/-- What was read of a call so far. -/
structure Reading where
  given : Given := []
  /-- The last option, with its value once there is one. -/
  pending : Option (Opt × Option String) := none
  /-- The next argument is the value of the last option unless it is an option itself. -/
  awaits : Bool := false
  /-- What follows is not read as options. -/
  isClosed : Bool := false

namespace Reading

/-- Takes an option with its value. The problem, if any, comes with what remains of the reading. -/
def take (r : Reading) (spec : Spec) (o : Opt) (value : Option String) : Reading × Option Problem :=
  match value, o.takesValue with
  | none, true => (r, some (.valueMissing o))
  | _, _ =>
    if r.given.has o && !o.isRepeatable then
      ({ r with given := r.given.remove o }, some (.repeated o spec.usage))
    else
      let values := value.elim [] (valuesIn o)
      ({ r with given := r.given.add o values }, values.findSome? (refusal? o))

/-- Looks at the value of the last option. -/
def settle (r : Reading) (spec : Spec) : Reading × Option Problem :=
  match r.pending with
  | none => (r, none)
  | some (o, value) => { r with pending := none }.take spec o value

/-- Goes on after the last option was settled. -/
def afterSettling (r : Reading) (spec : Spec) (next : Reading → Except Answer Reading) : Except Answer Reading :=
  match r.settle spec with
  | (_, some p) => .error (.problem p)
  | (settled, none) => next settled

/-- Takes an option that is complete. -/
def accept (r : Reading) (spec : Spec) (o : Opt) (value : Option String) : Except Answer Reading :=
  r.afterSettling spec fun r =>
    if o.name = helpOption.name then .error (.help spec.help)
    else
      match r.take spec o value with
      | (_, some p) => .error (.problem p)
      | (taken, none) => .ok { taken with awaits := false }

/-- The option of a later command that is similar to an unknown one. -/
def laterTip? (spec : Spec) (name : String) (rest : List String) : Option Tip :=
  if spec.takesCommand then
    let found := CommandName.all.filterMap fun c => do
      let option ← (similarTo name c.spec.longNames).getLast?
      let place ← rest.findIdx? (· = c.text)
      some (place, Tip.optionOf c.text ("--" ++ option))
    (found.mergeSort fun a b => a.1 ≤ b.1).head?.map Prod.snd
  else none

/-- The problem with an option that there is not. -/
def unknownLong (r : Reading) (spec : Spec) (name : String) (rest : List String) : Problem :=
  let given := (r.settle spec).1.given.options
  match (similarTo name spec.longNames).getLast? with
  | some similar =>
    .unexpected ("--" ++ name) (some (.argument ("--" ++ similar)))
      (spec.usageAfter (given ++ (spec.find? ("--" ++ similar)).toList))
  | none => .unexpected ("--" ++ name) (laterTip? spec name rest) (spec.usageAfter given)

/-- Reads an option with two dashes: its name, and the value that is attached to it. -/
def readLong (r : Reading) (spec : Spec) (name : String) (value : Option String) (rest : List String) :
    Except Answer Reading :=
  match spec.find? ("--" ++ name) with
  | none => .error (.problem (r.unknownLong spec name rest))
  | some o =>
    match value with
    | some v =>
      if o.takesValue then r.accept spec o value
      else .error (.problem (.valueUnexpected o v (spec.usageAtValue r.given.options o)))
    | none =>
      if o.takesValue then r.afterSettling spec fun r => .ok { r with pending := some (o, none), awaits := true }
      else r.accept spec o none

/-- Reads options of one letter. -/
def readLetters (r : Reading) (spec : Spec) : List Char → Except Answer Reading
  | [] => .ok { r with awaits := false }
  | c :: rest =>
    match spec.findLetter? c with
    | none => .error (.problem (.unexpected (String.ofList ['-', c]) none spec.usage))
    | some o => do
      let r ← r.accept spec o none
      r.readLetters spec rest

/-- The problem with a word that is neither an option nor the value of one. -/
def strayWord (r : Reading) (spec : Spec) (word : String) : Problem :=
  if spec.takesCommand then
    if r.isClosed && commandWords.contains word then .unexpected word (some (.afterMark word)) spec.usage
    else
      match similarTo word commandWords with
      | [] => .unknownCommand word none spec.usage true
      | similar => .unknownCommand word (some (.commands similar)) spec.usage true
  else .unexpected word none spec.usage

/-- Reads one argument. -/
def readArgument (r : Reading) (spec : Spec) (argument : String) (rest : List String) : Except Answer Reading :=
  if r.isClosed then .error (.problem (r.strayWord spec argument))
  else
    match argument.toList with
    | ['-', '-'] => .ok { r with isClosed := true }
    | '-' :: '-' :: body =>
      let value := (body.dropWhile (· ≠ '=')).tail?.map String.ofList
      r.readLong spec (String.ofList (body.takeWhile (· ≠ '='))) value rest
    | '-' :: c :: letters => r.readLetters spec (c :: letters)
    | _ =>
      match r.awaits, r.pending with
      | true, some (o, _) => .ok { r with pending := some (o, some argument), awaits := false }
      | _, _ => .error (.problem (r.strayWord spec argument))

end Reading

/-- Reads the options of a command up to the end of the call. -/
def readOptions (spec : Spec) : Reading → List String → Except Answer Reading
  | r, [] => r.afterSettling spec .ok
  | r, argument :: rest => do
    let next ← r.readArgument spec argument rest
    readOptions spec next rest

/-- The options of a command; the required ones are among them. -/
def commandOptions (spec : Spec) (arguments : List String) : Except Answer Given := do
  let r ← readOptions spec {} arguments
  let missing := spec.required.filter fun o => !r.given.has o
  if missing.isEmpty then .ok r.given
  else .error (.problem (.optionsMissing missing (spec.usageWith r.given.options)))

/-- The help for the words after the word that asks for it. -/
def helpFor : List String → Answer
  | [] => .help programSpec.help
  | word :: rest =>
    let spec? := if word = helpWord then some helpSpec else (CommandName.ofText? word).map CommandName.spec
    match spec?, rest with
    | none, _ => .problem (.unknownCommand word none programSpec.usage true)
    | some spec, [] => .help spec.help
    | some spec, next :: _ => .problem (.unknownCommand next none spec.usage spec.hasHelp)

/-- What a call says: a command, its options, and whether it is to be verbose. -/
structure Call where
  command : CommandName
  given : Given
  isVerbose : Bool

/-- Reads the options of the program and the command. -/
def readProgram : Reading → List String → Except Answer Call
  | r, [] => do
    let r ← r.afterSettling programSpec .ok
    if r.given.isEmpty then .error (.guidance programSpec.help)
    else .error (.problem (.commandMissing programSpec.usage))
  | r, argument :: rest =>
    if !r.isClosed && argument = helpWord then .error (helpFor rest)
    else
      match (if r.isClosed then none else CommandName.ofText? argument) with
      | some command => do
        let given ← commandOptions command.spec rest
        .ok ⟨command, given, r.given.has verbose || given.has verbose⟩
      | none => do
        let next ← r.readArgument programSpec argument rest
        readProgram next rest

def Call.ofArguments (arguments : List String) : Except Answer Call := readProgram {} arguments

end FirmwareSymbols.CommandLine
