import FirmwareSymbols.Main.Script.Builtin
import FirmwareSymbols.Main.Script.Redirection
import FirmwareSymbols.Main.Script.Utility.Catalog

/-!
# Carrying out commands

A simple command is expanded, redirected, given its variables, and then run: a special command first, then a function,
then another command of the shell, then a program. Compound commands run their parts one level below. If a script is
to end with the first failure, it ends after a simple command, a pipeline or a process of its own that failed, unless
the failure was expected.
-/

namespace FirmwareSymbols.Script

open Raster (ExitStatus)

/-! ### Commands by name -/

/-- What the name of a command stands for. -/
inductive Callee
  | builtin (isSpecial : Bool) (b : Builtin)
  | function (body : Command)
  | program

/-- What a name stands for, with or without regard to functions. -/
def callee (s : Shell) (usesFunctions : Bool) (name : String) : Callee :=
  match specialBuiltins.lookup name with
  | some b => .builtin true b
  | none =>
    match if usesFunctions then s.functions.lookup name else none with
    | some body => .function body
    | none => ((regularBuiltins.lookup name).map (Callee.builtin false)).getD .program

/-- Runs a command of the shell. -/
def runBuiltin (below : Level) (isTested isSpecial : Bool) (b : Builtin) (name : String) (arguments : List String) :
    Action Unit := do
  let outer := (← shell).command
  modifyShell fun s => { s with command := some name }
  let result ← attempt (b below isTested arguments)
  modifyShell fun s => { s with command := outer }
  match result with
  | .ok status => setStatus status
  | .error .mistake => if isSpecial then throw .mistake
  | .error stop => throw stop

/-- Gives variables back the values that they had before. -/
def restoreVariables (saved : List (String × Option Variable)) : Action Unit :=
  saved.forM fun (name, old) => modifyShell fun s =>
    match old with
    | some v => s.setVariable name v
    | none => s.removeVariable name

/-- Runs a function with its arguments as parameters. -/
def callFunction (below : Level) (isTested : Bool) (body : Command) (arguments : List String) : Action Unit := do
  let before ← shell
  modifyShell fun s => { s with parameters := arguments, loops := 0, mayReturn := true, saved := [] :: s.saved }
  let result ← attempt (below.command isTested body)
  restoreVariables ((← shell).saved.head?.getD [])
  modifyShell fun s => { s with parameters := before.parameters, loops := before.loops, mayReturn := before.mayReturn,
                                saved := before.saved }
  match result with
  | .error .leaveFunction => pure ()
  | result => resume result

/-- Runs a program as a process of its own. -/
def runProgram (below : Level) (name : String) (arguments : List String) : Action Unit := do
  let m ← get
  match calledImage m.files m.shell.searchPath name arguments with
  | .error (cause, status) =>
    warn (name ++ ": " ++ startWords cause)
    setStatus status
  | .ok image =>
    let status ← below.child do
      pass 1
      modifyShell Shell.forProgram
      below.execute image
    tellEnd status
    setStatus (statusNumber status)

/-! ### Telling what a name stands for -/

/-- The path of the program that a name stands for. -/
def programPath? (m : Machine) (name : String) : Option Path :=
  (candidates m.shell.searchPath name).find? fun path =>
    m.files.isFile path && (m.files.isExecutable path || !name.toList.contains '/')

/-- What a name stands for, in words or as a command. -/
def describe (m : Machine) (inWords : Bool) (name : String) : Option String :=
  let say (plain words : String) : String := if inWords then name ++ words else plain
  if reservedWords.contains name then some (say name " is a shell keyword")
  else if let some text := m.shell.aliases.lookup name then
    some (if inWords then name ++ " is an alias for " ++ text else "alias " ++ aliasLine name text)
  else
    match name = "command" || name = "type", callee m.shell true name with
    | true, _ | _, .builtin false _ => some (say name " is a shell builtin")
    | _, .builtin true _ => some (say name " is a special shell builtin")
    | _, .function _ => some (say name " is a shell function")
    | _, .program => (programPath? m name).map fun path =>
      say path.text ((if name.toList.contains '/' then " is " else " is a tracked alias for ") ++ path.text)

/-- Tells what names stand for; the status is zero if all of them stand for something. -/
def describeAll (inWords : Bool) (names : List String) : Action Nat := do
  let m ← get
  let found := names.map fun name => describe m inWords name
  let _ ← outputText (String.join ((names.zip found).map fun (name, text) =>
    match text with
    | some text => text ++ "\n"
    | none => if inWords then name ++ ": not found\n" else ""))
  return if found.all Option.isSome then 0 else 127

/-- Runs a command without regard to functions; a mistake in it does not end the process. -/
def commandCommand : Builtin := fun below isTested arguments => do
  let (letters, arguments) ← plainOptions ['p', 'v', 'V'] arguments
  match arguments with
  | [] => return 0
  | name :: rest =>
    if letters.contains 'V' then describeAll true [name]
    else if letters.contains 'v' then describeAll false [name]
    else
      modifyShell fun s => { s with command := none }
      match callee (← shell) false name with
      | .builtin _ b => runBuiltin below isTested false b name rest
      | _ => runProgram below name rest
      return (← shell).status

def typeCommand : Builtin := fun _ _ arguments => describeAll true arguments

/-- The commands that look other commands up. -/
def lookupBuiltins : List (String × Builtin) := [("command", commandCommand), ("type", typeCommand)]

/-! ### Simple commands -/

/-- Commands whose arguments can be assignments. -/
def declaringCommands : List String := ["export", "readonly", "local", "alias"]

namespace Level

/-- The texts of the words of a command. An assignment in the arguments of a declaring command is not split. -/
def callTexts (below : Level) : List String → List Word → Action (List String)
  | front, [] => return front
  | front, w :: rest => do
    let declares := (front.dropWhile (· = "command")).head?.any declaringCommands.contains
    match if declares then assignment? w else none with
    | some (name, value) =>
      let text ← below.assignedText value
      below.callTexts (front ++ [name ++ "=" ++ text]) rest
    | none =>
      let texts ← below.expanded w
      below.callTexts (front ++ texts) rest

/-- Expands assignments and carries them out, one after the other; the names with their new values. -/
def assignAll (below : Level) (exports : Bool) (assignments : List (String × Word)) : Action (List (String × String)) :=
  assignments.mapM fun (name, w) => do
    let value ← below.assignedText w
    assign name value
    if exports then modifyShell fun s => s.assignExported name value
    return (name, value)

/-- Writes a command that is about to run, if that is asked for, to a stream that was standard error before. -/
def trace (errors : Option Nat) (assigned : List (String × String)) (texts : List String) :
    Action Unit := do
  let s ← shell
  if s.hasOption 'x' then
    let mark := (s.value? "PS4").getD "+ "
    let line := mark ++ " ".intercalate (assigned.map (fun a => a.1 ++ "=" ++ a.2) ++ texts) ++ "\n"
    let streams := (← get).streams
    if let some n := errors then
      if let some stream := streams[n]? then
        if stream.writes then writeStream n stream line.toUTF8

end Level

/-- Runs an action and gives variables back the values that they had before. -/
def keepingVariables (names : List String) (p : Action Unit) : Action Unit := do
  let s ← shell
  let result ← attempt p
  restoreVariables (names.map fun name => (name, s.variableNamed? name))
  resume result

/-- Runs a command that has a name. -/
def callNamed (below : Level) (isTested : Bool) (name : String) (arguments : List String) : Action Unit := do
  match lookupBuiltins.lookup name, callee (← shell) true name with
  | some b, _ => runBuiltin below isTested false b name arguments
  | none, .builtin isSpecial b => runBuiltin below isTested isSpecial b name arguments
  | none, .function body => callFunction below isTested body arguments
  | none, .program => runProgram below name arguments

/-- Whether the variables that are assigned in front of a command keep their values after it. -/
def keepsVariables (texts : List String) : Bool := texts.head?.all fun name => (specialBuiltins.lookup name).isSome

/-- Whether the programs that a command starts get the variables that are assigned in front of it. -/
def exportsVariables (texts : List String) : Bool := !keepsVariables texts || (texts.head? = some "exec" && texts.length ≠ 1)

/-- Whether redirections stay in effect after a command. -/
def keepsRedirections (texts : List String) : Bool := texts.dropWhile (· = "command") = ["exec"]

/-- Runs a simple command. -/
def runSimple (below : Level) (isTested : Bool) (assignments : List (String × Word)) (words : List Word)
    (redirections : List Redirection) : Action Unit := do
  modifyShell fun s => { s with substituted := none }
  let texts ← below.callTexts [] words
  let openings ← redirections.mapM below.opening
  let before := (← shell).descriptors
  let restore : Action Unit := modifyShell fun s => { s with descriptors := before }
  match ← attempt (below.redirectAll openings) with
  | .error .mistake =>
    restore
    if texts.head?.any specialCommands.contains then throw .mistake
  | .error stop => throw stop
  | .ok () =>
    let run : Action Unit := do
      let assigned ← below.assignAll (exportsVariables texts) assignments
      Level.trace (before.lookup 2) assigned texts
      match texts with
      | [] => setStatus ((← shell).substituted.getD 0)
      | name :: arguments => callNamed below isTested name arguments
    let result ← attempt (if keepsVariables texts then run else keepingVariables (assignments.map Prod.fst) run)
    if !keepsRedirections texts then restore
    resume result

/-! ### Compound commands -/

/-- Ends the process after a failure, if it is to end then. -/
def leaveOnFailure (isTested : Bool) : Action Unit := do
  let s ← shell
  if !isTested && s.hasOption 'e' && s.status ≠ 0 then
    modifyShell fun s => { s with leaving := some s.status }
    throw .exit

/-- Runs a part of a loop; whether the loop goes on after it. -/
def loopPart (p : Action Unit) : Action Bool := do
  match ← attempt p with
  | .ok () => return true
  | .error (.leaveLoops n) => if n ≤ 1 then return false else throw (.leaveLoops (n - 1))
  | .error (.nextTurn n) => if n ≤ 1 then return true else throw (.nextTurn (n - 1))
  | .error stop => throw stop

/-- Runs an action that is a loop. -/
def asLoop (p : Action Unit) : Action Unit := do
  modifyShell fun s => { s with loops := s.loops + 1 }
  let result ← attempt p
  modifyShell fun s => { s with loops := s.loops - 1 }
  resume result

/-- Repeats a body while its condition succeeds, or while it fails. The status is that of the last turn. -/
def runLoop (below : Level) (isTested whileSuccess : Bool) (condition body : List Command) : Action Unit := do
  let turn (last : Nat) : Action (Nat ⊕ Nat) := do
    spend
    let isLeft ← attempt (below.commands true condition)
    let goesOn ← match isLeft with
      | .ok () => pure (((← shell).status = 0) = whileSuccess : Bool)
      | result => do
        if !(← loopPart (resume result)) then return .inr (← shell).status
        return .inl last
    if !goesOn then return .inr last
    let again ← loopPart (below.commands isTested body)
    let status := (← shell).status
    return if again then .inl status else .inr status
  asLoop do setStatus (← iterate turn (← get).budget 0)

/-- Runs a body for each of some values. -/
def runEach (below : Level) (isTested : Bool) (name : String) (values : List String) (body : List Command) :
    Action Unit := do
  let turn : List String → Action (List String ⊕ Unit)
    | [] => return .inr ()
    | value :: rest => do
      spend
      Level.assign name value
      if ← loopPart (below.commands isTested body) then return .inl rest else return .inr ()
  setStatus 0
  asLoop (iterate turn (values.length + 1) values)

/-- Runs the first branch whose condition succeeds. -/
def runBranches (below : Level) (isTested : Bool) (otherwise : List Command) :
    List (List Command × List Command) → Action Unit
  | [] => do
    setStatus 0
    below.commands isTested otherwise
  | (condition, body) :: rest => do
    below.commands true condition
    if (← shell).status = 0 then below.commands isTested body else runBranches below isTested otherwise rest

/-- The first case with a pattern that matches a text. -/
def matchingCase (below : Level) (text : String) : List (List Word × List Command) → Action (Option (List Command))
  | [] => return none
  | (patterns, body) :: rest => do
    if ← patterns.anyM fun w => do return matchesText (matchers (← below.marks w)) text then return some body
    matchingCase below text rest

/-- Runs commands, each of which reads what the one before it writes. They all start at the same time. -/
def runPipeline (below : Level) (isTested : Bool) (start : Nat) :
    Nat → Option Nat → List Command → Action ExitStatus
  | _, _, [] => return .code 0
  | finish, input, c :: rest => do
    modify fun m => { m with time := start }
    let pipe ← newPipe .empty
    let status ← below.child do
      if let some n := input then openOn 0 { target := .pipe n, writes := false }
      if !rest.isEmpty then openOn 1 { target := .pipe pipe, reads := false }
      below.command isTested c
    tellEnd status
    let finish := max finish (← get).time
    if rest.isEmpty then
      modify fun m => { m with time := finish }
      return status
    else runPipeline below isTested start finish (some pipe) rest

/-- Carries out a command. -/
def perform (below : Level) (isTested : Bool) (c : Command) : Action Unit := do
  spend
  if (← shell).hasOption 'n' then return
  match c with
  | .simple line assignments words redirections =>
    modifyShell fun s => { s with line }
    runSimple below isTested assignments words redirections
    below.dealWithSignals
    leaveOnFailure isTested
  | .pipeline commands =>
    let time := (← get).time
    setStatus (statusNumber (← runPipeline below isTested time time none commands))
    below.dealWithSignals
    leaveOnFailure isTested
  | .background c => below.launch c
  | .subshell body =>
    let status ← below.child (below.commands isTested body)
    tellEnd status
    setStatus (statusNumber status)
    below.dealWithSignals
    leaveOnFailure isTested
  | .group body => below.commands isTested body
  | .redirected line (.subshell body) redirections =>
    modifyShell fun s => { s with line }
    let status ← below.child do
      below.redirectAll (← redirections.mapM below.opening)
      below.commands isTested body
    tellEnd status
    setStatus (statusNumber status)
    below.dealWithSignals
    leaveOnFailure isTested
  | .redirected line c redirections =>
    modifyShell fun s => { s with line }
    let openings ← redirections.mapM below.opening
    keepingDescriptors do
      match ← attempt (below.redirectAll openings) with
      | .ok () => below.command isTested c
      | .error .mistake => leaveOnFailure isTested
      | .error stop => throw stop
  | .chain onSuccess first second =>
    below.command true first
    if ((← shell).status = 0) = onSuccess then below.command isTested second
  | .negated c =>
    below.command true c
    setStatus (if (← shell).status = 0 then 1 else 0)
  | .branches conditions otherwise => runBranches below isTested otherwise conditions
  | .each line name items body =>
    modifyShell fun s => { s with line }
    let values ← match items with
      | some ws => below.expandedAll ws
      | none => do pure (← shell).parameters
    runEach below isTested name values body
  | .select line subject cases =>
    modifyShell fun s => { s with line }
    let text ← below.plainText subject
    match ← matchingCase below text cases with
    | some [] | none => setStatus 0
    | some body => below.commands isTested body
  | .loop whileSuccess condition body => runLoop below isTested whileSuccess condition body
  | .define line name body =>
    modifyShell fun s => { s with line, functions := (name, body) :: s.functions.filter fun f => f.1 ≠ name }
    setStatus 0

/-- The process becomes a program of the system, which runs up to its end. -/
def become (below : Level) (image : Image) : Action Unit := do
  spend
  modifyShell fun s =>
    { name := image.name, parameters := image.arguments, process := s.own, own := s.own, parents := s.parents,
      vars := s.vars.filter fun v => v.2.isExported, descriptors := s.descriptors, mask := s.mask,
      ignored := s.ignored ++ (s.traps.filter fun t => t.2 = "").map Prod.fst }
  match utilities.lookup image.program with
  | some utility =>
    setStatus (← utility below image.arguments)
    throw .exit
  | none => throw .exit

/-- What can be run where so many levels are left. -/
def levels : Nat → Level
  | 0 => {}
  | n + 1 => { command := perform (levels n), execute := become (levels n) }

end FirmwareSymbols.Script
