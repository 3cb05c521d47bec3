import FirmwareSymbols.Main.Script.Format
import FirmwareSymbols.Main.Script.Glob
import FirmwareSymbols.Main.Script.Job
import FirmwareSymbols.Main.Script.Option

/-!
# Special commands

Commands that act on the script that calls them: on how it goes on, on its variables and its parameters, and on what
it does with signals. A mistake in one of them ends the process. A command gets its level, whether its failure is
expected, and its arguments; it gives its status.
-/

namespace FirmwareSymbols.Script

abbrev Builtin := Level → Bool → List String → Action Nat

/-! ### Output -/

/-- Writes the output of a command; its status tells if that was not possible. -/
def output (bytes : List Char) : Action Nat := do
  if ← writeBytes 1 (bytesOf bytes) then return 0
  let s ← shell
  if bytes.isEmpty then return 0
  warn (s.command.getD "" ++ ": I/O error")
  return 1

def outputText (text : String) : Action Nat := output (byteChars text)

/-- A text in quotes, so that it is read as itself. -/
def quotedText (text : String) : String :=
  let parts := text.splitOn "'"
  let single (s : String) : String := "'" ++ s ++ "'"
  match parts with
  | [] => "''"
  | first :: rest => single first ++ String.join (rest.map fun s => "\"'\"" ++ single s)

/-! ### The way a script goes on -/

def exitCommand : Builtin := fun _ _ arguments => do
  match arguments with
  | [] => modifyShell fun s => { s with leaving := s.leaving <|> some s.status }
  | text :: _ =>
    let n ← naturalArgument text
    modifyShell fun s => { s with leaving := some n }
  throw .exit

def returnCommand : Builtin := fun _ _ arguments => do
  if let text :: _ := arguments then setStatus (← naturalArgument text)
  throw .leaveFunction

/-- How many loops an argument names; not more than there are around. -/
def loopCount (arguments : List String) : Action Nat := do
  let n ← match arguments with
    | [] => pure 1
    | text :: _ => do
      let n ← naturalArgument text
      if n = 0 then fail ("Illegal number: " ++ text)
      pure n
  return min n (← shell).loops

def breakCommand : Builtin := fun _ _ arguments => do
  match ← loopCount arguments with
  | 0 => return 0
  | n =>
    setStatus 0
    throw (.leaveLoops n)

def continueCommand : Builtin := fun _ _ arguments => do
  match ← loopCount arguments with
  | 0 => return 0
  | n =>
    setStatus 0
    throw (.nextTurn n)

def evalCommand : Builtin := fun below isTested arguments => do
  if arguments.isEmpty then return 0
  below.text isTested (" ".intercalate arguments)
  return (← shell).status

/-- Runs the text of another script in the same process, up to where it returns. -/
def runFile (below : Level) (isTested : Bool) (path text : String) : Action Nat := do
  let before ← shell
  modifyShell fun s => { s with command := some path, mayReturn := true }
  let result ← attempt (below.text isTested text true)
  modifyShell fun s => { s with command := before.command, mayReturn := before.mayReturn }
  match result with
  | .error .leaveFunction => pure ()
  | result => resume result
  return (← shell).status

def dotCommand : Builtin := fun below isTested arguments => do
  match arguments with
  | [] => return 0
  | name :: _ =>
    let m ← get
    let path ←
      if name.toList.contains '/' then pure name
      else
        match (candidates m.shell.searchPath name).find? m.files.isFile with
        | some path => pure path.text
        | none => fail (name ++ ": not found")
    match m.files.readBytes ⟨path⟩ with
    | .error cause => fail ("cannot open " ++ path ++ ": " ++ openWords cause)
    | .ok content => runFile below isTested path (Text.decodeLossy content.toList)

/-- Complains about a program that cannot be started. -/
def refuseStart {α : Type} (name : String) (cause : IoCause) (status : Nat) : Action α := do
  warn (name ++ ": " ++ startWords cause)
  modifyShell fun s => { s with leaving := some status }
  throw .exit

def execCommand : Builtin := fun below _ arguments => do
  match arguments with
  | [] => return 0
  | name :: rest =>
    let m ← get
    match calledImage m.files m.shell.searchPath name rest with
    | .error (cause, status) => refuseStart name cause status
    | .ok image =>
      modifyShell Shell.forProgram
      below.execute image
      return (← shell).status

/-! ### Variables and parameters -/

/-- Splits an argument at its first equals sign. -/
def splitAssignment (text : String) : String × Option String :=
  match text.splitOn "=" with
  | name :: value :: more => (name, some ("=".intercalate (value :: more)))
  | _ => (text, none)

/-- The name in an argument, which must be one for variables. -/
def requireName (name : String) : Action Unit := do
  if !isName name then fail (name ++ ": bad variable name")

/-- The values of variables as commands that give them. -/
def variableListing (start : String) (vars : List (String × Variable)) : String :=
  let line (v : String × Variable) : String :=
    start ++ v.1 ++ (v.2.value.map fun value => "=" ++ quotedText value).getD "" ++ "\n"
  String.join ((vars.mergeSort fun a b => !decide (b.1 < a.1)).map line)

/-- Marks variables, or lists those that are marked. -/
def markCommand (start : String) (isMarked : Variable → Bool) (mark : Variable → Variable) : Builtin :=
  fun _ _ arguments => do
    match arguments with
    | [] | ["-p"] => outputText (variableListing start ((← shell).vars.filter fun v => isMarked v.2))
    | _ =>
      for text in arguments.filter (· ≠ "--") do
        let (name, value) := splitAssignment text
        requireName name
        if let some value := value then Level.assign name value
        modifyShell fun s => s.setVariable name (mark ((s.variableNamed? name).getD {}))
      return 0

def exportCommand : Builtin :=
  markCommand "export " (·.isExported) fun v => { v with isExported := true }

def readonlyCommand : Builtin :=
  markCommand "readonly " (·.isReadOnly) fun v => { v with isReadOnly := true }

def localCommand : Builtin := fun _ _ arguments => do
  for text in arguments do
    let (name, value) := splitAssignment text
    let s ← shell
    match s.saved with
    | [] => fail "not in a function"
    | frame :: outer =>
      requireName name
      let frame := if frame.any fun v => v.1 = name then frame else (name, s.variableNamed? name) :: frame
      modifyShell fun s => { s with saved := frame :: outer }
    if let some value := value then Level.assign name value
  if (← shell).saved.isEmpty then fail "not in a function"
  return 0

def unsetCommand : Builtin := fun _ _ arguments => do
  let (isFunction, names) ← match arguments with
    | "-f" :: names => pure (true, names)
    | "-v" :: names | "--" :: names => pure (false, names)
    | word :: _ =>
      match word.toList with
      | '-' :: c :: _ => fail ("Illegal option -" ++ String.singleton c)
      | _ => pure (false, arguments)
    | [] => pure (false, [])
  for name in names do
    if isFunction then modifyShell fun s => { s with functions := s.functions.filter fun f => f.1 ≠ name }
    else
      requireName name
      if (← shell).isReadOnly name then fail (name ++ ": is read only")
      modifyShell fun s => s.removeVariable name
  return 0

def setCommand : Builtin := fun _ _ arguments => do
  let s ← shell
  if arguments.isEmpty then
    outputText (variableListing "" (s.vars.filter fun v => v.2.value.isSome))
  else
    match readOptions false s.options arguments with
    | .error text => fail text
    | .ok r =>
      modifyShell fun s => { s with
        options := r.options
        parameters := if r.isEnded || !r.rest.isEmpty then r.rest else s.parameters }
      match r.listing with
      | some asWords => outputText (optionListing asWords r.options)
      | none => return 0

def shiftCommand : Builtin := fun _ _ arguments => do
  let n ← match arguments with
    | [] => pure 1
    | text :: _ => naturalArgument text
  if (← shell).parameters.length < n then fail "can't shift that many"
  modifyShell fun s => { s with parameters := s.parameters.drop n }
  return 0

/-! ### Signals and time -/

/-- The commands that deal with signals, as commands that set them. -/
def trapListing (s : Shell) : String :=
  let label (n : Nat) : String := if n = 0 then "EXIT" else signalLabel n
  String.join ((List.range signalEnd).filterMap fun n =>
    (s.trap? n).map fun action => "trap -- " ++ quotedText action ++ " " ++ label n ++ "\n")

/-- Sets what is done about signals, up to the first that there is not. -/
def setTraps (action : Option String) : List String → Action Nat
  | [] => return 0
  | text :: rest => do
    match trapNumber? text with
    | none =>
      putError ("trap: " ++ text ++ ": bad trap")
      return 1
    | some n =>
      modifyShell fun s => s.setTrap n action
      setTraps action rest

def trapCommand : Builtin := fun _ _ arguments => do
  match if arguments.head? = some "--" then arguments.tail else arguments with
  | [] => outputText (trapListing (← shell))
  | [text] => setTraps none [text]
  | action :: rest =>
    if action ≠ "" && action.all Char.isDigit then setTraps none (action :: rest)
    else setTraps (if action = "-" then none else some action) rest

def timesCommand : Builtin := fun _ _ _ => do
  outputText "0m0.000000s 0m0.000000s\n0m0.000000s 0m0.000000s\n"

def specialBuiltins : List (String × Builtin) := [
  (":", fun _ _ _ => return 0),
  (".", dotCommand),
  ("break", breakCommand),
  ("continue", continueCommand),
  ("eval", evalCommand),
  ("exec", execCommand),
  ("exit", exitCommand),
  ("export", exportCommand),
  ("local", localCommand),
  ("readonly", readonlyCommand),
  ("return", returnCommand),
  ("set", setCommand),
  ("shift", shiftCommand),
  ("times", timesCommand),
  ("trap", trapCommand),
  ("unset", unsetCommand)]

end FirmwareSymbols.Script
