import FirmwareSymbols.Main.Script.Condition
import FirmwareSymbols.Main.Script.Input
import FirmwareSymbols.Main.Script.Special

/-!
# Commands of the shell

The commands that a script knows itself, besides the special ones. A mistake in one of them gives it the status 2, and
the script goes on.
-/

namespace FirmwareSymbols.Script

/-- The letters in front of the arguments of a command, each of which may be given, and the arguments. -/
def plainOptions (known : List Char) : List String → Action (List Char × List String)
  | [] => return ([], [])
  | word :: rest => do
    match word.toList with
    | ['-'] => return ([], word :: rest)
    | ['-', '-'] => return ([], rest)
    | '-' :: letters =>
      if let some c := letters.find? fun c => !known.contains c then fail ("Illegal option -" ++ String.singleton c)
      let (more, rest) ← plainOptions known rest
      return (letters ++ more, rest)
    | _ => return ([], word :: rest)

/-! ### Output -/

def echoCommand : Builtin := fun _ _ arguments => do
  match (← shell).dialect, arguments with
  | .plain, "-n" :: rest => output (echoedOpen rest)
  | .plain, _ => output (if arguments.isEmpty then ['\n'] else echoed arguments)
  | .extended, _ => output (echoedPlain arguments)

/-- Prints with a format. The complaints come before what is printed. -/
def printfCommand : Builtin := fun _ _ arguments => do
  let (_, arguments) ← plainOptions [] arguments
  match arguments with
  | [] => fail "usage: printf format [arg ...]"
  | format :: rest =>
    let p := printed format rest
    p.faults.forM warn
    if let some text := p.mistake then warn text
    let status ← output p.text
    return if p.mistake.isSome then 2 else if p.faults.isEmpty then status else 1

/-! ### Conditions and input -/

/-- Tests a condition, which stands before a closing bracket if the command is a bracket. -/
def testCommand (isBracket : Bool) : Builtin := fun _ _ arguments => do
  if isBracket && arguments.getLast? ≠ some "]" then fail "missing ]"
  match condition (← get).files (if isBracket then arguments.dropLast else arguments) with
  | .ok verdict => return if verdict then 0 else 1
  | .error fault => fail fault.text

def readCommand : Builtin := fun _ _ arguments => do
  let rec options (isRaw : Bool) : List String → Action Nat
    | "-r" :: rest => options true rest
    | "-p" :: _ :: rest => options isRaw rest
    | "--" :: rest => finish isRaw rest
    | words => do
      match words.head?.map String.toList with
      | some ('-' :: c :: _) => fail ("Illegal option -" ++ String.singleton c)
      | _ => finish isRaw words
  options false arguments
where
  finish (isRaw : Bool) (names : List String) : Action Nat :=
    if names.isEmpty then fail "arg count" else readLine isRaw names

def getoptsCommand : Builtin := fun _ _ arguments => do
  match arguments with
  | known :: name :: words =>
    let s ← shell
    readOption known name (if words.isEmpty then s.parameters else words)
  | _ => fail "Usage: getopts optstring var [arg...]"

/-! ### Directories -/

/-- A path with the working directory in front, without parts that lead nowhere or back. -/
def absolutePath (working : String) (path : String) : String :=
  let start := if path.toList.head? = some '/' then path else working ++ "/" ++ path
  let parts := (Text.splitText '/' start).foldl (fun (parts : List String) part =>
    if part = "" || part = "." then parts else if part = ".." then parts.dropLast else parts ++ [part]) []
  let front := if "//".toList.isPrefixOf start.toList && !"///".toList.isPrefixOf start.toList then "//" else "/"
  front ++ "/".intercalate parts

/-- The path by which the working directory was reached. -/
def workingPath : Action String := do
  let m ← get
  let physical := (FileSystem.pathOf m.files.working).text
  match m.shell.value? "PWD" with
  | some path =>
    if path.toList.head? = some '/' && m.files.isSame ⟨path⟩ ⟨"."⟩ then return path else return physical
  | none => return physical

/-- Makes a directory the working directory. -/
def enter (isPhysical : Bool) (path : String) : Action (Option String) := do
  let before ← workingPath
  let goal := absolutePath before path
  let m ← get
  match m.files.stat ⟨if isPhysical then path else goal⟩ with
  | .ok (l, .directory) =>
    set { m with files := { m.files with working := l } }
    let now := if isPhysical then (FileSystem.pathOf l).text else goal
    modifyShell fun s => (s.assignExported "OLDPWD" before).assignExported "PWD" now
    return some now
  | _ => return none

def cdCommand : Builtin := fun _ _ arguments => do
  let (letters, arguments) ← plainOptions ['L', 'P'] arguments
  let s ← shell
  let target := match arguments with
    | [] => (s.value? "HOME").getD ""
    | "-" :: _ => (s.value? "OLDPWD").getD ""
    | path :: _ => path
  match ← enter (letters.getLast? = some 'P') (if target = "" then "." else target) with
  | none => fail ("can't cd to " ++ target)
  | some now => if arguments.head? = some "-" then outputText (now ++ "\n") else return 0

def pwdCommand : Builtin := fun _ _ arguments => do
  let (letters, _) ← plainOptions ['L', 'P'] arguments
  let path ← if letters.getLast? = some 'P' then pure (FileSystem.pathOf (← get).files.working).text else workingPath
  outputText (path ++ "\n")

/-! ### Processes -/

/-- Reads the number of a process, of a group of them, or of a job. -/
def processArgument (text : String) : Action Int := do
  match text.toList with
  | '%' :: _ => fail ("No such job: " ++ text)
  | '-' :: rest => return -((← naturalArgument (String.ofList rest)) : Int)
  | _ => return (← naturalArgument text)

/-- Sends a signal to processes. -/
def sendAll (below : Level) (signal : Nat) : List String → Action Nat
  | [] => return 0
  | text :: rest => do
    let n ← processArgument text
    let isThere ← if 0 < n then below.send n.toNat signal else pure false
    if !isThere then warn "No such process\n"
    let status ← sendAll below signal rest
    return if isThere then status else 1

def killUsage {α : Type} : Action α :=
  fail "Usage: kill [-s sigspec | -signum | -sigspec] [pid | job]... or\nkill -l [exitstatus]"

/-- Tells the names of signals. -/
def listSignals : List String → Action Nat
  | [] => outputText (String.join ("0\n" :: ((List.range signalEnd).drop 1).map fun n => signalLabel n ++ "\n"))
  | text :: _ => do
    let n ← naturalArgument text
    let signal := if 128 < n then n - 128 else n
    if signal = 0 || signalEnd ≤ signal then fail ("invalid signal number or exit status: " ++ text)
    outputText (signalLabel signal ++ "\n")

def killCommand : Builtin := fun below _ arguments => do
  let sendTo (signal : Nat) (processes : List String) : Action Nat :=
    if processes.isEmpty then killUsage else sendAll below signal processes
  match arguments with
  | [] => killUsage
  | "-l" :: rest => listSignals rest
  | "-s" :: rest =>
    match rest with
    | [] => fail "No arg for -s option"
    | name :: rest =>
      match signalNumber? name with
      | none => fail ("invalid signal number or name: " ++ name)
      | some n => sendTo n (if rest.head? = some "--" then rest.tail else rest)
  | "--" :: rest => sendTo 15 rest
  | word :: rest =>
    match word.toList with
    | '-' :: name =>
      match signalNumber? (String.ofList name) with
      | some n => sendTo n rest
      | none => fail ("Illegal option -" ++ String.ofList (name.take 1))
    | _ => sendTo 15 (word :: rest)

def waitCommand : Builtin := fun below _ arguments => do
  match arguments with
  | [] =>
    below.awaitAll
    return 0
  | _ =>
    let statuses ← arguments.mapM fun text => do
      if text.toList.head? = some '%' then fail ("No such job: " ++ text)
      below.awaitJob (← naturalArgument text)
    return statuses.getLast?.getD 0

def jobsCommand : Builtin := fun _ _ arguments => do
  let (_, arguments) ← plainOptions ['l', 'p'] arguments
  match arguments with
  | [] => return 0
  | text :: _ => fail ("No such job: " ++ text)

/-! ### Settings -/

/-- An alias as an assignment. -/
def aliasLine (name text : String) : String := name ++ "=" ++ quotedText text

/-- Sets or tells aliases; the status is zero if all that are asked for are there. -/
def aliasCommand : Builtin := fun _ _ arguments => do
  let lines (l : List (String × String)) : String := String.join (l.map fun a => aliasLine a.1 a.2 ++ "\n")
  if arguments.isEmpty then
    outputText (lines ((← shell).aliases.mergeSort fun a b => Shell.row a.1 ≤ Shell.row b.1))
  else
    let mut status := 0
    let mut shown := ""
    for text in arguments do
      let name := String.ofList (text.toList.takeWhile (· ≠ '='))
      match text.toList.dropWhile (· ≠ '='), (← shell).aliases.lookup name with
      | '=' :: value, _ =>
        let others := (← shell).aliases.filter fun a => a.1 ≠ name
        modifyShell fun s => { s with aliases := others ++ [(name, String.ofList value)] }
      | _, some value => shown := shown ++ lines [(name, value)]
      | _, none =>
        putError ("alias: " ++ text ++ " not found")
        status := 1
    let _ ← outputText shown
    return status

/-- Removes aliases; the status is zero if all of them were there. -/
def unaliasCommand : Builtin := fun _ _ arguments => do
  let (letters, names) ← plainOptions ['a'] arguments
  let known := (← shell).aliases
  let missing := names.filter fun name => (known.lookup name).isNone
  if !letters.isEmpty then
    modifyShell fun s => { s with aliases := [] }
    return 0
  modifyShell fun s => { s with aliases := known.filter fun a => !names.contains a.1 }
  missing.forM fun name => putError ("unalias: " ++ name ++ " not found")
  return if missing.isEmpty then 0 else 1

def octalText (digits n : Nat) : String :=
  let ds := Nat.toDigits 8 n
  String.ofList (List.replicate (digits - ds.length) '0' ++ ds)

def umaskCommand : Builtin := fun _ _ arguments => do
  match arguments with
  | [] => outputText (octalText 4 (← shell).mask ++ "\n")
  | text :: _ =>
    if text.toList.head?.any Char.isDigit then
      if !text.toList.all isOctal then fail ("Illegal number: " ++ text)
      let mask := text.toList.foldl (fun n c => n * 8 + Text.digitValue c) 0
      modifyShell fun s => { s with mask := mask % 512 }
    return 0

def noJob : Builtin := fun _ _ _ => fail "No current job"

def ulimitCommand : Builtin := fun _ _ arguments => do
  if arguments.all fun a => a.toList.head? = some '-' then outputText "unlimited\n" else return 0

/-- The commands that are not special. The one that calls commands by their names is not among them. -/
def regularBuiltins : List (String × Builtin) := [
  ("[", testCommand true),
  ("alias", aliasCommand),
  ("bg", noJob),
  ("cd", cdCommand),
  ("chdir", cdCommand),
  ("echo", echoCommand),
  ("false", fun _ _ _ => return 1),
  ("fg", noJob),
  ("getopts", getoptsCommand),
  ("hash", fun _ _ _ => return 0),
  ("jobs", jobsCommand),
  ("kill", killCommand),
  ("printf", printfCommand),
  ("pwd", pwdCommand),
  ("read", readCommand),
  ("test", testCommand false),
  ("true", fun _ _ _ => return 0),
  ("ulimit", ulimitCommand),
  ("umask", umaskCommand),
  ("unalias", unaliasCommand),
  ("wait", waitCommand)]

end FirmwareSymbols.Script
