import FirmwareSymbols.Main.Script.Builtin
import FirmwareSymbols.Main.Script.Utility.Basic

/-!
# Programs that start programs

Running scripts, and running programs with other variables, for a limited time, or with arguments that were read.
-/

namespace FirmwareSymbols.Script.Utility

open Raster (ExitStatus)

/-! ### The shell -/

/-- Runs a text as the script of this process. -/
def runScript (below : Level) (name : String) (parameters : List String) (text : String) (isFile : Bool) :
    Action Nat := do
  modifyShell fun s => { s with name, parameters }
  below.text false text isFile
  return (← shell).status

/-- The values that a shell gives to its own variables, and whether a value that it was given stays. -/
def ownVariables : List (String × String × Bool) := [
  ("OPTIND", "1", false),
  ("PS4", "+ ", true),
  ("PS2", "> ", true),
  ("PS1", "# ", true),
  ("PATH", "/usr/local/sbin:/usr/local/bin:/usr/sbin:/usr/bin:/sbin:/bin", true),
  ("IFS", " \t\n", false)]

/-- Sets the variables that a shell has at its start, besides those that it was given. -/
def prepareVariables : Action Unit := do
  let given := (← shell).vars
  let isOwn (name : String) : Bool := (ownVariables.lookup name).isSome
  let own := ownVariables.map fun (name, value, stays) =>
    match given.lookup name with
    | some v => (name, if stays then v else { v with value })
    | none => (name, { value })
  modifyShell fun s => { s with vars := own ++ given.filter fun v => isName v.1 && !isOwn v.1 }
  let path ← workingPath
  modifyShell fun s => (s.assign "PPID" (toString (s.parents.headD (s.own - 1)))).assignExported "PWD" path

/-- Ends the start of a script with a message. -/
def refuseScript (text : String) (status : Nat) : Action Nat := do
  warn text
  return status

/-- The shell: runs the text after its options, a file, or standard input. -/
def shellIn (dialect : Dialect) : Utility := fun below arguments => do
  modifyShell fun s => { s with dialect }
  prepareVariables
  match readOptions true [] arguments with
  | .error text => refuseScript text 2
  | .ok r =>
    modifyShell fun s => { s with options := r.options }
    let s ← shell
    match r.hasCommand, r.rest with
    | true, [] => refuseScript "-c requires an argument" 2
    | true, text :: rest => runScript below (rest.head?.getD s.name) rest.tail text false
    | false, [] => readFrom below s.name [] (← readBytes 0)
    | false, path :: rest =>
      if r.options.contains 's' then readFrom below s.name r.rest (← readBytes 0)
      else
        match ← openInput path with
        | .error cause =>
          match dialect with
          | .plain => refuseScript ("cannot open " ++ path ++ ": " ++ openWords cause) 2
          | .extended =>
            putError (s.name ++ ": " ++ path ++ ": " ++ cause.words)
            return 127
        | .ok stream =>
          if stream.target = .directory then
            putError (path ++ ": 0: I/O error")
            return 2
          readFrom below path rest (.ok ((← get).content stream.target))
where
  readFrom (below : Level) (name : String) (parameters : List String) (found : Except IoCause ByteArray) : Action Nat :=
    match found with
    | .ok content => runScript below name parameters (Text.decodeLossy content.toList) true
    | .error _ => return 0

/-! ### Starting programs -/

/-- The process becomes the program that words call, or complains about it. -/
def start (below : Level) (words : List String) : Action Nat := do
  match words with
  | [] => return 0
  | name :: arguments =>
    let m ← get
    let searchPath := (m.shell.value? "PATH").getD "/bin:/usr/bin"
    match startedImage m.files searchPath name arguments with
    | .error cause =>
      complain (quote name ++ ": " ++ cause.words)
      return if cause = .notFound then 127 else 126
    | .ok image =>
      below.execute image
      return (← shell).status

/-- Runs the program that words call as a process of its own. -/
def runWords (below : Level) (words : List String) : Action ExitStatus := below.child do
  setStatus (← start below words)

def env : Utility := fun below =>
  withOptions [⟨'i', "ignore-environment", false⟩, ⟨'u', "unset", true⟩, ⟨'0', "null", false⟩, ⟨'C', "chdir", true⟩,
      ⟨'S', "split-string", true⟩] true 125 fun call => do
    if call.has 'i' || call.operands.head? = some "-" then modifyShell fun s => { s with vars := [] }
    for (letter, name) in call.options do
      if letter = 'u' then modifyShell fun s => s.removeVariable name
    let split := ((call.argument? 'S').map fun text => (text.splitOn " ").filter (· ≠ "")).getD []
    let operands := split ++ if call.operands.head? = some "-" then call.operands.tail else call.operands
    let isAssignment (w : String) : Bool := w.toList.contains '='
    for text in operands.takeWhile isAssignment do
      let (name, value) := splitAssignment text
      modifyShell fun s => s.setVariable name { value, isExported := true }
    match operands.dropWhile isAssignment with
    | [] => writeString (String.join ((← shell).environment.map fun v => v.1 ++ "=" ++ v.2 ++ "\n"))
    | words => start below words

def printenv : Utility := fun _ arguments => do
  let vars := (← shell).environment
  match arguments with
  | [] => writeString (String.join (vars.map fun v => v.1 ++ "=" ++ v.2 ++ "\n"))
  | names =>
    let found := names.map fun name => vars.lookup name
    let _ ← writeString (String.join (found.map fun value => (value.map (· ++ "\n")).getD ""))
    return if found.all Option.isSome then 0 else 1

/-- A time in milliseconds: a decimal number with an optional unit. -/
def duration? (text : String) : Option Nat :=
  let scale (d : Decimal) (seconds : Nat) : Nat := { d with digits := d.digits * seconds }.scaled 3
  match Decimal.ofText? text.toList with
  | some (d, rest) =>
    if d.isNegative then none
    else
      match rest with
      | [] | ['s'] => some (scale d 1)
      | ['m'] => some (scale d 60)
      | ['h'] => some (scale d 3600)
      | ['d'] => some (scale d 86400)
      | _ => none
  | none => if text = "infinity" || text = "inf" then some (1000 * Nat.pow 2 40) else none

def sleep : Utility := fun below arguments => do
  let times := (arguments.filter (· ≠ "--")).map fun text => (text, duration? text)
  match times.filter fun t => t.2.isNone with
  | [] =>
    if times.isEmpty then refuse "missing operand"
    else
      below.sleep ((times.map fun t => t.2.getD 0).foldl (· + ·) 0)
      return 0
  | faulty =>
    faulty.forM fun t => complain ("invalid time interval " ++ quote t.1)
    putError ("Try '" ++ (← programName) ++ " --help' for more information.")
    return 1

def timeout : Utility := fun below =>
  withOptions [⟨'s', "signal", true⟩, ⟨'k', "kill-after", true⟩, ⟨'p', "preserve-status", false⟩,
      ⟨'f', "foreground", false⟩, ⟨'v', "verbose", false⟩] true 125 fun call => do
    match call.operands with
    | [] | [_] => refuse "missing operand" 125
    | time :: words =>
      match duration? time, signalNumber? ((call.argument? 's').getD "TERM") with
      | none, _ => refuse ("invalid time interval " ++ quote time) 125
      | _, none => refuse (quote ((call.argument? 's').getD "") ++ ": invalid signal") 125
      | some limit, some signal =>
        let before ← get
        let goal := before.time + limit
        if limit ≠ 0 && goal < before.patience then set { before with patience := goal }
        let result ← attempt (runWords below words)
        modify fun m => { m with patience := before.patience }
        match result with
        | .ok status => return statusNumber status
        | .error .never =>
          if before.patience ≤ goal || limit = 0 then throw .never
          modify fun m => { m with time := goal, budget := before.budget }
          return if signal = 9 then 137 else if call.has 'p' then 128 + signal else 124
        | .error stop => throw stop

def nohup : Utility := fun below arguments => do
  if arguments.isEmpty then refuse "missing operand" 125
  else
    modifyShell fun s => { s with ignored := 1 :: s.ignored }
    start below arguments

def nice : Utility := fun below =>
  withOptions [⟨'n', "adjustment", true⟩] true 125 fun call =>
    if call.operands.isEmpty then writeString "0\n" else start below call.operands

/-! ### Arguments that are read -/

/-- The words of a text, where blanks separate, and quotes and backslashes keep together. -/
def inputWords : Option Char → List Char → List Char → Bool → List String
  | _, word, [], isWord => if isWord then [String.ofList word] else []
  | some q, word, c :: rest, _ => if c = q then inputWords none word rest true else inputWords (some q) (word ++ [c]) rest true
  | none, word, '\\' :: c :: rest, _ => inputWords none (word ++ [c]) rest true
  | none, word, c :: rest, isWord =>
    if c = '\'' || c = '"' then inputWords (some c) word rest true
    else if c = ' ' || c = '\t' || c = '\n' then
      if isWord then String.ofList word :: inputWords none [] rest false else inputWords none [] rest false
    else inputWords none (word ++ [c]) rest true

/-- Divides a list into parts of a length, at most `n` parts. -/
def chunks (length : Nat) : Nat → List String → List (List String)
  | 0, _ => []
  | _, [] => []
  | n + 1, l => l.take length :: chunks length n (l.drop length)

def xargs : Utility := fun below =>
  withOptions [⟨'n', "max-args", true⟩, ⟨'I', "replace", true⟩, ⟨'0', "null", false⟩, ⟨'d', "delimiter", true⟩,
      ⟨'r', "no-run-if-empty", false⟩, ⟨'t', "verbose", false⟩, ⟨'L', "max-lines", true⟩, ⟨'P', "max-procs", true⟩] true 1
      fun call => do
    let data ← match ← readBytes 0 with
      | .ok data => pure data
      | .error _ => pure .empty
    let text := Text.decodeLossy data.toList
    let divided (separator : Char) : List String :=
      let parts := Text.splitText separator text
      if parts.getLast? = some "" then parts.dropLast else parts
    let items :=
      if call.has '0' then divided '\x00'
      else
        match call.argument? 'd' with
        | some d => divided ((d.toList.head?).getD '\n')
        | none =>
          if call.has 'I' || call.has 'L' then
            (divided '\n').map (fun l => String.ofList (l.toList.dropWhile isGap)) |>.filter (· ≠ "")
          else inputWords none [] text.toList false
    let words := if call.operands.isEmpty then ["echo"] else call.operands
    let calls : List (List String) :=
      match call.argument? 'I' with
      | some mark => items.map fun item => words.map fun w => item.intercalate (w.splitOn mark)
      | none =>
        match (call.argument? 'n').orElse (fun _ => call.argument? 'L') |>.bind natural? with
        | some n => (chunks (max 1 n) items.length items).map (words ++ ·)
        | none => if items.isEmpty && call.has 'r' then [] else [words ++ items]
    let calls := if items.isEmpty && (call.has 'n' || call.has 'L') && !call.has 'r' then [words] else calls
    let mut status := 0
    for words in calls do
      match ← runWords below words with
      | .code 0 => pure ()
      | .code n => status := if n = 126 || n = 127 then n else if n = 255 then 124 else max status 123
      | .signal _ => status := 125
    return status

/-! ### Facts about the system -/

def kill : Utility := fun below arguments => killCommand below false arguments

def which : Utility := fun _ arguments => do
  let m ← get
  let found := (arguments.filter fun a => a.toList.head? ≠ some '-').map fun name =>
    (candidates m.shell.searchPath name).find? fun path => m.files.isFile path && m.files.isExecutable path
  let _ ← writeString (String.join (found.map fun path => (path.map fun p => p.text ++ "\n").getD ""))
  return if !found.isEmpty && found.all Option.isSome then 0 else 1

def whoami : Utility := fun _ _ => writeString "root\n"

def userNumbers : Utility := fun _ =>
  withOptions [⟨'u', "user", false⟩, ⟨'g', "group", false⟩, ⟨'n', "name", false⟩, ⟨'G', "groups", false⟩,
      ⟨'r', "real", false⟩] false 1 fun call =>
    if call.has 'n' then writeString "root\n"
    else if call.has 'u' || call.has 'g' || call.has 'G' then writeString "0\n"
    else writeString "uid=0(root) gid=0(root) groups=0(root)\n"

def uname : Utility := fun _ =>
  withOptions [⟨'s', "kernel-name", false⟩, ⟨'m', "machine", false⟩, ⟨'o', "operating-system", false⟩] false 1 fun call =>
    let parts := (if call.has 's' || call.options.isEmpty then ["Linux"] else []) ++
      (if call.has 'm' then ["x86_64"] else []) ++ (if call.has 'o' then ["GNU/Linux"] else [])
    writeString (" ".intercalate parts ++ "\n")

end FirmwareSymbols.Script.Utility
