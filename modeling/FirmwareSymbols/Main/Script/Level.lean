import FirmwareSymbols.Main.Script.Executable
import FirmwareSymbols.Main.Script.Grammar
import FirmwareSymbols.Main.Script.Message

/-!
# Levels of running

A command runs its parts one level below itself. A process that gets to the lowest level has run out of memory and does
not survive that.
-/

namespace FirmwareSymbols.Script

open Raster (ExitStatus)

/-- What can be run at one level. -/
structure Level where
  /-- Runs a command. The flag tells whether its failure is expected, so that it does not end the script. -/
  command : Bool → Command → Action Unit := fun _ _ => throw (.killed 11)
  /-- The process becomes another program, at whose end it ends. -/
  execute : Image → Action Unit := fun _ => throw (.killed 11)

namespace Level

def commands (below : Level) (isTested : Bool) (body : List Command) : Action Unit := body.forM (below.command isTested)

/-- Shows lines that were read, if that is asked for. -/
def showLines (lines : List String) (first next : Nat) : Action Unit := do
  if (← shell).hasOption 'v' then
    let shown := (lines.drop (first - 1)).take (next - first)
    let _ ← writeText 2 (String.join (shown.map (· ++ "\n")))

/-- Reads a line and runs it; `isRun` tells whether a command was run before. -/
def runLine (below : Level) (isTested : Bool) (lines : List String) :
    Source × Bool → Action (Source × Bool ⊕ Unit) := fun (s, isRun) => do
  if s.rest.isEmpty then
    if !isRun then setStatus 0
    return .inr ()
  match { s with aliases := (← shell).aliases : Source }.readLine with
  | .error c =>
    showLines lines s.line (c.line + 1)
    modifyShell fun t => { t with line := c.line }
    fail c.text
  | .ok (line, next) =>
    showLines lines s.line (if next.rest.isEmpty then next.line + 1 else next.line)
    modifyShell fun t => { t with nextLine := next.line }
    below.commands isTested line
    return .inl (next, isRun || !line.isEmpty)

/-- Runs a text line by line. If it holds no command its status is zero. The lines of a file may be shown. -/
def text (below : Level) (isTested : Bool) (text : String) (isFile : Bool := false) : Action Unit := do
  let before ← shell
  let lines := if isFile then Text.splitText '\n' text else []
  let lines := if lines.getLast? = some "" then lines.dropLast else lines
  let result ← attempt
    (iterate (below.runLine isTested lines) (text.length + (← get).budget + 2) ({ rest := text.toList }, false))
  modifyShell fun s => { s with nextLine := before.nextLine }
  resume result

/-! ### Processes -/

/-- Runs the commands that are kept for the end of the process; the status with which it then ends. -/
def lastCommands (below : Level) (status : Nat) : Action ExitStatus := do
  match (← shell).trap? 0 with
  | none | some "" => return .code (status % 256)
  | some action =>
    modifyShell fun s => { s.setTrap 0 none with status := status, leaving := some status }
    match ← attempt (below.text false action) with
    | .error (.killed signal) => return .signal signal
    | .error .never => throw .never
    | .error .exit => return .code ((← shell).leaving.getD status % 256)
    | .error .mistake => return .code (← shell).status
    | _ => return .code (status % 256)

/-- Runs what a process does, up to its end. -/
def toEnd (below : Level) (p : Action Unit) : Action ExitStatus := do
  match ← attempt p with
  | .error (.killed signal) => return .signal signal
  | .error .never => throw .never
  | .error .exit =>
    let s ← shell
    below.lastCommands (s.leaving.getD s.status)
  | _ => below.lastCommands (← shell).status

end Level

/-- The signal that tells of the end of a child. -/
def childSignal : Nat := 17

/-- A copy of a process for a part of its script. Only ignored signals stay as they are. -/
def Shell.copy (s : Shell) (own : Nat) : Shell :=
  { s with own, parents := s.own :: s.parents, traps := s.traps.filter fun t => t.2 = "", jobs := [],
           pending := [], leaving := none }

/-- A process gets a signal when one of its children ends, if it has commands that deal with that. -/
def Shell.withEndedChild (s : Shell) : Shell :=
  if (s.trap? childSignal).any (· ≠ "") then { s with pending := s.pending ++ [childSignal] } else s

/-- Takes the signals to the process itself that other processes have sent up to now. -/
def receiveSent : Action Unit := do
  let m ← get
  let isMine (s : SentSignal) : Bool := s.time ≤ m.time && s.receiver = m.shell.own
  let mine := (m.signals.filter isMine).map SentSignal.signal
  set { m with signals := m.signals.filter fun s => !isMine s,
               shell := { m.shell with pending := m.shell.pending ++ mine } }

/-- The files with the working directory of others. -/
def workingAs (before files : FileSystem) : FileSystem := { files with working := before.working }

/-- Runs an action in a process of its own and gives the result; nothing but the shared state changes. -/
def inProcess {α : Type} (p : Action α) : Action α := do
  let before ← get
  let own := before.nextProcess
  set { before with nextProcess := own + 1, shell := before.shell.copy own }
  let result ← attempt p
  modify fun m => { m with files := workingAs before.files m.files, shell := before.shell.withEndedChild }
  receiveSent
  resume result

/-- The status of a command that ended like this. -/
def statusNumber : ExitStatus → Nat
  | .code n => n
  | .signal n => 128 + n

/-- Runs an action as a process of its own up to its end. -/
def Level.child (below : Level) (p : Action Unit) : Action ExitStatus := inProcess (below.toEnd p)

/-- What an action writes to standard output, when it runs in a process of its own. -/
def Level.outputOf (below : Level) (p : Action Unit) : Action (ByteArray × ExitStatus) := do
  let pipe ← newPipe .empty
  let status ← inProcess do
    openOn 1 { target := .pipe pipe, reads := false }
    below.toEnd p
  return ((← get).pipes.getD pipe .empty, status)

end FirmwareSymbols.Script
