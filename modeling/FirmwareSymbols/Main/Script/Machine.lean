import FirmwareSymbols.FileSystem.Write
import FirmwareSymbols.Raster.Status
import FirmwareSymbols.Main.Script.Syntax

/-!
# The state of running scripts

What a script has at hand while it runs. The files, the clock and what has been opened are shared by all processes of
a run; variables, parameters and descriptors belong to one process. A process that runs a part of the script on its
own starts with a copy of them.
-/

namespace FirmwareSymbols.Script

open Raster (ExitStatus)

/-! ### Streams -/

/-- Where the bytes of a stream are. -/
inductive Target
  /-- Nothing can be read, and what is written is lost. -/
  | null
  /-- The standard error of those who started the run. -/
  | messages
  | file (l : Location)
  | pipe (number : Nat)
  /-- A directory, which has no bytes. -/
  | directory
deriving DecidableEq, Repr

structure Stream where
  target : Target
  position : Nat := 0
  appends : Bool := false
  reads : Bool := true
  writes : Bool := true

/-! ### Processes -/

structure Variable where
  value : Option String := none
  isExported : Bool := false
  isReadOnly : Bool := false

/-- How scripts are read and what their commands say. -/
inductive Dialect
  | plain
  /-- With additions to the plain language. -/
  | extended
deriving DecidableEq, Repr

/-- A signal to another process of the run. -/
structure SentSignal where
  time : Nat
  receiver : Nat
  signal : Nat

/-- What belongs to one process. -/
structure Shell where
  /-- The name of the script. -/
  name : String
  dialect : Dialect := .plain
  parameters : List String := []
  vars : List (String × Variable) := []
  functions : List (String × Command) := []
  /-- Names of commands with the texts that are read in their place. -/
  aliases : List (String × String) := []
  /-- The letters of the options that are set. -/
  options : List Char := []
  /-- Signals with the commands that deal with them; an empty text ignores the signal. -/
  traps : List (Nat × String) := []
  /-- Signals that were ignored when the process started; it cannot deal with them. -/
  ignored : List Nat := []
  /-- The streams of the open descriptors. -/
  descriptors : List (Nat × Nat) := []
  /-- The status of the last command. -/
  status : Nat := 0
  /-- The process that the script was started in. -/
  process : Nat
  /-- The process itself. -/
  own : Nat
  /-- The processes that wait for this one, the nearest first. -/
  parents : List Nat := []
  /-- The line of the command that runs. -/
  line : Nat := 0
  /-- The line with which reading goes on. -/
  nextLine : Nat := 0
  /-- The name of the command that runs, if messages show it. -/
  command : Option String := none
  /-- How many loops are around. -/
  loops : Nat := 0
  /-- Whether a function or another script is around. -/
  mayReturn : Bool := false
  /-- For each function that runs, the variables that are to be put back at its end. -/
  saved : List (List (String × Option Variable)) := []
  /-- The processes that were started and that nobody has waited for yet. -/
  jobs : List Nat := []
  /-- The latest of them. -/
  latest : Option Nat := none
  /-- Signals that have come and are still to be dealt with. -/
  pending : List Nat := []
  /-- The status with which the process ends, while it is ending. -/
  leaving : Option Nat := none
  /-- The permissions that new files do not get. -/
  mask : Nat := 18
  /-- The place in a word at which options are read, while they are. -/
  optionPlace : Option Nat := none
  /-- The status of the last command whose output became part of a word. -/
  substituted : Option Nat := none

/-- A process that runs on its own, while what it does is put off. -/
structure Deferred where
  shell : Shell
  body : Command
  start : Nat
  /-- The time of its end; `none` if it goes on for longer than anyone waits. -/
  ending : Option Nat

structure Machine where
  files : FileSystem
  streams : Array Stream := #[]
  pipes : Array ByteArray := #[]
  /-- What those who started the run see on their standard error. -/
  messages : String := ""
  /-- In milliseconds. -/
  time : Nat := 0
  /-- The time after which nobody waits any more. -/
  patience : Nat
  /-- How many commands may still be run. -/
  budget : Nat
  nextProcess : Nat
  /-- Signals that have not been taken yet. -/
  signals : List SentSignal := []
  deferred : List Deferred := []
  /-- The processes that ran on their own and have ended. -/
  ended : List (Nat × ExitStatus) := []
  shell : Shell

/-! ### Actions -/

/-- Why a script does not go on to its next command. -/
inductive Stop
  /-- The process ends with its status. -/
  | exit
  /-- The same because of a mistake, which some commands survive. -/
  | mistake
  /-- So many loops end. -/
  | leaveLoops (count : Nat)
  /-- So many loops but one end, and the last one starts its next turn. -/
  | nextTurn (count : Nat)
  /-- The function or the script ends. -/
  | leaveFunction
  /-- The process does not survive a signal. -/
  | killed (signal : Nat)
  /-- It goes on for longer than anyone waits. -/
  | never
deriving DecidableEq, Repr

abbrev Action := ExceptT Stop (StateM Machine)

def shell : Action Shell := do return (← get).shell

def modifyShell (f : Shell → Shell) : Action Unit := modify fun m => { m with shell := f m.shell }

def setStatus (n : Nat) : Action Unit := modifyShell fun s => { s with status := n }

/-- Runs an action whether or not it is stopped. -/
def attempt {α : Type} (p : Action α) : Action (Except Stop α) := fun m =>
  match p.run m with
  | (r, m) => (.ok r, m)

/-- Goes on from the result of an attempt. -/
def resume {α : Type} : Except Stop α → Action α
  | .ok a => return a
  | .error stop => throw stop

/-- Repeats a step from one value to the next until it gives a result, at most `n` times. -/
def iterate {α β : Type} (step : α → Action (α ⊕ β)) : Nat → α → Action β
  | 0, _ => throw .never
  | n + 1, a => fun m =>
    match (step a).run m with
    | (.ok (.inl next), m) => iterate step n next m
    | (.ok (.inr result), m) => (.ok result, m)
    | (.error stop, m) => (.error stop, m)

/-- Lets time pass. -/
def pass (milliseconds : Nat) : Action Unit := do
  let m ← get
  set { m with time := min (m.time + milliseconds) (m.patience + 1) }
  if m.patience < m.time + milliseconds then throw .never

/-- Counts a command. -/
def spend : Action Unit := do
  let m ← get
  match m.budget with
  | 0 => throw .never
  | n + 1 => set { m with budget := n }

/-! ### Variables -/

namespace Shell

def variableNamed? (s : Shell) (name : String) : Option Variable := s.vars.lookup name

def value? (s : Shell) (name : String) : Option String := (s.variableNamed? name).bind Variable.value

/-- Puts a variable in the place of the one with this name, or after all others. -/
def setVariable (s : Shell) (name : String) (v : Variable) : Shell :=
  { s with vars :=
      if (s.variableNamed? name).isSome then s.vars.map fun w => if w.1 = name then (name, v) else w
      else s.vars ++ [(name, v)] }

def removeVariable (s : Shell) (name : String) : Shell :=
  { s with vars := s.vars.filter fun w => w.1 ≠ name }

def isReadOnly (s : Shell) (name : String) : Bool := (s.variableNamed? name).any Variable.isReadOnly

def hasOption (s : Shell) (letter : Char) : Bool := s.options.contains letter

/-- Gives a variable a value; it stays exported if it was. -/
def assign (s : Shell) (name value : String) : Shell :=
  let v := (s.variableNamed? name).getD {}
  let s := if name = "OPTIND" then { s with optionPlace := none } else s
  s.setVariable name { v with value := some value, isExported := v.isExported || s.hasOption 'a' }

/-- Gives a variable a value for this process and the programs that it starts. -/
def assignExported (s : Shell) (name value : String) : Shell :=
  s.setVariable name { (s.variableNamed? name).getD {} with value := some value, isExported := true }

/-- The variables that programs get. -/
def environment (s : Shell) : List (String × String) :=
  s.vars.filterMap fun (name, v) => if v.isExported then v.value.map fun value => (name, value) else none

/-- The row in which a shell keeps a variable. Programs get the variables row by row. -/
def row (name : String) : Nat :=
  ((name.toList.map Char.toNat).foldl (· + ·) 0 + 16 * (name.toList.head?.map Char.toNat).getD 0) % 39

/-- The variables that go to a program, in their order. -/
def forProgram (s : Shell) : Shell :=
  { s with vars := (s.vars.filter fun v => v.2.isExported).mergeSort fun v w => row v.1 ≤ row w.1 }

/-- The directories in which programs are looked up. -/
def searchPath (s : Shell) : String := (s.value? "PATH").getD ""

/-- The characters that separate fields. -/
def separators (s : Shell) : String := (s.value? "IFS").getD " \t\n"

def trap? (s : Shell) (signal : Nat) : Option String := s.traps.lookup signal

def setTrap (s : Shell) (signal : Nat) (action : Option String) : Shell :=
  let others := s.traps.filter fun t => t.1 ≠ signal
  { s with traps := (action.map fun a => (signal, a)).toList ++ others }

end Shell

end FirmwareSymbols.Script
