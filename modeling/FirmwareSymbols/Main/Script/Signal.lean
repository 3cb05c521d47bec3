import FirmwareSymbols.Main.Script.Level

/-!
# Signals

A signal ends the process that gets it, unless the process ignores it or has commands that deal with it. Such commands
run when the command that was going on has ended. Some signals stop a process, which then goes on for ever.
-/

namespace FirmwareSymbols.Script

open Raster (ExitStatus)

/-! ### Names -/

/-- The signals are numbered from one on; this number is not reached. -/
def signalEnd : Nat := 65

/-- The first of the signals that have no purpose. -/
def firstFreeSignal : Nat := 34

/-- How commands name a signal; those without a name are named by their number. -/
def signalLabel (n : Nat) : String :=
  if n = 16 then "16"
  else
    match Raster.signalName? n with
    | some name => name
    | none =>
      if n = firstFreeSignal then "RTMIN"
      else if n < firstFreeSignal then toString n
      else if n < 50 then "RTMIN+" ++ toString (n - firstFreeSignal)
      else if n = signalEnd - 1 then "RTMAX"
      else "RTMAX-" ++ toString (signalEnd - 1 - n)

/-- The signal that a number or a name in any case stands for. -/
def signalNumber? (text : String) : Option Nat :=
  if text ≠ "" && text.all Char.isDigit then text.toNat?.filter (· < signalEnd)
  else ((List.range signalEnd).drop 1).find? fun n => signalLabel n = text.toUpper

/-- The condition of a trap: a signal, or the end of the process, which has the number zero. -/
def trapNumber? (text : String) : Option Nat := if text.toUpper = "EXIT" then some 0 else signalNumber? text

/-- What is told about a child that did not survive a signal. Of some signals nothing is told. -/
def signalWords (n : Nat) : String :=
  let words := ["Hangup", "", "Quit", "Illegal instruction", "Trace/breakpoint trap", "Aborted", "Bus error",
    "Floating point exception", "Killed", "User defined signal 1", "Segmentation fault", "User defined signal 2", "",
    "Alarm clock", "Terminated", "Stack fault", "Child exited", "Continued", "Stopped (signal)", "Stopped",
    "Stopped (tty input)", "Stopped (tty output)", "Urgent I/O condition", "CPU time limit exceeded",
    "File size limit exceeded", "Virtual timer expired", "Profiling timer expired", "Window changed", "I/O possible",
    "Power failure", "Bad system call"]
  if n < firstFreeSignal then words.getD (n - 1) ("Unknown signal " ++ toString n)
  else "Real-time signal " ++ toString (n - firstFreeSignal)

/-! ### Effects -/

/-- Signals that do nothing by default. -/
def isHarmless (signal : Nat) : Bool := [0, childSignal, 18, 23, 28].contains signal

/-- Signals that stop a process by default. -/
def isStop (signal : Nat) : Bool := [19, 20, 21, 22].contains signal

/-- Signals that no process can deal with itself. -/
def isFinal (signal : Nat) : Bool := signal = 9 || signal = 19

/-- What a process does about a signal, if it does not leave that to the system. -/
def Shell.response? (s : Shell) (signal : Nat) : Option String :=
  if isFinal signal then none else if s.ignored.contains signal then some "" else s.trap? signal

/-- What a signal does to a process that does not deal with it. -/
def byDefault (signal : Nat) : Action Unit :=
  if isHarmless signal then pure () else if isStop signal then throw .never else throw (.killed signal)

/-- The process itself gets a signal. -/
def takeSignal (signal : Nat) : Action Unit := do
  match (← shell).response? signal with
  | none => byDefault signal
  | some "" => pure ()
  | some _ => modifyShell fun s => { s with pending := s.pending ++ [signal] }

/-- Runs the commands that deal with a signal; the status stays what it was. -/
def Level.dealWith (below : Level) (signal : Nat) : Action Unit := do
  let s ← shell
  match s.response? signal with
  | none => byDefault signal
  | some "" => pure ()
  | some action =>
    modifyShell fun s => { s with leaving := s.leaving <|> some s.status }
    below.text false action
    modifyShell fun t => { t with status := s.status, leaving := s.leaving }

/-- Deals with the signals that have come, in the order of their numbers. -/
def Level.dealWithSignals (below : Level) : Action Unit := do
  let signals := (← shell).pending
  if !signals.isEmpty then
    modifyShell fun s => { s with pending := [] }
    ((List.range signalEnd).filter signals.contains).forM below.dealWith

/-- Tells about a child that did not survive a signal. -/
def tellEnd (status : ExitStatus) : Action Unit := do
  match status with
  | .signal n => if signalWords n ≠ "" then putError (signalWords n)
  | .code _ => pure ()

end FirmwareSymbols.Script
