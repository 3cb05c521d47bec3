/-!
# Exit statuses

How a program ended: with a code, or by a signal that it did not survive.
-/

namespace FirmwareSymbols.Raster

inductive ExitStatus
  | code (n : Nat)
  | signal (n : Nat)
deriving DecidableEq, Repr

/-- The names of the signals, from number 1 on, without the `SIG` in front. -/
def signalNames : List String :=
  ["HUP", "INT", "QUIT", "ILL", "TRAP", "ABRT", "BUS", "FPE", "KILL", "USR1", "SEGV", "USR2", "PIPE", "ALRM", "TERM",
    "STKFLT", "CHLD", "CONT", "STOP", "TSTP", "TTIN", "TTOU", "URG", "XCPU", "XFSZ", "VTALRM", "PROF", "WINCH", "IO",
    "PWR", "SYS"]

def signalName? (n : Nat) : Option String := if n = 0 then none else signalNames[n - 1]?

namespace ExitStatus

def isSuccess (s : ExitStatus) : Bool := s = .code 0

def text : ExitStatus → String
  | .code n => "exit status: " ++ toString n
  | .signal n =>
    match signalName? n with
    | some name => "signal: " ++ toString n ++ " (SIG" ++ name ++ ")"
    | none => "signal: " ++ toString n

end ExitStatus

end FirmwareSymbols.Raster
