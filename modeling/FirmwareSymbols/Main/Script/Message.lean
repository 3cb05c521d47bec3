import FirmwareSymbols.Main.Script.Stream

/-!
# Messages

A script tells mistakes on its standard error: its name, the line, and the command that noticed the mistake, if one
did. Some mistakes end the process.
-/

namespace FirmwareSymbols.Script

/-- What stands in front of a message. -/
def Shell.messageStart (s : Shell) : String :=
  let line := match s.dialect with
    | .plain => toString s.line
    | .extended => "line " ++ toString s.line
  s.name ++ ": " ++ line ++ ": " ++ (s.command.map (· ++ ": ")).getD ""

/-- Tells something about the script. -/
def warn (text : String) : Action Unit := do putError ((← shell).messageStart ++ text)

/-- Ends the process with a status, unless the command survives that. -/
def failWith {α : Type} (status : Nat) (text : String) : Action α := do
  warn text
  setStatus status
  throw .mistake

/-- Makes a mistake. -/
def fail {α : Type} (text : String) : Action α := failWith 2 text

/-- What the words of a cause are for a file that is opened. -/
def openWords : IoCause → String
  | .notFound | .notDirectory => "No such file"
  | cause => cause.words

/-- What the words of a cause are for a file that is made. -/
def createWords : IoCause → String
  | .notFound | .notDirectory => "Directory nonexistent"
  | cause => cause.words

/-- What the words of a cause are for a program that is started. -/
def startWords : IoCause → String
  | .notFound | .notDirectory => "not found"
  | cause => cause.words

/-- A number in the argument of a command. -/
def naturalArgument (text : String) : Action Nat := do
  match text.toNat? with
  | some n => if text.all Char.isDigit && n < Nat.pow 2 31 then return n else fail ("Illegal number: " ++ text)
  | none => fail ("Illegal number: " ++ text)

end FirmwareSymbols.Script
