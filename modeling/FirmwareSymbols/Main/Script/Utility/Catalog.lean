import FirmwareSymbols.Main.Script.Utility.Edit
import FirmwareSymbols.Main.Script.Utility.Expression
import FirmwareSymbols.Main.Script.Utility.Files
import FirmwareSymbols.Main.Script.Utility.Find

/-!
# The programs of the system

All programs by their names, and the directories and links under which the system keeps them.
-/

namespace FirmwareSymbols.Script

namespace Utility

/-- Prints words; unlike the command of the shell, it replaces escapes only if that is asked for. -/
def echo : Utility := fun _ arguments => write (bytesOf (echoedPlain arguments))

def printf : Utility := fun _ arguments => do
  match if arguments.head? = some "--" then arguments.tail else arguments with
  | [] => refuse "missing operand"
  | format :: rest =>
    let p := printed format rest
    p.faults.forM complain
    if let some text := p.mistake then complain text
    let status ← write (bytesOf p.text)
    return if p.mistake.isSome || !p.faults.isEmpty then 1 else status

/-- Tests a condition, which stands before a closing bracket if the program is a bracket. -/
def test (isBracket : Bool) : Utility := fun _ arguments => do
  if isBracket && arguments.getLast? ≠ some "]" then
    complain "missing ']'"
    return 2
  match condition (← get).files (if isBracket then arguments.dropLast else arguments) with
  | .ok verdict => return if verdict then 0 else 1
  | .error fault =>
    complain fault.text
    return 2

def pwd : Utility := fun _ _ => do writeString ((FileSystem.pathOf (← get).files.working).text ++ "\n")

end Utility

open Utility in
def utilities : List (String × Utility) := [
  ("[", test true),
  ("basename", basename),
  ("bash", shellIn .extended),
  ("cat", cat),
  ("chmod", chmod),
  ("cmp", cmp),
  ("cp", cp),
  ("cut", cut),
  ("dash", shellIn .plain),
  ("dirname", dirname),
  ("echo", echo),
  ("egrep", grepWith true false),
  ("env", env),
  ("expr", expr),
  ("false", fun _ _ => return 1),
  ("fgrep", grepWith false true),
  ("find", find),
  ("grep", grepWith false false),
  ("head", head),
  ("id", userNumbers),
  ("kill", kill),
  ("ln", ln),
  ("ls", ls),
  ("mkdir", mkdir),
  ("mktemp", mktemp),
  ("mv", mv),
  ("nice", nice),
  ("nohup", nohup),
  ("paste", paste),
  ("printenv", printenv),
  ("printf", printf),
  ("pwd", pwd),
  ("readlink", readlink),
  ("realpath", realpath),
  ("rev", rev),
  ("rm", rm),
  ("rmdir", rmdir),
  ("sed", sed),
  ("seq", seq),
  ("sleep", sleep),
  ("sort", sort),
  ("sync", fun _ _ => return 0),
  ("tac", tac),
  ("tail", tail),
  ("tee", tee),
  ("test", test false),
  ("timeout", timeout),
  ("touch", touch),
  ("tr", tr),
  ("true", fun _ _ => return 0),
  ("uname", uname),
  ("uniq", uniq),
  ("wc", wc),
  ("which", which),
  ("whoami", whoami),
  ("xargs", xargs),
  ("yes", yes)]

/-- The nodes of the system: the directories of the programs, the programs, and the device that holds nothing. -/
def systemNodes : List (Location × Node) :=
  [(["usr"], .directory), (["usr", "bin"], .directory), (["bin"], .link ⟨"usr/bin"⟩), (["dev"], .directory),
    (["dev", "null"], .null)] ++
  (utilities.map fun u => (["usr", "bin", u.1], Node.file (binary u.1) true)) ++
  [(["usr", "bin", "sh"], .link ⟨"dash"⟩)]

end FirmwareSymbols.Script
