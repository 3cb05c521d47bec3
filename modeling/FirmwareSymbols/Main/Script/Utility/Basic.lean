import FirmwareSymbols.Main.Script.Special

/-!
# Programs of the system

A program gets its arguments and gives its status. Options are letters with a minus sign or names with two of them;
they may stand between the operands, up to a word of two minus signs. Messages start with the name by which the program
was called.
-/

namespace FirmwareSymbols.Script

/-- A program, run at a level. -/
abbrev Utility := Level → List String → Action Nat

namespace Utility

/-! ### Messages -/

def programName : Action String := do return (← shell).name

/-- Writes a message. -/
def complain (text : String) : Action Unit := do putError ((← programName) ++ ": " ++ text)

/-- Writes a message about a wrong call, and ends with a status. -/
def refuse (text : String) (status : Nat := 1) : Action Nat := do
  complain text
  putError ("Try '" ++ (← programName) ++ " --help' for more information.")
  return status

def quote (text : String) : String := "'" ++ text ++ "'"

/-! ### Options -/

/-- An option that a program knows. -/
structure Known where
  letter : Char
  name : String := ""
  /-- Whether an argument follows. -/
  hasArgument : Bool := false

/-- Options with their arguments, and the operands. -/
structure Call where
  options : List (Char × String) := []
  operands : List String := []

namespace Call

def has (c : Call) (letter : Char) : Bool := c.options.any fun o => o.1 = letter

/-- The argument of the last option with this letter. -/
def argument? (c : Call) (letter : Char) : Option String := c.options.reverse.lookup letter

def addOption (c : Call) (letter : Char) (argument : String) : Call := { c with options := (letter, argument) :: c.options }

end Call

/-- The options in a word of letters; the last of them may need the next word as its argument. -/
def letterOptions (known : List Known) : List Char → Except String (List (Char × String) × Option Char)
  | [] => .ok ([], none)
  | c :: rest =>
    match known.find? fun k => k.letter = c with
    | none => .error ("invalid option -- '" ++ String.singleton c ++ "'")
    | some k =>
      if k.hasArgument then
        .ok (if rest.isEmpty then ([], some c) else ([(c, String.ofList rest)], none))
      else do
        let (more, last) ← letterOptions known rest
        return ((c, "") :: more, last)

/-- The option that a word with two minus signs names, whose name may be cut off, and its argument. -/
def namedOption (known : List Known) (text : String) : Except String (Known × Option String) :=
  let name := String.ofList (text.toList.takeWhile (· ≠ '='))
  let argument := match text.toList.dropWhile (· ≠ '=') with
    | [] => none
    | _ :: value => some (String.ofList value)
  let exact := known.find? fun k => k.name = name
  let similar := known.find? fun k => k.name ≠ "" && name.toList.isPrefixOf k.name.toList
  match exact <|> similar with
  | some k => .ok (k, argument)
  | none => .error ("unrecognized option '--" ++ name ++ "'")

/-- Reads a call. If `stopsEarly`, all words after the first operand are operands. `waiting` is an option whose
argument comes next, with the complaint if it does not. -/
def readCall (known : List Known) (stopsEarly : Bool) : Option (Char × String) → List String → Except String Call
  | none, [] => .ok {}
  | some (_, complaint), [] => .error complaint
  | some (letter, _), word :: rest => do return (← readCall known stopsEarly none rest).addOption letter word
  | none, word :: rest => do
    match word.toList with
    | ['-', '-'] => return { operands := rest }
    | '-' :: '-' :: name =>
      let (k, argument) ← namedOption known (String.ofList name)
      if k.hasArgument && argument.isNone then
        readCall known stopsEarly (some (k.letter, "option '--" ++ k.name ++ "' requires an argument")) rest
      else return (← readCall known stopsEarly none rest).addOption k.letter (argument.getD "")
    | '-' :: c :: letters =>
      let (options, last) ← letterOptions known (c :: letters)
      let complaint (letter : Char) : String := "option requires an argument -- '" ++ String.singleton letter ++ "'"
      let call ← readCall known stopsEarly (last.map fun letter => (letter, complaint letter)) rest
      return { call with options := options ++ call.options }
    | _ =>
      if stopsEarly then return { operands := word :: rest }
      let call ← readCall known stopsEarly none rest
      return { call with operands := word :: call.operands }

/-- A program whose options are letters, each also with a name. A wrong call has the status that is given. -/
def withOptions (known : List Known) (stopsEarly : Bool) (status : Nat) (p : Call → Action Nat) (arguments : List String) :
    Action Nat :=
  match readCall known stopsEarly none arguments with
  | .ok call => p call
  | .error text => refuse text status

/-! ### Input and output -/

/-- The bytes of a file, or of standard input. -/
def contentOf (path : String) : Action (Except IoCause ByteArray) := do
  if path = "-" then readBytes 0
  else
    match ← openInput path with
    | .error cause => return .error cause
    | .ok s =>
      if s.target = .directory then return .error .isDirectory
      let content := (← get).content s.target
      return .ok (content.extract s.position content.size)

/-- Writes the output of a program; its status tells if that was not possible. -/
def write (data : ByteArray) : Action Nat := do
  if data.isEmpty then return 0
  if ← writeBytes 1 data then return 0
  complain "write error: Bad file descriptor"
  return 1

def writeString (text : String) : Action Nat := write text.toUTF8

/-- The lines of bytes, each with its line feed; the last one may have none. -/
def linesOf (data : List UInt8) : List (List UInt8) :=
  data.foldr (fun b lines =>
    match b, lines with
    | 10, _ => [10] :: lines
    | _, [] => [[b]]
    | _, line :: rest => (b :: line) :: rest) []

def ofLines (lines : List (List UInt8)) : ByteArray := ⟨lines.flatten.toArray⟩

/-- A line without its line feed. -/
def chomped (line : List UInt8) : List UInt8 := if line.getLast? = some 10 then line.dropLast else line

/-- A number with an optional suffix for a unit. -/
def natural? (text : String) : Option Nat :=
  match Text.number? text.toList with
  | some (n, []) => some n
  | some (n, [c]) =>
    match c with
    | 'b' => some (n * 512)
    | 'K' | 'k' => some (n * 1024)
    | 'M' => some (n * 1048576)
    | _ => none
  | _ => none

end Utility

end FirmwareSymbols.Script
