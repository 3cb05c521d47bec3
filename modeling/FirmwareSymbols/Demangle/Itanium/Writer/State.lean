import FirmwareSymbols.Demangle.Itanium.Writer.Scope

/-!
# Writing declarations

In a declaration the parts of a type stand around the name that is declared. A part that has to follow what it applies
to waits until the rest is written; such parts are the declarators, the innermost first. Who writes a declarator takes
it off the list; where one is still waiting when its own turn comes, it is written there.
-/

namespace FirmwareSymbols.Demangle.Itanium

inductive Declarator
  /-- The parameters of a function with a name. -/
  | parameters (name : Name) (types : List Ty)
  /-- The parameters of a type of functions. -/
  | signature (types : List Ty)
  /-- What follows the parameters of a type of functions. -/
  | qualifiers (f : FunctionType)
  | modifier (t : Compound)

structure State where
  /-- What is written, the latest first. -/
  pieces : List String
  last : Option Char
  /-- The waiting declarators with their numbers. -/
  waiting : List (Nat × Declarator)
  nextNumber : Nat
  /-- Whether the parameters of a closure are being written. -/
  inClosure : Bool
  /-- Whether a pack of arguments has been written. -/
  sawPack : Bool
  /-- The latest name from the source, or kind of a clone. -/
  sourceName : Option String
  /-- Whether the next list of parameters starts with the object of a member function. -/
  hasObject : Bool

def State.empty : State := ⟨[], none, [], 0, false, false, none, false⟩

def State.text (s : State) : String := String.join s.pieces.reverse

abbrev Writer := StateT State Option

def write (piece : String) : Writer Unit :=
  modify fun s => { s with pieces := piece :: s.pieces, last := piece.toList.getLast?.or s.last }

/-- Sets off what follows. -/
def ensureSpace : Writer Unit := do
  if (← get).last ≠ some ' ' then write " "

def writeSeparated {α : Type} (item : α → Writer Unit) : List α → Writer Unit
  | [] => pure ()
  | a :: rest => do
    item a
    rest.forM fun b => do
      write ", "
      item b

/-- Writes a part between brackets. -/
def between (opening closing : String) (p : Writer Unit) : Writer Unit := do
  write opening
  p
  write closing

/-! ### Waiting declarators -/

/-- Lets the waiting declarators wait until a part is written. -/
def aside (p : Writer Unit) : Writer Unit := do
  let waiting := (← get).waiting
  modify fun s => { s with waiting := [] }
  p
  modify fun s => { s with waiting := waiting }

/-- The innermost declarator, which waits no more. -/
def takeWaiting : Writer (Option Declarator) := do
  match (← get).waiting with
  | [] => return none
  | (_, d) :: rest =>
    modify fun s => { s with waiting := rest }
    return some d

/-- Writes a part while a declarator waits; whether it still waits afterwards. It waits no more then. -/
def whileWaiting (d : Declarator) (p : Writer Unit) : Writer Bool := do
  let number := (← get).nextNumber
  modify fun s => { s with waiting := (number, d) :: s.waiting, nextNumber := number + 1 }
  p
  match (← get).waiting with
  | (n, _) :: rest =>
    if n = number then modify fun s => { s with waiting := rest }
    return n = number
  | [] => return false

/-- Takes declarators off the list while a test holds. -/
def dropWaitingWhile (test : Declarator → Bool) : Writer Unit :=
  modify fun s => { s with waiting := s.waiting.dropWhile fun w => test w.2 }

end FirmwareSymbols.Demangle.Itanium
