import FirmwareSymbols.Demangle.Output
import FirmwareSymbols.Demangle.V0.Cursor

/-!
# Reading and writing at once

The readable form is written while the symbol is read. Where the symbol cannot be read, a note is written, and from
then on a question mark for each further part that would have to be read. While output is off nothing is written and
no back reference is followed.
-/

namespace FirmwareSymbols.Demangle.V0

/-- Why a part ends early. -/
inductive Exit
  /-- It could not be read. -/
  | unread
  /-- The output is full. -/
  | full

structure State where
  cursor : Except Fault Cursor
  output : Option Output
  /-- How many lifetimes are bound around the current part. -/
  binders : Nat

abbrev Printer := ExceptT Exit (StateM State)

/-- Writes a piece, if output is on. -/
def write (piece : String) : Printer Unit := do
  let s ← get
  match s.output with
  | none => pure ()
  | some o =>
    match o.write? piece with
    | some o => set { s with output := some o }
    | none => throw .full

def writeIdent (i : Ident) : Printer Unit := i.pieces.forM write

/-- A part that ends early because it could not be read ends normally for the part around it. -/
def partOr {α : Type} (default : α) (p : Printer α) : Printer α :=
  tryCatch p fun
    | .unread => pure default
    | .full => throw .full

def part (p : Printer Unit) : Printer Unit := partOr () p

/-- Notes a fault and ends the part. -/
def fail {α : Type} (fault : Fault) : Printer α := do
  write fault.note
  modify fun s => { s with cursor := .error fault }
  throw .unread

def invalid {α : Type} : Printer α := fail .invalid

/-- Reads a lexeme. -/
def read {α : Type} (reader : Reader α) : Printer α := do
  match (← get).cursor with
  | .error _ =>
    write "?"
    throw .unread
  | .ok c =>
    match reader c with
    | .error fault => fail fault
    | .ok (a, c) =>
      modify fun s => { s with cursor := .ok c }
      return a

/-- Fails if there is nothing to read any more. -/
def requireCursor : Printer Unit := read fun c => .ok ((), c)

/-- Skips the character if it is the next one. -/
def accept (x : Char) : Printer Bool := do
  match (← get).cursor with
  | .error _ => return false
  | .ok c =>
    match eat x c with
    | none => return false
    | some c =>
      modify fun s => { s with cursor := .ok c }
      return true

def hasFailed : Printer Bool := do
  match (← get).cursor with
  | .error _ => return true
  | .ok _ => return false

def isWriting : Printer Bool := do return (← get).output.isSome

/-- Runs a part without output. -/
def silently (p : Printer Unit) : Printer Unit := do
  let output := (← get).output
  modify fun s => { s with output := none }
  p
  modify fun s => { s with output := output }

/-- Prints the target of a back reference, if output is on, and returns to the place after the reference. There is
no target if the nesting is too deep for one more part. -/
def atReference {α : Type} (default : α) (target : Option (Printer α)) : Printer α := partOr default do
  let start ← read backReference
  match target with
  | none => fail .tooDeep
  | some p =>
    if ← isWriting then
      let cursor := (← get).cursor
      modify fun s => { s with cursor := .ok start }
      let a ← p
      modify fun s => { s with cursor := cursor }
      return a
    else return default

/-- Items up to the letter `E`, with a separator between them; the number of items. The symbol is shorter than
`fuel`. -/
def separatedFrom (item : Printer Unit) (separator : String) : Nat → Nat → Printer Nat
  | 0, count => pure count
  | fuel + 1, count => do
    if (← hasFailed) || (← accept 'E') then return count
    if 0 < count then write separator
    item
    separatedFrom item separator fuel (count + 1)

/-- An upper bound for the number of items that can be read. -/
def fuel : Printer Nat := do
  match (← get).cursor with
  | .error _ => return 1
  | .ok c => return c.rest.length + 2

def separated (item : Printer Unit) (separator : String) : Printer Nat := do
  separatedFrom item separator (← fuel) 0

/-- The name of the lifetime that is bound by the binder with this number, counted from outside. -/
def lifetimeName (depth : Nat) : List String :=
  if depth < 26 then [(Char.ofNat ('a'.toNat + depth)).toString] else ["_", toString depth]

/-- Writes the lifetime with this index, counted from inside; zero is the erased one. -/
def writeLifetime (index : Nat) : Printer Unit := part do
  if ← isWriting then
    write "'"
    if index = 0 then write "_"
    else
      let binders := (← get).binders
      if index ≤ binders then (lifetimeName (binders - index)).forM write else invalid

/-- Binds further lifetimes and writes their names. -/
def bindLifetimes : Nat → Bool → Printer Unit
  | 0, _ => pure ()
  | n + 1, first => do
    if !first then write ", "
    modify fun s => { s with binders := s.binders + 1 }
    writeLifetime 1
    bindLifetimes n false

/-- Runs a part below the lifetimes that are bound in front of it. -/
def withBinder (p : Printer Unit) : Printer Unit := part do
  let count ← read (taggedNumber62 'G')
  if ← isWriting then
    if 0 < count then
      write "for<"
      bindLifetimes count true
      write "> "
    part p
    modify fun s => { s with binders := s.binders - count }
  else p

end FirmwareSymbols.Demangle.V0
