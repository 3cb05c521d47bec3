import FirmwareSymbols.AddressTable
import FirmwareSymbols.Elf.Symbols
import FirmwareSymbols.SymbolSet

/-!
# Finding addresses

A lookup walks through the rows of a symbol table with the names that are still outstanding. The first row that
defines an outstanding name beyond its own file settles the address of that name.
-/

namespace FirmwareSymbols

/-- The addresses that were found, and the names for which there is none. -/
structure Resolution where
  table : AddressTable
  unresolved : SymbolSet

namespace Resolution

def isComplete (r : Resolution) : Bool := r.unresolved.isEmpty

/-- Tells whether all names were found, or which were not. -/
def report (r : Resolution) : Logged Unit :=
  if r.isComplete then do
    Logged.info "_____________________________________"
    Logged.info "| All API symbols found in main.elf |"
    Logged.info "_____________________________________"
  else do
    Logged.error "****************************************************************"
    r.unresolved.names.forM fun name => Logged.error ("** Symbol not found in main.elf: " ++ name ++ " **")
    Logged.error "****************************************************************"

end Resolution

structure Lookup where
  outstanding : SymbolSet
  table : AddressTable

/-- Other files see this definition. -/
def Symbol.isDefinition (s : Symbol) : Bool := s.home ≠ .undefined && s.binding ≠ .local

namespace Lookup

def start (targets : SymbolSet) : Lookup := ⟨targets, .empty⟩

def isDone (l : Lookup) : Bool := l.outstanding.isEmpty

/-- Takes the address of the row if it settles an outstanding name. -/
def visit (l : Lookup) (s : Symbol) : Logged Lookup :=
  if s.isDefinition then
    match l.outstanding.erase? s.name with
    | none => pure l
    | some rest => do
      Logged.debug (AddressTable.hexAddress s.value ++ "\t" ++ s.name)
      return ⟨rest, l.table.insert s.name s.value⟩
  else pure l

/-- Visits the rows until nothing is outstanding. -/
def visitUntilDone (l : Lookup) : List Symbol → Logged Lookup
  | [] => pure l
  | s :: rest =>
    if l.isDone then pure l
    else do
      let next ← l.visit s
      next.visitUntilDone rest

def finish (l : Lookup) : Resolution := ⟨l.table, l.outstanding⟩

end Lookup

/-- Looks up the required names in the rows of a symbol table. -/
def resolveSymbols (required : SymbolSet) (symbols : List Symbol) : Logged Resolution := do
  let l ← (Lookup.start required).visitUntilDone symbols
  return l.finish

/-- Looks up the required names in a linked binary. -/
def FileSystem.resolve (fs : FileSystem) (required : SymbolSet) (binary : Path) :
    Logged (Except ToolError Resolution) :=
  match fs.readSymbols binary with
  | .error e => pure (.error e)
  | .ok symbols => do return .ok (← resolveSymbols required symbols)

end FirmwareSymbols
