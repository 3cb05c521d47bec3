import FirmwareSymbols.Elf.Symbols
import FirmwareSymbols.SymbolSet

/-!
# Checking a plugin

A plugin can be loaded if every name that it requires is provided. The report lists the names that are not, in
ascending order, each with its readable form if it has one.
-/

namespace FirmwareSymbols

/-- Gives the readable form of a mangled name. -/
abbrev Demangler := String → Option String

/-- Has no readable form for any name. -/
def Demangler.never : Demangler := fun _ => none

structure MissingSymbol where
  name : String
  readable : Option String
deriving DecidableEq, Repr

/-- The readable form, or the name itself. -/
def MissingSymbol.display (m : MissingSymbol) : String := m.readable.getD m.name

/-- The line that reports the name. -/
def MissingSymbol.line (m : MissingSymbol) : String :=
  "Symbol in plugin not found in api: " ++ m.display ++
    (if m.display = m.name then "" else " (" ++ m.name ++ ")")

structure CheckReport where
  missing : List MissingSymbol
deriving DecidableEq, Repr

namespace CheckReport

def isSuccess (r : CheckReport) : Bool := r.missing.isEmpty

def print (r : CheckReport) : Logged Unit := do
  r.missing.forM fun m => Logged.error m.line
  if r.isSuccess then Logged.info "All symbols found!"

end CheckReport

/-- Reports the required names that are not provided. -/
def check (required provided : SymbolSet) (demangle : Demangler) : CheckReport :=
  ⟨(required.difference provided).map fun name => ⟨name, demangle name⟩⟩

/-- The names that the plugin expects others to define. -/
def FileSystem.requiredNames (fs : FileSystem) (plugin : Path) : Logged (Except ToolError SymbolSet) := do
  match ← fs.extractSymbols plugin .required with
  | .error e => return .error e
  | .ok symbols => return .ok (SymbolSet.ofList (symbols.map Symbol.name))

end FirmwareSymbols
