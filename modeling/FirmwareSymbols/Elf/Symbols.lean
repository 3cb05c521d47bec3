import FirmwareSymbols.Elf.SymbolTable
import FirmwareSymbols.FileSystem.Read

/-!
# Symbols of binary files

Reading the symbol table of a file, whole or as far as a policy accepts its rows.
-/

namespace FirmwareSymbols.FileSystem

/-- Every row of the symbol table of a file. -/
def readSymbols (fs : FileSystem) (path : Path) : Except ToolError (List Symbol) :=
  match fs.readBytes path with
  | .error cause => .error (.io path cause)
  | .ok image => parseSymbols image path

/-- The rows of a file that the policy accepts. -/
def extractSymbols (fs : FileSystem) (path : Path) (policy : Policy) : Logged (Except ToolError (List Symbol)) :=
  match fs.readSymbols path with
  | .error e => pure (.error e)
  | .ok symbols => do return .ok (← policy.filter symbols)

end FirmwareSymbols.FileSystem
