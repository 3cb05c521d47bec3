import FirmwareSymbols.Demangle.Itanium.Symbol
import FirmwareSymbols.Demangle.Suffix

/-!
# Readable names

A name is tried as a path first and as a symbol of the C++ scheme next.
-/

namespace FirmwareSymbols.Demangle

def readable? (name : String) : Option String :=
  (pathSymbol? name.toList).or (Itanium.demangle? name.toList)

end FirmwareSymbols.Demangle
