import FirmwareSymbols.Demangle.Legacy
import FirmwareSymbols.Demangle.V0.Symbol

/-!
# Path symbols and their suffixes

The two schemes for paths, tried one after the other. Linkers and optimisers append words that start with a dot;
they are kept, except for the number that marks an imported function.
-/

namespace FirmwareSymbols.Demangle

/-- The mark of an imported function. -/
def importMark : List Char := ".llvm.".toList

def isImportDigit (c : Char) : Bool := Text.isDigit c || ('A' ≤ c && c ≤ 'F') || c = '@'

/-- What stands before the first occurrence of a pattern, and after it. -/
def splitFirst? (pattern : List Char) : List Char → Option (List Char × List Char)
  | [] => none
  | c :: s =>
    match pattern.isPrefixOf? (c :: s) with
    | some rest => some ([], rest)
    | none => (splitFirst? pattern s).map fun (before, rest) => (c :: before, rest)

/-- Cuts off the mark of an imported function with its number. -/
def dropImportMark (s : List Char) : List Char :=
  match splitFirst? importMark s with
  | some (before, number) => if number.all isImportDigit then before else s
  | none => s

/-- Letters, digits and punctuation of ASCII. -/
def isSymbolChar (c : Char) : Bool := '!' ≤ c && c ≤ '~'

/-- Words after a dot may follow a path. -/
def isSuffix (s : List Char) : Bool := s.isEmpty || (s.head? = some '.' && s.all isSymbolChar)

/-- The readable form of a path in one of the two schemes. -/
def path? (s : List Char) : Option (String × List Char) :=
  match Legacy.demangle? s with
  | some r => some r
  | none => V0.demangle? s

/-- The readable path with the suffix of the symbol. -/
def pathSymbol? (s : List Char) : Option String :=
  match path? (dropImportMark s) with
  | some (text, suffix) => if isSuffix suffix then some (text ++ String.ofList suffix) else none
  | none => none

end FirmwareSymbols.Demangle
