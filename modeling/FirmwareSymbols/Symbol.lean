import FirmwareSymbols.Log

/-!
# Symbols

One row of a symbol table, decoded, and the two selections of rows that matter: the references that a file expects
others to define, and the definitions that it offers to them.
-/

namespace FirmwareSymbols

inductive Binding
  | local
  | global
  | weak
  | other (code : UInt8)
deriving DecidableEq, Repr

inductive SymbolKind
  | noType
  | object
  | func
  | sectionName
  | file
  | common
  | tls
  | other (code : UInt8)
deriving DecidableEq, Repr

inductive Visibility
  | default
  | internal
  | hidden
  | protectedScope
deriving DecidableEq, Repr

/-- Where a symbol is defined. -/
inductive SectionRef
  | undefined
  | absolute
  | common
  | index (n : UInt16)
deriving DecidableEq, Repr

namespace Binding

def ofCode : UInt8 → Binding
  | 0 => .local
  | 1 => .global
  | 2 => .weak
  | code => .other code

def name : Binding → String
  | .local => "Local"
  | .global => "Global"
  | .weak => "Weak"
  | .other code => "Other(" ++ toString code.toNat ++ ")"

end Binding

namespace SymbolKind

def ofCode : UInt8 → SymbolKind
  | 0 => .noType
  | 1 => .object
  | 2 => .func
  | 3 => .sectionName
  | 4 => .file
  | 5 => .common
  | 6 => .tls
  | code => .other code

def name : SymbolKind → String
  | .noType => "NoType"
  | .object => "Object"
  | .func => "Func"
  | .sectionName => "Section"
  | .file => "File"
  | .common => "Common"
  | .tls => "Tls"
  | .other code => "Other(" ++ toString code.toNat ++ ")"

end SymbolKind

namespace Visibility

def ofCode : UInt8 → Visibility
  | 1 => .internal
  | 2 => .hidden
  | 3 => .protectedScope
  | _ => .default

def name : Visibility → String
  | .default => "Default"
  | .internal => "Internal"
  | .hidden => "Hidden"
  | .protectedScope => "Protected"

end Visibility

namespace SectionRef

def ofCode : UInt16 → SectionRef
  | 0 => .undefined
  | 0xfff1 => .absolute
  | 0xfff2 => .common
  | n => .index n

def name : SectionRef → String
  | .undefined => "Undefined"
  | .absolute => "Absolute"
  | .common => "Common"
  | .index n => "Index(" ++ toString n.toNat ++ ")"

end SectionRef

/-- `home` tells where the symbol is defined, if it is. -/
structure Symbol where
  name : String
  binding : Binding
  kind : SymbolKind
  home : SectionRef
  visibility : Visibility
  value : UInt64
deriving DecidableEq, Repr

/-- Which rows of a symbol table are wanted. -/
inductive Policy
  /-- Global references that another file has to define. -/
  | required
  /-- Global definitions with a type and default visibility. -/
  | provided
deriving DecidableEq, Repr

namespace Policy

def accepts (policy : Policy) (s : Symbol) : Bool :=
  s.name ≠ "" && s.binding = .global &&
    match policy with
    | .required => s.home = .undefined
    | .provided => s.kind ≠ .noType && s.home ≠ .undefined && s.visibility = .default

/-- What is logged for the accepted row with this number. -/
def acceptedLine (row : Nat) (s : Symbol) : String :=
  toString row ++ ": " ++ s.name ++ " bind:" ++ s.binding.name ++ " type:" ++ s.kind.name ++
    " vis:" ++ s.visibility.name

/-- The accepted symbols of rows that are numbered from `row` on. -/
def filterFrom (policy : Policy) : Nat → List Symbol → Logged (List Symbol)
  | _, [] => pure []
  | row, s :: rest =>
    if policy.accepts s then do
      Logged.debug (acceptedLine row s)
      let kept ← filterFrom policy (row + 1) rest
      return s :: kept
    else filterFrom policy (row + 1) rest

/-- The accepted symbols in table order; each is logged with its row number. -/
def filter (policy : Policy) (symbols : List Symbol) : Logged (List Symbol) := filterFrom policy 0 symbols

end Policy

end FirmwareSymbols
