import FirmwareSymbols.Demangle.Itanium.Grammar.Level
import FirmwareSymbols.Text.Digits

/-!
# Types

The rules for types and for the arguments of templates.
-/

namespace FirmwareSymbols.Demangle.Itanium.Grammar

open Reader

/-! ### Built-in types -/

/-- Built-in types with their codes. No code is the start of another one. -/
def standardTypes : List (String × String) := [
  ("v", "void"),
  ("w", "wchar_t"),
  ("b", "bool"),
  ("c", "char"),
  ("a", "signed char"),
  ("h", "unsigned char"),
  ("s", "short"),
  ("t", "unsigned short"),
  ("i", "int"),
  ("j", "unsigned int"),
  ("l", "long"),
  ("m", "unsigned long"),
  ("x", "long long"),
  ("y", "unsigned long long"),
  ("n", "__int128"),
  ("o", "unsigned __int128"),
  ("f", "float"),
  ("d", "double"),
  ("e", "long double"),
  ("g", "__float128"),
  ("z", "..."),
  ("Dd", "decimal64"),
  ("De", "decimal128"),
  ("Df", "decimal32"),
  ("Dh", "half"),
  ("Di", "char32_t"),
  ("Du", "char8_t"),
  ("Ds", "char16_t"),
  ("Da", "auto"),
  ("Dc", "decltype(auto)"),
  ("Dn", "std::nullptr_t"),
  ("DF16b", "std::bfloat16_t")]

/-- Numbers with a fixed point, with their codes: those that stay at their bounds, fractions, and their sizes. -/
def fixedPointTypes : List (String × String) :=
  [("", ""), ("DS", "_Sat ")].flatMap fun (bound, boundText) =>
    [("DA", "_Accum"), ("DR", "_Fract")].flatMap fun (kind, kindText) =>
      [("s", "short "), ("t", "unsigned short "), ("i", ""), ("j", "unsigned "), ("l", "long "),
        ("m", "unsigned long ")].map fun (size, sizeText) =>
          (bound ++ kind ++ size, boundText ++ sizeText ++ kindText)

def standardTypeOf : Reader Builtin := do
  let s ← get
  match (standardTypes ++ fixedPointTypes).find? fun t => t.1.toList.isPrefixOf s with
  | some (code, name) => expect code; return .standard name
  | none => invalid

def floatOf : Reader Builtin := do
  let bits ← number
  if ← accept "_" then return .float bits false
  expect "x"
  return .float bits true

/-- A number is set off from what follows, an expression is not. -/
def bitIntegerOf (below : Grammar) (isSigned : Bool) : Reader Builtin := do
  if (← peek).any Text.isDigit then
    let bits ← number
    expect "_"
    return .bitInt isSigned bits
  else return .bitIntOf isSigned (← below.expression)

/-- Numbers with a given width. -/
def sizedTypeOf (below : Grammar) : Reader Builtin := do
  expect "D"
  match ← anyChar with
  | 'F' => floatOf
  | 'B' => bitIntegerOf below true
  | 'U' => bitIntegerOf below false
  | _ => invalid

def builtinOf (below : Grammar) : Reader Builtin := do
  if let some t ← optional below.standardType then return t
  if let some t ← optional below.sizedType then return t
  expect "u"
  return .vendor (← below.sourceName)

/-! ### Compound types -/

/-- The types of the result and the parameters. -/
def signatureTypesOf (below : Grammar) : Reader (List Ty) := many1 below.type

def exceptionsOf (below : Grammar) : Reader Exceptions := do
  if ← accept "Do" then return .never
  expect "DO"
  return .unless (← ended below.expression)

def functionTypeOf (below : Grammar) : Reader Compound := do
  let q ← below.qualifiers
  let exceptions ← optional below.exceptions
  let _ ← accept "Dx"
  expect "F"
  let _ ← accept "Y"
  let types ← below.signatureTypes
  let r ← optional below.refKind
  expect "E"
  return .function (.mk q r (exceptions.getD .unspecified) types)

def decltypeOf (below : Grammar) : Reader Expression := do
  expect "D"
  if !(← accept "t") then expect "T"
  ended below.expression

/-- The keyword of an elaborated type. -/
def keyword? : Char → Option String
  | 's' => some "class "
  | 'u' => some "union "
  | 'e' => some "enum "
  | _ => none

/-- A class, union or enumeration. -/
def namedTypeOf (below : Grammar) : Reader Compound := do
  if let some name ← optional below.name then return .named "" name
  expect "T"
  match keyword? (← anyChar) with
  | some keyword => return .named keyword (← below.name)
  | none => invalid

def arrayTypeOf (below : Grammar) : Reader Compound := do
  expect "A"
  let length ←
    if let some n ← optional number then pure (Dimension.number n)
    else if let some e ← optional below.expression then pure (Dimension.expression e)
    else pure Dimension.unknown
  expect "_"
  return .array length (← below.type)

def vectorTypeOf (below : Grammar) : Reader Compound := do
  expect "Dv"
  let length ← match ← optional number with
    | some n => pure (Dimension.number n)
    | none => Dimension.expression <$> below.expression
  expect "_"
  return .vector length (← below.type)

def memberPointerOf (below : Grammar) : Reader Compound := do
  expect "M"
  return .memberPointer (← below.type) (← below.type)

/-- The name of a template that is itself a reference or a parameter. -/
def templateTemplateOf (below : Grammar) : Reader Component := do
  if let some c ← optional below.substitution then return c
  remember (.parameter (← below.templateParameter))

/-! ### Types -/

/-- A type behind a word of a vendor. -/
def vendorType (below : Grammar) : Reader Compound := do
  let name ← below.sourceName
  let args ← optional below.templateArgs
  return .vendor name args (← below.type)

/-- Whether a parameter in front of template arguments stands alone. In a conversion the arguments belong to the
conversion itself, unless further arguments follow. -/
def isLoneParameter (below : Grammar) : Reader Bool := do
  if !(← isNext 'I') then return true
  if !(← getThe Table).inConversion then return false
  let rest ← get
  let args ← withoutTrace (optional below.templateArgs)
  let isFollowed ← isNext 'I'
  set rest
  return args.isSome && !isFollowed

def parameterType (below : Grammar) : Reader Ty := do
  let index ← below.templateParameter
  if ← isLoneParameter below then newType (.parameter index) else invalid

/-- A type with qualifiers, of which there is at least one. A type of functions has its own. -/
def qualifiedType (below : Grammar) : Reader Compound := do
  if let some f ← optional below.functionType then return f
  let q ← below.qualifiers
  return .qualified q (← below.type)

/-- Types that start with a letter of their own. -/
def markedType (below : Grammar) : Reader Compound := do
  match ← anyChar with
  | 'P' => return .pointer (← below.type)
  | 'R' => return .reference .lvalue (← below.type)
  | 'O' => return .reference .rvalue (← below.type)
  | 'C' => return .complex (← below.type)
  | 'G' => return .imaginary (← below.type)
  | 'D' =>
    expect "p"
    return .expansion (← below.type)
  | _ => invalid

/-- A reference to a type, or to a name in front of template arguments. -/
def referredType (below : Grammar) : Reader Ty := do
  let c ← below.substitution
  if ← isNext 'I' then invalid else return .component c

def startsQualifier (s : List Char) : Bool := s.head?.any fun c => c = 'r' || c = 'V' || c = 'K'

def typeOf (below : Grammar) : Reader Ty := do
  if let some b ← optional below.builtin then return .builtin b
  if ← accept "U" then return ← newType (← vendorType below)
  if startsQualifier (← get) then return ← newType (← qualifiedType below)
  if let some t ← optional below.namedType then return ← newType t
  if let some t ← optional (referredType below) then return t
  let compounds := [below.functionType, below.arrayType, below.vectorType, below.memberPointer]
  if let some t ← optional (firstOf compounds) then return ← newType t
  if let some t ← optional (parameterType below) then return t
  if let some c ← optional below.templateTemplate then return ← newType (.template c (← below.templateArgs))
  if let some e ← optional below.decltype then return ← newType (.decltype e)
  newType (← markedType below)

/-! ### Arguments of templates -/

def templateArgsOf (below : Grammar) : Reader TemplateArgs := do
  expect "I"
  newArgs (← ended (many1 below.templateArg))

def templateArgOf (below : Grammar) : Reader TemplateArg := do
  if ← accept "X" then return .expression (← ended below.expression)
  if let some l ← optional below.literal then return .literal l
  if let some t ← optional below.type then return .type t
  if !(← accept "J") then expect "I"
  return .pack (← upToEnd below.templateArg)

/-- A literal: the text of a value after its type, or a symbol. -/
def literalOf (below : Grammar) : Reader Literal := do
  expect "L"
  match ← optional below.type with
  | some t => return .value t (decoded (← ended (takeWhile (· ≠ 'E'))))
  | none => return .symbol (← ended below.mangled)

end FirmwareSymbols.Demangle.Itanium.Grammar
