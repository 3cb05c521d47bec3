import FirmwareSymbols.Demangle.Itanium.Grammar.Expressions
import FirmwareSymbols.Demangle.Itanium.Grammar.Types

/-!
# Whole symbols

The rules for functions, objects and what the compiler adds to them, and the levels of all rules.
-/

namespace FirmwareSymbols.Demangle.Itanium

namespace Grammar

open Reader

/-! ### What the compiler adds -/

def fixedOffsetOf (below : Grammar) : Reader CallOffset := do return .fixed (← below.signed)

def virtualOffsetOf (below : Grammar) : Reader CallOffset := do
  let offset ← below.signed
  expect "_"
  return .virtual offset (← below.signed)

def callOffsetOf (below : Grammar) : Reader CallOffset := do
  let c ← anyChar
  let offset ←
    if c = 'h' then below.fixedOffset
    else if c = 'v' then below.virtualOffset
    else invalid
  expect "_"
  return offset

def constructionTable (below : Grammar) : Reader Special := do
  let derived ← below.type
  let _ ← number
  expect "_"
  return .constructionTable derived (← below.type)

def temporary (below : Grammar) : Reader Special := do
  let name ← below.name
  if ← accept "_" then return .temporary name 0
  let n ← below.sequenceNumber
  expect "_"
  return .temporary name (n + 1)

/-- What an escape in the path of a resource stands for. -/
def resourceEscape? : Char → Option Char
  | 'S' => some '/'
  | '_' => some '.'
  | '$' => some '$'
  | _ => none

/-- A part of the path of a resource, which may end with an escape. -/
def resourcePartOf : Reader String := do
  let text ← takeWhile (· ≠ '$')
  if text.isEmpty then invalid
  else if ← accept "$" then
    match resourceEscape? (← anyChar) with
    | some c => return String.ofList (text ++ [c])
    | none => invalid
  else return String.ofList text

/-- The path of a resource after its length. -/
def resource (below : Grammar) : Reader Special := do
  let n ← number
  if n = 0 then invalid
  else
    let text ← take n
    let rest ← get
    set text
    expect "_"
    let parts ← many below.resourcePart
    if !(← get).isEmpty then invalid
    else
      set rest
      return .resource (String.join parts)

/-- A function with adjusted calls. -/
def thunk (below : Grammar) (offsets : Nat) : Reader Special := do
  let first ← below.callOffset
  let second ← if offsets = 2 then some <$> below.callOffset else pure none
  return .thunk (first :: second.toList) (← below.encoding)

def transactionClone (below : Grammar) : Reader Special := do
  let kind ← anyChar
  let text := if kind = 'n' then "non-transaction clone for " else "transaction clone for "
  return .ofEncoding text (← below.encoding)

def specialOf (below : Grammar) : Reader Special := do
  let s ← get
  match String.ofList (← take 2) with
  | "TV" => return .ofType "\x7bvtable(" ")\x7d" (← below.type)
  | "TT" => return .ofType "\x7bvtt(" ")\x7d" (← below.type)
  | "TI" => return .ofType "typeinfo for " "" (← below.type)
  | "TS" => return .ofType "typeinfo name for " "" (← below.type)
  | "TF" => return .ofType "typeinfo fn for " "" (← below.type)
  | "TH" => return .ofName "TLS init function for " (← below.name)
  | "TW" => return .ofName "TLS wrapper function for " (← below.name)
  | "GV" => return .ofName "guard variable for " (← below.name)
  | "TC" => constructionTable below
  | "Tc" => thunk below 2
  | "GR" => temporary below
  | "Gr" => resource below
  | "GT" => transactionClone below
  | _ =>
    set s
    expect "T"
    thunk below 1

/-! ### Symbols -/

def encodingOf (below : Grammar) : Reader Encoding := do
  match ← optional below.name with
  | some name =>
    match ← optional below.signatureTypes with
    | some types => return .function name types
    | none => return .data name
  | none => return .special (← below.special)

def cloneKindOf : Reader String := do
  let kind ← takeWhile isCloneChar
  if kind.isEmpty then invalid else return String.ofList kind

def cloneOf (below : Grammar) : Reader Clone := do
  expect "."
  let kind ← below.cloneKind
  return ⟨kind, ← many do expect "."; number⟩

def startUpOf (below : Grammar) : Reader Mangled := do
  if !(['_', '.', '$'].contains (← anyChar)) then invalid
  else
    let kind ← anyChar
    if kind = 'I' || kind = 'D' then
      expect "_"
      return .startUp (kind = 'D') (← below.mangled)
    else invalid

/-- Skips one of two texts. -/
def acceptEither (first second : String) : Reader Bool := do
  if ← accept first then return true else accept second

/-- The body of a block, which may be numbered. -/
def blockOf (below : Grammar) : Reader Mangled := do
  let e ← below.encoding
  expect "_block_invoke"
  let isNumbered ← acceptEither "_" "."
  if isNumbered || (← peek).any Text.isDigit then let _ ← number
  return .block e

def mangledOf (below : Grammar) : Reader Mangled := do
  if ← acceptEither "_Z" "__Z" then return .encoding (← below.encoding) (← many below.clone)
  if ← acceptEither "___Z" "____Z" then return ← blockOf below
  if ← accept "_GLOBAL_" then return ← below.startUp
  return .type (← below.type)

/-! ### Levels -/

/-- The level above another one. -/
def above (below : Grammar) : Grammar where
  mangled := mangledOf below
  startUp := startUpOf below
  encoding := encodingOf below
  clone := cloneOf below
  cloneKind := cloneKindOf
  special := specialOf below
  callOffset := callOffsetOf below
  fixedOffset := fixedOffsetOf below
  virtualOffset := virtualOffsetOf below
  signed := signedNumber
  resourcePart := resourcePartOf
  name := nameOf below
  nestedName := nestedNameOf below
  localName := localNameOf below
  unscopedName := unscopedNameOf below
  templateName := templateNameOf below
  scope := below.scopeParts
  scopeParts := scopeOf below
  unqualified := unqualifiedOf below
  sourceName := sourceNameOf below
  identifier := identifierOf
  tags := many below.tag
  tag := tagOf below
  operator := operatorOf below false
  castOperator := operatorOf below true
  simpleOperator := simpleOperatorOf
  structor := structorOf below
  closure := closureOf below
  signature := signatureOf below
  unnamed := unnamedOf
  discriminator := discriminatorOf
  substitution := substitutionOf below
  wellKnown := wellKnownOf
  sequenceNumber := numberIn 36
  type := typeOf below
  qualifiers := qualifiersOf
  refKind := refKindOf
  builtin := builtinOf below
  standardType := standardTypeOf
  sizedType := sizedTypeOf below
  exceptions := exceptionsOf below
  functionType := functionTypeOf below
  signatureTypes := signatureTypesOf below
  decltype := decltypeOf below
  namedType := namedTypeOf below
  arrayType := arrayTypeOf below
  vectorType := vectorTypeOf below
  memberPointer := memberPointerOf below
  templateParameter := templateParameterOf
  templateTemplate := templateTemplateOf below
  templateArgs := templateArgsOf below
  templateArg := templateArgOf below
  literal := literalOf below
  expression := expressionOf below
  initializer := initializerOf below
  subobject := subobjectOf below
  memberName := memberNameOf below
  parameter := parameterOf below
  unresolved := unresolvedOf below
  unresolvedType := unresolvedTypeOf below
  unresolvedBase := unresolvedBaseOf below
  destructorName := destructorNameOf below
  qualifierLevel := below.simpleId
  simpleId := simpleIdOf below

/-- The rules with this many levels below them. -/
def levels : Nat → Grammar
  | 0 => {}
  | n + 1 => above (levels n)

end Grammar

/-- How deep the parts of a symbol may be nested. -/
def maxNesting : Nat := 95

/-- The parts of a whole symbol. -/
def Mangled.ofSymbol? (symbol : List Char) : Option Mangled :=
  match ((Grammar.levels maxNesting).mangled.run (bytesOf symbol)).run.run .empty with
  | (.ok (m, []), _) => some m
  | _ => none

end FirmwareSymbols.Demangle.Itanium
