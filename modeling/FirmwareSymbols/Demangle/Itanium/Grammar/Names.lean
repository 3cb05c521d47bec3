import FirmwareSymbols.Demangle.Itanium.Grammar.Level
import FirmwareSymbols.Text.Digits

/-!
# Names

The rules for names, from identifiers to names inside functions. The argument of a rule is the level below it.
-/

namespace FirmwareSymbols.Demangle.Itanium.Grammar

open Reader

/-! ### Simple names -/

def isLetterOrDigit (c : Char) : Bool :=
  ('0' ≤ c && c ≤ '9') || ('a' ≤ c && c ≤ 'z') || ('A' ≤ c && c ≤ 'Z')

def isCloneChar (c : Char) : Bool := c = '$' || c = '_' || isLetterOrDigit c

def isIdentifierChar (c : Char) : Bool := c = '.' || isCloneChar c

/-- The whole text has to be an identifier. -/
def identifierOf (text : List Char) : Reader String :=
  if text.isEmpty || !text.all isIdentifierChar then invalid else return String.ofList text

/-- An identifier after its length. -/
def sourceNameOf (below : Grammar) : Reader String := do
  let n ← number
  if n = 0 then invalid
  else below.identifier (← take n)

def tagOf (below : Grammar) : Reader String := do
  expect "B"
  below.sourceName

def simpleOperatorOf : Reader SimpleOperator := do
  match SimpleOperator.ofCode? (String.ofList (← take 2)) with
  | some o => return o
  | none => invalid

/-- An operator. In an expression `cv` is a cast, elsewhere the name of a conversion. -/
def operatorOf (below : Grammar) (inExpression : Bool) : Reader Operator := do
  if let some o ← optional below.simpleOperator then return .simple o
  if ← accept "cv" then return .conversion (← withConversion (!inExpression) below.type)
  if ← accept "li" then return .literal (← below.sourceName)
  expect "v"
  let c ← anyChar
  if '0' ≤ c && c ≤ '9' then return .vendor (c.toNat - '0'.toNat) (← below.sourceName) else invalid

def constructorOf (below : Grammar) : Reader (List String → Unqualified) := do
  let isInheriting ← accept "I"
  let kind ← anyChar
  if !(['1', '2', '3', '4'].contains kind) then invalid
  else if isInheriting then return .constructor (some (← below.type))
  else return .constructor none

/-- A constructor or destructor. -/
def structorOf (below : Grammar) : Reader (List String → Unqualified) := do
  match ← anyChar with
  | 'C' => constructorOf below
  | 'D' => if ['0', '1', '2', '4'].contains (← anyChar) then return .destructor else invalid
  | _ => invalid

/-- The parameters of a closure. -/
def signatureOf (below : Grammar) : Reader (List Ty) := do
  if ← accept "v" then return [] else many1 below.type

/-- A number that may be left out, in front of an underscore. -/
def ordinal (first step : Nat) : Reader Nat := do
  let n ← optional number
  expect "_"
  return n.elim first (· + step)

def closureOf (below : Grammar) : Reader (List String → Unqualified) := do
  expect "Ul"
  let parameters ← ended below.signature
  return .closure parameters (← ordinal 1 2)

def unnamedOf : Reader (List String → Unqualified) := do
  expect "Ut"
  return .unnamed (← ordinal 1 1)

/-- Tells apart names of one function; it is not shown. -/
def discriminatorOf : Reader Unit := do
  expect "_"
  if ← accept "_" then
    if (← number) < 10 then invalid
    expect "_"
  else if !Text.isDigit (← anyChar) then invalid

/-- A name that is local to its unit. -/
def localSourceName (below : Grammar) : Reader (List String → Unqualified) := do
  let name ← below.sourceName
  let _ ← optional below.discriminator
  return .source name

def unqualifiedOf (below : Grammar) : Reader Unqualified := do
  let form ←
    if let some o ← optional below.operator then pure (Unqualified.operator o)
    else if let some f ← optional below.structor then pure f
    else if ← accept "L" then localSourceName below
    else if let some name ← optional below.sourceName then pure (Unqualified.source name)
    else if let some f ← optional below.closure then pure f
    else below.unnamed
  return form (← below.tags)

/-! ### References -/

def wellKnownOf : Reader WellKnown := do
  expect "S"
  let c ← anyChar
  match WellKnown.all.find? (·.letter = c) with
  | some w => return w
  | none => invalid

/-- A reference to an earlier component. -/
def substitutionOf (below : Grammar) : Reader Component := do
  if let some w ← optional below.wellKnown then return .wellKnown w
  expect "S"
  let n ← optional below.sequenceNumber
  let c ← component (n.elim 0 (· + 1))
  expect "_"
  return c

def templateParameterOf : Reader Nat := do
  expect "T"
  ordinal 0 1

/-! ### Scopes -/

def unscopedNameOf (below : Grammar) : Reader UnscopedName := do
  if ← accept "St" then return .inStd (← below.unqualified) else return .plain (← below.unqualified)

/-- The name of a template outside of a nested name. -/
def templateNameOf (below : Grammar) : Reader Component := do
  match ← optional below.unscopedName with
  | some name => remember (.template name)
  | none => below.substitution

/-- Letters with which an operator can start. -/
def operatorStarts : List Char := "nadpcmroelgiqsv".toList

def startsUnqualified : List Char → Bool
  | 'U' :: 't' :: _ => true
  | 'U' :: 'l' :: _ => true
  | c :: _ => Text.isDigit c || c = 'L' || c = 'C' || c = 'D' || operatorStarts.contains c
  | [] => false

/-- A scope can be referred to, unless it is the whole of a nested name. -/
def newScope (e : Enclosing) : Reader Component := do
  if ← isNext 'E' then return .enclosing e else remember (.enclosing e)

def innerScope (outer : Option Component) (name : Unqualified) : Reader Component :=
  newScope (match outer with
    | none => .unqualified name
    | some c => .nested c name)

/-- A data member, whose tags are not kept, or a name with its tags. -/
def memberOrName (below : Grammar) (outer : Component) : Reader Component := do
  match ← below.unqualified, ← isNext 'M' with
  | .source name _, true =>
    let c ← newScope (.member outer name)
    expect "M"
    return c
  | name, _ => innerScope (some outer) name

/-- The type of an expression, or a constructor or destructor. -/
def decltypeOrName (below : Grammar) (outer : Option Component) : Reader Component := do
  match ← optional below.decltype with
  | some e => newScope (.decltype e)
  | none => innerScope outer (← below.unqualified)

/-- The next part of a scope, if there is one. A reference, a parameter and the type of an expression start the scope
anew. -/
def scopePart (below : Grammar) (outer : Option Component) : Reader (Option Component) := do
  match ← get, outer with
  | 'S' :: _, _ => some <$> below.substitution
  | 'T' :: _, _ => some <$> (newScope ∘ .parameter =<< below.templateParameter)
  | 'D' :: _, _ => some <$> decltypeOrName below outer
  | 'I' :: _, some c => some <$> (newScope ∘ .template c =<< below.templateArgs)
  | s, some c =>
    if s.head?.any Text.isDigit then some <$> memberOrName below c
    else if startsUnqualified s then some <$> (innerScope outer =<< below.unqualified)
    else return none
  | s, none => if startsUnqualified s then some <$> (innerScope none =<< below.unqualified) else return none

/-- The parts of a scope; the symbol is shorter than `fuel`. -/
def scopeFrom (below : Grammar) : Nat → Option Component → Reader Component
  | 0, _ => invalid
  | fuel + 1, outer => do
    match ← scopePart below outer with
    | some c => scopeFrom below fuel (some c)
    | none => outer.elim invalid pure

def scopeOf (below : Grammar) : Reader Component := do scopeFrom below ((← get).length + 1) none

/-! ### Names -/

def qualifiersOf : Reader Qualifiers := do
  return ⟨← accept "r", ← accept "V", ← accept "K"⟩

def refKindOf : Reader RefKind := do
  match ← anyChar with
  | 'R' => return .lvalue
  | 'O' => return .rvalue
  | _ => invalid

/-- What a nested name can consist of. -/
def isNestedName : Enclosing → Bool
  | .unqualified _ | .nested _ _ | .template _ _ => true
  | .parameter _ | .decltype _ | .member _ _ => false

def memberKindOf (below : Grammar) : Reader MemberKind := do
  if ← accept "H" then return .explicit
  return .implicit (← below.qualifiers) (← optional below.refKind)

def nestedNameOf (below : Grammar) : Reader Name := do
  expect "N"
  let kind ← memberKindOf below
  match ← ended below.scope with
  | .enclosing e => if isNestedName e then return .nested kind e else invalid
  | _ => invalid

/-- A name inside a function. -/
def localNameOf (below : Grammar) : Reader Name := do
  expect "Z"
  let e ← ended below.encoding
  if ← accept "s" then
    let _ ← optional below.discriminator
    return .local e none
  else if ← accept "d" then
    let _ ← optional below.signed
    expect "_"
    return .inDefault e (← below.name)
  else
    let name ← below.name
    let _ ← optional below.discriminator
    return .local e (some name)

def nameOf (below : Grammar) : Reader Name := do
  if let some name ← optional below.nestedName then return name
  if let some name ← optional below.unscopedName then
    if ← isNext 'I' then
      let c ← remember (.template name)
      return .template c (← below.templateArgs)
    else return .unscoped name
  if let some c ← optional below.templateName then return .template c (← below.templateArgs)
  below.localName

end FirmwareSymbols.Demangle.Itanium.Grammar
