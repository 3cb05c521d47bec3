import FirmwareSymbols.Demangle.Itanium.Grammar.Names

/-!
# Expressions

The rules for the expressions that template arguments, array bounds and types depend on. Most forms start with a code
of two letters; the letters of an operator are tried last.
-/

namespace FirmwareSymbols.Demangle.Itanium.Grammar

open Reader

/-! ### Names that depend on template arguments -/

def simpleIdOf (below : Grammar) : Reader SimpleId := do
  return .mk (← below.sourceName) (← optional below.templateArgs)

def destructorNameOf (below : Grammar) : Reader UnresolvedBase := do
  match ← optional below.unresolvedType with
  | some c => return .destructorOf c
  | none => return .destructor (← below.simpleId)

def unresolvedBaseOf (below : Grammar) : Reader UnresolvedBase := do
  if let some i ← optional below.simpleId then return .name i
  if ← accept "on" then return .operator (← below.operator) (← optional below.templateArgs)
  expect "dn"
  below.destructorName

def unresolvedTypeOf (below : Grammar) : Reader Component := do
  if let some index ← optional below.templateParameter then
    return ← remember (.unresolvedParameter index (← optional below.templateArgs))
  if let some e ← optional below.decltype then return ← remember (.unresolvedDecltype e)
  below.substitution

/-- One or more levels in front of the last name. -/
def unresolvedLevels (below : Grammar) (isGlobal : Bool) (scope : Option Component) : Reader Unresolved := do
  let levels ← ended (many1 below.qualifierLevel)
  return .mk isGlobal scope levels (← below.unresolvedBase)

def unresolvedOf (below : Grammar) : Reader Unresolved := do
  if ← accept "gs" then
    match ← optional below.unresolvedBase with
    | some base => return .mk true none [] base
    | none =>
      expect "sr"
      unresolvedLevels below true none
  else if let some base ← optional below.unresolvedBase then return .mk false none [] base
  else
    expect "sr"
    if ← accept "N" then unresolvedLevels below false (some (← below.unresolvedType))
    else
      match ← optional below.unresolvedType with
      | some c => return .mk false (some c) [] (← below.unresolvedBase)
      | none => unresolvedLevels below false none

/-! ### Parameters -/

/-- A parameter of the function; `fpT` is the object that it belongs to. -/
def parameterOf (below : Grammar) : Reader (Option Nat) := do
  expect "f"
  if ← accept "L" then let _ ← number
  expect "p"
  let _ ← below.qualifiers
  if ← accept "T" then return none
  return some (← ordinal 0 1)

/-! ### Forms with a code -/

def initializerOf (below : Grammar) : Reader (List Expression) := do
  expect "pi"
  upToEnd below.expression

/-- A simple name, which no later part refers to. -/
def memberNameOf (below : Grammar) : Reader Name := do
  let name := UnscopedName.plain (← below.unqualified)
  match ← optional below.templateArgs with
  | some args => return .template (.template name) args
  | none => return .unscoped name

def subobjectOf (below : Grammar) : Reader Expression := do
  let t ← below.type
  let e ← below.expression
  let offset ← optional signedNumber
  expect "E"
  return .subobject t e (offset.getD 0)

def newExpression (below : Grammar) (isGlobal isArray : Bool) : Reader Expression := do
  let placement ← many below.expression
  expect "_"
  let t ← below.type
  if ← accept "E" then return .new isGlobal isArray placement t none
  return .new isGlobal isArray placement t (some (← below.initializer))

/-- Forms that can be marked as global. -/
def allocation (below : Grammar) (isGlobal : Bool) : Reader Expression := do
  match String.ofList (← take 2) with
  | "nw" => newExpression below isGlobal false
  | "na" => newExpression below isGlobal true
  | "dl" => return .delete isGlobal false (← below.expression)
  | "da" => return .delete isGlobal true (← below.expression)
  | _ => invalid

def conversion (below : Grammar) : Reader Expression := do
  let t ← below.type
  if ← accept "_" then return .construct t (← upToEnd below.expression)
  return .convert t (← below.expression)

def cast (below : Grammar) (keyword : String) : Reader Expression := do
  return .cast keyword (← below.type) (← below.expression)

def packSize (below : Grammar) : Reader Expression := do
  match ← optional below.templateParameter with
  | some index => return .packSize index
  | none => return .parameterPackSize (← below.parameter)

/-- An increment or decrement; an underscore marks one in front of its operand. -/
def step (below : Grammar) (text : String) : Reader Expression := do
  let isBefore ← accept "_"
  return .step text (!isBefore) (← below.expression)

/-- What follows a code of its own. -/
def coded? (below : Grammar) (code : String) : Option (Reader Expression) :=
  let e := below.expression
  match code with
  | "pp" => some (step below "++")
  | "mm" => some (step below "--")
  | "cl" => some do return .call (← e) (← upToEnd e)
  | "cv" => some (conversion below)
  | "tl" => some do return .braced (← below.type) (← upToEnd e)
  | "il" => some do return .bracedValue (← ended e)
  | "dc" => some (cast below "dynamic_cast")
  | "sc" => some (cast below "static_cast")
  | "cc" => some (cast below "const_cast")
  | "rc" => some (cast below "reinterpret_cast")
  | "ti" => some do return .ofType "typeid" (← below.type)
  | "te" => some do return .ofValue "typeid" (← e)
  | "st" => some do return .ofType "sizeof" (← below.type)
  | "sz" => some do return .ofValue "sizeof" (← e)
  | "at" => some do return .ofType "alignof" (← below.type)
  | "az" => some do return .ofValue "alignof" (← e)
  | "nx" => some do return .ofValue "noexcept" (← e)
  | "so" => some below.subobject
  | "dt" => some do return .member (← e) false (← below.memberName)
  | "pt" => some do return .member (← e) true (← below.memberName)
  | "ds" => some do return .memberPointer (← e) (← e)
  | "sZ" => some (packSize below)
  | "sP" => some do return .capturedPackSize (← upToEnd below.templateArg)
  | "sp" => some do return .expansion (← e)
  | "tw" => some do return .throw (some (← e))
  | "tr" => some do return .throw none
  | _ => none

/-! ### Operators -/

/-- How many operands an operator has. -/
def arity : Operator → Nat
  | .simple o => o.arity
  | .conversion _ => 1
  | .literal _ => 1
  | .vendor n _ => n

def operation (below : Grammar) : Reader Expression := do
  let o ← below.castOperator
  match arity o with
  | 1 => return .unary o (← below.expression)
  | 2 => return .binary o (← below.expression) (← below.expression)
  | 3 => return .ternary o (← below.expression) (← below.expression) (← below.expression)
  | _ => invalid

/-- Forms without a code. -/
def plainExpression (below : Grammar) : Reader Expression := firstOf [
  do expect "gs"; allocation below true,
  allocation below false,
  Expression.templateParameter <$> below.templateParameter,
  Expression.parameter <$> below.parameter,
  Expression.unresolved <$> below.unresolved,
  Expression.literal <$> below.literal,
  operation below]

def expressionOf (below : Grammar) : Reader Expression := do
  match coded? below (String.ofList ((← get).take 2)) with
  | some p =>
    let _ ← take 2
    p
  | none => plainExpression below

end FirmwareSymbols.Demangle.Itanium.Grammar
