import FirmwareSymbols.Demangle.Itanium.Writer.Names

/-!
# Written types

A type writes its name, and its modifiers as declarators around it.
-/

namespace FirmwareSymbols.Demangle.Itanium.Forms

/-! ### Types -/

def bitInt (isSigned : Bool) (bits : Writer Unit) : Writer Unit := do
  write (if isSigned then "signed " else "unsigned ")
  between "_BitInt(" ")" bits

def sizedTypeForm (below : Forms) (scope : Scope) : Builtin → Writer Unit
  | .float bits isExtended => do
    write ("_Float" ++ toString bits)
    if isExtended then write "x"
  | .bitInt isSigned bits => bitInt isSigned (write (toString bits))
  | .bitIntOf isSigned e => bitInt isSigned (below.expression scope e)
  | .standard name | .vendor name => write name

def builtinForm (below : Forms) (scope : Scope) : Builtin → Writer Unit
  | .standard name => below.word name
  | .vendor name => below.sourceName name
  | b => below.sizedType scope b

def compoundForm (below : Forms) (scope : Scope) (t : Compound) : Writer Unit := do
  match t with
  | .named keyword name => below.namedType scope keyword name
  | .function f => below.functionType scope f
  | .array _ inner | .vector _ inner | .memberPointer _ inner => below.around scope t inner
  | .parameter index => below.templateParameter scope index
  | .template c args =>
    below.component scope c
    below.templateArgs scope args
  | .decltype e => below.decltype scope e
  | .qualified _ inner | .pointer inner | .reference _ inner =>
    below.declared scope (.modifier t) (below.type scope inner)
  | .complex inner =>
    below.type scope inner
    write " complex"
  | .imaginary inner =>
    below.type scope inner
    write " imaginary"
  | .vendor name args inner =>
    below.type scope inner
    write " "
    below.sourceName name
    args.forM (below.templateArgs scope)
  | .expansion inner =>
    below.type scope inner
    if !(← get).sawPack then write "..."

def namedTypeForm (below : Forms) (scope : Scope) (keyword : String) (name : Name) : Writer Unit := do
  write keyword
  below.name scope name

def aroundForm (below : Forms) (scope : Scope) (t : Compound) (inner : Ty) : Writer Unit :=
  below.declared scope (.modifier t) (below.type scope inner)

/-- What is promised about exceptions comes last. -/
def functionTypeForm (below : Forms) (scope : Scope) (f : FunctionType) : Writer Unit :=
  match f with
  | .mk _ _ e types => do
    below.declared scope (.qualifiers f) (below.signature scope types)
    if !e.isUnspecified then
      ensureSpace
      below.exceptions scope e

def exceptionsForm (below : Forms) (scope : Scope) : Exceptions → Writer Unit
  | .unspecified => pure ()
  | .never => write "noexcept"
  | .unless e => between "noexcept(" ")" (below.expression scope e)

/-- The type of the result, and the parameters if they still wait. -/
def signatureForm (below : Forms) (scope : Scope) (types : List Ty) : Writer Unit := do
  if ← whileWaiting (.signature types) (types.head?.forM (below.type scope)) then
    ensureSpace
    below.declarator scope (.signature types)

def decltypeForm (below : Forms) (scope : Scope) (e : Expression) : Writer Unit :=
  between "decltype (" ")" (below.expression scope e)

def templateParameterForm (below : Forms) (scope : Scope) (index : Nat) : Writer Unit := do
  if (← get).inClosure then write ("auto:" ++ toString (index + 1))
  else
    match scope.arg? index with
    | some a => below.templateArg scope a
    | none => failure

/-! ### Arguments of templates -/

def numberedArgs (below : Forms) (scope : Scope) (number : Nat) : Nat → List TemplateArg → Writer Unit
  | _, [] => pure ()
  | index, a :: rest => do
    if 0 < index then write ", "
    below.templateArg (scope.atArg number index) a
    below.numberedArgs scope number (index + 1) rest

/-- Two brackets of one kind never touch. -/
def templateArgsForm (below : Forms) (scope : Scope) (args : TemplateArgs) : Writer Unit := aside do
  if (← get).last = some '<' then write " "
  write "<"
  below.numberedArgs scope args.number 0 args.args
  if (← get).last = some '>' then write " "
  write ">"

def templateArgForm (below : Forms) (scope : Scope) : TemplateArg → Writer Unit
  | .expression e => below.expression scope e
  | .literal l => below.literal scope l
  | .type t => below.type scope t
  | .pack args => do
    modify fun s => { s with sawPack := true }
    writeSeparated (below.templateArg scope) args

/-! ### Declarators -/

/-- Whether the parameters of a function need parentheses around what waits, and if so whether a space has to stand in
front of them. -/
def parentheses? : List (Nat × Declarator) → Option Bool
  | [] => none
  | (_, .modifier t) :: rest =>
    match t with
    | .memberPointer _ _ | .qualified _ _ => some true
    | .pointer _ | .reference _ _ => some false
    | _ => parentheses? rest
  | _ :: rest => parentheses? rest

/-- Qualifiers of a function come after its parameters. -/
def comesAfterParameters : Declarator → Bool
  | .qualifiers (.mk q _ _ _) => !q.isEmpty
  | _ => false

/-- Writes what waits and can stand in front of parameters. What comes after them is returned. There are at most `n`
declarators. -/
def writeFront (below : Forms) (scope : Scope) : Nat → Writer (List (Nat × Declarator))
  | 0 => return []
  | n + 1 => do
    match (← get).waiting with
    | [] => return []
    | (number, d) :: rest =>
      modify fun s => { s with waiting := rest }
      if comesAfterParameters d then return (number, d) :: (← below.writeFront scope n)
      else
        below.declare scope d
        below.writeFront scope n

/-- Writes all that waits, at most `n` declarators. -/
def writeWaiting (below : Forms) (scope : Scope) : Nat → Writer Unit
  | 0 => pure ()
  | n + 1 => do
    if let some d ← takeWaiting then
      below.declare scope d
      below.writeWaiting scope n

def waitingCount : Writer Nat := do return (← get).waiting.length

/-- The types of parameters, where the first one may be that of the object. -/
def parameterTypes (below : Forms) (scope : Scope) (types : List Ty) : Writer Unit := do
  if (← get).hasObject then
    write "this "
    modify fun s => { s with hasObject := false }
  writeSeparated (below.type scope) types

/-- A list of parameters; nothing is written for a single `void`. -/
def parametersForm (below : Forms) (scope : Scope) (types : List Ty) : Writer Unit := do
  let parentheses := parentheses? (← get).waiting
  if let some needsSpace := parentheses then
    if needsSpace || !((← get).last = some '(' || (← get).last = some '*') then ensureSpace
    write "("
  let later ← below.writeFront scope (← waitingCount)
  modify fun s => { s with waiting := later }
  if parentheses.isSome then write ")"
  write "("
  if types.length = 1 && types.all Ty.isVoid then write ")"
  else
    below.parameterTypes scope types
    write ")"
    below.writeWaiting scope (← waitingCount)

def isArray : Compound → Bool
  | .array _ _ => true
  | _ => false

def isQualified : Compound → Bool
  | .qualified _ _ => true
  | _ => false

/-- Arrays, and qualified arrays, are written as dimensions of one array. -/
def isDimension : Compound → Bool
  | .array _ _ => true
  | .qualified _ (.component (.type t)) => isArray t
  | _ => false

/-- Writes what waits in front of the brackets of an array. Whether a space has to stand in front of the brackets. -/
def arrayFront (below : Forms) (scope : Scope) : Nat → Bool → Writer Bool
  | 0, needsSpace => return needsSpace
  | n + 1, needsSpace => do
    match ← takeWaiting with
    | none => return needsSpace
    | some d =>
      let modifier? := match d with
        | .modifier t => some t
        | _ => none
      if modifier?.any isDimension then
        below.declare scope d
        below.arrayFront scope n (needsSpace && !modifier?.any isArray)
      else
        ensureSpace
        if modifier?.any isQualified then
          below.declare scope d
          ensureSpace
          write "("
        else
          write "("
          below.declare scope d
        below.writeWaiting scope (← waitingCount)
        write ")"
        return true

def dimension (below : Forms) (scope : Scope) : Dimension → Writer Unit
  | .unknown => pure ()
  | .number n => write (toString n)
  | .expression e => below.expression scope e

/-- References to references collapse: the whole is an rvalue reference only if all of them are. An rvalue reference
gives way to what it is inside of, and of lvalue references the outermost is written. -/
def reference (r : RefKind) : Writer Unit := do
  dropWaitingWhile fun
    | .modifier (.reference .rvalue _) => true
    | _ => false
  match (← get).waiting with
  | (_, .modifier (.reference _ _)) :: _ => pure ()
  | _ => write r.text

/-- What a modifier writes around the name of its type. -/
def modifier (below : Forms) (scope : Scope) : Compound → Writer Unit
  | .qualified q _ => below.qualifiers q
  | .pointer _ => write "*"
  | .reference r _ => reference r
  | .memberPointer owner _ => do
    if (← get).last ≠ some '(' then ensureSpace
    below.type scope owner
    write "::*"
  | .array n _ => do
    if ← below.arrayFront scope (← waitingCount) true then ensureSpace
    between "[" "]" (below.dimension scope n)
  | .vector n _ => between " __vector(" ")" (below.dimension scope n)
  | _ => pure ()

def declaratorForm (below : Forms) (scope : Scope) : Declarator → Writer Unit
  | .parameters name types => below.declare scope (.parameters name types)
  | .signature types => below.parameters scope (types.drop 1)
  | .qualifiers (.mk q r _ _) => below.objectKind q r
  | .modifier t => below.modifier scope t

end FirmwareSymbols.Demangle.Itanium.Forms
