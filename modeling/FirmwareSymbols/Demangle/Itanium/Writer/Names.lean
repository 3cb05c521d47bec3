import FirmwareSymbols.Demangle.Itanium.Writer.Level

/-!
# Written names

The argument of a form is the level below it.
-/

namespace FirmwareSymbols.Demangle.Itanium.Forms

/-! ### Simple names -/

/-- How the compiler names the namespace of a unit. -/
def isAnonymous (name : String) : Bool :=
  match "_GLOBAL_".toList.isPrefixOf? name.toList with
  | some (c :: 'N' :: _) => c = '_' || c = '.' || c = '$'
  | _ => false

def identifierForm (name : String) : Writer Unit :=
  if isAnonymous name then write "(anonymous namespace)"
  else do
    write name
    modify fun s => { s with sourceName := some name }

def tagForm (below : Forms) (tag : String) : Writer Unit := between "[abi:" "]" (below.sourceName tag)

def tagsForm (below : Forms) (l : List String) : Writer Unit := l.forM below.tag

def unnamedText (number : Nat) : String := "\x7bunnamed type#" ++ toString number ++ "\x7d"

/-! ### Constructors and destructors -/

/-- A type without a name lends its constructors the latest name. -/
def unnamedLeafForm (number : Nat) : Writer Unit := do
  write ((← get).sourceName.getD (unnamedText number))

/-- The name of a constructor sees none of the names around it. -/
def leaf (below : Forms) : Leaf → Writer Unit
  | .source name => below.sourceName name
  | .wellKnown name => write name
  | .closure parameters number => below.closure [] parameters number
  | .unnamed number => below.unnamedLeaf number

/-- There has to be a class around, also for a constructor that is named for its base. -/
def constructorForm (below : Forms) (scope : Scope) (base : Option Ty) : Writer Unit := do
  let own ← scope.leaf?
  match base with
  | none => below.leaf own
  | some t => below.leaf (← t.leaf?)

def destructorForm (below : Forms) (scope : Scope) : Writer Unit := do
  write "~"
  below.leaf (← scope.leaf?)

/-! ### Simple names of other kinds -/

/-- Inside the parameters of a closure, template parameters have no names. -/
def closureParametersForm (below : Forms) (scope : Scope) (parameters : List Ty) : Writer Unit := do
  modify fun s => { s with inClosure := true }
  writeSeparated (below.type scope) parameters
  modify fun s => { s with inClosure := false }

def closureForm (below : Forms) (scope : Scope) (parameters : List Ty) (number : Nat) : Writer Unit :=
  between "\x7blambda(" (")#" ++ toString number ++ "\x7d") (below.closureParameters scope parameters)

def operatorForm (below : Forms) (scope : Scope) : Operator → Writer Unit
  | .simple o => do
    if o.isWord then ensureSpace
    below.word o.text
  | .conversion t => do
    ensureSpace
    below.type (t.args?.elim scope scope.withArgs) t
  | .literal name => do
    below.sourceName name
    write "::operator \"\""
  | .vendor arity name => do
    below.sourceName name
    write ("::operator " ++ toString arity)

def unqualifiedForm (below : Forms) (scope : Scope) : Unqualified → Writer Unit
  | .operator o tags => do
    write "operator"
    below.operator scope o
    below.tags tags
  | .constructor base tags => do
    below.constructor scope base
    below.tags tags
  | .destructor tags => do
    below.destructor scope
    below.tags tags
  | .source name tags => do
    below.sourceName name
    below.tags tags
  | .closure parameters number tags => do
    below.closure scope parameters number
    below.tags tags
  | .unnamed number tags => do
    below.word (unnamedText number)
    below.tags tags

/-! ### Scopes -/

def unscopedNameForm (below : Forms) (scope : Scope) : UnscopedName → Writer Unit
  | .plain name => below.unqualified scope name
  | .inStd name => do
    write "std::"
    below.unqualified scope name

/-- A name and the scope in front of it. -/
def inner (below : Forms) (scope : Scope) (outer : Component) (name : Writer Unit) : Writer Unit := do
  below.component scope outer
  write "::"
  name

def enclosingForm (below : Forms) (scope : Scope) : Enclosing → Writer Unit
  | .unqualified name => below.unqualified scope name
  | .nested outer name => below.inner scope outer (below.unqualified scope name)
  | .template c args => do
    below.component scope c
    below.templateArgs scope args
  | .parameter index => below.templateParameter scope index
  | .decltype e => below.decltype scope e
  | .member outer name => below.inner scope outer (below.dataMember name)

def qualifiersForm (q : Qualifiers) : Writer Unit := do
  if q.isConst then
    ensureSpace
    write "const"
  if q.isVolatile then
    ensureSpace
    write "volatile"
  if q.isRestrict then
    ensureSpace
    write "restrict"

def refKind (below : Forms) (r : Option RefKind) : Writer Unit := r.forM fun r => do
  ensureSpace
  below.word r.text

/-- What a function asks of its object. -/
def objectKind (below : Forms) (q : Qualifiers) (r : Option RefKind) : Writer Unit := do
  if !q.isEmpty then below.qualifiers q
  below.refKind r

/-- The declarator that waits, if any, stands between the name and its qualifiers. The object of a member function can
be named by the next list of parameters, whichever it is. -/
def nestedNameForm (below : Forms) (scope : Scope) (m : MemberKind) (e : Enclosing) : Writer Unit := do
  match e with
  | .unqualified name => below.unqualified scope name
  | .nested outer name => below.inner scope outer (below.unqualified scope name)
  | e => below.enclosing scope e
  if m = .explicit then modify fun s => { s with hasObject := true }
  (← takeWaiting).forM (below.declare scope)
  match m with
  | .implicit q r => below.objectKind q r
  | .explicit => pure ()

def localNameForm (below : Forms) (scope : Scope) (e : Encoding) (name : Option Name) : Writer Unit := do
  below.encoding scope e
  write "::"
  match name with
  | some name => below.name scope name
  | none => write "string literal"

/-- What belongs to the default value of a parameter is written as the function. -/
def nameForm (below : Forms) (scope : Scope) : Name → Writer Unit
  | .nested m e => below.nestedName scope m e
  | .unscoped name => below.unscopedName scope name
  | .template c args => do
    below.component (scope.withArgs args) c
    below.templateArgs scope args
  | .local e name => below.localName scope e name
  | .inDefault e _ => below.defaultName scope e

end FirmwareSymbols.Demangle.Itanium.Forms
