import FirmwareSymbols.Demangle.Itanium.Writer.Expressions
import FirmwareSymbols.Demangle.Itanium.Writer.Types

/-!
# Written symbols

Functions, objects and what the compiler adds to them, and the levels of all forms.
-/

namespace FirmwareSymbols.Demangle.Itanium

namespace Forms

/-- Functions that are made from a template show the type of their result. -/
def function (below : Forms) (scope : Scope) (name : Name) (types : List Ty) : Writer Unit := do
  let scope := name.leaf?.elim scope scope.withLeaf
  let scope := name.args?.elim scope scope.withArgs
  if name.args?.isSome && !name.isSpecialMember then
    types.head?.forM (below.type scope)
    write " "
  below.declared scope (.parameters name types) (below.name scope name)

def encodingForm (below : Forms) (scope : Scope) (e : Encoding) : Writer Unit := aside do
  match e with
  | .function name types => below.function scope name types
  | .data name => below.name scope name
  | .special s => below.special scope s

def specialForm (below : Forms) (scope : Scope) : Special → Writer Unit
  | .ofType before after t => between before after (below.type scope t)
  | .ofName before name => do
    write before
    below.name scope name
  | .ofEncoding before e => do
    write before
    below.encoding scope e
  | .constructionTable derived base => do
    write "construction vtable for "
    below.type scope derived
    write "-in-"
    below.type scope base
  | .thunk offsets e => between "\x7bvirtual override thunk(" ")\x7d" do
    offsets.forM fun o => write (o.text ++ ", ")
    below.encoding scope e
  | .temporary name number => do
    write ("reference temporary #" ++ toString number ++ " for ")
    below.name scope name
  | .resource path => write ("java resource " ++ path)

/-- The kind of a clone counts as a name. -/
def clone (c : Clone) : Writer Unit := do
  write c.text
  modify fun s => { s with sourceName := some c.kind }

def mangledForm (below : Forms) (scope : Scope) : Mangled → Writer Unit
  | .encoding e clones => do
    below.encoding scope e
    clones.forM clone
  | .block e => do
    write "invocation function for block in "
    below.encoding scope e
  | .startUp isDestructor m => below.startUp scope isDestructor m
  | .type t => below.type scope t

def startUpForm (below : Forms) (scope : Scope) (isDestructor : Bool) (m : Mangled) : Writer Unit := aside do
  write (if isDestructor then "global destructors keyed to " else "global constructors keyed to ")
  below.mangled scope m

/-! ### Levels -/

/-- The level above another one. -/
def above (below : Forms) : Forms where
  word := write
  identifier := identifierForm
  sourceName := below.identifier
  tags := tagsForm below
  tag := tagForm below
  qualifiers := qualifiersForm
  mangled := mangledForm below
  startUp := startUpForm below
  encoding := encodingForm below
  special := specialForm below
  name := nameForm below
  nestedName := nestedNameForm below
  localName := localNameForm below
  defaultName := below.encoding
  templateName := below.unscopedName
  unscopedName := unscopedNameForm below
  enclosing := enclosingForm below
  dataMember := below.sourceName
  unqualified := unqualifiedForm below
  operator := operatorForm below
  constructor := constructorForm below
  destructor := destructorForm below
  unnamedLeaf := unnamedLeafForm
  closure := closureForm below
  closureParameters := closureParametersForm below
  builtin := builtinForm below
  sizedType := sizedTypeForm below
  compound := compoundForm below
  namedType := namedTypeForm below
  functionType := functionTypeForm below
  signature := signatureForm below
  exceptions := exceptionsForm below
  around := aroundForm below
  decltype := decltypeForm below
  templateParameter := templateParameterForm below
  templateTemplate := below.templateParameter
  templateArgs := templateArgsForm below
  templateArg := templateArgForm below
  declarator := declaratorForm below
  parameters := parametersForm below
  literal := literalForm below
  expression := expressionForm below
  subobject := subobjectForm below
  initializer := initializerForm below
  memberName := memberNameForm below
  unresolved := unresolvedForm below
  unresolvedDecltype := below.decltype
  unresolvedParameter := unresolvedParameterForm below
  unresolvedBase := unresolvedBaseForm below
  destructorOf := destructorOfForm below
  destructorName := destructorNameForm below
  qualifierLevel := below.simpleId
  simpleId := simpleIdForm below

/-- The forms with this many levels below them. -/
def levels : Nat → Forms
  | 0 => {}
  | n + 1 => above (levels n)

end Forms

/-- How deep the parts of a written symbol may be nested. -/
def maxWritten : Nat := 127

/-- The readable form, unless the symbol refers to something that it does not have. -/
def Mangled.text? (m : Mangled) : Option String :=
  (((Forms.levels maxWritten).mangled [] m).run .empty).map fun r => r.2.text

end FirmwareSymbols.Demangle.Itanium
