import FirmwareSymbols.Demangle.Itanium.Writer.State

/-!
# Levels of writing

Each part is written one level above its own parts. At the lowest level nothing can be written.
-/

namespace FirmwareSymbols.Demangle.Itanium

/-- How each kind of part is written at one level. -/
structure Forms where
  /-- A word that stands for itself. -/
  word : String → Writer Unit := fun _ => failure
  identifier : String → Writer Unit := fun _ => failure
  sourceName : String → Writer Unit := fun _ => failure
  tags : List String → Writer Unit := fun _ => failure
  tag : String → Writer Unit := fun _ => failure
  qualifiers : Qualifiers → Writer Unit := fun _ => failure
  mangled : Scope → Mangled → Writer Unit := fun _ _ => failure
  startUp : Scope → Bool → Mangled → Writer Unit := fun _ _ _ => failure
  encoding : Scope → Encoding → Writer Unit := fun _ _ => failure
  special : Scope → Special → Writer Unit := fun _ _ => failure
  name : Scope → Name → Writer Unit := fun _ _ => failure
  nestedName : Scope → MemberKind → Enclosing → Writer Unit := fun _ _ _ => failure
  localName : Scope → Encoding → Option Name → Writer Unit := fun _ _ _ => failure
  defaultName : Scope → Encoding → Writer Unit := fun _ _ => failure
  templateName : Scope → UnscopedName → Writer Unit := fun _ _ => failure
  unscopedName : Scope → UnscopedName → Writer Unit := fun _ _ => failure
  enclosing : Scope → Enclosing → Writer Unit := fun _ _ => failure
  dataMember : String → Writer Unit := fun _ => failure
  unqualified : Scope → Unqualified → Writer Unit := fun _ _ => failure
  operator : Scope → Operator → Writer Unit := fun _ _ => failure
  constructor : Scope → Option Ty → Writer Unit := fun _ _ => failure
  destructor : Scope → Writer Unit := fun _ => failure
  unnamedLeaf : Nat → Writer Unit := fun _ => failure
  closure : Scope → List Ty → Nat → Writer Unit := fun _ _ _ => failure
  closureParameters : Scope → List Ty → Writer Unit := fun _ _ => failure
  builtin : Scope → Builtin → Writer Unit := fun _ _ => failure
  sizedType : Scope → Builtin → Writer Unit := fun _ _ => failure
  compound : Scope → Compound → Writer Unit := fun _ _ => failure
  namedType : Scope → String → Name → Writer Unit := fun _ _ _ => failure
  functionType : Scope → FunctionType → Writer Unit := fun _ _ => failure
  signature : Scope → List Ty → Writer Unit := fun _ _ => failure
  exceptions : Scope → Exceptions → Writer Unit := fun _ _ => failure
  /-- A type that stands around another one. -/
  around : Scope → Compound → Ty → Writer Unit := fun _ _ _ => failure
  decltype : Scope → Expression → Writer Unit := fun _ _ => failure
  templateParameter : Scope → Nat → Writer Unit := fun _ _ => failure
  templateTemplate : Scope → Nat → Writer Unit := fun _ _ => failure
  templateArgs : Scope → TemplateArgs → Writer Unit := fun _ _ => failure
  templateArg : Scope → TemplateArg → Writer Unit := fun _ _ => failure
  /-- A declarator other than the parameters of a name. -/
  declarator : Scope → Declarator → Writer Unit := fun _ _ => failure
  parameters : Scope → List Ty → Writer Unit := fun _ _ => failure
  literal : Scope → Literal → Writer Unit := fun _ _ => failure
  expression : Scope → Expression → Writer Unit := fun _ _ => failure
  subobject : Scope → Ty → Expression → Int → Writer Unit := fun _ _ _ _ => failure
  initializer : Scope → List Expression → Writer Unit := fun _ _ => failure
  memberName : Scope → Name → Writer Unit := fun _ _ => failure
  unresolved : Scope → Unresolved → Writer Unit := fun _ _ => failure
  unresolvedDecltype : Scope → Expression → Writer Unit := fun _ _ => failure
  unresolvedParameter : Scope → Nat → Option TemplateArgs → Writer Unit := fun _ _ _ => failure
  unresolvedBase : Scope → UnresolvedBase → Writer Unit := fun _ _ => failure
  destructorOf : Scope → Component → Writer Unit := fun _ _ => failure
  destructorName : Scope → SimpleId → Writer Unit := fun _ _ => failure
  qualifierLevel : Scope → SimpleId → Writer Unit := fun _ _ => failure
  simpleId : Scope → SimpleId → Writer Unit := fun _ _ => failure

namespace Forms

/-! ### References -/

/-- A reference is written as what it refers to. -/
def component (below : Forms) (scope : Scope) : Component → Writer Unit
  | .wellKnown w => below.word w.text
  | .template name => below.templateName scope name
  | .type t => below.compound scope t
  | .parameter index => below.templateTemplate scope index
  | .unresolvedDecltype e => below.unresolvedDecltype scope e
  | .unresolvedParameter index args => below.unresolvedParameter scope index args
  | .enclosing e => below.enclosing scope e

def type (below : Forms) (scope : Scope) : Ty → Writer Unit
  | .builtin b => below.builtin scope b
  | .component c => below.component scope c

/-! ### Declarators -/

/-- The parameters of a name come after the type of its result, if they start with one. -/
def declare (below : Forms) (scope : Scope) : Declarator → Writer Unit
  | .parameters name types =>
    match name.args? with
    | some args => below.parameters (scope.withArgs args) (types.drop 1)
    | none => below.parameters scope types
  | d => below.declarator scope d

/-- Writes a part and then its declarator, unless the latter has been written with the part. -/
def declared (below : Forms) (scope : Scope) (d : Declarator) (p : Writer Unit) : Writer Unit := do
  if ← whileWaiting d p then below.declare scope d

end Forms

end FirmwareSymbols.Demangle.Itanium
