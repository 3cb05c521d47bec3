import FirmwareSymbols.Demangle.Itanium.Reader

/-!
# Levels of the grammar

Each rule of the grammar reads its parts one level below itself. At the lowest level nothing can be read.
-/

namespace FirmwareSymbols.Demangle.Itanium

/-- The rules at one level. -/
structure Grammar where
  mangled : Reader Mangled := tooDeep
  startUp : Reader Mangled := tooDeep
  encoding : Reader Encoding := tooDeep
  clone : Reader Clone := tooDeep
  cloneKind : Reader String := tooDeep
  special : Reader Special := tooDeep
  callOffset : Reader CallOffset := tooDeep
  fixedOffset : Reader CallOffset := tooDeep
  virtualOffset : Reader CallOffset := tooDeep
  signed : Reader Int := tooDeep
  resourcePart : Reader String := tooDeep
  name : Reader Name := tooDeep
  nestedName : Reader Name := tooDeep
  localName : Reader Name := tooDeep
  unscopedName : Reader UnscopedName := tooDeep
  templateName : Reader Component := tooDeep
  scope : Reader Component := tooDeep
  scopeParts : Reader Component := tooDeep
  unqualified : Reader Unqualified := tooDeep
  sourceName : Reader String := tooDeep
  identifier : List Char → Reader String := fun _ => tooDeep
  tags : Reader (List String) := tooDeep
  tag : Reader String := tooDeep
  operator : Reader Operator := tooDeep
  castOperator : Reader Operator := tooDeep
  simpleOperator : Reader SimpleOperator := tooDeep
  structor : Reader (List String → Unqualified) := tooDeep
  closure : Reader (List String → Unqualified) := tooDeep
  signature : Reader (List Ty) := tooDeep
  unnamed : Reader (List String → Unqualified) := tooDeep
  discriminator : Reader Unit := tooDeep
  substitution : Reader Component := tooDeep
  wellKnown : Reader WellKnown := tooDeep
  sequenceNumber : Reader Nat := tooDeep
  type : Reader Ty := tooDeep
  qualifiers : Reader Qualifiers := tooDeep
  refKind : Reader RefKind := tooDeep
  builtin : Reader Builtin := tooDeep
  standardType : Reader Builtin := tooDeep
  sizedType : Reader Builtin := tooDeep
  exceptions : Reader Exceptions := tooDeep
  functionType : Reader Compound := tooDeep
  signatureTypes : Reader (List Ty) := tooDeep
  decltype : Reader Expression := tooDeep
  namedType : Reader Compound := tooDeep
  arrayType : Reader Compound := tooDeep
  vectorType : Reader Compound := tooDeep
  memberPointer : Reader Compound := tooDeep
  templateParameter : Reader Nat := tooDeep
  templateTemplate : Reader Component := tooDeep
  templateArgs : Reader TemplateArgs := tooDeep
  templateArg : Reader TemplateArg := tooDeep
  literal : Reader Literal := tooDeep
  expression : Reader Expression := tooDeep
  initializer : Reader (List Expression) := tooDeep
  subobject : Reader Expression := tooDeep
  memberName : Reader Name := tooDeep
  parameter : Reader (Option Nat) := tooDeep
  unresolved : Reader Unresolved := tooDeep
  unresolvedType : Reader Component := tooDeep
  unresolvedBase : Reader UnresolvedBase := tooDeep
  destructorName : Reader UnresolvedBase := tooDeep
  qualifierLevel : Reader SimpleId := tooDeep
  simpleId : Reader SimpleId := tooDeep

end FirmwareSymbols.Demangle.Itanium
