import FirmwareSymbols.Demangle.Itanium.Writer.Names

/-!
# Written expressions

Operands stand in parentheses, unless they are parameters or symbols.
-/

namespace FirmwareSymbols.Demangle.Itanium.Forms

/-! ### Literals -/

/-- The text of a number, whose sign is a letter. -/
def literalText (text : List Char) : Writer Unit :=
  match text with
  | 'n' :: digits => do
    write "-"
    write (String.ofList digits)
  | digits => write (String.ofList digits)

/-- The bits of a number with a point. -/
def literalBits (text : List Char) : Writer Unit :=
  match text with
  | 'n' :: bits => between "-[" "]" (write (String.ofList bits))
  | bits => between "[" "]" (write (String.ofList bits))

def valueForm (below : Forms) (scope : Scope) (t : Ty) (text : List Char) : Writer Unit := do
  let typed (p : Writer Unit) : Writer Unit := do
    between "(" ")" (below.type scope t)
    p
  match t with
  | .builtin (.standard "bool") =>
    if text = ['0'] then write "false"
    else if text = ['1'] then write "true"
    else typed (literalText text)
  | .builtin (.standard "std::nullptr_t") => write "nullptr"
  | .builtin (.standard "int") => literalText text
  | .builtin (.standard "float") | .builtin (.standard "double") => typed (literalBits text)
  | _ => typed (literalText text)

def literalForm (below : Forms) (scope : Scope) : Literal → Writer Unit
  | .value t text => below.valueForm scope t text
  | .symbol m => below.mangled scope m

/-! ### Expressions -/

def needsParentheses : Expression → Bool
  | .parameter _ | .literal (.symbol _) => false
  | _ => true

def operand (below : Forms) (scope : Scope) (e : Expression) : Writer Unit :=
  if needsParentheses e then between "(" ")" (below.expression scope e) else below.expression scope e

def arguments (below : Forms) (scope : Scope) (l : List Expression) : Writer Unit :=
  writeSeparated (below.expression scope) l

def isGreater : Operator → Bool
  | .simple o => o.isGreater
  | _ => false

def isConditional : Operator → Bool
  | .simple o => o.isConditional
  | _ => false

/-- A comparison that could be read as the end of template arguments stands in parentheses, and so do its operands. -/
def binary (below : Forms) (scope : Scope) (o : Operator) (e f : Expression) : Writer Unit := do
  if isGreater o then
    between "(" ")" do
      between "(" ")" (below.expression scope e)
      write ">"
      between "(" ")" (below.expression scope f)
  else
    below.operand scope e
    below.operator scope o
    below.operand scope f

def ternary (below : Forms) (scope : Scope) (o : Operator) (e f g : Expression) : Writer Unit := do
  if isConditional o then
    below.operand scope e
    write "?"
    below.operand scope f
    write " : "
    below.operand scope g
  else
    below.operator scope o
    between "(" ")" (below.arguments scope [e, f, g])

def allocate (below : Forms) (scope : Scope) (keyword : String) (placement : List Expression) (t : Ty)
    (value : Option (List Expression)) : Writer Unit := do
  write keyword
  between " (" ") " (below.arguments scope placement)
  below.type scope t
  value.forM (below.initializer scope)

def initializerForm (below : Forms) (scope : Scope) (args : List Expression) : Writer Unit :=
  between "(" ")" (below.arguments scope args)

/-- A keyword that may be global and may be for arrays. -/
def allocationKeyword (keyword : String) (isGlobal isArray : Bool) : String :=
  (if isGlobal then "::" else "") ++ keyword ++ (if isArray then "[]" else "")

def parameterText : Option Nat → String
  | none => "this"
  | some i => "\x7bparm#" ++ toString (i + 1) ++ "\x7d"

/-- A member with template arguments stands in parentheses. -/
def memberNameForm (below : Forms) (scope : Scope) (name : Name) : Writer Unit :=
  if name.args?.isSome then between "(" ")" (below.name scope name) else below.name scope name

/-- A member of an object, or of what a pointer refers to. -/
def member (below : Forms) (scope : Scope) (e : Expression) (isPointer : Bool) (name : Name) : Writer Unit := do
  if isPointer then
    below.expression scope e
    write "->"
  else
    below.operand scope e
    write "."
  below.memberName scope name

def subobjectForm (below : Forms) (scope : Scope) (t : Ty) (e : Expression) (offset : Int) : Writer Unit := do
  below.expression scope e
  write ".<"
  below.type scope t
  write (" at offset " ++ toString offset ++ ">")

def expressionForm (below : Forms) (scope : Scope) (e : Expression) : Writer Unit := do
  match e with
  | .unary o e =>
    below.operator scope o
    below.operand scope e
  | .binary o e f => below.binary scope o e f
  | .ternary o e f g => below.ternary scope o e f g
  | .step text false e =>
    write text
    below.expression scope e
  | .step text true e =>
    below.operand scope e
    write text
  | .call f args =>
    below.operand scope f
    between "(" ")" (below.arguments scope args)
  | .convert t e =>
    between "(" ")" (below.type scope t)
    between "(" ")" (below.expression scope e)
  | .construct t args =>
    below.type scope t
    between "(" ")" (below.arguments scope args)
  | .braced t args =>
    below.type scope t
    between "\x7b" "\x7d" (below.arguments scope args)
  | .bracedValue e => between "\x7b" "\x7d" (below.expression scope e)
  | .cast keyword t e =>
    write keyword
    between "<" ">" (below.type scope t)
    between "(" ")" (below.expression scope e)
  | .ofType keyword t =>
    write keyword
    between " (" ")" (below.type scope t)
  | .ofValue keyword e =>
    write keyword
    between " (" ")" (below.expression scope e)
  | .subobject t e offset => below.subobject scope t e offset
  | .member e isPointer name => below.member scope e isPointer name
  | .memberPointer e f =>
    below.expression scope e
    write ".*"
    below.expression scope f
  | .packSize index => between "sizeof...(" ")" (below.templateParameter scope index)
  | .parameterPackSize p => between "sizeof...(" ")" (below.word (parameterText p))
  | .capturedPackSize args => between "sizeof...(" ")" (writeSeparated (below.templateArg scope) args)
  | .expansion e =>
    below.operand scope e
    write "..."
  | .throw (some e) =>
    write "throw "
    below.expression scope e
  | .throw none => write "throw"
  | .new isGlobal isArray placement t value =>
    below.allocate scope (allocationKeyword "new" isGlobal isArray) placement t value
  | .delete isGlobal isArray e =>
    write (allocationKeyword "delete" isGlobal isArray ++ " ")
    below.expression scope e
  | .templateParameter index => below.templateParameter scope index
  | .parameter p => below.word (parameterText p)
  | .unresolved name => below.unresolved scope name
  | .literal l => below.literal scope l

/-! ### Names that depend on template arguments -/

def simpleIdForm (below : Forms) (scope : Scope) : SimpleId → Writer Unit
  | .mk name args => do
    below.sourceName name
    args.forM (below.templateArgs scope)

/-- A parameter with arguments of its own sees nothing closer than these. -/
def unresolvedParameterForm (below : Forms) (scope : Scope) (index : Nat) (args : Option TemplateArgs) :
    Writer Unit := do
  let scope := args.elim scope scope.withArgs
  below.templateParameter scope index
  args.forM (below.templateArgs scope)

def destructorOfForm (below : Forms) (scope : Scope) (c : Component) : Writer Unit := do
  write "~"
  below.component scope c

def destructorNameForm (below : Forms) (scope : Scope) (i : SimpleId) : Writer Unit := do
  write "~"
  below.simpleId scope i

def unresolvedBaseForm (below : Forms) (scope : Scope) : UnresolvedBase → Writer Unit
  | .name i => below.simpleId scope i
  | .operator o args => do
    below.operator scope o
    args.forM (below.templateArgs scope)
  | .destructorOf c => below.destructorOf scope c
  | .destructor i => below.destructorName scope i

def unresolvedForm (below : Forms) (scope : Scope) : Unresolved → Writer Unit
  | .mk isGlobal outer levels base => do
    if isGlobal then write "::"
    outer.forM fun c => do
      below.component scope c
      write "::"
    levels.forM fun i => do
      below.qualifierLevel scope i
      write "::"
    below.unresolvedBase scope base

end FirmwareSymbols.Demangle.Itanium.Forms
