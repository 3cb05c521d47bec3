import FirmwareSymbols.Demangle.Itanium.Tree

/-!
# Scopes

What a constructor is called and what a template parameter stands for depends on the names around it. A scope is the
list of these names, the innermost first.
-/

namespace FirmwareSymbols.Demangle.Itanium

/-- The last part of a name, for which its constructors are called. -/
inductive Leaf
  | source (name : String)
  | wellKnown (name : String)
  | closure (parameters : List Ty) (number : Nat)
  | unnamed (number : Nat)

def Unqualified.leaf? : Unqualified → Option Leaf
  | source name _ => some (.source name)
  | closure parameters number _ => some (.closure parameters number)
  | unnamed number _ => some (.unnamed number)
  | operator _ _ | constructor _ _ | destructor _ => none

def UnscopedName.leaf? : UnscopedName → Option Leaf
  | plain name | inStd name => name.leaf?

mutual

def Component.leaf? : Component → Option Leaf
  | .wellKnown w => w.leaf?.map .wellKnown
  | .template name => name.leaf?
  | .type (.named _ name) => name.leaf?
  | .type _ => none
  | .enclosing e => e.leaf?
  | .parameter _ | .unresolvedDecltype _ | .unresolvedParameter _ _ => none

def Enclosing.leaf? : Enclosing → Option Leaf
  | .unqualified name => name.leaf?
  | .nested outer name => name.leaf? <|> outer.leaf?
  | .template c _ => c.leaf?
  | .parameter _ | .decltype _ => none
  | .member _ name => some (.source name)

def Name.leaf? : Name → Option Leaf
  | .nested _ e => e.leaf?
  | .unscoped name => name.leaf?
  | .template c _ => c.leaf?
  | .local _ (some name) | .inDefault _ name => name.leaf?
  | .local _ none => none

end

def Ty.leaf? : Ty → Option Leaf
  | builtin _ => none
  | component c => c.leaf?

/-! ### Template arguments -/

def Enclosing.args? : Enclosing → Option TemplateArgs
  | template _ args => some args
  | _ => none

/-- The arguments at the end of a name. -/
def Name.args? : Name → Option TemplateArgs
  | nested _ e => e.args?
  | template _ args => some args
  | «local» _ (some name) | inDefault _ name => name.args?
  | unscoped _ | «local» _ none => none

mutual

/-- The arguments in a type that a conversion can use before they are written. -/
def Ty.args? : Ty → Option TemplateArgs
  | .component (.type t) => t.args?
  | _ => none

def Compound.args? : Compound → Option TemplateArgs
  | .vendor _ args _ => args
  | .template _ args => some args
  | .pointer t | .reference _ t => t.args?
  | _ => none

end

/-! ### Special members -/

/-- Constructors, destructors and conversions have no type of result of their own. -/
def Unqualified.isSpecialMember : Unqualified → Bool
  | constructor _ _ | destructor _ => true
  | operator (.conversion _) _ => true
  | _ => false

mutual

def Enclosing.isSpecialMember : Enclosing → Bool
  | .unqualified name | .nested _ name => name.isSpecialMember
  | .template c _ => c.isSpecialMember
  | _ => false

def Component.isSpecialMember : Component → Bool
  | .enclosing e => e.isSpecialMember
  | _ => false

end

def Name.isSpecialMember : Name → Bool
  | nested _ e => e.isSpecialMember
  | unscoped (.plain name) | unscoped (.inStd name) => name.isSpecialMember
  | template _ _ | «local» _ _ | inDefault _ _ => false

/-! ### Scopes -/

/-- What one name around a part contributes. -/
structure Frame where
  args : Option TemplateArgs
  leaf : Option Leaf
  /-- The list of arguments, and the place in it, that is being written inside of this name. -/
  current : Option (Nat × Nat)

abbrev Scope := List Frame

namespace Scope

def withArgs (s : Scope) (args : TemplateArgs) : Scope := ⟨some args, none, none⟩ :: s

def withLeaf (s : Scope) (l : Leaf) : Scope := ⟨none, some l, none⟩ :: s

/-- Marks the argument that is being written. -/
def atArg (s : Scope) (number index : Nat) : Scope :=
  match s with
  | [] => []
  | f :: rest => { f with current := some (number, index) } :: rest

/-- The innermost name with a last part. -/
def leaf? (s : Scope) : Option Leaf := s.findSome? Frame.leaf

/-- Whether an argument would be used before it is written. -/
def Frame.isForward (f : Frame) (args : TemplateArgs) (index : Nat) : Bool :=
  f.current.any fun (number, i) => number = args.number && i ≤ index

/-- What a template parameter stands for. -/
def arg? : Scope → Nat → Option TemplateArg
  | [], _ => none
  | f :: rest, index =>
    match f.args with
    | none => arg? rest index
    | some args =>
      match args.args[index]? with
      | none => arg? rest index
      | some a => if Frame.isForward f args index then none else some a

end Scope

end FirmwareSymbols.Demangle.Itanium
