import FirmwareSymbols.Demangle.Itanium.Operator

/-!
# Parts of a symbol

A symbol of the C++ scheme is the name of an object, the name of a function with the types of its parameters, or the
name of something that the compiler adds to them. A part that a later part can refer to is a component; a reference
stands for the component itself.
-/

namespace FirmwareSymbols.Demangle.Itanium

structure Qualifiers where
  isRestrict : Bool
  isVolatile : Bool
  isConst : Bool
deriving DecidableEq, Repr

def Qualifiers.isEmpty (q : Qualifiers) : Bool := !q.isRestrict && !q.isVolatile && !q.isConst

/-- Lvalue references bind to what has a place, rvalue references to what is about to end. -/
inductive RefKind
  | lvalue
  | rvalue
deriving DecidableEq, Repr

def RefKind.text : RefKind → String
  | .lvalue => "&"
  | .rvalue => "&&"

/-- How the object of a member function is passed. -/
inductive MemberKind
  | implicit (q : Qualifiers) (r : Option RefKind)
  /-- The object is the first parameter. -/
  | explicit
deriving DecidableEq, Repr

/-- Names of the standard library with a letter of their own. -/
inductive WellKnown
  | std
  | allocator
  | basicString
  | string
  | istream
  | ostream
  | iostream
deriving DecidableEq, Repr

namespace WellKnown

def all : List WellKnown := [std, allocator, basicString, string, istream, ostream, iostream]

/-- The letter after `S`. -/
def letter : WellKnown → Char
  | std => 't'
  | allocator => 'a'
  | basicString => 'b'
  | string => 's'
  | istream => 'i'
  | ostream => 'o'
  | iostream => 'd'

def text : WellKnown → String
  | std => "std"
  | allocator => "std::allocator"
  | basicString => "std::basic_string"
  | string => "std::string"
  | istream => "std::basic_istream<char, std::char_traits<char> >"
  | ostream => "std::ostream"
  | iostream => "std::basic_iostream<char, std::char_traits<char> >"

/-- The name of a constructor; a namespace has none. -/
def leaf? : WellKnown → Option String
  | std => none
  | allocator => some "allocator"
  | basicString => some "basic_string"
  | string => some "string"
  | istream => some "basic_istream"
  | ostream => some "ostream"
  | iostream => some "basic_iostream"

end WellKnown

/-- How a call has to be adjusted. -/
inductive CallOffset
  | fixed (offset : Int)
  | virtual (offset slot : Int)
deriving DecidableEq, Repr

def CallOffset.text : CallOffset → String
  | .fixed offset => "\x7boffset(" ++ toString offset ++ ")\x7d"
  | .virtual offset slot => "\x7bvirtual offset(" ++ toString offset ++ ", " ++ toString slot ++ ")\x7d"

/-- Tells apart the versions of a function that an optimiser made. -/
structure Clone where
  kind : String
  numbers : List Nat
deriving DecidableEq, Repr

def Clone.text (c : Clone) : String :=
  " [clone ." ++ c.kind ++ String.join (c.numbers.map fun n => "." ++ toString n) ++ "]"

mutual

/-- A whole symbol. -/
inductive Mangled
  | encoding (e : Encoding) (clones : List Clone)
  /-- The body of a block. -/
  | block (e : Encoding)
  /-- The constructors or destructors that run for a unit. -/
  | startUp (isDestructor : Bool) (m : Mangled)
  | type (t : Ty)

inductive Encoding
  /-- The types are those of the parameters; for a template the type of the result comes first. -/
  | function (name : Name) (types : List Ty)
  | data (name : Name)
  | special (s : Special)

/-- What the compiler adds to types, objects and functions. -/
inductive Special
  | ofType (before after : String) (t : Ty)
  | ofName (before : String) (name : Name)
  | ofEncoding (before : String) (e : Encoding)
  | constructionTable (derived base : Ty)
  | thunk (offsets : List CallOffset) (e : Encoding)
  | temporary (name : Name) (number : Nat)
  | resource (path : String)

inductive Name
  | nested (m : MemberKind) (e : Enclosing)
  | unscoped (name : UnscopedName)
  | template (c : Component) (args : TemplateArgs)
  /-- A name inside a function; without one it is a string literal. -/
  | local (e : Encoding) (name : Option Name)
  /-- A name inside the default value of a parameter. -/
  | inDefault (e : Encoding) (name : Name)

inductive UnscopedName
  | plain (name : Unqualified)
  | inStd (name : Unqualified)

/-- What a later part can refer to. -/
inductive Component
  | wellKnown (w : WellKnown)
  | template (name : UnscopedName)
  | type (t : Compound)
  | parameter (index : Nat)
  | unresolvedDecltype (e : Expression)
  | unresolvedParameter (index : Nat) (args : Option TemplateArgs)
  | enclosing (e : Enclosing)

/-- What can stand to the left of two colons. -/
inductive Enclosing
  | unqualified (name : Unqualified)
  | nested (outer : Component) (name : Unqualified)
  | template (c : Component) (args : TemplateArgs)
  | parameter (index : Nat)
  | decltype (e : Expression)
  | member (outer : Component) (name : String)

/-- A simple name with the tags of its binary interface. -/
inductive Unqualified
  | operator (o : Operator) (tags : List String)
  /-- A constructor, which may be taken over from a base class. -/
  | constructor (base : Option Ty) (tags : List String)
  | destructor (tags : List String)
  | source (name : String) (tags : List String)
  | closure (parameters : List Ty) (number : Nat) (tags : List String)
  | unnamed (number : Nat) (tags : List String)

inductive Operator
  | simple (o : SimpleOperator)
  /-- A conversion to a type. -/
  | conversion (t : Ty)
  | literal (name : String)
  | vendor (arity : Nat) (name : String)

/-- Types that are built in, and those that can be referred to. -/
inductive Ty
  | builtin (b : Builtin)
  | component (c : Component)

inductive Builtin
  | standard (name : String)
  | float (bits : Nat) (isExtended : Bool)
  | bitInt (isSigned : Bool) (bits : Nat)
  | bitIntOf (isSigned : Bool) (e : Expression)
  | vendor (name : String)

inductive Compound
  /-- A class, union or enumeration; the keyword may be left out. -/
  | named (keyword : String) (name : Name)
  | function (f : FunctionType)
  | array (length : Dimension) (t : Ty)
  | vector (length : Dimension) (t : Ty)
  | memberPointer (owner t : Ty)
  | parameter (index : Nat)
  | template (c : Component) (args : TemplateArgs)
  | decltype (e : Expression)
  | qualified (q : Qualifiers) (t : Ty)
  | pointer (t : Ty)
  | reference (r : RefKind) (t : Ty)
  | complex (t : Ty)
  | imaginary (t : Ty)
  | vendor (name : String) (args : Option TemplateArgs) (t : Ty)
  | expansion (t : Ty)

inductive Dimension
  | unknown
  | number (n : Nat)
  | expression (e : Expression)

/-- The first type is that of the result. -/
inductive FunctionType
  | mk (q : Qualifiers) (r : Option RefKind) (exceptions : Exceptions) (types : List Ty)

/-- What a function promises about exceptions. -/
inductive Exceptions
  | unspecified
  | never
  | unless (e : Expression)

/-- The number tells apart the lists of one symbol. -/
inductive TemplateArgs
  | mk (number : Nat) (args : List TemplateArg)

inductive TemplateArg
  | expression (e : Expression)
  | literal (l : Literal)
  | type (t : Ty)
  | pack (args : List TemplateArg)

inductive Literal
  | value (t : Ty) (text : List Char)
  | symbol (m : Mangled)

inductive Expression
  | unary (o : Operator) (e : Expression)
  | binary (o : Operator) (e f : Expression)
  | ternary (o : Operator) (e f g : Expression)
  /-- An increment or decrement, which stands in front of its operand or after it. -/
  | step (text : String) (isAfter : Bool) (e : Expression)
  | call (function : Expression) (args : List Expression)
  | convert (t : Ty) (e : Expression)
  | construct (t : Ty) (args : List Expression)
  | braced (t : Ty) (args : List Expression)
  | bracedValue (e : Expression)
  | cast (keyword : String) (t : Ty) (e : Expression)
  | ofType (keyword : String) (t : Ty)
  | ofValue (keyword : String) (e : Expression)
  | subobject (t : Ty) (e : Expression) (offset : Int)
  /-- A member of an object, or of what a pointer refers to. -/
  | member (e : Expression) (isPointer : Bool) (name : Name)
  | memberPointer (e f : Expression)
  | packSize (index : Nat)
  | parameterPackSize (p : Option Nat)
  | capturedPackSize (args : List TemplateArg)
  | expansion (e : Expression)
  | throw (e : Option Expression)
  | new (isGlobal isArray : Bool) (placement : List Expression) (t : Ty) (value : Option (List Expression))
  | delete (isGlobal isArray : Bool) (e : Expression)
  | templateParameter (index : Nat)
  /-- A parameter of the function, or the object that it belongs to. -/
  | parameter (p : Option Nat)
  | unresolved (name : Unresolved)
  | literal (l : Literal)

/-- A name that depends on the arguments of a template. -/
inductive Unresolved
  | mk (isGlobal : Bool) (scope : Option Component) (levels : List SimpleId) (base : UnresolvedBase)

inductive UnresolvedBase
  | name (i : SimpleId)
  | operator (o : Operator) (args : Option TemplateArgs)
  | destructorOf (c : Component)
  | destructor (i : SimpleId)

inductive SimpleId
  | mk (name : String) (args : Option TemplateArgs)

end

def TemplateArgs.number : TemplateArgs → Nat
  | mk n _ => n

def TemplateArgs.args : TemplateArgs → List TemplateArg
  | mk _ l => l

def Exceptions.isUnspecified : Exceptions → Bool
  | .unspecified => true
  | .never | .unless _ => false

def Ty.isVoid : Ty → Bool
  | builtin (.standard "void") => true
  | _ => false

end FirmwareSymbols.Demangle.Itanium
