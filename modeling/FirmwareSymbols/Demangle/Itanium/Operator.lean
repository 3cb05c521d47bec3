/-!
# Operators

The operators that a function can be named for or that an expression can apply, with their two-letter codes.
-/

namespace FirmwareSymbols.Demangle.Itanium

/-- An operator with a fixed text. -/
structure SimpleOperator where
  code : String
  text : String
  /-- How many operands it has in an expression. -/
  arity : Nat
deriving DecidableEq, Repr

def simpleOperators : List SimpleOperator := [
  ⟨"nw", "new", 3⟩,
  ⟨"na", "new[]", 3⟩,
  ⟨"dl", "delete", 1⟩,
  ⟨"da", "delete[]", 1⟩,
  ⟨"ps", "+", 1⟩,
  ⟨"ng", "-", 1⟩,
  ⟨"ad", "&", 1⟩,
  ⟨"de", "*", 1⟩,
  ⟨"co", "~", 1⟩,
  ⟨"pl", "+", 2⟩,
  ⟨"mi", "-", 2⟩,
  ⟨"ml", "*", 2⟩,
  ⟨"dv", "/", 2⟩,
  ⟨"rm", "%", 2⟩,
  ⟨"an", "&", 2⟩,
  ⟨"or", "|", 2⟩,
  ⟨"eo", "^", 2⟩,
  ⟨"aS", "=", 2⟩,
  ⟨"pL", "+=", 2⟩,
  ⟨"mI", "-=", 2⟩,
  ⟨"mL", "*=", 2⟩,
  ⟨"dV", "/=", 2⟩,
  ⟨"rM", "%=", 2⟩,
  ⟨"aN", "&=", 2⟩,
  ⟨"oR", "|=", 2⟩,
  ⟨"eO", "^=", 2⟩,
  ⟨"ls", "<<", 2⟩,
  ⟨"rs", ">>", 2⟩,
  ⟨"lS", "<<=", 2⟩,
  ⟨"rS", ">>=", 2⟩,
  ⟨"eq", "==", 2⟩,
  ⟨"ne", "!=", 2⟩,
  ⟨"lt", "<", 2⟩,
  ⟨"gt", ">", 2⟩,
  ⟨"le", "<=", 2⟩,
  ⟨"ge", ">=", 2⟩,
  ⟨"nt", "!", 1⟩,
  ⟨"aa", "&&", 2⟩,
  ⟨"oo", "||", 2⟩,
  ⟨"pp", "++", 1⟩,
  ⟨"mm", "--", 1⟩,
  ⟨"cm", ",", 2⟩,
  ⟨"pm", "->*", 2⟩,
  ⟨"pt", "->", 2⟩,
  ⟨"cl", "()", 2⟩,
  ⟨"ix", "[]", 2⟩,
  ⟨"qu", "?:", 3⟩,
  ⟨"ss", "<=>", 2⟩]

namespace SimpleOperator

def ofCode? (code : String) : Option SimpleOperator := simpleOperators.find? (·.code = code)

/-- An operator that is a word is set off from what stands before it. -/
def isWord (o : SimpleOperator) : Bool := o.text.front.isAlpha

def isGreater (o : SimpleOperator) : Bool := o.code = "gt"

def isConditional (o : SimpleOperator) : Bool := o.code = "qu"

end SimpleOperator

end FirmwareSymbols.Demangle.Itanium
