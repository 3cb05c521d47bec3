import FirmwareSymbols.Main.Script.Syntax
import FirmwareSymbols.Text.Digits

/-!
# Arithmetic

Expressions over whole numbers of 64 bits with a sign, and variables that hold such numbers. Results that do not fit
wrap around. An operand that decides the result keeps the other ones from being evaluated.
-/

namespace FirmwareSymbols.Script

inductive Arithmetic
  | number (n : Int)
  | variable (name : String)
  | negative (e : Arithmetic)
  | complement (e : Arithmetic)
  | opposite (e : Arithmetic)
  | binary (operator : String) (e f : Arithmetic)
  /-- Assigns to a variable, perhaps after an operation with its old value. -/
  | assign (name : String) (operator : Option String) (e : Arithmetic)
  | both (e f : Arithmetic)
  | either (e f : Arithmetic)
  | conditional (e f g : Arithmetic)

/-- Why an expression has no value. -/
inductive ArithmeticFault
  | expecting (what : String)
  | divisionByZero
deriving DecidableEq, Repr

def ArithmeticFault.text : ArithmeticFault → String
  | expecting what => "expecting " ++ what
  | divisionByZero => "division by zero"

/-! ### Numbers -/

/-- The number of 64 bits with a sign that a whole number wraps around to. -/
def wrapped (n : Int) : Int := Int.bmod n (Nat.pow 2 64)

/-- The largest number. -/
def largest : Nat := Nat.pow 2 63 - 1

/-- The value of digits in a base, cut off at the largest number. -/
def clampedValue (base : Nat) (digits : List Char) : Nat :=
  min largest (digits.foldl (fun n c => n * base + (Text.hexDigit? c).getD 0) 0)

def isDigitIn (base : Nat) (c : Char) : Bool := (Text.hexDigit? c).any (· < base)

/-- The number at the front of a text: hexadecimal after `0x`, octal after `0`. -/
def numeral? (s : List Char) : Option (Nat × List Char) :=
  match s with
  | '0' :: x :: d :: rest =>
    if (x = 'x' || x = 'X') && isDigitIn 16 d then
      some (clampedValue 16 ((d :: rest).takeWhile (isDigitIn 16)), (d :: rest).dropWhile (isDigitIn 16))
    else some (clampedValue 8 (s.takeWhile (isDigitIn 8)), s.dropWhile (isDigitIn 8))
  | '0' :: _ => some (clampedValue 8 (s.takeWhile (isDigitIn 8)), s.dropWhile (isDigitIn 8))
  | c :: _ =>
    if Text.isDigit c then some (clampedValue 10 (s.takeWhile Text.isDigit), s.dropWhile Text.isDigit) else none
  | [] => none

def isSpace (c : Char) : Bool := c = ' ' || ('\t' ≤ c && c ≤ '\r')

/-- The value of a variable as a number; an empty one is zero. -/
def variableValue? (value : String) : Option Int :=
  let s := value.toList.dropWhile isSpace
  let (sign, digits) := match s with
    | '-' :: rest => ((-1 : Int), rest)
    | '+' :: rest => (1, rest)
    | _ => (1, s)
  if s.isEmpty then some 0
  else
    match numeral? digits with
    | some (n, rest) => if rest.all isSpace then some (sign * n) else none
    | none => none

/-! ### Reading -/

/-- The binary operators in the order of their strength, the weakest first. -/
def binaryLevels : List (List String) :=
  [["|"], ["^"], ["&"], ["==", "!="], ["<=", ">=", "<", ">"], ["<<", ">>"], ["+", "-"], ["*", "/", "%"]]

inductive ArithmeticToken
  | number (n : Nat)
  | name (s : String)
  | symbol (s : String)
deriving DecidableEq, Repr

/-- All symbols, the longer ones first. -/
def arithmeticSymbols : List String :=
  ["<<=", ">>=", "<<", ">>", "<=", ">=", "==", "!=", "&&", "||", "+=", "-=", "*=", "/=", "%=", "&=", "^=", "|=", "+", "-",
    "*", "/", "%", "&", "^", "|", "<", ">", "=", "!", "~", "?", ":", "(", ")"]

/-- The tokens of an expression, up to a character that starts none. -/
def arithmeticTokens : Nat → List Char → List ArithmeticToken
  | 0, _ => []
  | _, [] => []
  | fuel + 1, c :: rest =>
    if isSpace c then arithmeticTokens fuel rest
    else if isNameStart c then
      .name (String.ofList ((c :: rest).takeWhile isNameChar)) :: arithmeticTokens fuel ((c :: rest).dropWhile isNameChar)
    else
      match numeral? (c :: rest) with
      | some (n, after) => .number n :: arithmeticTokens fuel after
      | none =>
        let symbol := arithmeticSymbols.findSome? fun s => (s.toList.isPrefixOf? (c :: rest)).map fun after => (s, after)
        match symbol with
        | some (s, after) => .symbol s :: arithmeticTokens fuel after
        | none => [.symbol (String.singleton c)]

abbrev ArithmeticReader := StateT (List ArithmeticToken) (Except ArithmeticFault)

def acceptSymbol (s : String) : ArithmeticReader Bool := do
  match ← get with
  | .symbol t :: rest => if s = t then set rest; return true else return false
  | _ => return false

/-- The operation of an assignment. -/
def assigning? (tokens : List ArithmeticToken) : Option (Option String × List ArithmeticToken) :=
  match tokens with
  | .symbol "=" :: rest => some (none, rest)
  | .symbol s :: rest =>
    if ["+=", "-=", "*=", "/=", "%=", "&=", "^=", "|=", "<<=", ">>="].contains s then
      some (some (String.ofList s.toList.dropLast), rest)
    else none
  | _ => none

mutual

/-- An expression; it has at most `fuel` levels. -/
def assignmentLevel : Nat → ArithmeticReader Arithmetic
  | 0 => throw (.expecting "primary")
  | fuel + 1 => do
    match ← get with
    | .name n :: rest =>
      match assigning? rest with
      | some (operator, rest) =>
        set rest
        return .assign n operator (← assignmentLevel fuel)
      | none => conditionalLevel fuel
    | _ => conditionalLevel fuel

def conditionalLevel : Nat → ArithmeticReader Arithmetic
  | 0 => throw (.expecting "primary")
  | fuel + 1 => do
    let e ← eitherLevel fuel
    if ← acceptSymbol "?" then
      let f ← assignmentLevel fuel
      if !(← acceptSymbol ":") then throw (.expecting "':'")
      return .conditional e f (← conditionalLevel fuel)
    else return e

def eitherLevel : Nat → ArithmeticReader Arithmetic
  | 0 => throw (.expecting "primary")
  | fuel + 1 => do
    let e ← bothLevel fuel
    if ← acceptSymbol "||" then return .either e (← eitherLevel fuel) else return e

def bothLevel : Nat → ArithmeticReader Arithmetic
  | 0 => throw (.expecting "primary")
  | fuel + 1 => do
    let e ← binaryLevel fuel binaryLevels
    if ← acceptSymbol "&&" then return .both e (← bothLevel fuel) else return e

def binaryLevel : Nat → List (List String) → ArithmeticReader Arithmetic
  | 0, _ => throw (.expecting "primary")
  | fuel + 1, [] => primary fuel
  | fuel + 1, operators :: stronger => do
    binaryRest fuel operators stronger (← binaryLevel fuel stronger)

/-- The operations of one strength, from the left. -/
def binaryRest : Nat → List String → List (List String) → Arithmetic → ArithmeticReader Arithmetic
  | 0, _, _, _ => throw (.expecting "primary")
  | fuel + 1, operators, stronger, e => do
    match ← get with
    | .symbol s :: rest =>
      if operators.contains s then
        set rest
        binaryRest fuel operators stronger (.binary s e (← binaryLevel fuel stronger))
      else return e
    | _ => return e

def primary : Nat → ArithmeticReader Arithmetic
  | 0 => throw (.expecting "primary")
  | fuel + 1 => do
    match ← get with
    | .number n :: rest =>
      set rest
      return .number n
    | .name n :: rest =>
      set rest
      return .variable n
    | .symbol s :: rest =>
      set rest
      match s with
      | "(" =>
        let e ← assignmentLevel fuel
        if ← acceptSymbol ")" then return e else throw (.expecting "')'")
      | "+" => primary fuel
      | "-" => return .opposite (← primary fuel)
      | "!" => return .negative (← primary fuel)
      | "~" => return .complement (← primary fuel)
      | _ => throw (.expecting "primary")
    | [] => throw (.expecting "primary")

end

def Arithmetic.ofText (text : String) : Except ArithmeticFault Arithmetic := do
  let tokens := arithmeticTokens (text.length + 1) text.toList
  let (e, rest) ← (assignmentLevel (20 * (tokens.length + 1))).run tokens
  if rest.isEmpty then return e else throw (.expecting "EOF")

/-! ### Values -/

def truth (b : Bool) : Int := if b then 1 else 0

/-- The bits of a number. -/
def bits (n : Int) : BitVec 64 := BitVec.ofInt 64 n

/-- A shift takes its distance modulo the number of bits. -/
def shiftDistance (n : Int) : Nat := (n % 64).toNat

/-- The result of a binary operation; `none` for a division by zero. -/
def operate? (operator : String) (a b : Int) : Option Int :=
  match operator with
  | "|" => some (bits a ||| bits b).toInt
  | "^" => some (bits a ^^^ bits b).toInt
  | "&" => some (bits a &&& bits b).toInt
  | "==" => some (truth (a = b))
  | "!=" => some (truth (a ≠ b))
  | "<=" => some (truth (a ≤ b))
  | ">=" => some (truth (b ≤ a))
  | "<" => some (truth (a < b))
  | ">" => some (truth (b < a))
  | "<<" => some (bits a <<< shiftDistance b).toInt
  | ">>" => some (BitVec.sshiftRight (bits a) (shiftDistance b)).toInt
  | "+" => some (wrapped (a + b))
  | "-" => some (wrapped (a - b))
  | "*" => some (wrapped (a * b))
  | "/" => if b = 0 then none else some (wrapped (Int.tdiv a b))
  | "%" => if b = 0 then none else some (Int.tmod a b)
  | _ => none

/-- The value of an expression, where variables are read, set, and faults dealt with as the parameters tell. -/
def Arithmetic.value {m : Type → Type} [Monad m] (read : String → m Int) (assign : String → Int → m Unit)
    (fail : ArithmeticFault → m Int) : Arithmetic → m Int
  | .number n => return n
  | .variable name => read name
  | .negative e => return truth ((← e.value read assign fail) = 0)
  | .complement e => return (~~~ bits (← e.value read assign fail)).toInt
  | .opposite e => return wrapped (-(← e.value read assign fail))
  | .binary operator e f => do
    let a ← e.value read assign fail
    let b ← f.value read assign fail
    match operate? operator a b with
    | some n => return n
    | none => fail .divisionByZero
  | .assign name operator e => do
    let b ← e.value read assign fail
    let result ← match operator with
      | none => pure b
      | some operator =>
        match operate? operator (← read name) b with
        | some n => pure n
        | none => fail .divisionByZero
    assign name result
    return result
  | .both e f => do
    if (← e.value read assign fail) = 0 then return 0
    return truth ((← f.value read assign fail) ≠ 0)
  | .either e f => do
    if (← e.value read assign fail) ≠ 0 then return 1
    return truth ((← f.value read assign fail) ≠ 0)
  | .conditional e f g => do
    if (← e.value read assign fail) ≠ 0 then f.value read assign fail else g.value read assign fail

end FirmwareSymbols.Script
