import FirmwareSymbols.Json.Number

/-!
# Reading JSON

Each reader takes what it needs from the front of a text and gives the value and the rest. A document is one value
with nothing but blanks around it. Refused are raw control characters in strings, lone surrogate escapes, numbers
out of range and nesting deeper than `maxDepth`.
-/

namespace FirmwareSymbols.Json

/-- How deep arrays and objects may be nested. -/
def maxDepth : Nat := 127

def isBlank (c : Char) : Bool := c = ' ' || c = '\n' || c = '\t' || c = '\r'

def skipBlanks (s : List Char) : List Char := s.dropWhile isBlank

def hex4? (a b c d : Char) : Option Nat := do
  let high := (← Text.hexDigit? a) * 16 + (← Text.hexDigit? b)
  return (high * 16 + (← Text.hexDigit? c)) * 16 + (← Text.hexDigit? d)

/-- The character after a backslash, other than `u`. -/
def shortEscape? : Char → Option Char
  | '"' => some '"'
  | '\\' => some '\\'
  | '/' => some '/'
  | 'b' => some '\x08'
  | 'f' => some '\x0c'
  | 'n' => some '\n'
  | 'r' => some '\r'
  | 't' => some '\t'
  | _ => none

def isHighSurrogate (n : Nat) : Bool := 0xd800 ≤ n && n < 0xdc00

def isLowSurrogate (n : Nat) : Bool := 0xdc00 ≤ n && n < 0xe000

/-- The code point of a surrogate pair. -/
def joinSurrogates (high low : Nat) : Char :=
  Char.ofNat (0x10000 + (high - 0xd800) * 0x400 + (low - 0xdc00))

/-- Puts a character before the text that was read. -/
def prepend (c : Char) : Option (List Char × List Char) → Option (List Char × List Char) :=
  Option.map fun (text, rest) => (c :: text, rest)

/-- What follows an opening quote, up to the closing one. -/
def stringBody : List Char → Option (List Char × List Char)
  | [] => none
  | '"' :: s => some ([], s)
  | '\\' :: 'u' :: a :: b :: c :: d :: s =>
    match hex4? a b c d with
    | none => none
    | some n =>
      if isHighSurrogate n then
        match s with
        | '\\' :: 'u' :: a' :: b' :: c' :: d' :: s' =>
          match hex4? a' b' c' d' with
          | none => none
          | some m => if isLowSurrogate m then prepend (joinSurrogates n m) (stringBody s') else none
        | _ => none
      else if isLowSurrogate n then none
      else prepend (Char.ofNat n) (stringBody s)
  | '\\' :: c :: s =>
    match shortEscape? c with
    | none => none
    | some e => prepend e (stringBody s)
  | c :: s => if c = '\\' || c.toNat < 0x20 then none else prepend c (stringBody s)

/-- The digits before the point: a leading zero stands alone. -/
def wholePart (s : List Char) : Option (List Char × List Char) := do
  let (ds, rest) ← Text.digits? s
  if ds.head? = some '0' && ds.length ≠ 1 then none else some (ds, rest)

/-- The digits after the point, if there is one. -/
def fractionPart : List Char → Option (List Char × List Char)
  | '.' :: s => Text.digits? s
  | s => some ([], s)

def exponentDigits (negative : Bool) (s : List Char) : Option (Int × List Char) :=
  (Text.digits? s).map fun (ds, rest) => (if negative then -(Text.digitsValue ds : Int) else Text.digitsValue ds, rest)

/-- The exponent, zero if there is none. -/
def exponentPart : List Char → Option (Int × List Char)
  | e :: s =>
    if e = 'e' || e = 'E' then
      match s with
      | '+' :: s' => exponentDigits false s'
      | '-' :: s' => exponentDigits true s'
      | _ => exponentDigits false s
    else some (0, e :: s)
  | [] => some (0, [])

def number (negative : Bool) (s : List Char) : Option (Value × List Char) := do
  let (whole, s) ← wholePart s
  let (fraction, s) ← fractionPart s
  let (exponent, s) ← exponentPart s
  let literal : Literal := ⟨negative, whole, fraction, exponent⟩
  if literal.inRange then some (.number literal, s) else none

/-- The items of an array after its opening bracket, which holds at least one. -/
def items (item : List Char → Option (Value × List Char)) : Nat → List Char → Option (List Value × List Char)
  | 0, _ => none
  | n + 1, s => do
    let (v, s) ← item s
    match skipBlanks s with
    | ',' :: s => (items item n s).map fun (vs, rest) => (v :: vs, rest)
    | ']' :: s => some ([v], s)
    | _ => none

/-- A key, a colon and a value. -/
def member (item : List Char → Option (Value × List Char)) (s : List Char) :
    Option ((List Char × Value) × List Char) :=
  match skipBlanks s with
  | '"' :: s => do
    let (key, s) ← stringBody s
    match skipBlanks s with
    | ':' :: s => (item s).map fun (v, rest) => ((key, v), rest)
    | _ => none
  | _ => none

/-- The members of an object after its opening brace, which holds at least one. -/
def members (item : List Char → Option (Value × List Char)) :
    Nat → List Char → Option (List (List Char × Value) × List Char)
  | 0, _ => none
  | n + 1, s => do
    let (m, s) ← member item s
    match skipBlanks s with
    | ',' :: s => (members item n s).map fun (ms, rest) => (m :: ms, rest)
    | '\x7d' :: s => some ([m], s)
    | _ => none

/-- An array after its opening bracket. -/
def array (item : List Char → Option (Value × List Char)) (s : List Char) : Option (Value × List Char) :=
  match skipBlanks s with
  | ']' :: rest => some (.array [], rest)
  | _ => (items item s.length s).map fun (vs, rest) => (.array vs, rest)

/-- An object after its opening brace. -/
def object (item : List Char → Option (Value × List Char)) (s : List Char) : Option (Value × List Char) :=
  match skipBlanks s with
  | '\x7d' :: rest => some (.object [], rest)
  | _ => (members item s.length s).map fun (ms, rest) => (.object ms, rest)

/-- A value, blanks before it skipped, with at most `depth` levels of arrays and objects. -/
def value (depth : Nat) (s : List Char) : Option (Value × List Char) :=
  match skipBlanks s with
  | 'n' :: 'u' :: 'l' :: 'l' :: rest => some (.null, rest)
  | 't' :: 'r' :: 'u' :: 'e' :: rest => some (.bool true, rest)
  | 'f' :: 'a' :: 'l' :: 's' :: 'e' :: rest => some (.bool false, rest)
  | '"' :: rest => (stringBody rest).map fun (text, rest) => (.string text, rest)
  | '-' :: rest => number true rest
  | '[' :: rest =>
    match depth with
    | 0 => none
    | d + 1 => array (value d) rest
  | '\x7b' :: rest =>
    match depth with
    | 0 => none
    | d + 1 => object (value d) rest
  | rest => number false rest

/-- The value of a whole text. -/
def parse? (s : List Char) : Option Value := do
  let (v, rest) ← value maxDepth s
  if (skipBlanks rest).isEmpty then some v else none

end FirmwareSymbols.Json
