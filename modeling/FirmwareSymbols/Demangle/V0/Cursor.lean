import FirmwareSymbols.Text.Digits
import FirmwareSymbols.Text.Punycode

/-!
# Lexemes of the second scheme

A symbol is read from left to right. Its lexemes are single letters, numbers in base 62, hexadecimal constants and
identifiers. A back reference is the position of an earlier part of the symbol.
-/

namespace FirmwareSymbols.Demangle.V0

/-- Why a symbol cannot be read further. -/
inductive Fault
  | invalid
  /-- Its parts are nested too deeply. -/
  | tooDeep
deriving DecidableEq, Repr

/-- Stands for the part that cannot be read. -/
def Fault.note : Fault → String
  | .invalid => "\x7binvalid syntax\x7d"
  | .tooDeep => "\x7brecursion limit reached\x7d"

/-- A place in a symbol: the rest of it starts at the position. -/
structure Cursor where
  symbol : List Char
  position : Nat
  rest : List Char

namespace Cursor

def start (symbol : List Char) : Cursor := ⟨symbol, 0, symbol⟩

/-- Skips characters, as far as there are any. -/
def skip (c : Cursor) (n : Nat) : Cursor := ⟨c.symbol, c.position + n, c.rest.drop n⟩

/-- The same symbol at another place. -/
def moveTo (c : Cursor) (position : Nat) : Cursor := ⟨c.symbol, position, c.symbol.drop position⟩

end Cursor

abbrev Reader (α : Type) := Cursor → Except Fault (α × Cursor)

/-- The next character. -/
def next : Reader Char := fun c =>
  match c.rest with
  | [] => .error .invalid
  | x :: _ => .ok (x, c.skip 1)

/-- Skips the character if it is the next one. -/
def eat (x : Char) (c : Cursor) : Option Cursor := if c.rest.head? = some x then some (c.skip 1) else none

/-- Numbers stay below this. -/
def wordBound : Nat := Nat.pow 2 64

def checked (n : Nat) : Except Fault Nat := if n < wordBound then .ok n else .error .invalid

def digit62? (c : Char) : Option Nat :=
  if '0' ≤ c && c ≤ '9' then some (c.toNat - '0'.toNat)
  else if 'a' ≤ c && c ≤ 'z' then some (c.toNat - 'a'.toNat + 10)
  else if 'A' ≤ c && c ≤ 'Z' then some (c.toNat - 'A'.toNat + 36)
  else none

def digits62 (value : Nat) : List Char → Except Fault Nat
  | [] => .ok value
  | d :: ds =>
    match digit62? d with
    | none => .error .invalid
    | some n => do digits62 (← checked (value * 62 + n)) ds

/-- The characters before the next underscore, which is skipped. -/
def upToUnderscore : Reader (List Char) := fun c =>
  let text := c.rest.takeWhile (· ≠ '_')
  if text.length < c.rest.length then .ok (text, c.skip (text.length + 1)) else .error .invalid

/-- A number in base 62 with an underscore at its end; the underscore alone is zero, all others are one more than
their digits say. -/
def number62 : Reader Nat := fun c => do
  let (digits, c) ← upToUnderscore c
  if digits.isEmpty then return (0, c)
  else return (← checked ((← digits62 0 digits) + 1), c)

/-- Zero without the tag, otherwise one more than the number after it. -/
def taggedNumber62 (tag : Char) : Reader Nat := fun c =>
  match eat tag c with
  | none => .ok (0, c)
  | some c => do
    let (n, c) ← number62 c
    return (← checked (n + 1), c)

/-- Tells apart parts with the same name. -/
def disambiguator : Reader Nat := taggedNumber62 's'

/-- Lower-case hexadecimal digits with an underscore at their end. -/
def hexDigits : Reader (List Char) := fun c => do
  let (digits, c) ← upToUnderscore c
  if digits.all Text.isLowerHex then return (digits, c) else .error .invalid

/-- An upper-case letter is the name of a special namespace, a lower-case one has no name. -/
def namespaceLetter : Reader (Option Char) := fun c => do
  let (x, c) ← next c
  if 'A' ≤ x && x ≤ 'Z' then return (some x, c)
  else if 'a' ≤ x && x ≤ 'z' then return (none, c)
  else .error .invalid

/-- The place that a back reference leads to; its tag has been read. It has to be an earlier one. -/
def backReference : Reader Cursor := fun c => do
  let (n, after) ← number62 c
  if n + 1 < c.position then return (c.moveTo n, after) else .error .invalid

/-- An identifier: ASCII characters, and the Punycode digits of others. -/
structure Ident where
  ascii : List Char
  digits : List Char

namespace Ident

def isEmpty (i : Ident) : Bool := i.ascii.isEmpty && i.digits.isEmpty

/-- Splits at the last underscore; without one there are only digits. -/
def ofEncoded (text : List Char) : Ident :=
  let digits := (text.reverse.takeWhile (· ≠ '_')).reverse
  ⟨text.take (text.length - digits.length - 1), digits⟩

/-- The pieces in which it is shown. What is no Punycode is shown as it stands. -/
def pieces (i : Ident) : List String :=
  if i.digits.isEmpty then [String.ofList i.ascii]
  else
    match Text.Punycode.decode? i.ascii i.digits with
    | some text => text.map Char.toString
    | none =>
      "punycode\x7b" ::
        ((if i.ascii.isEmpty then [] else [String.ofList i.ascii, "-"]) ++ [String.ofList i.digits, "\x7d"])

end Ident

/-- The length of an identifier: a leading zero stands alone. -/
def identLength : Reader Nat := fun c =>
  match c.rest with
  | '0' :: _ => .ok (0, c.skip 1)
  | rest =>
    match Text.number? rest with
    | none => .error .invalid
    | some (n, after) => .ok (n, c.skip (rest.length - after.length))

/-- An identifier after its length. An underscore between them is skipped. -/
def ident : Reader Ident := fun c => do
  let (encoded, c) := match eat 'u' c with
    | some c => (true, c)
    | none => (false, c)
  let (n, c) ← identLength c
  let c := (eat '_' c).getD c
  if c.rest.length < n then .error .invalid
  else
    let text := c.rest.take n
    if !encoded then return (⟨text, []⟩, c.skip n)
    else
      let i := Ident.ofEncoded text
      if i.digits.isEmpty then .error .invalid else return (i, c.skip n)

end FirmwareSymbols.Demangle.V0
