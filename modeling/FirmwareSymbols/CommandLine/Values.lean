import FirmwareSymbols.CommandLine.Problem
import FirmwareSymbols.Text.Digits
import FirmwareSymbols.Text.Split

/-!
# Values of options

Which values an option accepts, and why it refuses others.
-/

namespace FirmwareSymbols.CommandLine

/-- Why a text is no number of the wanted size. -/
inductive NumberFault
  | empty
  | digit
  | tooLarge
  | tooSmall
  /-- A number, but out of the range. -/
  | outside (n : Int) (last : Nat)
deriving DecidableEq, Repr

def NumberFault.message : NumberFault → String
  | .empty => "cannot parse integer from empty string"
  | .digit => "invalid digit found in string"
  | .tooLarge => "number too large to fit in target type"
  | .tooSmall => "number too small to fit in target type"
  | .outside n last => toString n ++ " is not in 0..=" ++ toString last

/-- Adds digits to a number that must not exceed `limit`; `fault` is what is wrong if it does. -/
def addDigits (limit : Nat) (fault : NumberFault) : Nat → List Char → Except NumberFault Nat
  | n, [] => .ok n
  | n, c :: rest =>
    if !Text.isDigit c then .error .digit
    else
      let next := n * 10 + Text.digitValue c
      if limit < next then .error fault else addDigits limit fault next rest

/-- The digits after a sign, of which there has to be one. -/
def signed (limit : Nat) (fault : NumberFault) (digits : List Char) : Except NumberFault Nat :=
  if digits.isEmpty then .error .digit else addDigits limit fault 0 digits

/-- How many numbers there are of so many bits. -/
def count (bits : Nat) : Nat := Nat.pow 2 bits

/-- A number without a sign, or with a plus sign, of so many bits. -/
def unsigned? (bits : Nat) (s : String) : Except NumberFault Nat :=
  match s.toList with
  | [] => .error .empty
  | '+' :: digits => signed (count bits - 1) .tooLarge digits
  | digits => signed (count bits - 1) .tooLarge digits

/-- A number of 64 bits with a sign. -/
def integer? (s : String) : Except NumberFault Int :=
  match s.toList with
  | [] => .error .empty
  | '+' :: digits => (signed (count 63 - 1) .tooLarge digits).map Int.ofNat
  | '-' :: digits => (signed (count 63) .tooSmall digits).map fun n => -(n : Int)
  | digits => (signed (count 63 - 1) .tooLarge digits).map Int.ofNat

/-- A number of so many bits. One of less than 64 bits is read as a signed number and has to be in range. -/
def number? (bits : Nat) (s : String) : Except NumberFault Nat :=
  if bits < 64 then do
    let n ← integer? s
    if 0 ≤ n && n < count bits then .ok n.toNat else .error (.outside n (count bits - 1))
  else unsigned? bits s

/-- Why an option does not accept a value. -/
def refusal? (o : Opt) (value : String) : Option Problem :=
  match o.takes with
  | .path | .paths => if value = "" then some (.valueMissing o) else none
  | .number bits =>
    match number? bits value with
    | .ok _ => none
    | .error fault => some (.valueRefused o value fault.message)
  | .nothing | .text | .texts => none

/-- The values in what was given to an option. -/
def valuesIn (o : Opt) (value : String) : List String :=
  if o.isRepeatable then Text.splitText ',' value else [value]

end FirmwareSymbols.CommandLine
