import FirmwareSymbols.Json.Value
import FirmwareSymbols.Text.Digits

/-!
# The range of JSON numbers

A number is in range if it is finite as a double. Its digits are read into an unsigned 64-bit significand; from the
first digit that does not fit on, further digits only count for the magnitude. The significand times its power of
ten is then computed in double arithmetic, each factor rounded to nearest and the product too.
-/

namespace FirmwareSymbols.Json

/-- Significands stay below this. -/
def significandBound : Nat := Nat.pow 2 64

/-- The significand with the leading digits that fit, and the digits that are left. -/
def takeDigits (significand : Nat) : List Char → Nat × List Char
  | [] => (significand, [])
  | c :: cs =>
    let next := significand * 10 + Text.digitValue c
    if next < significandBound then takeDigits next cs else (significand, c :: cs)

/-- The nearest number with at most 53 significant bits, ties to the even one. -/
def roundDouble (n : Nat) : Nat :=
  let shift := n.log2 + 1 - 53
  let unit := Nat.pow 2 shift
  let q := n / unit
  let r := n % unit
  if unit < 2 * r || (unit = 2 * r && q % 2 = 1) then (q + 1) * unit else q * unit

/-- Products from here on round to infinity: half a unit above the greatest double. -/
def infinityBound : Nat := Nat.pow 2 1024 - Nat.pow 2 970

/-- Powers of ten with a larger exponent are no doubles. -/
def maxDecimalExponent : Nat := 308

namespace Literal

/-- Significand and decimal exponent of the digits. -/
def scaled (l : Literal) : Nat × Int :=
  let (significand, skipped) := takeDigits 0 l.whole
  let (significand', rest) := takeDigits significand l.fraction
  (significand', (skipped.length : Int) - ((l.fraction.length - rest.length : Nat) : Int) + l.exponent)

def inRange (l : Literal) : Bool :=
  match l.scaled with
  | (_, .negSucc _) => true
  | (significand, .ofNat e) =>
    significand = 0 ||
      (e ≤ maxDecimalExponent && roundDouble significand * roundDouble (Nat.pow 10 e) < infinityBound)

end Literal

end FirmwareSymbols.Json
