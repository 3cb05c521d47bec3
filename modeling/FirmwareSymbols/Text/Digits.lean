/-!
# Runs of digits

Decimal numbers at the front of a text, and the values of digits in other bases.
-/

namespace FirmwareSymbols.Text

def isDigit (c : Char) : Bool := '0' ≤ c && c ≤ '9'

def digitValue (c : Char) : Nat := c.toNat - '0'.toNat

/-- The value of decimal digits. -/
def digitsValue (ds : List Char) : Nat := ds.foldl (fun n c => n * 10 + digitValue c) 0

/-- A run of digits, at least one, and the rest. -/
def digits? (s : List Char) : Option (List Char × List Char) :=
  match s.takeWhile isDigit with
  | [] => none
  | ds => some (ds, s.dropWhile isDigit)

/-- The number at the front, of any length, and the rest. -/
def number? (s : List Char) : Option (Nat × List Char) :=
  (digits? s).map fun (ds, rest) => (digitsValue ds, rest)

theorem length_digits?_lt {s ds rest : List Char} (h : digits? s = some (ds, rest)) :
    rest.length < s.length := by
  unfold digits? at h
  split at h
  · simp at h
  next ds' hne =>
    simp only [Option.some.injEq, Prod.mk.injEq] at h
    obtain ⟨rfl, rfl⟩ := h
    have := congrArg List.length (List.takeWhile_append_dropWhile (p := isDigit) (l := s))
    have : 0 < (s.takeWhile isDigit).length := List.length_pos_iff.2 hne
    simp only [List.length_append] at *
    omega

theorem length_number?_lt {s rest : List Char} {n : Nat} (h : number? s = some (n, rest)) :
    rest.length < s.length := by
  obtain ⟨⟨ds, r⟩, hd, he⟩ := Option.map_eq_some_iff.1 h
  simp only [Prod.mk.injEq] at he
  exact he.2 ▸ length_digits?_lt hd

/-- The value of a hexadecimal digit of either case. -/
def hexDigit? (c : Char) : Option Nat :=
  if '0' ≤ c && c ≤ '9' then some (c.toNat - '0'.toNat)
  else if 'a' ≤ c && c ≤ 'f' then some (c.toNat - 'a'.toNat + 10)
  else if 'A' ≤ c && c ≤ 'F' then some (c.toNat - 'A'.toNat + 10)
  else none

/-- A hexadecimal digit that is no upper-case letter. -/
def isLowerHex (c : Char) : Bool := isDigit c || ('a' ≤ c && c ≤ 'f')

/-- The value of hexadecimal digits. -/
def hexValue (ds : List Char) : Nat := ds.foldl (fun n c => n * 16 + (hexDigit? c).getD 0) 0

/-- The character with this code point, if there is one. -/
def char? (n : Nat) : Option Char := if n.isValidChar then some (Char.ofNat n) else none

end FirmwareSymbols.Text
