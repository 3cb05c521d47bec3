import FirmwareSymbols.Demangle.Output
import FirmwareSymbols.Text.Digits

/-!
# The legacy scheme

A path is written between `_ZN` and `E`, each element after its decimal length. The last element may be a hash,
which is not shown. Dots and escapes between dollar signs stand for characters that linkers do not accept.
-/

namespace FirmwareSymbols.Demangle.Legacy

/-- What follows the start of a mangled path. Some systems add or drop an underscore. -/
def body? (s : List Char) : Option (List Char) :=
  match s with
  | '_' :: 'Z' :: 'N' :: rest => some rest
  | 'Z' :: 'N' :: rest => some rest
  | '_' :: '_' :: 'Z' :: 'N' :: rest => some rest
  | _ => none

/-- The elements up to the closing `E`, and what follows it. -/
def elements? (s : List Char) : Option (List (List Char) × List Char) :=
  match s with
  | 'E' :: rest => some ([], rest)
  | s =>
    match _h : Text.number? s with
    | none => none
    | some (n, rest) =>
      match _h' : rest.drop n with
      | [] => none
      | c :: after => (elements? (c :: after)).map fun (es, tail) => (rest.take n :: es, tail)
termination_by s.length
decreasing_by
  have := Text.length_number?_lt _h
  rw [← _h', List.length_drop]
  omega

/-- The letter `h` followed by hexadecimal digits. -/
def isHash : List Char → Bool
  | 'h' :: digits => digits.all fun c => (Text.hexDigit? c).isSome
  | _ => false

/-- A character by its code point; control characters are not accepted. -/
def unescapeCode? (digits : List Char) : Option Char :=
  if digits.isEmpty || !digits.all Text.isLowerHex then none
  else
    match Text.char? (Text.hexValue digits) with
    | some c => if c.toNat < 0x20 || (0x7f ≤ c.toNat && c.toNat < 0xa0) then none else some c
    | none => none

/-- The character that a name between dollar signs stands for. -/
def unescape? (name : List Char) : Option Char :=
  match name with
  | ['S', 'P'] => some '@'
  | ['B', 'P'] => some '*'
  | ['R', 'F'] => some '&'
  | ['L', 'T'] => some '<'
  | ['G', 'T'] => some '>'
  | ['L', 'P'] => some '('
  | ['R', 'P'] => some ')'
  | ['C'] => some ','
  | 'u' :: digits => unescapeCode? digits
  | _ => none

def isPlain (c : Char) : Bool := c ≠ '$' && c ≠ '.'

private theorem length_of_dropWhile {p : Char → Bool} {s after : List Char} {d : Char}
    (h : s.dropWhile p = d :: after) : after.length < s.length := by
  have := (List.dropWhile_sublist p (l := s)).length_le
  rw [h, List.length_cons] at this
  exact this

/-- The pieces of an element. From an escape on that means nothing, the rest stands for itself. -/
def pieces (s : List Char) : List (List Char) :=
  match s with
  | [] => [[]]
  | '.' :: '.' :: rest => [':', ':'] :: pieces rest
  | '.' :: rest => ['.'] :: pieces rest
  | '$' :: rest =>
    match _h : rest.dropWhile (· ≠ '$') with
    | [] => ['$' :: rest]
    | _ :: after =>
      match unescape? (rest.takeWhile (· ≠ '$')) with
      | some c => [c] :: pieces after
      | none => ['$' :: rest]
  | c :: rest =>
    match _h : rest.dropWhile isPlain with
    | [] => [c :: rest]
    | d :: after => (c :: rest.takeWhile isPlain) :: pieces (d :: after)
termination_by s.length
decreasing_by
  all_goals simp only [List.length_cons]
  · omega
  · omega
  · exact Nat.lt_succ_of_lt (length_of_dropWhile _h)
  · exact Nat.succ_lt_succ (length_of_dropWhile _h)

/-- An underscore only protects a leading escape. -/
def elementPieces (element : List Char) : List (List Char) :=
  match element with
  | '_' :: '$' :: rest => pieces ('$' :: rest)
  | _ => pieces element

/-- The elements that are shown: a hash at the end is not. -/
def shown (elements : List (List Char)) : List (List Char) :=
  match elements.getLast? with
  | some last => if isHash last then elements.dropLast else elements
  | none => elements

def pathPieces (elements : List (List Char)) : List String :=
  match elements.map elementPieces with
  | [] => []
  | first :: rest => (first ++ rest.flatMap ([':', ':'] :: ·)).map String.ofList

/-- The readable path, and what follows it in the symbol. -/
def demangle? (s : List Char) : Option (String × List Char) := do
  let body ← body? s
  if body.any (0x80 ≤ ·.toNat) then none
  else
    let (elements, rest) ← elements? body
    return (Output.empty.writeAll (pathPieces (shown elements)), rest)

end FirmwareSymbols.Demangle.Legacy
