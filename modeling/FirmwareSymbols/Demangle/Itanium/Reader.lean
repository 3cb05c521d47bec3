import FirmwareSymbols.Demangle.Itanium.Tree
import FirmwareSymbols.Text.Utf8

/-!
# Reading with alternatives

A symbol is a list of bytes, each as the character with its number. A reader takes a part off the front of a symbol.
Where a part has several forms they are tried in turn; one that does not fit gives its characters back, but the
components that it met stay in the table. Parts that are nested too deeply end the whole search.
-/

namespace FirmwareSymbols.Demangle.Itanium

/-- The bytes of a text. -/
def bytesOf (text : List Char) : List Char := (String.ofList text).toUTF8.toList.map fun b => Char.ofNat b.toNat

/-- The text that bytes stand for. -/
def decoded (bytes : List Char) : List Char := Text.decodeChars (bytes.map fun c => UInt8.ofNat c.toNat)

inductive Fault
  | invalid
  | tooDeep
deriving DecidableEq, Repr

/-- What is known besides the rest of the symbol. -/
structure Table where
  /-- What references can refer to, in the order in which it was met. -/
  components : Array Component
  /-- The number of the next list of template arguments. -/
  nextArgs : Nat
  /-- Whether the type of a conversion is being read. -/
  inConversion : Bool

def Table.empty : Table := ⟨#[], 0, false⟩

abbrev Reader := StateT (List Char) (ExceptT Fault (StateM Table))

def invalid {α : Type} : Reader α := throw .invalid

def tooDeep {α : Type} : Reader α := throw .tooDeep

namespace Reader

/-- Reads a part if it fits. -/
def optional {α : Type} (p : Reader α) : Reader (Option α) := fun s =>
  tryCatch (do let (a, rest) ← p s; return (some a, rest)) fun
    | .invalid => return (none, s)
    | .tooDeep => throw .tooDeep

/-- The first of the readers that fits. -/
def firstOf {α : Type} : List (Reader α) → Reader α
  | [] => invalid
  | p :: rest => do
    match ← optional p with
    | some a => return a
    | none => firstOf rest

/-- Runs a reader and undoes what it does to the table. -/
def withoutTrace {α : Type} (p : Reader α) : Reader α := fun s => do
  let table ← getThe Table
  let result ← tryCatch (do let r ← p s; return Except.ok r) fun fault => return Except.error fault
  set table
  match result with
  | .ok r => return r
  | .error fault => throw fault

/-- As many parts as fit; there are fewer than `fuel`. -/
def manyFrom {α : Type} (p : Reader α) : Nat → Reader (List α)
  | 0 => return []
  | fuel + 1 => do
    match ← optional p with
    | some a => return a :: (← manyFrom p fuel)
    | none => return []

/-- As many parts as fit. Each takes at least one character. -/
def many {α : Type} (p : Reader α) : Reader (List α) := do manyFrom p ((← get).length + 1)

def many1 {α : Type} (p : Reader α) : Reader (List α) := do return (← p) :: (← many p)

def peek : Reader (Option Char) := do return (← get).head?

def isNext (c : Char) : Reader Bool := do return (← peek) = some c

/-- Skips a text if it comes next. -/
def accept (text : String) : Reader Bool := do
  match text.toList.isPrefixOf? (← get) with
  | some rest => set rest; return true
  | none => return false

def expect (text : String) : Reader Unit := do
  if !(← accept text) then invalid

def anyChar : Reader Char := do
  match ← get with
  | c :: rest => set rest; return c
  | [] => invalid

/-- The next characters, as many as asked for. -/
def take (n : Nat) : Reader (List Char) := do
  let s ← get
  if s.length < n then invalid
  else
    set (s.drop n)
    return s.take n

/-- The characters in front that have a property. -/
def takeWhile (test : Char → Bool) : Reader (List Char) := do
  let s ← get
  set (s.dropWhile test)
  return s.takeWhile test

/-- What follows a text, if the text comes next. -/
def after {α : Type} (text : String) (p : Reader α) : Reader (Option α) := do
  if ← accept text then return some (← p) else return none

/-- Items up to the letter `E`. -/
def upToEnd {α : Type} (p : Reader α) : Reader (List α) := do
  let items ← many p
  expect "E"
  return items

/-- One item in front of the letter `E`. -/
def ended {α : Type} (p : Reader α) : Reader α := do
  let a ← p
  expect "E"
  return a

end Reader

/-! ### The table -/

/-- Keeps a component, so that later parts can refer to it. -/
def remember (c : Component) : Reader Component := do
  modifyThe Table fun t => { t with components := t.components.push c }
  return c

/-- A new type that can be referred to. -/
def newType (t : Compound) : Reader Ty := do return .component (← remember (.type t))

def component (index : Nat) : Reader Component := do
  match (← getThe Table).components[index]? with
  | some c => return c
  | none => invalid

def newArgs (args : List TemplateArg) : Reader TemplateArgs := do
  let t ← getThe Table
  set { t with nextArgs := t.nextArgs + 1 }
  return .mk t.nextArgs args

/-- Runs a reader inside or outside of a conversion. -/
def withConversion {α : Type} (inConversion : Bool) (p : Reader α) : Reader α := fun s => do
  let before := (← getThe Table).inConversion
  modifyThe Table fun t => { t with inConversion := inConversion }
  let result ← tryCatch (do let r ← p s; return Except.ok r) fun fault => return Except.error fault
  modifyThe Table fun t => { t with inConversion := before }
  match result with
  | .ok r => return r
  | .error fault => throw fault

/-! ### Numbers -/

/-- The value of a digit or an upper-case letter. -/
def digitValue? (c : Char) : Option Nat :=
  if '0' ≤ c && c ≤ '9' then some (c.toNat - '0'.toNat)
  else if 'A' ≤ c && c ≤ 'Z' then some (c.toNat - 'A'.toNat + 10)
  else none

/-- Numbers stay below this. -/
def numberBound : Nat := Nat.pow 2 63

/-- A number in a base up to 36, without superfluous zeros. -/
def numberIn (base : Nat) : Reader Nat := do
  let digits ← Reader.takeWhile fun c => (digitValue? c).any (· < base)
  if digits.isEmpty || (1 < digits.length && digits.head? = some '0') then invalid
  else
    let n := digits.foldl (fun n c => n * base + (digitValue? c).getD 0) 0
    if n < numberBound then return n else invalid

def number : Reader Nat := numberIn 10

/-- A number with the letter `n` as its sign. -/
def signedNumber : Reader Int := do
  if ← Reader.accept "n" then return -(← number : Nat) else return (← number : Nat)

end FirmwareSymbols.Demangle.Itanium
