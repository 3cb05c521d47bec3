import FirmwareSymbols.Demangle.V0.Printer
import FirmwareSymbols.Text.Escape

/-!
# Paths, types and constants

The parts of a symbol of the second scheme. Each part starts with a letter that tells its kind. The parts of one
level are made from those of the level below; there are `maxDepth` levels.
-/

namespace FirmwareSymbols.Demangle.V0

/-- How deep parts may be nested. -/
def maxDepth : Nat := 500

/-- What can stand at one level. The references print parts of the level below. -/
structure Parts where
  /-- In a value, generic arguments of a path follow two colons. -/
  path : Bool → Printer Unit
  type : Printer Unit
  /-- In a value, constants stand without braces. -/
  const : Bool → Printer Unit
  pattern : Printer Unit
  /-- A path whose generic arguments are left open at the end, and whether it has any. -/
  openPath : Printer Bool
  pathReference : Bool → Printer Unit
  typeReference : Printer Unit
  constReference : Bool → Printer Unit

/-- Types that are one letter. -/
def basicType? : Char → Option String
  | 'b' => some "bool"
  | 'c' => some "char"
  | 'e' => some "str"
  | 'u' => some "()"
  | 'a' => some "i8"
  | 's' => some "i16"
  | 'l' => some "i32"
  | 'x' => some "i64"
  | 'n' => some "i128"
  | 'i' => some "isize"
  | 'h' => some "u8"
  | 't' => some "u16"
  | 'm' => some "u32"
  | 'y' => some "u64"
  | 'o' => some "u128"
  | 'j' => some "usize"
  | 'f' => some "f32"
  | 'd' => some "f64"
  | 'z' => some "!"
  | 'p' => some "_"
  | 'v' => some "..."
  | _ => none

/-! ### Paths -/

/-- The name of a special namespace. -/
def namespaceName : Char → String
  | 'C' => "closure"
  | 'S' => "shim"
  | c => c.toString

def genericArgument (inner : Parts) : Printer Unit := part do
  if ← accept 'L' then writeLifetime (← read number62)
  else if ← accept 'K' then inner.const false
  else inner.type

def crateRoot : Printer Unit := do
  let _ ← read disambiguator
  writeIdent (← read ident)

/-- The last element of a nested path, in the namespace with this name. -/
def writeNested (space : Option Char) (dis : Nat) (name : Ident) : Printer Unit := do
  match space with
  | some c =>
    write "::\x7b"
    write (namespaceName c)
    if !name.isEmpty then
      write ":"
      writeIdent name
    write "#"
    write (toString dis)
    write "\x7d"
  | none =>
    if !name.isEmpty then
      write "::"
      writeIdent name

def nestedPath (inner : Parts) (inValue : Bool) : Printer Unit := do
  let space ← read namespaceLetter
  inner.path inValue
  if ← hasFailed then write "::"
  let dis ← read disambiguator
  let name ← read ident
  writeNested space dis name

/-- The path of an implementation: the path of the block is not shown. -/
def implPath (inner : Parts) (hasBlock hasTrait : Bool) : Printer Unit := do
  if hasBlock then
    let _ ← read disambiguator
    silently (inner.path false)
  write "<"
  inner.type
  if hasTrait then
    write " as "
    inner.path false
  write ">"

def genericPath (inner : Parts) (inValue : Bool) : Printer Unit := do
  inner.path inValue
  if inValue then write "::"
  write "<"
  let _ ← separated (genericArgument inner) ", "
  write ">"

def pathFrom (inner : Parts) (inValue : Bool) : Printer Unit := part do
  requireCursor
  match ← read next with
  | 'C' => crateRoot
  | 'N' => nestedPath inner inValue
  | 'M' => implPath inner true false
  | 'X' => implPath inner true true
  | 'Y' => implPath inner false true
  | 'I' => genericPath inner inValue
  | 'B' => inner.pathReference inValue
  | _ => invalid

/-- A path whose generic arguments, if it has any, lack the closing bracket. -/
def openPathFrom (inner : Parts) (path : Printer Unit) (target : Option (Printer Bool)) : Printer Bool := do
  if ← accept 'B' then atReference false target
  else if ← accept 'I' then
    path
    write "<"
    let _ ← separated (genericArgument inner) ", "
    return true
  else
    path
    return false

/-! ### Types -/

def referenceType (inner : Parts) (mutable : Bool) : Printer Unit := do
  write "&"
  if ← accept 'L' then
    let lifetime ← read number62
    if lifetime ≠ 0 then
      writeLifetime lifetime
      write " "
  if mutable then write "mut "
  inner.type

def pointerType (inner : Parts) (mutable : Bool) : Printer Unit := do
  write "*"
  write (if mutable then "mut " else "const ")
  inner.type

def arrayType (inner : Parts) (hasLength : Bool) : Printer Unit := do
  write "["
  inner.type
  if hasLength then
    write "; "
    inner.const true
  write "]"

/-- A list in parentheses, with a comma after a single item. -/
def tuple (item : Printer Unit) : Printer Unit := do
  write "("
  let count ← separated item ", "
  if count = 1 then write ","
  write ")"

/-- The pieces of a calling convention, whose hyphens are written as underscores. -/
def conventionPieces (name : List Char) : List String :=
  match name.splitOn '_' with
  | [] => []
  | first :: rest => String.ofList first :: rest.flatMap fun p => ["-", String.ofList p]

/-- The calling convention of a function type, if it has one. -/
def convention : Printer (Option (List Char)) := do
  if ← accept 'K' then
    if ← accept 'C' then return some ['C']
    else
      let name ← read ident
      if name.ascii.isEmpty || !name.digits.isEmpty then invalid
      else return some name.ascii
  else return none

def functionType (inner : Parts) : Printer Unit := withBinder do
  let isUnchecked ← accept 'U'
  let name ← convention
  if isUnchecked then write "unsafe "
  if let some name := name then
    write "extern \""
    (conventionPieces name).forM write
    write "\" "
  write "fn("
  let _ ← separated inner.type ", "
  write ")"
  if !(← accept 'u') then
    write " -> "
    inner.type

/-- An associated item of a trait after the letter `p`. The number of such items is below `fuel`. -/
def associatedItems (inner : Parts) : Nat → Bool → Printer Bool
  | 0, isOpen => return isOpen
  | fuel + 1, isOpen => do
    if ← accept 'p' then
      write (if isOpen then ", " else "<")
      writeIdent (← read ident)
      write " = "
      if ← accept 'K' then inner.const false else inner.type
      associatedItems inner fuel true
    else return isOpen

def traitBound (inner : Parts) : Printer Unit := part do
  let isOpen ← inner.openPath
  if ← associatedItems inner (← fuel) isOpen then write ">"

def traitObject (inner : Parts) : Printer Unit := do
  write "dyn "
  withBinder do
    let _ ← separated (traitBound inner) " + "
  if !(← accept 'L') then invalid
  let lifetime ← read number62
  if lifetime ≠ 0 then
    write " + "
    writeLifetime lifetime

/-- A type whose kind is told by more than its first letter, which has been read. -/
def compoundType (inner : Parts) (tag : Char) : Printer Unit := do
  match tag with
  | 'R' => referenceType inner false
  | 'Q' => referenceType inner true
  | 'P' => pointerType inner false
  | 'O' => pointerType inner true
  | 'A' => arrayType inner true
  | 'S' => arrayType inner false
  | 'T' => tuple inner.type
  | 'F' => functionType inner
  | 'D' => traitObject inner
  | 'B' => inner.typeReference
  | 'W' =>
    inner.type
    write " is "
    inner.pattern
  | _ =>
    modify fun s => { s with cursor := s.cursor.map fun c => c.moveTo (c.position - 1) }
    inner.path false

/-- The first letter of a type. A type that is spread over arguments is marked, once only. -/
def typeTag : Printer Char := do
  let tag ← read next
  if tag ≠ 'w' then return tag
  write "#[splat] "
  read next

def typeFrom (compound : Char → Printer Unit) : Printer Unit := part do
  let tag ← typeTag
  match basicType? tag with
  | some name => write name
  | none => compound tag

/-! ### Constants -/

/-- The number with these digits, unless it needs more than 64 bits. -/
def smallNumber? (digits : List Char) : Option Nat :=
  let significant := digits.dropWhile (· = '0')
  if significant.length ≤ 16 then some (Text.hexValue significant) else none

def writeNumber : Printer Unit := do
  let digits ← read hexDigits
  match smallNumber? digits with
  | some n => write (toString n)
  | none =>
    write "0x"
    write (String.ofList digits)

/-- The bytes that pairs of digits stand for. -/
def pairBytes? : List Char → Option (List UInt8)
  | [] => some []
  | [_] => none
  | a :: b :: rest => (pairBytes? rest).map (UInt8.ofNat (Text.hexValue [a, b]) :: ·)

/-- Writes a text between quotes, character by character. -/
def writeQuoted (quote : Char) (text : List Char) : Printer Unit :=
  (Text.quoted quote text).forM fun c => write c.toString

def stringLiteral : Printer Unit := part do
  match (pairBytes? (← read hexDigits)).bind fun bytes => String.fromUTF8? bytes.toByteArray with
  | some text => writeQuoted '"' text.toList
  | none => invalid

def boolLiteral : Printer Unit := do
  match smallNumber? (← read hexDigits) with
  | some 0 => write "false"
  | some 1 => write "true"
  | _ => invalid

def charLiteral : Printer Unit := do
  match (smallNumber? (← read hexDigits)).bind Text.char? with
  | some c => writeQuoted '\'' [c]
  | none => invalid

/-- A constant that stands in braces unless it is part of a value. -/
def braced (inValue : Bool) (p : Printer Unit) : Printer Unit := do
  if !inValue then write "\x7b"
  p
  if !inValue then write "\x7d"

def fieldValue (inner : Parts) : Printer Unit := part do
  let _ ← read disambiguator
  writeIdent (← read ident)
  write ": "
  inner.const true

/-- A value of a structure or variant. -/
def aggregate (inner : Parts) : Printer Unit := do
  inner.path true
  match ← read next with
  | 'U' => pure ()
  | 'T' =>
    write "("
    let _ ← separated (inner.const true) ", "
    write ")"
  | 'S' =>
    write " \x7b "
    let _ ← separated (fieldValue inner) ", "
    write " \x7d"
  | _ => invalid

def referenceConst (inner : Parts) (mutable : Bool) : Printer Unit := do
  write "&"
  if mutable then write "mut "
  inner.const true

def isSignedType (tag : Char) : Bool := ['a', 's', 'l', 'x', 'n', 'i'].contains tag

def isWordType (tag : Char) : Bool := ['h', 't', 'm', 'y', 'o', 'j'].contains tag

/-- A constant whose type is told by the letter that has been read. -/
def constOf (inner : Parts) (inValue : Bool) (tag : Char) : Printer Unit := do
  if isWordType tag then writeNumber
  else if isSignedType tag then
    if ← accept 'n' then write "-"
    writeNumber
  else
    match tag with
    | 'p' => write "_"
    | 'b' => boolLiteral
    | 'c' => charLiteral
    | 'e' => braced inValue do
      write "*"
      stringLiteral
    | 'R' =>
      if ← accept 'e' then stringLiteral else braced inValue (referenceConst inner false)
    | 'Q' => braced inValue (referenceConst inner true)
    | 'A' => braced inValue do
      write "["
      let _ ← separated (inner.const true) ", "
      write "]"
    | 'T' => braced inValue (tuple (inner.const true))
    | 'V' => braced inValue (aggregate inner)
    | 'B' => inner.constReference inValue
    | _ => invalid

def constFrom (rest : Char → Printer Unit) : Printer Unit := part do
  rest (← read next)

/-- Further alternatives up to the letter `E`. The symbol is shorter than `fuel`. -/
def furtherAlternatives (alternative : Printer Unit) : Nat → Printer Unit
  | 0 => pure ()
  | fuel + 1 => do
    if !(← accept 'E') then
      if ← hasFailed then invalid
      write " | "
      alternative
      furtherAlternatives alternative fuel

/-- The values that a type is restricted to. -/
def patternFrom (const : Printer Unit) (alternative : Option (Printer Unit)) : Printer Unit := part do
  match ← read next with
  | 'R' =>
    const
    write "..="
    const
  | 'O' =>
    match alternative with
    | none => fail .tooDeep
    | some p =>
      let fuel ← fuel
      p
      furtherAlternatives p fuel
  | 'N' => write "!null"
  | _ => invalid

/-! ### Levels -/

/-- The level at which nothing more can be nested. -/
def lowestParts : Parts :=
  let path : Printer Unit := part do
    requireCursor
    fail .tooDeep
  let type := typeFrom fun _ => fail .tooDeep
  let const := constFrom fun _ => fail .tooDeep
  let inner : Parts :=
    { path := fun _ => path, type := type, const := fun _ => const, pattern := patternFrom const none,
      openPath := pure false, pathReference := fun _ => atReference () none, typeReference := atReference () none,
      constReference := fun _ => atReference () none }
  { inner with openPath := openPathFrom inner path none }

/-- The level above another one. -/
def partsAbove (inner : Parts) : Parts :=
  let const (inValue : Bool) := constFrom (constOf inner inValue)
  let here : Parts :=
    { path := pathFrom inner, type := typeFrom (compoundType inner), const := const,
      pattern := patternFrom (const false) (some inner.pattern), openPath := pure false,
      pathReference := fun inValue => atReference () (some (inner.path inValue)),
      typeReference := atReference () (some inner.type),
      constReference := fun inValue => atReference () (some (inner.const inValue)) }
  { here with openPath := openPathFrom here (here.path false) (some inner.openPath) }

/-- The parts that may have this many levels below them. -/
def parts : Nat → Parts
  | 0 => lowestParts
  | depth + 1 => partsAbove (parts depth)

end FirmwareSymbols.Demangle.V0
