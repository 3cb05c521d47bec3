import FirmwareSymbols.Main.Script.Expansion

/-!
# Reading lines into variables

A line goes up to a line feed that no backslash stands in front of. It is divided like a value that is not quoted, but
the last variable gets all that is left.
-/

namespace FirmwareSymbols.Script

/-- What was read of an input: the characters, and those among them that a backslash has quoted. -/
structure InputLine where
  marks : List Mark := []
  /-- How many bytes it takes. -/
  size : Nat := 0
  /-- Whether the line feed was found. -/
  isEnded : Bool := false

namespace InputLine

def add (l : InputLine) (m : Mark) : InputLine := { l with marks := m :: l.marks }

def grow (l : InputLine) (n : Nat) : InputLine := { l with size := n + l.size }

end InputLine

/-- The first line of bytes. If `isRaw`, a backslash has no meaning. NUL is left out. -/
def inputLine (isRaw : Bool) : List Char → InputLine
  | [] => {}
  | '\n' :: _ => { size := 1, isEnded := true }
  | '\x00' :: rest => (inputLine isRaw rest).grow 1
  | '\\' :: c :: rest =>
    if isRaw then ((inputLine isRaw (c :: rest)).grow 1).add ⟨'\\', false⟩
    else if c = '\n' then (inputLine isRaw rest).grow 2
    else ((inputLine isRaw rest).grow 2).add ⟨c, true⟩
  | ['\\'] => if isRaw then { marks := [⟨'\\', false⟩], size := 1 } else { size := 1 }
  | c :: rest => ((inputLine isRaw rest).grow 1).add ⟨c, false⟩

namespace Splitting

def isBlankMark (s : Splitting) (m : Mark) : Bool := !m.quoted && s.isBlank m.char

def isEndMark (s : Splitting) (m : Mark) : Bool := !m.quoted && s.isMark m.char

/-- What follows a separator: blanks around at most one character that is none. -/
def afterSeparator (s : Splitting) (marks : List Mark) : List Mark :=
  match marks.dropWhile s.isBlankMark with
  | [] => []
  | m :: rest => if s.isEndMark m then rest.dropWhile s.isBlankMark else m :: rest

/-- The last field: all that is left, but for blanks at the end. If that is a single field it has no separator. -/
def lastField (s : Splitting) (marks : List Mark) : List Mark :=
  let isSeparator (m : Mark) : Bool := s.isBlankMark m || s.isEndMark m
  let field := marks.takeWhile fun m => !isSeparator m
  if (s.afterSeparator (marks.drop field.length)).isEmpty then field
  else (marks.reverse.dropWhile s.isBlankMark).reverse

/-- Divides a line into so many fields. -/
def fieldsOf (s : Splitting) : Nat → List Mark → List (List Mark)
  | 0, _ => []
  | 1, marks => [s.lastField (marks.dropWhile s.isBlankMark)]
  | n + 1, marks =>
    let marks := marks.dropWhile s.isBlankMark
    let field := marks.takeWhile fun m => !(s.isBlankMark m || s.isEndMark m)
    field :: s.fieldsOf n (s.afterSeparator (marks.drop field.length))

end Splitting

/-- The text of marks that are bytes. -/
def bytesText (marks : List Mark) : String := ofByteChars (marks.map Mark.char)

/-- Reads a line of standard input into variables; the status is zero if the line was ended. -/
def readLine (isRaw : Bool) (names : List String) : Action Nat := do
  let data ← match ← readBytes 0 false with
    | .ok data => pure data
    | .error _ => pure .empty
  let line := inputLine isRaw (data.toList.map byteChar)
  advance 0 line.size
  let fields := Splitting.fieldsOf ⟨(← shell).separators⟩ names.length line.marks
  for (name, field) in names.zip fields do
    if !isName name then fail (name ++ ": bad variable name")
    Level.assign name (bytesText field)
  return if line.isEnded then 0 else 1

/-! ### Options of scripts and functions -/

/-- Where the reading of options is: at a word, and at a place in it. -/
structure OptionPlace where
  index : Nat
  offset : Option Nat

/-- What one step of reading options gives. -/
structure OptionStep where
  letter : Char := '?'
  argument : Option String := none
  next : OptionPlace
  isOver : Bool := false
  complaint : Option String := none

/-- Whether an option takes an argument; `none` if there is no such option. -/
def takesArgument? (letter : Char) : List Char → Option Bool
  | [] => none
  | c :: ':' :: rest => if c = letter then some true else takesArgument? letter rest
  | c :: rest => if c = letter then some false else takesArgument? letter rest

/-- Reads the next option of some words. -/
def nextOption (known : List Char) (words : List String) (place : OptionPlace) : OptionStep :=
  let isQuiet := known.head? = some ':'
  let inWord : Option (List Char) := do
    let offset ← place.offset
    let word ← if place.index ≤ 1 then none else words[place.index - 2]?
    if (word.toList.drop offset).isEmpty then none else some (word.toList.drop offset)
  let start : Option (List Char × Nat) :=
    match inWord with
    | some rest => some (rest, place.index)
    | none =>
      match (words[place.index - 1]?).map String.toList with
      | some ('-' :: c :: rest) => some (c :: rest, place.index + 1)
      | _ => none
  match start with
  | none => { next := ⟨place.index, none⟩, isOver := true }
  | some (['-'], index) =>
    if inWord.isNone then { next := ⟨index, none⟩, isOver := true } else { next := ⟨index, none⟩ }
  | some ([], index) => { next := ⟨index, none⟩, isOver := true }
  | some (c :: rest, index) =>
    let here : OptionPlace :=
      ⟨index, if rest.isEmpty then none else ((words[index - 2]?).map fun w => w.length - rest.length)⟩
    match takesArgument? c (if isQuiet then known.tail else known) with
    | none =>
      if isQuiet then { argument := some (String.singleton c), next := here }
      else { next := here, complaint := some ("Illegal option -" ++ String.singleton c) }
    | some false => { letter := c, argument := some "", next := here }
    | some true =>
      if !rest.isEmpty then { letter := c, argument := some (String.ofList rest), next := ⟨index, none⟩ }
      else
        match words[index - 1]? with
        | some word => { letter := c, argument := some word, next := ⟨index + 1, none⟩ }
        | none =>
          if isQuiet then { letter := ':', argument := some (String.singleton c), next := ⟨index, none⟩ }
          else { next := ⟨index, none⟩, complaint := some ("No arg for -" ++ String.singleton c ++ " option") }

/-- Reads the next option into variables; the status is zero if there was one. -/
def readOption (known name : String) (words : List String) : Action Nat := do
  let s ← shell
  let index := ((s.value? "OPTIND").bind String.toNat?).getD 1
  let step := nextOption known.toList words ⟨max 1 index, s.optionPlace⟩
  if let some text := step.complaint then putError text
  match step.argument with
  | some text => Level.assign "OPTARG" text
  | none => if !step.isOver then modifyShell fun s => s.removeVariable "OPTARG"
  Level.assign "OPTIND" (toString step.next.index)
  modifyShell fun s => { s with optionPlace := step.next.offset }
  if !isName name then fail (name ++ ": bad variable name")
  Level.assign name (String.singleton step.letter)
  return if step.isOver then 1 else 0

end FirmwareSymbols.Script
