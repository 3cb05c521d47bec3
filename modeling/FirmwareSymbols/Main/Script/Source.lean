import FirmwareSymbols.Main.Script.Syntax
import FirmwareSymbols.Text.Digits

/-!
# The text of a script while it is read

Reading takes characters off the front of a text and keeps count of its lines. A reader that meets something wrong
complains, and nothing more of the script is read. The lines of a here-document are taken out of the text when the
document is announced, so that the line that announces it goes on after them.
-/

namespace FirmwareSymbols.Script

/-- What is wrong with a script, and where that was noticed. -/
structure Complaint where
  line : Nat
  text : String
deriving DecidableEq, Repr

/-- A word that was replaced by the text that it is an alias of. -/
structure Replaced where
  name : String
  /-- How much is left to read when the text ends. -/
  left : Nat
  /-- Whether the word after the text may be an alias as well. -/
  goesOn : Bool

structure Source where
  rest : List Char
  line : Nat := 1
  /-- A token that was looked at and is still to be used. -/
  ahead : Option Token := none
  /-- How many lines were taken out behind the current one. -/
  taken : Nat := 0
  /-- Names of commands with the texts that are read in their place. -/
  aliases : List (String × String) := []
  replaced : List Replaced := []

abbrev Reading := StateT Source (Except Complaint)

def complain {α : Type} (text : String) : Reading α := do throw ⟨(← get).line, "Syntax error: " ++ text⟩

namespace Reading

def peek : Reading (Option Char) := do return (← get).rest.head?

/-- The next character, which is used up. -/
def next : Reading (Option Char) := do
  let s ← get
  match s.rest with
  | [] => return none
  | '\n' :: rest =>
    set { s with rest := rest, line := s.line + 1 + s.taken, taken := 0 }
    return some '\n'
  | c :: rest =>
    set { s with rest := rest }
    return some c

/-- Skips a text without line feeds if it comes next. -/
def accept (text : String) : Reading Bool := do
  let s ← get
  match text.toList.isPrefixOf? s.rest with
  | some rest =>
    set { s with rest := rest }
    return true
  | none => return false

/-- The characters in front that have a property; a line feed must not have it. -/
def takeWhile (test : Char → Bool) : Reading (List Char) := do
  let s ← get
  set { s with rest := s.rest.dropWhile test }
  return s.rest.takeWhile test

/-- The characters in front of the first one with a property, with the line feeds among them counted; `none` if no
character has the property. -/
def upTo? (test : Char → Bool) : Reading (Option (List Char)) := do
  let s ← get
  let front := s.rest.takeWhile fun c => !test c
  let feeds := front.countP (· = '\n')
  let rest := s.rest.dropWhile fun c => !test c
  set { s with rest := rest, line := s.line + feeds + (if feeds = 0 then 0 else s.taken),
               taken := if feeds = 0 then s.taken else 0 }
  return if rest.isEmpty then none else some front

/-- Skips the line feeds that a backslash stands in front of. -/
def skipContinuations : Nat → Reading Unit
  | 0 => pure ()
  | fuel + 1 => do
    match (← get).rest with
    | '\\' :: '\n' :: _ =>
      let _ ← next
      let _ ← next
      skipContinuations fuel
    | _ => pure ()

end Reading

/-! ### Here-documents -/

/-- Divides a text at the end of its first line; a line feed in quotes is no end. -/
def splitLine : Option Char → List Char → List Char × List Char
  | _, [] => ([], [])
  | some '\'', c :: rest =>
    let (line, after) := splitLine (if c = '\'' then none else some '\'') rest
    (c :: line, after)
  | quote, '\\' :: c :: rest =>
    let (line, after) := splitLine quote rest
    ('\\' :: c :: line, after)
  | quote, c :: rest =>
    if c = '\n' && quote.isNone then ([], rest)
    else
      let inner :=
        if some c = quote then none
        else if quote.isNone && (c = '"' || c = '\'') then some c
        else quote
      let (line, after) := splitLine inner rest
      (c :: line, after)

/-- The lines in front of the first line that is the mark, how many lines that makes with the mark, and the rest. -/
def documentLines (mark : List Char) (stripsTabs : Bool) : Nat → List Char → List Char × Nat × List Char
  | 0, s => ([], 0, s)
  | _, [] => ([], 0, [])
  | fuel + 1, s =>
    let raw := s.takeWhile (· ≠ '\n')
    let line := if stripsTabs then raw.dropWhile (· = '\t') else raw
    let after := s.dropWhile (· ≠ '\n')
    if line = mark then ([], 1, after.drop 1)
    else
      let (body, count, rest) := documentLines mark stripsTabs fuel (after.drop 1)
      (line ++ after.take 1 ++ body, count + 1, rest)

/-- Takes the lines of a document out of the text behind the current line. -/
def takeDocument (mark : String) (stripsTabs : Bool) : Reading (List Char) := do
  let s ← get
  let (line, after) := splitLine none s.rest
  let (body, count, rest) := documentLines mark.toList stripsTabs (after.length + 1) after
  set { s with rest := line ++ '\n' :: rest, taken := s.taken + count }
  return body

end FirmwareSymbols.Script
