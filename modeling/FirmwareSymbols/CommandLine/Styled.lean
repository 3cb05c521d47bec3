import FirmwareSymbols.Text.ControlSequence

/-!
# Styled text

Text whose parts have a role, so that it can be shown in colour. Without colour it has no control sequences at all, not
even those that its words bring along.
-/

namespace FirmwareSymbols.CommandLine

inductive Role
  | plain
  | heading
  /-- To be typed as it stands. -/
  | literal
  | failure
  | valid
  | invalid
deriving DecidableEq, Repr

/-- What switches the style of a role on. -/
def Role.escape : Role → String
  | .plain => ""
  | .heading => "\x1b[1m\x1b[4m"
  | .literal => "\x1b[1m"
  | .failure => "\x1b[1m\x1b[31m"
  | .valid => "\x1b[32m"
  | .invalid => "\x1b[33m"

structure Span where
  role : Role
  text : String
deriving DecidableEq, Repr

abbrev Styled := List Span

namespace Span

def render (color : Bool) (s : Span) : String :=
  if !color then Text.shown s.text
  else if s.role = .plain then s.text
  else s.role.escape ++ s.text ++ "\x1b[0m"

end Span

namespace Styled

def render (color : Bool) (t : Styled) : String := String.join (t.map (Span.render color))

def plain (text : String) : Styled := [⟨.plain, text⟩]

def literal (text : String) : Styled := [⟨.literal, text⟩]

def heading (text : String) : Styled := [⟨.heading, text⟩]

/-- A text in single quotes. -/
def quoted (role : Role) (text : String) : Styled := [⟨.plain, "\x27"⟩, ⟨role, text⟩, ⟨.plain, "\x27"⟩]

/-- The texts one after another, with a separator between them. -/
def join (separator : String) (texts : List Styled) : Styled := (texts.intersperse (plain separator)).flatten

/-- How many characters are shown. -/
def width (t : Styled) : Nat := t.foldl (fun n s => n + s.text.length) 0

/-- Adds spaces up to a width. -/
def padTo (n : Nat) (t : Styled) : Styled := t ++ plain (String.ofList (List.replicate (n - t.width) ' '))

end Styled

end FirmwareSymbols.CommandLine
