/-!
# Limited output

A readable form is written piece by piece. When a piece would make it longer than the limit, a note takes the place
of this piece and all that follow.
-/

namespace FirmwareSymbols.Demangle

/-- The longest readable form in bytes. -/
def maxOutput : Nat := 1000000

/-- Stands for what did not fit. -/
def limitNote : String := "\x7bsize limit reached\x7d"

/-- The pieces that are written, the latest first, and how many bytes still fit. -/
structure Output where
  pieces : List String
  room : Nat

namespace Output

def empty : Output := ⟨[], maxOutput⟩

def text (o : Output) : String := String.join o.pieces.reverse

/-- Appends a piece, if it fits. -/
def write? (o : Output) (piece : String) : Option Output :=
  if piece.utf8ByteSize ≤ o.room then some ⟨piece :: o.pieces, o.room - piece.utf8ByteSize⟩ else none

/-- Writes the pieces, as far as they fit. -/
def writeAll (o : Output) : List String → String
  | [] => o.text
  | piece :: rest =>
    match o.write? piece with
    | some o => o.writeAll rest
    | none => o.text ++ limitNote

end Output

end FirmwareSymbols.Demangle
