/-!
# Splitting a text at a character

The pieces of a text between the occurrences of a separator. There is always at least one piece, and joining the
pieces with the separator gives the text back.
-/

namespace FirmwareSymbols.Text

/-- Starts a new piece at the separator and puts any other character before the first piece. -/
def addToPieces (separator c : Char) (pieces : List (List Char)) : List (List Char) :=
  if c = separator then [] :: pieces
  else
    match pieces with
    | [] => [[c]]
    | p :: ps => (c :: p) :: ps

def splitAt (separator : Char) (s : List Char) : List (List Char) := s.foldr (addToPieces separator) [[]]

/-- The pieces as texts. -/
def splitText (separator : Char) (s : String) : List String := (splitAt separator s.toList).map String.ofList

theorem splitAt_ne_nil (separator : Char) (s : List Char) : splitAt separator s ≠ [] := by
  cases s with
  | nil => simp [splitAt]
  | cons c s =>
    simp only [splitAt, List.foldr_cons, addToPieces]
    split
    · simp
    · split <;> simp

end FirmwareSymbols.Text
