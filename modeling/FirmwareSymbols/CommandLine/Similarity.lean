/-!
# Similar words

How alike two words are, from 0 to 1, by the characters that they have in common at about the same place and in the
same order.
-/

namespace FirmwareSymbols.CommandLine

/-- The words that are candidates for a match of the character at place `i`: each character of the other word with its
place, unless it was matched before. -/
abbrev Candidates := List (Nat × Char)

/-- The first candidate that matches the character at place `i` within the reach, and the others. -/
def takeMatch (reach i : Nat) (c : Char) (candidates : Candidates) : Option (Nat × Candidates) :=
  match candidates.find? fun (j, d) => d = c && i ≤ j + reach && j ≤ i + reach with
  | some (j, _) => some (j, candidates.filter fun (k, _) => k ≠ j)
  | none => none

/-- The matched characters in the order of the first word, and their places in the second word. -/
def matched (reach : Nat) : Nat → List Char → Candidates → List (Char × Nat)
  | _, [], _ => []
  | i, c :: rest, candidates =>
    match takeMatch reach i c candidates with
    | some (j, others) => (c, j) :: matched reach (i + 1) rest others
    | none => matched reach (i + 1) rest candidates

/-- How many of the matched characters stand in another order in the second word. -/
def displaced (pairs : List (Char × Nat)) : Nat :=
  let inSecond := (pairs.mergeSort fun a b => a.2 ≤ b.2).map Prod.fst
  ((pairs.map Prod.fst).zip inSecond).countP fun (a, b) => a ≠ b

/-- The mean of three shares: matched characters in the first word, in the second word, and of those the ones that are
in order. -/
def similarity (a b : String) : Float :=
  let reach := max a.length b.length / 2 - 1
  let pairs := matched reach 0 a.toList (b.toList.zipIdx.map fun (c, j) => (j, c))
  let n := pairs.length
  if n = 0 then (if a.length = 0 && b.length = 0 then 1 else 0)
  else
    (n.toFloat / a.length.toFloat + n.toFloat / b.length.toFloat +
      (n - displaced pairs / 2).toFloat / n.toFloat) / 3

/-- The words that are similar to `word`, the most similar one last. -/
def similarTo (word : String) (words : List String) : List String :=
  let rated := (words.map fun w => (w, similarity word w)).filter fun r => 0.7 < r.2
  (rated.mergeSort fun a b => a.2 ≤ b.2).map Prod.fst

end FirmwareSymbols.CommandLine
