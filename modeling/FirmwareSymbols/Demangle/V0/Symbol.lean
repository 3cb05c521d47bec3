import FirmwareSymbols.Demangle.V0.Parts

/-!
# Symbols of the second scheme

A symbol is `_R` and a path, which may be followed by the path of the crate that asked for it; the latter is not
shown. A first pass without output decides whether the symbol is valid.
-/

namespace FirmwareSymbols.Demangle.V0

/-- What follows the start of a symbol. Some systems add or drop an underscore. -/
def body? (s : List Char) : Option (List Char) :=
  match s with
  | '_' :: 'R' :: c :: rest => some (c :: rest)
  | 'R' :: c :: rest => some (c :: rest)
  | '_' :: '_' :: 'R' :: c :: rest => some (c :: rest)
  | _ => none

def startsPath (s : List Char) : Bool := s.head?.any fun c => 'A' ≤ c && c ≤ 'Z'

/-- Where a path ends, if it is valid. -/
def skipPath (c : Cursor) : Except Fault Cursor :=
  (((parts maxDepth).path false).run.run ⟨.ok c, none, 0⟩).2.cursor

/-- Where the paths of a symbol end, if they are valid. -/
def skipPaths (body : List Char) : Except Fault Cursor := do
  let c ← skipPath (Cursor.start body)
  if startsPath c.rest then skipPath c else return c

/-- The readable path. -/
def render (body : List Char) : String :=
  let (result, s) := ((parts maxDepth).path true).run.run ⟨.ok (Cursor.start body), some .empty, 0⟩
  let text := (s.output.getD .empty).text
  match result with
  | .ok _ => text
  | .error _ => text ++ limitNote

/-- The readable path, and what follows it in the symbol. -/
def demangle? (s : List Char) : Option (String × List Char) := do
  let body ← body? s
  if !startsPath body || body.any (0x80 ≤ ·.toNat) then none
  else
    match skipPaths body with
    | .error _ => none
    | .ok c => return (render body, c.rest)

end FirmwareSymbols.Demangle.V0
