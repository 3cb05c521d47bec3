import FirmwareSymbols.Main.Script.Pattern
import FirmwareSymbols.Text.Digits

/-!
# Regular expressions

Expressions over bytes, in a basic and an extended notation. A match starts as early as possible and is then as long
as possible. Where a part of an expression can end at one place in several ways, only the first of them is kept, which
prefers long matches of the parts that come first.
-/

namespace FirmwareSymbols.Script

inductive Regex
  | nothing
  | one (m : Matcher)
  | sequence (a b : Regex)
  | either (a b : Regex)
  /-- At least `low` times, and at most `high` times. -/
  | repeated (a : Regex) (low : Nat) (high : Option Nat)
  /-- What matches is remembered under a number. -/
  | group (number : Nat) (a : Regex)
  /-- What a group has matched. -/
  | same (number : Nat)
  | lineStart
  | lineEnd
  /-- A border between a word and what is none: its start, its end, or both. -/
  | border (atStart atEnd : Bool)

/-! ### Matching -/

/-- A place in a text: the character before it, what follows, and what the groups have matched. -/
structure Place where
  before : Option Char := none
  rest : List Char
  groups : List (Nat × List Char) := []

namespace Place

/-- The place after so many characters. -/
def skip (p : Place) : Nat → Place
  | 0 => p
  | n + 1 =>
    match p.rest with
    | [] => p
    | c :: rest => { p with before := some c, rest }.skip n

/-- The characters up to a later place. -/
def upTo (p q : Place) : List Char := p.rest.take (p.rest.length - q.rest.length)

end Place

/-- Places without those where the rest is as long as at an earlier one. -/
def distinct (places : List Place) : List Place :=
  places.foldl (fun kept p => if kept.any fun q => q.rest.length = p.rest.length then kept else kept ++ [p]) []

def isWordChar (c : Char) : Bool := c.isAlphanum || c = '_'

/-- Repeats a step from each place, at most `n` times; longer runs come first. -/
def repeatFrom (step : Place → List Place) : Nat → Nat → Place → List Place
  | 0, low, p => if low = 0 then [p] else []
  | n + 1, low, p =>
    let longer := (step p).flatMap fun q =>
      if q.rest.length < p.rest.length then repeatFrom step n (low - 1) q else if low ≤ 1 then [q] else []
    distinct (longer ++ if low = 0 then [p] else [])

/-- The places at which a match that starts here can end. -/
def Regex.ends (ignoresCase : Bool) : Regex → Place → List Place
  | .nothing, p => [p]
  | .one m, p =>
    match p.rest with
    | [] => []
    | c :: rest =>
      let fits := m.takes c || (ignoresCase && (m.takes c.toLower || m.takes c.toUpper))
      if fits then [{ p with before := some c, rest }] else []
  | .sequence a b, p => distinct ((a.ends ignoresCase p).flatMap (b.ends ignoresCase))
  | .either a b, p => distinct (a.ends ignoresCase p ++ b.ends ignoresCase p)
  | .repeated a low high, p =>
    repeatFrom (a.ends ignoresCase) (high.getD (p.rest.length + low)) low p
  | .group n a, p => (a.ends ignoresCase p).map fun q => { q with groups := (n, p.upTo q) :: q.groups }
  | .same n, p =>
    match p.groups.lookup n with
    | none => []
    | some text => if text.isPrefixOf p.rest then [p.skip text.length] else []
  | .lineStart, p => if p.before.isNone then [p] else []
  | .lineEnd, p => if p.rest.isEmpty then [p] else []
  | .border atStart atEnd, p =>
    let inFront := p.before.any isWordChar
    let behind := p.rest.head?.any isWordChar
    if (atStart && !inFront && behind) || (atEnd && inFront && !behind) then [p] else []

/-- The longest match that starts here; the place where it ends. -/
def Regex.longest? (ignoresCase : Bool) (r : Regex) (p : Place) : Option Place :=
  (r.ends ignoresCase p).foldl (fun (best : Option Place) q =>
    match best with
    | none => some q
    | some b => if q.rest.length < b.rest.length then some q else some b) none

/-- The first match from a place on: where it starts and where it ends. -/
def Regex.findFrom? (ignoresCase : Bool) (r : Regex) : Nat → Place → Option (Place × Place)
  | 0, _ => none
  | n + 1, p =>
    match r.longest? ignoresCase p with
    | some q => some (p, q)
    | none => if p.rest.isEmpty then none else r.findFrom? ignoresCase n (p.skip 1)

def Regex.find? (ignoresCase : Bool) (r : Regex) (p : Place) : Option (Place × Place) :=
  r.findFrom? ignoresCase (p.rest.length + 1) p

/-! ### Notation -/

structure RegexReading where
  rest : List Char
  groups : Nat := 0

abbrev RegexReader := StateT RegexReading (Except String)

/-- Takes a text off the front. -/
def regexAccept (text : String) : RegexReader Bool := do
  let s ← get
  match text.toList.isPrefixOf? s.rest with
  | some rest =>
    set { s with rest }
    return true
  | none => return false

/-- Whether a text comes next. -/
def regexAhead (text : String) : RegexReader Bool := do return text.toList.isPrefixOf (← get).rest

/-- How the operators are written: with a backslash in the basic notation. -/
def operatorText (extended : Bool) (c : Char) : String :=
  if extended then String.singleton c else String.ofList ['\\', c]

def anyOf (chars : List Char) (negated : Bool) : Regex :=
  .one (.among negated (chars.map fun c => .range c c))

/-- A class of characters by its letter. -/
def classLetter? (c : Char) : Option Regex :=
  let word := [BracketItem.named "alnum", .range '_' '_']
  match c with
  | 'w' => some (.one (.among false word))
  | 'W' => some (.one (.among true word))
  | 's' => some (.one (.among false [.named "space"]))
  | 'S' => some (.one (.among true [.named "space"]))
  | 'b' => some (.border true true)
  | '<' => some (.border true false)
  | '>' => some (.border false true)
  | 'n' => some (anyOf ['\n'] false)
  | 't' => some (anyOf ['\t'] false)
  | _ => none

/-- A bracket expression after its opening bracket. -/
def regexBracket : RegexReader Regex := do
  let s ← get
  let plain (cs : List Char) : List Mark := cs.map fun c => ⟨c, false⟩
  let (negated, body) := match s.rest with
    | '^' :: rest => (true, rest)
    | _ => (false, s.rest)
  match bracketItems? (body.length + 1) true (plain body) with
  | none => throw "Unmatched [, [^, [:, [., or [="
  | some (items, rest) =>
    set { s with rest := rest.map Mark.char }
    return .one (.among negated items)

/-- The bounds of a repetition after its opening brace. -/
def regexBounds (extended : Bool) : RegexReader (Nat × Option Nat) := do
  let s ← get
  let (low, rest) := (Text.number? s.rest).getD (0, s.rest)
  let (high, rest) := match rest with
    | ',' :: more =>
      match Text.number? more with
      | some (n, rest) => (some n, rest)
      | none => (none, more)
    | _ => (some low, rest)
  set { s with rest }
  if !(← regexAccept (operatorText extended '\x7d')) then throw "Unmatched \\\x7b"
  return (low, high)

mutual

/-- Branches up to the end or a closing parenthesis. -/
def regexBranches (extended : Bool) : Nat → RegexReader Regex
  | 0 => throw "Regular expression too big"
  | fuel + 1 => do
    let a ← regexSequence extended fuel true
    if ← regexAccept (operatorText extended '|') then return .either a (← regexBranches extended fuel)
    return a

/-- Parts one after another; at the start an operator stands for itself. -/
def regexSequence (extended : Bool) : Nat → Bool → RegexReader Regex
  | 0, _ => throw "Regular expression too big"
  | fuel + 1, isStart => do
    if (← get).rest.isEmpty then return .nothing
    if ← regexAhead (operatorText extended '|') then return .nothing
    if ← regexAhead (operatorText extended ')') then
      if (← get).groups ≠ 0 || !extended then return .nothing
    let a ← regexPart extended fuel isStart
    let a ← regexSuffix extended fuel a
    let isAnchor := match a with
      | .lineStart => true
      | _ => false
    return .sequence a (← regexSequence extended fuel (isStart && isAnchor))

/-- Repetitions behind a part. -/
def regexSuffix (extended : Bool) : Nat → Regex → RegexReader Regex
  | 0, a => return a
  | fuel + 1, a => do
    if let .lineStart := a then return a
    if ← regexAccept "*" then regexSuffix extended fuel (.repeated a 0 none)
    else if ← regexAccept (operatorText extended '+') then regexSuffix extended fuel (.repeated a 1 none)
    else if ← regexAccept (operatorText extended '?') then regexSuffix extended fuel (.repeated a 0 (some 1))
    else if ← regexAccept (operatorText extended '\x7b') then
      let (low, high) ← regexBounds extended
      regexSuffix extended fuel (.repeated a low high)
    else return a

def regexPart (extended : Bool) : Nat → Bool → RegexReader Regex
  | 0, _ => throw "Regular expression too big"
  | fuel + 1, isStart => do
    if ← regexAccept (operatorText extended '(') then
      let s ← get
      set { s with groups := s.groups + 1 }
      let a ← regexBranches extended fuel
      if !(← regexAccept (operatorText extended ')')) then throw "Unmatched ( or \\("
      return .group (s.groups + 1) a
    let s ← get
    match s.rest with
    | [] => return .nothing
    | c :: rest =>
      set { s with rest }
      match c with
      | '.' => return .one .anyByte
      | '[' => regexBracket
      | '^' => return if extended || isStart then .lineStart else anyOf [c] false
      | '$' =>
        let ends := rest.isEmpty || (operatorText extended ')').toList.isPrefixOf rest ||
          (operatorText extended '|').toList.isPrefixOf rest
        return if extended || ends then .lineEnd else anyOf [c] false
      | '\\' =>
        match rest with
        | [] => throw "Trailing backslash"
        | d :: rest =>
          set { s with rest }
          if Text.isDigit d && d ≠ '0' then return .same (Text.digitValue d)
          return (classLetter? d).getD (anyOf [d] false)
      | _ => return anyOf [c] false

end

/-- An expression in the basic or the extended notation, or what is wrong with it. -/
def Regex.ofText (extended : Bool) (text : List Char) : Except String Regex := do
  let (r, s) ← (regexBranches extended (4 * text.length + 8)).run { rest := text }
  if s.rest.isEmpty then return r
  throw "Unmatched ) or \\)"

end FirmwareSymbols.Script
