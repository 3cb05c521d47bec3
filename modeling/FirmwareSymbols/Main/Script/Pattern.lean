import FirmwareSymbols.Main.Script.Syntax
import FirmwareSymbols.Text.Utf8

/-!
# Patterns

A pattern stands for all texts that match it: a star for any text, a question mark for any byte, a bracket expression
for one of its bytes. What was quoted stands for itself.
-/

namespace FirmwareSymbols.Script

/-- A character of an expanded word. -/
structure Mark where
  char : Char
  quoted : Bool
deriving DecidableEq, Repr

def Mark.isBare (m : Mark) (c : Char) : Bool := m.char = c && !m.quoted

def textOf (marks : List Mark) : String := String.ofList (marks.map Mark.char)

/-- A byte as the character with its number. -/
def byteChar (b : UInt8) : Char := Char.ofNat b.toNat

/-- The bytes of a text, each as the character with its number. -/
def byteChars (s : String) : List Char := s.toUTF8.toList.map byteChar

/-- The text that bytes stand for. -/
def ofByteChars (bytes : List Char) : String := Text.decodeLossy (bytes.map fun c => UInt8.ofNat c.toNat)

def byteMarks (marks : List Mark) : List Mark :=
  marks.flatMap fun m => (byteChars (String.singleton m.char)).map fun c => ⟨c, m.quoted⟩

/-! ### Bracket expressions -/

inductive BracketItem
  | range (first last : Char)
  /-- A class of characters by its name. -/
  | named (name : String)
deriving DecidableEq, Repr

def isPunctuation (c : Char) : Bool := '!' ≤ c && c ≤ '~' && !c.isAlphanum

/-- The classes of characters. -/
def characterClasses : List (String × (Char → Bool)) := [
  ("alpha", Char.isAlpha),
  ("digit", Char.isDigit),
  ("alnum", Char.isAlphanum),
  ("upper", Char.isUpper),
  ("lower", Char.isLower),
  ("space", fun c => c = ' ' || ('\t' ≤ c && c ≤ '\r')),
  ("blank", fun c => c = ' ' || c = '\t'),
  ("punct", isPunctuation),
  ("print", fun c => ' ' ≤ c && c ≤ '~'),
  ("graph", fun c => '!' ≤ c && c ≤ '~'),
  ("cntrl", fun c => c < ' ' || c = '\x7f'),
  ("xdigit", fun c => c.isDigit || ('a' ≤ c && c ≤ 'f') || ('A' ≤ c && c ≤ 'F'))]

def BracketItem.takes (c : Char) : BracketItem → Bool
  | range first last => first ≤ c && c ≤ last
  | named name => (characterClasses.lookup name).any (· c)

/-- A class of characters after its opening bracket and colon. -/
def namedClass? (marks : List Mark) : Option (BracketItem × List Mark) :=
  let name := marks.takeWhile fun m => m.char.isAlpha
  match marks.drop name.length with
  | ⟨':', _⟩ :: ⟨']', _⟩ :: rest =>
    if (characterClasses.lookup (textOf name)).isSome then some (.named (textOf name), rest) else none
  | _ => none

/-- The items of a bracket expression up to its end, which is not its first character. -/
def bracketItems? : Nat → Bool → List Mark → Option (List BracketItem × List Mark)
  | 0, _, _ => none
  | _, _, [] => none
  | fuel + 1, isFirst, m :: rest =>
    let more (item : BracketItem) (rest : List Mark) : Option (List BracketItem × List Mark) :=
      (bracketItems? fuel false rest).map fun (items, rest) => (item :: items, rest)
    if m.isBare ']' && !isFirst then some ([], rest)
    else
      let single : Option (List BracketItem × List Mark) :=
        match rest with
        | dash :: last :: after =>
          if dash.isBare '-' && !last.isBare ']' then more (.range m.char last.char) after
          else more (.range m.char m.char) rest
        | _ => more (.range m.char m.char) rest
      match rest with
      | ⟨':', false⟩ :: inner =>
        match if m.isBare '[' then namedClass? inner else none with
        | some (item, rest) => more item rest
        | none => single
      | _ => single

/-! ### Matching -/

inductive Matcher
  | anyText
  | anyByte
  | exactly (c : Char)
  /-- A byte that one of the items takes, or that none of them takes. -/
  | among (negated : Bool) (items : List BracketItem)
deriving DecidableEq, Repr

/-- A bracket expression after its opening bracket. -/
def bracket? (marks : List Mark) : Option (Matcher × List Mark) :=
  match marks with
  | ⟨'!', false⟩ :: rest => (bracketItems? (rest.length + 1) true rest).map fun (items, rest) => (.among true items, rest)
  | _ => (bracketItems? (marks.length + 1) true marks).map fun (items, rest) => (.among false items, rest)

/-- The matchers of a pattern, one for each of its marks at most. A backslash that is not quoted quotes what follows
it. -/
def matchersWithin : Nat → List Mark → List Matcher
  | 0, _ => []
  | _, [] => []
  | n + 1, m :: rest =>
    if m.quoted then .exactly m.char :: matchersWithin n rest
    else
      match m.char, rest with
      | '*', _ => .anyText :: matchersWithin n rest
      | '?', _ => .anyByte :: matchersWithin n rest
      | '\\', d :: rest => .exactly d.char :: matchersWithin n rest
      | '[', _ =>
        match bracket? rest with
        | some (matcher, rest) => matcher :: matchersWithin n rest
        | none => .exactly '[' :: matchersWithin n rest
      | c, _ => .exactly c :: matchersWithin n rest

def matchers (marks : List Mark) : List Matcher := matchersWithin (byteMarks marks).length (byteMarks marks)

/-- Whether a matcher for one byte takes it. -/
def Matcher.takes (c : Char) : Matcher → Bool
  | .anyText => false
  | .anyByte => true
  | .exactly d => c = d
  | .among negated items => items.any (·.takes c) ≠ negated

/-- Whether bytes match a pattern as a whole. -/
def isMatch : List Matcher → List Char → Bool
  | [], s => s.isEmpty
  | .anyText :: rest, [] => isMatch rest []
  | .anyText :: rest, c :: s => isMatch rest (c :: s) || isMatch (.anyText :: rest) s
  | _ :: _, [] => false
  | m :: rest, c :: s => m.takes c && isMatch rest s
termination_by p s => (p.length, s.length)

/-- Whether a text matches a pattern. -/
def matchesText (p : List Matcher) (s : String) : Bool := isMatch p (byteChars s)

/-- All ways to divide a text in two, the shortest first part first. -/
def divisions : List Char → List (List Char × List Char)
  | [] => [([], [])]
  | c :: s => ([], c :: s) :: (divisions s).map fun (a, b) => (c :: a, b)

/-- The text without the part that matches. -/
def Cut.apply (cut : Cut) (p : List Matcher) (s : String) : String :=
  let ways := divisions (byteChars s)
  let found : Option (List Char) :=
    match cut with
    | .shortestStart => (ways.find? fun d => isMatch p d.1).map Prod.snd
    | .longestStart => (ways.reverse.find? fun d => isMatch p d.1).map Prod.snd
    | .shortestEnd => (ways.reverse.find? fun d => isMatch p d.2).map Prod.fst
    | .longestEnd => (ways.find? fun d => isMatch p d.2).map Prod.fst
  (found.map ofByteChars).getD s

/-- Whether a mark can make a word a pattern. -/
def Mark.isWild (m : Mark) : Bool := !m.quoted && (m.char = '*' || m.char = '?' || m.char = '[')

end FirmwareSymbols.Script
