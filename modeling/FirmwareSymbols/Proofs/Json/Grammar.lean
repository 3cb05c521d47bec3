import FirmwareSymbols.Json.Number
import Mathlib.Init

/-!
# The grammar of JSON documents

Which texts spell which values, rule by rule and without regard to how a reader finds out: `Spells s v` says that `s`
is a spelling of `v` without blanks around it, and `IsDocument c v` that `c` is such a spelling between blanks, of a
value that is not nested too deeply.
-/

namespace FirmwareSymbols.Json

/-- Blanks may stand around values and punctuation. -/
def IsBlanks (s : List Char) : Prop := ∀ c ∈ s, c = ' ' ∨ c = '\n' ∨ c = '\t' ∨ c = '\r'

/-! ### Strings -/

/-- The letters that may follow a backslash, with the characters that they stand for. -/
def shortEscapes : List (Char × Char) :=
  [('"', '"'), ('\\', '\\'), ('/', '/'), ('b', '\x08'), ('f', '\x0c'), ('n', '\n'), ('r', '\r'), ('t', '\t')]

/-- Four hexadecimal digits spell a number below 65536. -/
inductive SpellsHex : List Char → Nat → Prop
  | mk {a b c d : Char} {i j k l : Nat} (ha : Text.hexDigit? a = some i) (hb : Text.hexDigit? b = some j)
      (hc : Text.hexDigit? c = some k) (hd : Text.hexDigit? d = some l) :
      SpellsHex [a, b, c, d] (4096 * i + 256 * j + 16 * k + l)

/-- The spellings of one character of a string. No character is the number of a surrogate, so a lone surrogate
spells nothing. -/
inductive SpellsChar : List Char → Char → Prop
  | plain {c : Char} (hquote : c ≠ '"') (hslash : c ≠ '\\') (hcontrol : 0x20 ≤ c.toNat) : SpellsChar [c] c
  | short {letter c : Char} (h : (letter, c) ∈ shortEscapes) : SpellsChar ['\\', letter] c
  | code {digits : List Char} {c : Char} (h : SpellsHex digits c.toNat) : SpellsChar ('\\' :: 'u' :: digits) c
  /-- Characters beyond the first 65536 are spelled by a high and a low surrogate. -/
  | pair {digits digits' : List Char} {high low : Nat} {c : Char} (h : SpellsHex digits high)
      (h' : SpellsHex digits' low) (hhigh : 0xd800 ≤ high ∧ high < 0xdc00) (hlow : 0xdc00 ≤ low ∧ low < 0xe000)
      (hc : c.toNat = 0x10000 + (high - 0xd800) * 0x400 + (low - 0xdc00)) :
      SpellsChar ('\\' :: 'u' :: (digits ++ '\\' :: 'u' :: digits')) c

/-- The spellings of a text between its quotes. -/
inductive SpellsText : List Char → List Char → Prop
  | nil : SpellsText [] []
  | cons {s s' text : List Char} {c : Char} (h : SpellsChar s c) (h' : SpellsText s' text) :
      SpellsText (s ++ s') (c :: text)

/-! ### Numbers -/

def IsDigits (ds : List Char) : Prop := ds ≠ [] ∧ ∀ c ∈ ds, Text.isDigit c = true

inductive SpellsFraction : List Char → List Char → Prop
  | absent : SpellsFraction [] []
  | digits {ds : List Char} (h : IsDigits ds) : SpellsFraction ('.' :: ds) ds

inductive SpellsExponent : List Char → Int → Prop
  | absent : SpellsExponent [] 0
  | plain {e : Char} {ds : List Char} (he : e = 'e' ∨ e = 'E') (h : IsDigits ds) :
      SpellsExponent (e :: ds) (Text.digitsValue ds)
  | plus {e : Char} {ds : List Char} (he : e = 'e' ∨ e = 'E') (h : IsDigits ds) :
      SpellsExponent (e :: '+' :: ds) (Text.digitsValue ds)
  | minus {e : Char} {ds : List Char} (he : e = 'e' ∨ e = 'E') (h : IsDigits ds) :
      SpellsExponent (e :: '-' :: ds) (-(Text.digitsValue ds : Int))

/-- The spellings of a number without its sign. A leading zero stands alone before the point. -/
structure SpellsUnsigned (s : List Char) (l : Literal) : Prop where
  whole : IsDigits l.whole
  leading : l.whole.head? = some '0' → l.whole = ['0']
  parts : ∃ fraction exponent, SpellsFraction fraction l.fraction ∧ SpellsExponent exponent l.exponent ∧
    s = l.whole ++ fraction ++ exponent
  inRange : l.inRange = true

inductive SpellsNumber : List Char → Literal → Prop
  | positive {s : List Char} {l : Literal} (h : SpellsUnsigned s l) (hsign : l.negative = false) : SpellsNumber s l
  | negative {s : List Char} {l : Literal} (h : SpellsUnsigned s l) (hsign : l.negative = true) :
      SpellsNumber ('-' :: s) l

/-! ### Values -/

/-- One or more items, each with its blanks, separated by commas. -/
inductive SpellsList {α : Type} (item : List Char → α → Prop) : List Char → List α → Prop
  | last {s : List Char} {a : α} (h : item s a) : SpellsList item s [a]
  | cons {s s' : List Char} {a : α} {as : List α} (h : item s a) (h' : SpellsList item s' as) :
      SpellsList item (s ++ ',' :: s') (a :: as)

/-- A spelling with blanks around it. -/
inductive Padded {α : Type} (spells : List Char → α → Prop) : List Char → α → Prop
  | mk {b s b' : List Char} {a : α} (hb : IsBlanks b) (h : spells s a) (hb' : IsBlanks b') :
      Padded spells (b ++ s ++ b') a

/-- A key in quotes, a colon and a value. -/
inductive SpellsMember (value : List Char → Value → Prop) : List Char → List Char × Value → Prop
  | mk {s b b' s' key : List Char} {v : Value} (hkey : SpellsText s key) (hb : IsBlanks b) (hb' : IsBlanks b')
      (hv : value s' v) : SpellsMember value ('"' :: (s ++ '"' :: (b ++ ':' :: (b' ++ s')))) (key, v)

/-- The spellings of a value. -/
inductive Spells : List Char → Value → Prop
  | null : Spells ['n', 'u', 'l', 'l'] .null
  | true : Spells ['t', 'r', 'u', 'e'] (.bool true)
  | false : Spells ['f', 'a', 'l', 's', 'e'] (.bool false)
  | number {s : List Char} {l : Literal} (h : SpellsNumber s l) : Spells s (.number l)
  | string {s text : List Char} (h : SpellsText s text) : Spells ('"' :: (s ++ ['"'])) (.string text)
  | emptyArray {b : List Char} (h : IsBlanks b) : Spells ('[' :: (b ++ [']'])) (.array [])
  | array {s : List Char} {items : List Value} (h : SpellsList (Padded Spells) s items) :
      Spells ('[' :: (s ++ [']'])) (.array items)
  | emptyObject {b : List Char} (h : IsBlanks b) : Spells ('\x7b' :: (b ++ ['\x7d'])) (.object [])
  | object {s : List Char} {members : List (List Char × Value)}
      (h : SpellsList (Padded (SpellsMember Spells)) s members) : Spells ('\x7b' :: (s ++ ['\x7d'])) (.object members)

mutual

/-- How deep arrays and objects are nested. -/
def Value.depth : Value → Nat
  | .array items => itemsDepth items + 1
  | .object members => membersDepth members + 1
  | _ => 0

def itemsDepth : List Value → Nat
  | [] => 0
  | v :: vs => max v.depth (itemsDepth vs)

def membersDepth : List (List Char × Value) → Nat
  | [] => 0
  | (_, v) :: ms => max v.depth (membersDepth ms)

end

/-- A document is one value with nothing but blanks around it, nested less than 128 levels deep. -/
structure IsDocument (c : List Char) (v : Value) : Prop where
  spelled : Padded Spells c v
  depth_lt : v.depth < 128

end FirmwareSymbols.Json
