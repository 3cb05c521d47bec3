import FirmwareSymbols.Text.Unprintable

/-!
# Quoted characters

Characters as they are written inside quotes: some have short escapes, those that cannot be shown stand by their
code points.
-/

namespace FirmwareSymbols.Text

def codePointEscape (c : Char) : List Char := "\\u\x7b".toList ++ Nat.toDigits 16 c.toNat ++ ['\x7d']

/-- A character between quotes of any kind. -/
def escapeChar (c : Char) : List Char :=
  match c with
  | '\x00' => ['\\', '0']
  | '\t' => ['\\', 't']
  | '\r' => ['\\', 'r']
  | '\n' => ['\\', 'n']
  | '"' => ['\\', '"']
  | '\'' => ['\\', '\'']
  | '\\' => ['\\', '\\']
  | c => if isUnprintable c then codePointEscape c else [c]

/-- A character between quotes of this kind: the other kind of quote needs no escape. -/
def escapeBetween (quote c : Char) : List Char :=
  if (quote = '"' && c = '\'') || (quote = '\'' && c = '"') then [c] else escapeChar c

def quoted (quote : Char) (text : List Char) : List Char :=
  quote :: (text.flatMap (escapeBetween quote) ++ [quote])

end FirmwareSymbols.Text
