/-!
# Writing JSON strings

Quotes, backslashes and control characters are escaped, with the short escape where there is one; every other
character stands for itself.
-/

namespace FirmwareSymbols.Json

def hexChar (n : Nat) : Char :=
  if n < 10 then Char.ofNat ('0'.toNat + n) else Char.ofNat ('a'.toNat + (n - 10))

def escapeChar (c : Char) : List Char :=
  if c = '"' then ['\\', '"']
  else if c = '\\' then ['\\', '\\']
  else if c = '\x08' then ['\\', 'b']
  else if c = '\x0c' then ['\\', 'f']
  else if c = '\n' then ['\\', 'n']
  else if c = '\r' then ['\\', 'r']
  else if c = '\t' then ['\\', 't']
  else if c.toNat < 0x20 then ['\\', 'u', '0', '0', hexChar (c.toNat / 16), hexChar (c.toNat % 16)]
  else [c]

def quote (text : List Char) : List Char := '"' :: (text.flatMap escapeChar ++ ['"'])

/-- The items, separated by commas and without blanks, in brackets. -/
def bracketed (items : List (List Char)) : List Char :=
  '[' :: (List.intercalate [','] items ++ [']'])

def stringArray (texts : List (List Char)) : List Char := bracketed (texts.map quote)

end FirmwareSymbols.Json
