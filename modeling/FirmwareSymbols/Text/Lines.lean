import FirmwareSymbols.Text.Split

/-!
# Lines and blanks

A text is a sequence of lines that end in a line feed; one carriage return before the line feed belongs to the line
end. Blank characters are those with the Unicode property `White_Space`.
-/

namespace FirmwareSymbols.Text

/-- The characters with the property `White_Space`. -/
def isBlank (c : Char) : Bool :=
  let n := c.toNat
  (9 ≤ n && n ≤ 13) || n = 0x20 || n = 0x85 || n = 0xa0 || n = 0x1680 || (0x2000 ≤ n && n ≤ 0x200a) ||
    n = 0x2028 || n = 0x2029 || n = 0x202f || n = 0x205f || n = 0x3000

/-- Removes the blanks at the end. -/
def trimEnd (s : List Char) : List Char :=
  s.foldr (fun c rest => if rest.isEmpty && isBlank c then [] else c :: rest) []

/-- Removes one carriage return at the end. -/
def dropReturn (line : List Char) : List Char :=
  if line.getLast? = some '\r' then line.dropLast else line

/-- The lines of a text without their ends. What follows the last line feed is a line only if it is not empty, and
keeps a carriage return at its end. -/
def lines (s : List Char) : List (List Char) :=
  let pieces := splitAt '\n' s
  let ended := pieces.dropLast.map dropReturn
  match pieces.getLast? with
  | some (c :: cs) => ended ++ [c :: cs]
  | _ => ended

end FirmwareSymbols.Text
