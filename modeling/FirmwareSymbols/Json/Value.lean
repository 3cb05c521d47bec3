/-!
# JSON values

Numbers keep their literal: the program never computes with them, it only needs to know that they are in range.
-/

namespace FirmwareSymbols.Json

/-- A number as written: sign, digits before and after the point, signed exponent. -/
structure Literal where
  negative : Bool
  whole : List Char
  fraction : List Char
  exponent : Int
deriving DecidableEq, Repr

inductive Value
  | null
  | bool (b : Bool)
  | number (literal : Literal)
  | string (text : List Char)
  | array (items : List Value)
  | object (members : List (List Char × Value))

end FirmwareSymbols.Json
