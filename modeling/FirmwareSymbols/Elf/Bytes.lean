/-!
# Numbers and slices of an image

An image is an array of bytes. A record is a list of bytes that is taken apart field by field, each field a number
in the byte order of the file.
-/

namespace FirmwareSymbols.Elf

inductive ByteOrder
  | little
  | big
deriving DecidableEq, Repr

/-- The number with these bytes, the first one being the least significant. -/
def natOfLittle (bytes : List UInt8) : Nat := bytes.foldr (fun b n => b.toNat + 256 * n) 0

def ByteOrder.toNat (order : ByteOrder) (bytes : List UInt8) : Nat :=
  match order with
  | .little => natOfLittle bytes
  | .big => natOfLittle bytes.reverse

/-- The fields of a record whose widths in bytes are given. -/
def fields (order : ByteOrder) : List Nat → List UInt8 → List Nat
  | [], _ => []
  | w :: ws, bytes => order.toNat (bytes.take w) :: fields order ws (bytes.drop w)

/-- The bytes from `offset` on, if that many are there. -/
def slice? (data : Array UInt8) (offset size : Nat) : Option (Array UInt8) :=
  if offset + size ≤ data.size then some (data.extract offset (offset + size)) else none

/-- The first `count` pieces of `width` bytes. -/
def chunks (width : Nat) : Nat → List UInt8 → List (List UInt8)
  | 0, _ => []
  | count + 1, bytes => bytes.take width :: chunks width count (bytes.drop width)

/-- The bytes of a table from an offset up to the first NUL, which has to be there. -/
def nameAt? (table : Array UInt8) (offset : Nat) : Option (List UInt8) :=
  if h : offset < table.size then
    if table[offset] = 0 then some []
    else (nameAt? table (offset + 1)).map (table[offset] :: ·)
  else none
termination_by table.size - offset

end FirmwareSymbols.Elf
