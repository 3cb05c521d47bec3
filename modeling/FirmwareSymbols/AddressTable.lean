import FirmwareSymbols.Ascending
import FirmwareSymbols.FileSystem.Write

/-!
# Address tables

The table of symbol addresses that the plugin loader reads: names in ascending order, each with the first address
that was recorded for it. Its text form lists a name and an address per entry; NUL bytes after the text let the
loader read it in whole 32-bit words.
-/

namespace FirmwareSymbols

structure AddressTable where
  entries : List (String × UInt64)
  ascending : Ascending Prod.fst entries

/-- How many NUL bytes follow the text. -/
inductive Padding
  /-- Up to the next multiple of four. -/
  | aligned
  /-- As many as the length leaves over modulo four, so that an odd length stays unaligned. -/
  | legacy
deriving DecidableEq, Repr

def Padding.amount (padding : Padding) (length : Nat) : Nat :=
  match padding with
  | .aligned => (4 - length % 4) % 4
  | .legacy => length % 4

namespace AddressTable

def empty : AddressTable := ⟨[], Ascending.nil⟩

instance : Inhabited AddressTable := ⟨empty⟩

def size (t : AddressTable) : Nat := t.entries.length

def isEmpty (t : AddressTable) : Bool := t.entries.isEmpty

def get? (t : AddressTable) (name : String) : Option UInt64 := t.entries.lookup name

/-- The table with the address, or `none` if the name has one already. -/
def insert? (t : AddressTable) (name : String) (address : UInt64) : Option AddressTable :=
  match h : Ascending.insert? Prod.fst (name, address) t.entries with
  | none => none
  | some l => some ⟨l, Ascending.insert?_some t.ascending h⟩

/-- Records the address unless the name has one. -/
def insert (t : AddressTable) (name : String) (address : UInt64) : AddressTable :=
  (t.insert? name address).getD t

def ofList (entries : List (String × UInt64)) : AddressTable :=
  entries.foldl (fun t e => t.insert e.1 e.2) empty

/-- Lower-case hexadecimal digits without leading zeros, after `0x`. -/
def hexAddress (address : UInt64) : String :=
  "0x" ++ String.ofList (Nat.toDigits 16 address.toNat)

def renderEntry (e : String × UInt64) : String :=
  "  - Name: " ++ e.1 ++ "\n    Addr: " ++ hexAddress e.2 ++ "\n"

def render (t : AddressTable) : String :=
  "Symbols:\n" ++ String.join (t.entries.map renderEntry)

/-- The bytes of the text, then the padding. -/
def renderPadded (t : AddressTable) (padding : Padding) : ByteArray :=
  let text := t.render.toUTF8
  text ++ (List.replicate (padding.amount text.size) 0).toByteArray

end AddressTable

/-- Writes a table to a file in one step. -/
def FileSystem.writeAddressTable (fs : FileSystem) (path : Path) (t : AddressTable) (padding : Padding) :
    Except ToolError Unit × FileSystem :=
  fs.writeAtomic path (t.renderPadded padding)

end FirmwareSymbols
