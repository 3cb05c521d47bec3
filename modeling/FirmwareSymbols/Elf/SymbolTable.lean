import FirmwareSymbols.Elf.Section
import FirmwareSymbols.Symbol
import FirmwareSymbols.Text.Utf8
import FirmwareSymbols.ToolError

/-!
# Symbol tables

The rows of the first section with the name `.symtab`. A file without such a section, such as a stripped one, has no
symbols. A single faulty row makes the whole table unreadable.
-/

namespace FirmwareSymbols.Elf

/-- The name of the section that holds the symbols. -/
def symbolSectionName : List UInt8 := ".symtab".toUTF8.toList

/-- A row as it stands in the file. -/
structure Row where
  name : Nat
  info : Nat
  other : Nat
  home : Nat
  value : Nat

/-- The widths of the fields of a row: in 32-bit files the value and the size come before the attributes. -/
def rowFields : WordSize → List Nat
  | .w32 => [4, 4, 4, 1, 1, 2]
  | .w64 => [4, 1, 1, 2, 8, 8]

def decodeRow (word : WordSize) (order : ByteOrder) (bytes : List UInt8) : Row :=
  match word, fields order (rowFields word) bytes with
  | .w32, [name, value, _, info, other, home] => ⟨name, info, other, home, value⟩
  | .w64, [name, info, other, home, value, _] => ⟨name, info, other, home, value⟩
  | _, _ => ⟨0, 0, 0, 0, 0⟩

/-- The symbol of a row whose name has these bytes. -/
def Row.symbol (r : Row) (name : List UInt8) : Symbol where
  name := Text.decodeLossy name
  binding := .ofCode (UInt8.ofNat (r.info / 16))
  kind := .ofCode (UInt8.ofNat (r.info % 16))
  home := .ofCode (UInt16.ofNat r.home)
  visibility := .ofCode (UInt8.ofNat (r.other % 4))
  value := UInt64.ofNat r.value

def readRow (word : WordSize) (order : ByteOrder) (names : Array UInt8) (bytes : List UInt8) :
    Except Fault Symbol :=
  let row := decodeRow word order bytes
  match nameAt? names row.name with
  | none => .error .symbolName
  | some name => .ok (row.symbol name)

/-- The section with this index, which must not be zero. -/
def sectionAt (sections : List Section) (index : Nat) : Except Fault Section :=
  if index = 0 then .error .sectionIndex
  else
    match sections[index]? with
    | none => .error .sectionIndex
    | some s => .ok s

/-- The table of names that a symbol table links to; link zero stands for none. -/
def linkedNames (data : Array UInt8) (sections : List Section) (link : Nat) : Except Fault (Array UInt8) :=
  if link = 0 then .ok #[]
  else do
    let s ← sectionAt sections link
    if s.kind ≠ stringTableKind then .error .stringSectionType
    else if s.fits then .ok (s.table data)
    else .error .stringSectionSize

/-- The bytes of a section as whole rows of `width` bytes. -/
def rows? (s : Section) (data : Array UInt8) (width : Nat) : Option (List (List UInt8)) := do
  let bytes ← s.data? data
  if bytes.size % width = 0 then some (chunks width (bytes.size / width) bytes.toList) else none

/-- The bytes of an extended section index. -/
def extendedIndexSize : Nat := 4

/-- Sections with extended indices for the table have to hold whole indices. -/
def checkExtendedIndices (data : Array UInt8) (table : Nat) : List Section → Except Fault Unit
  | [] => .ok ()
  | s :: rest =>
    if s.kind = extendedIndexKind && s.link = table && (rows? s data extendedIndexSize).isNone then
      .error .extendedIndexData
    else checkExtendedIndices data table rest

/-- The symbols of the section with this index. -/
def symbolsOf (h : Header) (data : Array UInt8) (sections : List Section) (index : Nat) :
    Except Fault (List Symbol) := do
  let s ← sectionAt sections index
  if s.kind ≠ symbolTableKind && s.kind ≠ dynamicSymbolsKind then .error .symbolSectionType
  else
    match rows? s data h.word.symbolSize with
    | none => .error .symbolData
    | some rows =>
      let names ← linkedNames data sections s.link
      checkExtendedIndices data index sections
      rows.mapM (readRow h.word h.order names)

/-- The index of the first section with the name. -/
def sectionNamed? (names : Array UInt8) (name : List UInt8) (sections : List Section) : Option Nat :=
  sections.findIdx? fun s => nameAt? names s.name = some name

/-- The symbols of an image, in table order. -/
def parse (image : ByteArray) : Except Fault (List Symbol) := do
  let data := image.data
  let word ← wordSize data
  let header ← parseHeader word data
  let sections ← header.sections data
  if sections.isEmpty then .ok []
  else
    let names ← sectionNames header data sections
    match sectionNamed? names symbolSectionName sections with
    | none => .ok []
    | some index => symbolsOf header data sections index

end FirmwareSymbols.Elf

namespace FirmwareSymbols

/-- The symbols of an image; the path is that of the report. -/
def parseSymbols (image : ByteArray) (path : Path) : Except ToolError (List Symbol) :=
  match Elf.parse image with
  | .ok symbols => .ok symbols
  | .error fault => .error (.malformedBinary path fault.message)

end FirmwareSymbols
