import FirmwareSymbols.Elf.FileKind

/-!
# Headers and sections

The file header tells where the table of section headers is and which section holds their names.
-/

namespace FirmwareSymbols.Elf

/-- Offsets and sizes of the file are below this. -/
def offsetBound : Nat := Nat.pow 2 64

structure Header where
  word : WordSize
  order : ByteOrder
  sectionOffset : Nat
  sectionEntrySize : Nat
  sectionCount : Nat
  nameSection : Nat

structure Section where
  name : Nat
  kind : Nat
  offset : Nat
  size : Nat
  link : Nat

namespace WordSize

/-- Bytes of an address or offset. -/
def bytes : WordSize → Nat
  | .w32 => 4
  | .w64 => 8

def headerSize : WordSize → Nat
  | .w32 => 52
  | .w64 => 64

def sectionSize : WordSize → Nat
  | .w32 => 40
  | .w64 => 64

def symbolSize : WordSize → Nat
  | .w32 => 16
  | .w64 => 24

end WordSize

/-- The fields after the identification: type, machine, version, entry, program headers, section headers, flags, and
six half words. -/
def headerFields (word : WordSize) : List Nat :=
  [2, 2, 4, word.bytes, word.bytes, word.bytes, 4, 2, 2, 2, 2, 2, 2]

def parseHeader (word : WordSize) (data : Array UInt8) : Except Fault Header :=
  match slice? data 0 word.headerSize with
  | none => .error .headerSize
  | some bytes =>
    match bytes.toList with
    | _ :: _ :: _ :: _ :: _ :: encoding :: version :: _ =>
      if version ≠ 1 || (encoding ≠ 1 && encoding ≠ 2) then .error .unsupportedHeader
      else
        let order : ByteOrder := if encoding = 1 then .little else .big
        match fields order (headerFields word) (bytes.toList.drop 16) with
        | [_, _, _, _, _, sectionOffset, _, _, _, _, entrySize, count, nameSection] =>
          .ok ⟨word, order, sectionOffset, entrySize, count, nameSection⟩
        | _ => .error .headerSize
    | _ => .error .headerSize

/-- Name, type, flags, address, offset, size, link, info, alignment and entry size. -/
def sectionFields (word : WordSize) : List Nat :=
  let w := word.bytes
  [4, 4, w, w, w, w, 4, 4, w, w]

def decodeSection (word : WordSize) (order : ByteOrder) (bytes : List UInt8) : Section :=
  match fields order (sectionFields word) bytes with
  | [name, kind, _, _, offset, size, link, _, _, _] => ⟨name, kind, offset, size, link⟩
  | _ => ⟨0, 0, 0, 0, 0⟩

namespace Header

/-- The first section header, which holds the numbers that do not fit into the file header. -/
def sectionZero (h : Header) (data : Array UInt8) : Except Fault Section :=
  if h.sectionEntrySize ≠ h.word.sectionSize then .error .sectionEntrySize
  else
    match slice? data h.sectionOffset h.word.sectionSize with
    | none => .error .sectionZero
    | some bytes => .ok (decodeSection h.word h.order bytes.toList)

/-- The number of section headers: zero in the file header sends to the size of the first section. -/
def sectionNumber (h : Header) (data : Array UInt8) : Except Fault Nat :=
  if h.sectionCount ≠ 0 then .ok h.sectionCount else (h.sectionZero data).map Section.size

/-- All section headers; a file need not have any. -/
def sections (h : Header) (data : Array UInt8) : Except Fault (List Section) :=
  if h.sectionOffset = 0 then .ok []
  else do
    let count ← h.sectionNumber data
    if count = 0 then .ok []
    else if h.sectionEntrySize ≠ h.word.sectionSize then .error .sectionEntrySize
    else
      match slice? data h.sectionOffset (count * h.word.sectionSize) with
      | none => .error .sectionTable
      | some bytes =>
        .ok ((chunks h.word.sectionSize count bytes.toList).map (decodeSection h.word h.order))

/-- In the place of the index of the name section: it stands in the first section header. -/
def extendedIndex : Nat := 0xffff

def nameSectionIndex (h : Header) (data : Array UInt8) : Except Fault Nat := do
  let index ←
    if h.nameSection ≠ extendedIndex then .ok h.nameSection
    else if h.sectionOffset = 0 then .error .missingSectionZero
    else (h.sectionZero data).map Section.link
  if index = 0 then .error .noNameSection else .ok index

end Header

/-- Section types. -/
def symbolTableKind : Nat := 2
def stringTableKind : Nat := 3
def noBitsKind : Nat := 8
def dynamicSymbolsKind : Nat := 11
def extendedIndexKind : Nat := 18

namespace Section

/-- The bytes of a section; one without bits has none in the file. -/
def data? (s : Section) (data : Array UInt8) : Option (Array UInt8) :=
  if s.kind = noBitsKind then some #[] else slice? data s.offset s.size

/-- The bytes of a section as a table of names. One outside the file has no names at all. -/
def table (s : Section) (data : Array UInt8) : Array UInt8 := (slice? data s.offset s.size).getD #[]

/-- The end of the section does not exceed the numbers of the format. -/
def fits (s : Section) : Bool := s.offset + s.size < offsetBound

end Section

/-- The table with the names of the sections. -/
def sectionNames (h : Header) (data : Array UInt8) (sections : List Section) : Except Fault (Array UInt8) := do
  let index ← h.nameSectionIndex data
  match sections[index]? with
  | none => .error .nameSectionIndex
  | some s =>
    if s.kind = noBitsKind then .ok #[]
    else if s.fits then .ok (s.table data)
    else .error .nameSectionSize

end FirmwareSymbols.Elf
