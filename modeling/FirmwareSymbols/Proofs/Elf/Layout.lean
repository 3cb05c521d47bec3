import FirmwareSymbols.Elf.SymbolTable
import FirmwareSymbols.Proofs.Elf.Bytes

/-!
# Records of ELF images

How the file header, the section headers and the rows of a symbol table stand in a file of either class and either
byte order, field by field. Each of the three records is read back as it was written (`parseHeader_of_holds`,
`decodeSection_encode`, `readRow_encode`).
-/

namespace FirmwareSymbols.Elf

/-- The number is below the bound for addresses and offsets of the class. -/
def WordSize.Fits (word : WordSize) (n : UInt64) : Prop := n.toNat < 256 ^ word.bytes

instance (word : WordSize) (n : UInt64) : Decidable (word.Fits n) := inferInstanceAs (Decidable (_ < _))

/-- The class byte of the identification. -/
def WordSize.code : WordSize → UInt8
  | .w32 => 1
  | .w64 => 2

/-- The byte of the identification that tells the byte order. -/
def ByteOrder.code : ByteOrder → UInt8
  | .little => 1
  | .big => 2

namespace ByteOrder

def half (order : ByteOrder) (n : UInt16) : List UInt8 := order.bytes 2 n.toNat

def long (order : ByteOrder) (n : UInt32) : List UInt8 := order.bytes 4 n.toNat

/-- Addresses, offsets and sizes have the width of the class. -/
def address (order : ByteOrder) (word : WordSize) (n : UInt64) : List UInt8 := order.bytes word.bytes n.toNat

variable (order : ByteOrder) (widths : List Nat) (rest : List UInt8)

theorem fields_half (n : UInt16) :
    fields order (2 :: widths) (order.half n ++ rest) = n.toNat :: fields order widths rest := by
  have hn : n.toNat < 256 ^ 2 := n.toNat_lt
  rw [half, fields_bytes, Nat.mod_eq_of_lt hn]

theorem fields_long (n : UInt32) :
    fields order (4 :: widths) (order.long n ++ rest) = n.toNat :: fields order widths rest := by
  have hn : n.toNat < 256 ^ 4 := n.toNat_lt
  rw [long, fields_bytes, Nat.mod_eq_of_lt hn]

theorem fields_address (word : WordSize) (n : UInt64) :
    fields order (word.bytes :: widths) (order.address word n ++ rest) =
      n.toNat % 256 ^ word.bytes :: fields order widths rest := by
  rw [address, fields_bytes]

end ByteOrder

/-! ### The file header -/

/-- The fields of a file header; `abi` stands for the rest of the identification. -/
structure FileHeader where
  abi : Vector UInt8 9
  kind : UInt16
  machine : UInt16
  version : UInt32
  entry : UInt64
  programOffset : UInt64
  sectionOffset : UInt64
  flags : UInt32
  headerSize : UInt16
  programEntrySize : UInt16
  programCount : UInt16
  sectionEntrySize : UInt16
  sectionCount : UInt16
  nameSection : UInt16

namespace FileHeader

def identification (h : FileHeader) (word : WordSize) (order : ByteOrder) : List UInt8 :=
  0x7f :: 0x45 :: 0x4c :: 0x46 :: word.code :: order.code :: 1 :: h.abi.toList

def record (h : FileHeader) (word : WordSize) (order : ByteOrder) : List UInt8 :=
  order.half h.kind ++ (order.half h.machine ++ (order.long h.version ++ (order.address word h.entry ++
    (order.address word h.programOffset ++ (order.address word h.sectionOffset ++ (order.long h.flags ++
      (order.half h.headerSize ++ (order.half h.programEntrySize ++ (order.half h.programCount ++
        (order.half h.sectionEntrySize ++ (order.half h.sectionCount ++ (order.half h.nameSection ++ []))))))))))))

def encode (h : FileHeader) (word : WordSize) (order : ByteOrder) : List UInt8 :=
  h.identification word order ++ h.record word order

theorem length_identification (h : FileHeader) (word : WordSize) (order : ByteOrder) :
    (h.identification word order).length = 16 := by simp [identification]

theorem length_encode (h : FileHeader) (word : WordSize) (order : ByteOrder) :
    (h.encode word order).length = word.headerSize := by
  rw [encode, List.length_append, length_identification]
  cases word <;> simp [record, ByteOrder.half, ByteOrder.long, ByteOrder.address, WordSize.bytes, WordSize.headerSize]

end FileHeader

theorem wordSize_of_holds {data : Array UInt8} {h : FileHeader} {word : WordSize} {order : ByteOrder}
    (hh : Holds data.toList 0 (h.encode word order)) : wordSize data = .ok word := by
  have hsize : ¬ data.size < 16 := by
    have hle := hh.length_le
    rw [h.length_encode, Array.length_toList] at hle
    cases word <;> simp only [WordSize.headerSize] at hle <;> omega
  -- the class is among the first eight bytes
  obtain ⟨before, after, hd, hb⟩ := hh
  obtain rfl := List.length_eq_zero_iff.1 hb
  have hfirst : (data.extract 0 8).toList =
      0x7f :: 0x45 :: 0x4c :: 0x46 :: word.code :: order.code :: 1 ::
        (h.abi.toList ++ h.record word order ++ after).take 1 := by
    rw [Array.toList_extract, List.extract_eq_take_drop, hd]
    simp [FileHeader.encode, FileHeader.identification]
  rw [wordSize, if_neg hsize, hfirst]
  cases word <;> rfl

theorem parseHeader_of_holds {data : Array UInt8} {h : FileHeader} {word : WordSize} {order : ByteOrder}
    (hh : Holds data.toList 0 (h.encode word order)) (hfits : word.Fits h.sectionOffset) :
    parseHeader word data = .ok ⟨word, order, h.sectionOffset.toNat, h.sectionEntrySize.toNat,
      h.sectionCount.toNat, h.nameSection.toNat⟩ := by
  have hslice := hh.slice?_eq
  rw [h.length_encode] at hslice
  have hfields : fields order (headerFields word) (h.record word order) =
      [h.kind.toNat, h.machine.toNat, h.version.toNat, h.entry.toNat % 256 ^ word.bytes,
        h.programOffset.toNat % 256 ^ word.bytes, h.sectionOffset.toNat, h.flags.toNat, h.headerSize.toNat,
        h.programEntrySize.toNat, h.programCount.toNat, h.sectionEntrySize.toNat, h.sectionCount.toNat,
        h.nameSection.toNat] := by
    have hmod := Nat.mod_eq_of_lt hfits
    simp only [headerFields, FileHeader.record, ByteOrder.fields_half, ByteOrder.fields_long,
      ByteOrder.fields_address, hmod, fields_nil]
  have hbytes : h.encode word order = 0x7f :: 0x45 :: 0x4c :: 0x46 :: word.code :: order.code :: 1 ::
      (h.abi.toList ++ h.record word order) := rfl
  rw [parseHeader, hslice, hbytes]
  cases order <;> simp [ByteOrder.code, hfields]

/-! ### Section headers -/

/-- The fields of a section header. -/
structure SectionHeader where
  name : UInt32
  kind : UInt32
  flags : UInt64
  address : UInt64
  offset : UInt64
  size : UInt64
  link : UInt32
  info : UInt32
  alignment : UInt64
  entrySize : UInt64

namespace SectionHeader

/-- The header that every table of section headers starts with. -/
def null : SectionHeader := ⟨0, 0, 0, 0, 0, 0, 0, 0, 0, 0⟩

def encode (s : SectionHeader) (word : WordSize) (order : ByteOrder) : List UInt8 :=
  order.long s.name ++ (order.long s.kind ++ (order.address word s.flags ++ (order.address word s.address ++
    (order.address word s.offset ++ (order.address word s.size ++ (order.long s.link ++ (order.long s.info ++
      (order.address word s.alignment ++ (order.address word s.entrySize ++ [])))))))))

theorem length_encode (s : SectionHeader) (word : WordSize) (order : ByteOrder) :
    (s.encode word order).length = word.sectionSize := by
  cases word <;> simp [encode, ByteOrder.long, ByteOrder.address, WordSize.bytes, WordSize.sectionSize]

/-- What is read of a section header. -/
def decoded (s : SectionHeader) : Section :=
  ⟨s.name.toNat, s.kind.toNat, s.offset.toNat, s.size.toNat, s.link.toNat⟩

/-- Offset and size of the section are numbers of the class. -/
def Fits (s : SectionHeader) (word : WordSize) : Prop := word.Fits s.offset ∧ word.Fits s.size

theorem decodeSection_encode {s : SectionHeader} {word : WordSize} (order : ByteOrder) (h : s.Fits word) :
    decodeSection word order (s.encode word order) = s.decoded := by
  have hfields : fields order (sectionFields word) (s.encode word order) =
      [s.name.toNat, s.kind.toNat, s.flags.toNat % 256 ^ word.bytes, s.address.toNat % 256 ^ word.bytes,
        s.offset.toNat, s.size.toNat, s.link.toNat, s.info.toNat, s.alignment.toNat % 256 ^ word.bytes,
        s.entrySize.toNat % 256 ^ word.bytes] := by
    have hoffset := Nat.mod_eq_of_lt h.1
    have hsize := Nat.mod_eq_of_lt h.2
    simp only [sectionFields, encode, ByteOrder.fields_long, ByteOrder.fields_address, hoffset, hsize, fields_nil]
  rw [decodeSection, hfields]
  rfl

end SectionHeader

/-! ### Rows of the symbol table -/

/-- A row of a symbol table with its name. -/
structure SymbolRow where
  name : List UInt8
  noNul : 0 ∉ name
  binding : Fin 16
  kind : Fin 16
  other : UInt8
  home : UInt16
  value : UInt64
  size : UInt64

namespace SymbolRow

/-- Binding and type share a byte. -/
def info (r : SymbolRow) : UInt8 := UInt8.ofNat (16 * r.binding.val + r.kind.val)

/-- The row as it stands in a file, its name being at this offset of the string table. In 32-bit files value and size
come before the attributes. -/
def encode (r : SymbolRow) (word : WordSize) (order : ByteOrder) (nameOffset : UInt32) : List UInt8 :=
  match word with
  | .w32 =>
    order.long nameOffset ++ (order.address .w32 r.value ++ (order.address .w32 r.size ++
      (r.info :: r.other :: (order.half r.home ++ []))))
  | .w64 =>
    order.long nameOffset ++ (r.info :: r.other :: (order.half r.home ++
      (order.address .w64 r.value ++ (order.address .w64 r.size ++ []))))

theorem length_encode (r : SymbolRow) (word : WordSize) (order : ByteOrder) (nameOffset : UInt32) :
    (r.encode word order nameOffset).length = word.symbolSize := by
  cases word <;>
    simp [encode, ByteOrder.half, ByteOrder.long, ByteOrder.address, WordSize.bytes, WordSize.symbolSize]

/-- The symbol that the row stands for: the name read as UTF-8, the visibility taken from the two low bits. -/
def symbol (r : SymbolRow) : Symbol where
  name := Text.decodeLossy r.name
  binding := .ofCode (UInt8.ofNat r.binding.val)
  kind := .ofCode (UInt8.ofNat r.kind.val)
  home := .ofCode r.home
  visibility := .ofCode (r.other &&& 3)
  value := r.value

/-- The row as it is read back, its name being at this offset of the string table. -/
def row (r : SymbolRow) (nameOffset : UInt32) : Row :=
  ⟨nameOffset.toNat, r.info.toNat, r.other.toNat, r.home.toNat, r.value.toNat⟩

theorem decodeRow_encode {r : SymbolRow} {word : WordSize} (order : ByteOrder) (nameOffset : UInt32)
    (h : word.Fits r.value) :
    decodeRow word order (r.encode word order nameOffset) =
      ⟨nameOffset.toNat, r.info.toNat, r.other.toNat, r.home.toNat, r.value.toNat⟩ := by
  have hvalue := Nat.mod_eq_of_lt h
  cases word with
  | w32 =>
    have hfields : fields order (rowFields .w32) (r.encode .w32 order nameOffset) =
        [nameOffset.toNat, r.value.toNat, r.size.toNat % 256 ^ 4, r.info.toNat, r.other.toNat, r.home.toNat] := by
      show fields order [4, WordSize.w32.bytes, WordSize.w32.bytes, 1, 1, 2] _ = _
      rw [encode, ByteOrder.fields_long, ByteOrder.fields_address, ByteOrder.fields_address, fields_byte, fields_byte,
        ByteOrder.fields_half, fields_nil, hvalue]
      rfl
    simp only [decodeRow, hfields]
  | w64 =>
    have hfields : fields order (rowFields .w64) (r.encode .w64 order nameOffset) =
        [nameOffset.toNat, r.info.toNat, r.other.toNat, r.home.toNat, r.value.toNat, r.size.toNat % 256 ^ 8] := by
      show fields order [4, 1, 1, 2, WordSize.w64.bytes, WordSize.w64.bytes] _ = _
      rw [encode, ByteOrder.fields_long, fields_byte, fields_byte, ByteOrder.fields_half, ByteOrder.fields_address,
        ByteOrder.fields_address, fields_nil, hvalue]
      rfl
    simp only [decodeRow, hfields]

private theorem and_three (b : UInt8) : UInt8.ofNat (b.toNat % 4) = b &&& 3 := by
  have hthree : b.toNat &&& 3 = b.toNat % 4 := Nat.and_two_pow_sub_one_eq_mod b.toNat 2
  apply UInt8.toNat_inj.1
  rw [UInt8.toNat_and, UInt8.toNat_ofNat']
  show b.toNat % 4 % 2 ^ 8 = b.toNat &&& 3
  omega

theorem readRow_encode {r : SymbolRow} {word : WordSize} (order : ByteOrder) {nameOffset : UInt32}
    {strings : Array UInt8} (h : word.Fits r.value) (hname : Holds strings.toList nameOffset.toNat (r.name ++ [0])) :
    readRow word order strings (r.encode word order nameOffset) = .ok r.symbol := by
  have hname' : nameAt? strings nameOffset.toNat = some r.name := nameAt?_eq_some_iff.2 ⟨r.noNul, hname⟩
  have hinfo : r.info.toNat = 16 * r.binding.val + r.kind.val := by
    rw [info, UInt8.toNat_ofNat']
    omega
  rw [readRow, decodeRow_encode order nameOffset h]
  simp only [hname', Row.symbol, symbol, hinfo, and_three, UInt16.ofNat_toNat, UInt64.ofNat_toNat]
  have hbinding : (16 * r.binding.val + r.kind.val) / 16 = r.binding.val := by omega
  have hkind : (16 * r.binding.val + r.kind.val) % 16 = r.kind.val := by omega
  rw [hbinding, hkind]

end SymbolRow

end FirmwareSymbols.Elf
