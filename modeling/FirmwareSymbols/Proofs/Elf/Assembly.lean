import FirmwareSymbols.Proofs.Elf.Image

/-!
# Assembling images

For any rows that fit a class, an image with them can be written in either byte order: the file header, the rows, their
names one after another, the names of the sections, and the table of section headers. It is well-formed
(`imageOf_assemble`), hence the rows of a symbol table come back from it.
-/

namespace FirmwareSymbols.Elf

/-! ### The string table -/

/-- The names one after another, each with its NUL. -/
def nameBytes (rows : List SymbolRow) : List UInt8 := rows.flatMap fun r => r.name ++ [0]

/-- The string table of the rows starts with the empty name. -/
def stringTable (rows : List SymbolRow) : List UInt8 := [0] ++ nameBytes rows

/-- The rows with the offsets of their names, the first of which stands at `offset`. -/
def place : Nat → List SymbolRow → List (UInt32 × SymbolRow)
  | _, [] => []
  | offset, r :: rows => (UInt32.ofNat offset, r) :: place (offset + r.name.length + 1) rows

theorem map_snd_place (offset : Nat) (rows : List SymbolRow) : (place offset rows).map Prod.snd = rows := by
  induction rows generalizing offset with
  | nil => rfl
  | cons r rows ih => rw [place, List.map_cons, ih]

theorem length_place (offset : Nat) (rows : List SymbolRow) : (place offset rows).length = rows.length := by
  rw [← List.length_map Prod.snd, map_snd_place]

/-- Each name stands at its offset, as long as the offsets fit 32 bits. -/
theorem holds_place (before : List UInt8) {rows : List SymbolRow}
    (h : (before ++ nameBytes rows).length ≤ 2 ^ 32) :
    ∀ p ∈ place before.length rows, Holds (before ++ nameBytes rows) p.1.toNat (p.2.name ++ [0]) := by
  induction rows generalizing before with
  | nil => simp [place]
  | cons r rows ih =>
    have hsplit : before ++ nameBytes (r :: rows) = before ++ (r.name ++ [0]) ++ nameBytes rows := by
      simp [nameBytes]
    have hlen : (before ++ (r.name ++ [0])).length = before.length + r.name.length + 1 := by
      simp only [List.length_append, List.length_singleton]
      omega
    rw [hsplit] at h ⊢
    intro p hp
    rcases List.mem_cons.1 hp with rfl | hp
    -- the name of the first row follows the bytes before it, the others come after that name
    · have hlt : before.length < 2 ^ 32 := by
        rw [List.length_append, hlen] at h
        omega
      show Holds _ (UInt32.ofNat before.length).toNat _
      rw [UInt32.toNat_ofNat_of_lt' hlt]
      exact (holds_end before (r.name ++ [0])).append (nameBytes rows)
    · rw [← hlen] at hp
      exact ih _ h p hp

/-! ### The image -/

/-- The names of the sections: `.symtab` at 1, `.strtab` at 9 and `.shstrtab` at 17. -/
def sectionNameTable : List UInt8 :=
  0 :: (symtabName ++ 0 :: [0x2e, 0x73, 0x74, 0x72, 0x74, 0x61, 0x62, 0, 0x2e, 0x73, 0x68, 0x73, 0x74, 0x72, 0x74, 0x61,
    0x62, 0])

section

variable (word : WordSize) (rows : List SymbolRow)

def stringOffset : Nat := word.headerSize + rows.length * word.symbolSize

def nameOffset : Nat := stringOffset word rows + (stringTable rows).length

def sectionOffset : Nat := nameOffset word rows + sectionNameTable.length

/-- The rows are small enough for the class: their values and all offsets of the image fit. -/
structure FitsClass : Prop where
  values : ∀ r ∈ rows, word.Fits r.value
  strings : (stringTable rows).length ≤ 2 ^ 32
  total : sectionOffset word rows + 4 * word.sectionSize < 256 ^ word.bytes

instance : Decidable (FitsClass word rows) :=
  decidable_of_iff ((∀ r ∈ rows, word.Fits r.value) ∧ (stringTable rows).length ≤ 2 ^ 32 ∧
      sectionOffset word rows + 4 * word.sectionSize < 256 ^ word.bytes)
    ⟨fun h => ⟨h.1, h.2.1, h.2.2⟩, fun h => ⟨h.values, h.strings, h.total⟩⟩

def symbolHeader : SectionHeader where
  name := 1
  kind := 2
  flags := 0
  address := 0
  offset := UInt64.ofNat word.headerSize
  size := UInt64.ofNat (rows.length * word.symbolSize)
  link := 2
  info := 1
  alignment := 1
  entrySize := UInt64.ofNat word.symbolSize

/-- The header of a section that holds names. -/
def namesHeader (name : UInt32) (offset size : Nat) : SectionHeader where
  name := name
  kind := 3
  flags := 0
  address := 0
  offset := UInt64.ofNat offset
  size := UInt64.ofNat size
  link := 0
  info := 0
  alignment := 1
  entrySize := 0

/-- A relocatable file with the three tables. -/
def assembledLayout : Layout where
  header :=
    { abi := Vector.replicate 9 0, kind := 1, machine := 0, version := 1, entry := 0, programOffset := 0
      sectionOffset := UInt64.ofNat (sectionOffset word rows), flags := 0
      headerSize := UInt16.ofNat word.headerSize, programEntrySize := 0, programCount := 0
      sectionEntrySize := UInt16.ofNat word.sectionSize, sectionCount := 4, nameSection := 3 }
  sections :=
    [.null, symbolHeader word rows, namesHeader 9 (stringOffset word rows) (stringTable rows).length,
      namesHeader 17 (nameOffset word rows) sectionNameTable.length]
  names := sectionNameTable
  strings := stringTable rows
  symbols := place 1 rows
  symbolSection := 1

/-- The bytes of an image with the rows. -/
def assemble (order : ByteOrder) : List UInt8 :=
  let l := assembledLayout word rows
  l.header.encode word order ++ l.symbolBytes word order ++ l.strings ++ l.names ++
    l.sections.flatMap fun s => s.encode word order

end

variable {word : WordSize} {rows : List SymbolRow}

private theorem toNat_ofNat_of_lt (word : WordSize) {n : Nat} (h : n < 256 ^ word.bytes) :
    (UInt64.ofNat n).toNat = n := by
  apply UInt64.toNat_ofNat_of_lt'
  cases word with
  | w32 => exact Nat.lt_trans h (by decide)
  | w64 => exact h

private theorem fits_ofNat {n : Nat} (h : n < 256 ^ word.bytes) : word.Fits (UInt64.ofNat n) := by
  rw [WordSize.Fits, toNat_ofNat_of_lt word h]
  exact h

/-! ### Where the pieces stand -/

private theorem length_symbolBytes (word : WordSize) (rows : List SymbolRow) (order : ByteOrder) :
    ((assembledLayout word rows).symbolBytes word order).length = rows.length * word.symbolSize := by
  rw [Layout.symbolBytes, length_flatMap _ _ fun p _ => p.2.length_encode word order p.1]
  show (place 1 rows).length * word.symbolSize = _
  rw [length_place]

private theorem length_sectionBytes (word : WordSize) (rows : List SymbolRow) (order : ByteOrder) :
    ((assembledLayout word rows).sections.flatMap fun s => s.encode word order).length = 4 * word.sectionSize :=
  length_flatMap _ _ fun s _ => s.length_encode word order

theorem length_assemble (word : WordSize) (rows : List SymbolRow) (order : ByteOrder) :
    (assemble word rows order).length = sectionOffset word rows + 4 * word.sectionSize := by
  simp only [assemble, List.length_append, length_sectionBytes, length_symbolBytes, FileHeader.length_encode]
  rfl

private theorem holds_symbolBytes (word : WordSize) (rows : List SymbolRow) (order : ByteOrder) :
    Holds (assemble word rows order) word.headerSize ((assembledLayout word rows).symbolBytes word order) := by
  rw [← FileHeader.length_encode (assembledLayout word rows).header word order]
  exact (((holds_end _ _).append _).append _).append _

private theorem holds_strings (word : WordSize) (rows : List SymbolRow) (order : ByteOrder) :
    Holds (assemble word rows order) (stringOffset word rows) (stringTable rows) := by
  rw [stringOffset, ← length_symbolBytes word rows order,
    ← FileHeader.length_encode (assembledLayout word rows).header word order, ← List.length_append]
  exact ((holds_end _ _).append _).append _

private theorem holds_names (word : WordSize) (rows : List SymbolRow) (order : ByteOrder) :
    Holds (assemble word rows order) (nameOffset word rows) sectionNameTable := by
  rw [nameOffset, stringOffset, ← length_symbolBytes word rows order,
    ← FileHeader.length_encode (assembledLayout word rows).header word order, ← List.length_append,
    ← List.length_append]
  exact (holds_end _ _).append _

private theorem holds_sections (word : WordSize) (rows : List SymbolRow) (order : ByteOrder) :
    Holds (assemble word rows order) (sectionOffset word rows)
      ((assembledLayout word rows).sections.flatMap fun s => s.encode word order) := by
  rw [sectionOffset, nameOffset, stringOffset, ← length_symbolBytes word rows order,
    ← FileHeader.length_encode (assembledLayout word rows).header word order, ← List.length_append,
    ← List.length_append, ← List.length_append]
  exact holds_end _ _

/-- A section whose header tells where its bytes stand. -/
private theorem covers_of_holds (word : WordSize) {image content : List UInt8} {s : SectionHeader} {kind : UInt32}
    {offset : Nat} (hholds : Holds image offset content) (hend : offset + content.length < 256 ^ word.bytes)
    (hkind : s.kind = kind) (hoffset : s.offset = UInt64.ofNat offset) (hsize : s.size = UInt64.ofNat content.length) :
    s.Covers image kind content where
  kind_eq := hkind
  size_eq := by rw [hsize, toNat_ofNat_of_lt word (by omega)]
  holds := by
    rw [hoffset, toNat_ofNat_of_lt word (by omega)]
    exact hholds

private theorem hasSymbols (h : FitsClass word rows) (order : ByteOrder) :
    (assembledLayout word rows).HasSymbols word order (assemble word rows order) (symbolHeader word rows)
      (namesHeader 9 (stringOffset word rows) (stringTable rows).length) where
  at_index := rfl
  covers := by
    have htotal := h.total
    have hlength := length_symbolBytes word rows order
    apply covers_of_holds word (holds_symbolBytes word rows order) _ rfl rfl
    · rw [hlength]
      rfl
    · rw [hlength]
      simp only [sectionOffset, nameOffset, stringOffset] at htotal
      omega
  named := by
    show Holds sectionNameTable 1 (symtabName ++ [0])
    exact ⟨[0], sectionNameTable.drop 9, rfl, rfl⟩
  linked := rfl
  strings := by
    have htotal := h.total
    apply covers_of_holds word (holds_strings word rows order) _ rfl rfl rfl
    simp only [sectionOffset, nameOffset] at htotal
    omega

/-- The assembled image is well-formed. -/
theorem assembledLayout_isImage (h : FitsClass word rows) (order : ByteOrder) :
    (assembledLayout word rows).IsImage word order (assemble word rows order) := by
  have htotal := h.total
  have hsection : sectionOffset word rows = nameOffset word rows + sectionNameTable.length := rfl
  have hname : nameOffset word rows = stringOffset word rows + (stringTable rows).length := rfl
  have hstring : stringOffset word rows = word.headerSize + rows.length * word.symbolSize := rfl
  have hbound : 256 ^ word.bytes ≤ 2 ^ 64 := by cases word <;> decide
  have hheader : 0 < word.headerSize := by cases word <;> decide
  have hoffset : (UInt64.ofNat (sectionOffset word rows)).toNat = sectionOffset word rows :=
    toNat_ofNat_of_lt word (by omega)
  constructor
  case length_lt =>
    rw [length_assemble]
    omega
  case header_at =>
    show Holds _ 0 _
    exact ((((holds_end [] _).append _).append _).append _).append _
  case offset_ne =>
    intro h0
    have hzero : (UInt64.ofNat (sectionOffset word rows)).toNat = 0 := congrArg UInt64.toNat h0
    omega
  case offset_fits => exact fits_ofNat (by omega)
  case entrySize_eq => cases word <;> rfl
  case count_eq => rfl
  case sections_at =>
    show Holds _ (UInt64.ofNat (sectionOffset word rows)).toNat _
    rw [hoffset]
    exact holds_sections word rows order
  case sections_fit =>
    have hpos : 0 < 256 ^ word.bytes := by omega
    intro s hs
    simp only [assembledLayout, List.mem_cons, List.not_mem_nil, or_false] at hs
    rcases hs with rfl | rfl | rfl | rfl
    · exact ⟨hpos, hpos⟩
    · exact ⟨fits_ofNat (by omega), fits_ofNat (by omega)⟩
    · exact ⟨fits_ofNat (by omega), fits_ofNat (by omega)⟩
    · exact ⟨fits_ofNat (by omega), fits_ofNat (by omega)⟩
  case first_null => rfl
  case names_at =>
    have hend : nameOffset word rows + sectionNameTable.length < 256 ^ word.bytes := by omega
    refine ⟨namesHeader 17 (nameOffset word rows) sectionNameTable.length, rfl, ?_⟩
    exact covers_of_holds word (holds_names word rows order) hend rfl rfl rfl
  case symbols_at => exact ⟨_, _, hasSymbols h order⟩
  case symbols_first =>
    -- only the null section comes before, and the table of section names starts with the empty name
    intro i s hi hs hholds
    obtain rfl : i = 0 := by
      have : i < 1 := hi
      omega
    obtain rfl : SectionHeader.null = s := Option.some.inj hs
    have hfirst : sectionNameTable[0]? = some 0x2e := (holds_cons_iff.1 hholds).1
    revert hfirst
    decide
  case symbols_fit =>
    intro p hp
    have hmem : p.2 ∈ rows := by
      rw [← map_snd_place 1 rows]
      exact List.mem_map_of_mem hp
    exact ⟨h.values p.2 hmem, holds_place [0] h.strings p hp⟩
  case extended_at =>
    -- there is no section of this type
    intro s hs hkind
    simp only [assembledLayout, List.mem_cons, List.not_mem_nil, or_false] at hs
    rcases hs with rfl | rfl | rfl | rfl
    · exact absurd (show (0 : UInt32) = 18 from hkind) (by decide)
    · exact absurd (show (2 : UInt32) = 18 from hkind) (by decide)
    · exact absurd (show (3 : UInt32) = 18 from hkind) (by decide)
    · exact absurd (show (3 : UInt32) = 18 from hkind) (by decide)

theorem imageOf_assemble (h : FitsClass word rows) (order : ByteOrder) :
    ImageOf word order rows (assemble word rows order) :=
  ⟨assembledLayout word rows, assembledLayout_isImage h order, map_snd_place 1 rows⟩

/-- Rows that fit the smaller class fit both. -/
theorem FitsClass.of_w32 (h : FitsClass .w32 rows) (word : WordSize) : FitsClass word rows := by
  cases word with
  | w32 => exact h
  | w64 =>
    obtain ⟨hvalues, hstrings, htotal⟩ := h
    refine ⟨fun r _ => r.value.toNat_lt, hstrings, ?_⟩
    simp only [sectionOffset, nameOffset, stringOffset, WordSize.headerSize, WordSize.symbolSize,
      WordSize.sectionSize, WordSize.bytes] at htotal ⊢
    omega

end FirmwareSymbols.Elf

namespace FirmwareSymbols

open Elf

theorem parseSymbols_of_imageOf {word : WordSize} {order : ByteOrder} {rows : List SymbolRow} {image : ByteArray}
    (h : ImageOf word order rows image.data.toList) (path : Path) :
    parseSymbols image path = .ok (rows.map SymbolRow.symbol) := by
  obtain ⟨l, hl, rfl⟩ := h
  rw [parseSymbols, hl.parse_eq]

/-- A global reference. -/
def referenceRow (name : List UInt8) (h : 0 ∉ name) : SymbolRow := ⟨name, h, 1, 0, 0, 0, 0, 0⟩

/-- A global function of four bytes in the first section. -/
def functionRow (name : List UInt8) (h : 0 ∉ name) : SymbolRow := ⟨name, h, 1, 2, 0, 1, 0x8000, 4⟩

/-- A 32-bit little-endian image with these rows. -/
def imageOfRows (rows : List SymbolRow) : ByteArray := ⟨(assemble .w32 rows .little).toArray⟩

theorem parseSymbols_imageOfRows {rows : List SymbolRow} (h : FitsClass .w32 rows) (path : Path) :
    parseSymbols (imageOfRows rows) path = .ok (rows.map SymbolRow.symbol) :=
  parseSymbols_of_imageOf (imageOf_assemble h .little) path

/-- A well-formed image of any class and byte order is parsed to the symbols of its rows, in table order; there is one
for all rows that fit the class; and the images of the same rows in the four flavours are parsed to the same list. -/
theorem parseSymbols_image (rows : List SymbolRow) (path : Path) :
    (∀ word order (image : ByteArray), ImageOf word order rows image.data.toList →
      parseSymbols image path = .ok (rows.map SymbolRow.symbol)) ∧
    (∀ word order, FitsClass word rows → ImageOf word order rows (assemble word rows order) ∧
      parseSymbols ⟨(assemble word rows order).toArray⟩ path = .ok (rows.map SymbolRow.symbol)) ∧
    (FitsClass .w32 rows → ∀ word order word' order',
      parseSymbols ⟨(assemble word rows order).toArray⟩ path =
        parseSymbols ⟨(assemble word' rows order').toArray⟩ path) := by
  have hassemble : ∀ word order, FitsClass word rows →
      parseSymbols ⟨(assemble word rows order).toArray⟩ path = .ok (rows.map SymbolRow.symbol) :=
    fun word order h => parseSymbols_of_imageOf (imageOf_assemble h order) path
  refine ⟨?_, ?_, ?_⟩
  · intro word order image h
    exact parseSymbols_of_imageOf h path
  · intro word order h
    exact ⟨imageOf_assemble h order, hassemble word order h⟩
  · intro h word order word' order'
    rw [hassemble word order (h.of_w32 word), hassemble word' order' (h.of_w32 word')]

/-- The null row, a reference, and a weak hidden definition whose name is not UTF-8. -/
def mixedRows : List SymbolRow :=
  [⟨[], by decide, 0, 0, 0, 0, 0, 0⟩, ⟨[0x66, 0x6f, 0x6f], by decide, 1, 0, 0, 0, 0, 0⟩,
    ⟨[0x62, 0xff], by decide, 2, 2, 0xf6, 0xfff1, 0x8001234, 4⟩]

theorem fits_mixedRows : FitsClass .w32 mixedRows := by
  have hvalues : ∀ r ∈ mixedRows, WordSize.w32.Fits r.value := by
    intro r hr
    simp only [mixedRows, List.mem_cons, List.not_mem_nil, or_false] at hr
    rcases hr with rfl | rfl | rfl
    · show 0 < 256 ^ 4
      decide
    · show 0 < 256 ^ 4
      decide
    · show 0x8001234 < 256 ^ 4
      decide
  exact ⟨hvalues, by decide, by decide⟩

theorem parseSymbols_mixed_image :
    FitsClass .w32 mixedRows ∧
      parseSymbols ⟨(assemble .w64 mixedRows .big).toArray⟩ ⟨"host.elf"⟩ =
        .ok [⟨"", .local, .noType, .undefined, .default, 0⟩, ⟨"foo", .global, .noType, .undefined, .default, 0⟩,
          ⟨"b\ufffd", .weak, .func, .absolute, .hidden, 0x8001234⟩] ∧
      parseSymbols ⟨(assemble .w32 mixedRows .little).toArray⟩ ⟨"host.elf"⟩ =
        parseSymbols ⟨(assemble .w64 mixedRows .big).toArray⟩ ⟨"host.elf"⟩ := by
  have hfits := fits_mixedRows
  have hsymbols : mixedRows.map SymbolRow.symbol =
      [⟨"", .local, .noType, .undefined, .default, 0⟩, ⟨"foo", .global, .noType, .undefined, .default, 0⟩,
        ⟨"b\ufffd", .weak, .func, .absolute, .hidden, 0x8001234⟩] := by decide +kernel
  obtain ⟨himage, hassembled, hflavours⟩ := parseSymbols_image mixedRows ⟨"host.elf"⟩
  have hbig := (hassembled .w64 .big (hfits.of_w32 .w64)).1
  refine ⟨hfits, ?_, hflavours hfits .w32 .little .w64 .big⟩
  rw [himage .w64 .big ⟨(assemble .w64 mixedRows .big).toArray⟩ hbig, hsymbols]

end FirmwareSymbols
