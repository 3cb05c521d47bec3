import FirmwareSymbols.Proofs.Elf.Layout
import FirmwareSymbols.Proofs.Elf.Rows

/-!
# Well-formed images

`Layout.IsImage` says that the bytes of a file are a well-formed ELF image: a file header, a table of section headers
that starts with the null section, a table with the names of the sections, and a section `.symtab` whose rows have
their names in the table that the section links to. Nothing is said about where these parts stand, about other
sections, or about the order of names in the tables. Such an image is parsed to the symbols of its rows
(`Layout.IsImage.parse_eq`): the steps of the parser are followed one after another. The rows that stand in it are the
rows of the layout (`Layout.IsImage.hasRow_iff`).
-/

namespace FirmwareSymbols.Elf

/-- `.symtab`. -/
def symtabName : List UInt8 := [0x2e, 0x73, 0x79, 0x6d, 0x74, 0x61, 0x62]

/-- The section has this type, and its bytes in the image are the content. -/
structure SectionHeader.Covers (s : SectionHeader) (image : List UInt8) (kind : UInt32) (content : List UInt8) :
    Prop where
  kind_eq : s.kind = kind
  size_eq : s.size.toNat = content.length
  holds : Holds image s.offset.toNat content

/-- The parts of an image. Each row comes with the offset of its name in the string table. -/
structure Layout where
  header : FileHeader
  sections : List SectionHeader
  names : List UInt8
  strings : List UInt8
  symbols : List (UInt32 × SymbolRow)
  symbolSection : Nat

namespace Layout

def rows (l : Layout) : List SymbolRow := l.symbols.map Prod.snd

def symbolBytes (l : Layout) (word : WordSize) (order : ByteOrder) : List UInt8 :=
  l.symbols.flatMap fun p => p.2.encode word order p.1

/-- The symbol table: type 2, called `.symtab`, linked to the string table, which has type 3. -/
structure HasSymbols (l : Layout) (word : WordSize) (order : ByteOrder) (image : List UInt8) (s t : SectionHeader) :
    Prop where
  at_index : l.sections[l.symbolSection]? = some s
  covers : s.Covers image 2 (l.symbolBytes word order)
  named : Holds l.names s.name.toNat (symtabName ++ [0])
  linked : l.sections[s.link.toNat]? = some t
  strings : t.Covers image 3 l.strings

structure IsImage (l : Layout) (word : WordSize) (order : ByteOrder) (image : List UInt8) : Prop where
  length_lt : image.length < 2 ^ 64
  header_at : Holds image 0 (l.header.encode word order)
  /-- An offset of zero would mean that there are no sections. -/
  offset_ne : l.header.sectionOffset ≠ 0
  offset_fits : word.Fits l.header.sectionOffset
  entrySize_eq : l.header.sectionEntrySize.toNat = word.sectionSize
  count_eq : l.header.sectionCount.toNat = l.sections.length
  sections_at : Holds image l.header.sectionOffset.toNat (l.sections.flatMap fun s => s.encode word order)
  sections_fit : ∀ s ∈ l.sections, s.Fits word
  first_null : l.sections[0]? = some .null
  names_at : ∃ s, l.sections[l.header.nameSection.toNat]? = some s ∧ s.Covers image 3 l.names
  symbols_at : ∃ s t, l.HasSymbols word order image s t
  /-- No section before the symbol table has its name. -/
  symbols_first : ∀ i s, i < l.symbolSection → l.sections[i]? = some s →
    ¬ Holds l.names s.name.toNat (symtabName ++ [0])
  symbols_fit : ∀ p ∈ l.symbols, word.Fits p.2.value ∧ Holds l.strings p.1.toNat (p.2.name ++ [0])
  /-- Sections with extended indices (type 18) for the symbol table consist of indices of four bytes. -/
  extended_at : ∀ s ∈ l.sections, s.kind = 18 → s.link.toNat = l.symbolSection →
    ∃ content, s.Covers image 18 content ∧ 4 ∣ content.length

end Layout

/-- The image of some layout with these rows. -/
def ImageOf (word : WordSize) (order : ByteOrder) (rows : List SymbolRow) (image : List UInt8) : Prop :=
  ∃ l : Layout, l.IsImage word order image ∧ l.rows = rows

/-! ### Sections -/

namespace SectionHeader.Covers

variable {s : SectionHeader} {data : Array UInt8} {kind : UInt32} {content : List UInt8}

theorem slice?_eq (h : s.Covers data.toList kind content) :
    slice? data s.decoded.offset s.decoded.size = some content.toArray := by
  show slice? data s.offset.toNat s.size.toNat = _
  rw [h.size_eq, h.holds.slice?_eq]

theorem table_eq (h : s.Covers data.toList kind content) : s.decoded.table data = content.toArray := by
  rw [Section.table, h.slice?_eq, Option.getD_some]

theorem fits (h : s.Covers data.toList kind content) (hlt : data.toList.length < 2 ^ 64) : s.decoded.fits = true := by
  have hle := h.holds.length_le
  have hbound : offsetBound = 2 ^ 64 := rfl
  rw [← h.size_eq] at hle
  show decide (s.offset.toNat + s.size.toNat < offsetBound) = true
  rw [decide_eq_true_eq]
  omega

/-- A section of whole records is cut into them. -/
theorem rows?_eq (h : s.Covers data.toList kind content) (hkind : kind ≠ 8) {width : Nat}
    (hdvd : width ∣ content.length) :
    rows? s.decoded data width = some (chunks width (content.length / width) content) := by
  have hbits : s.decoded.kind ≠ noBitsKind := by
    intro h8
    apply hkind
    rw [← h.kind_eq]
    exact UInt32.toNat_inj.1 h8
  have hmod : content.length % width = 0 := Nat.mod_eq_zero_of_dvd hdvd
  rw [rows?, Section.data?, if_neg hbits, h.slice?_eq]
  simp [hmod]

end SectionHeader.Covers

namespace Layout.IsImage

variable {l : Layout} {word : WordSize} {order : ByteOrder} {data : Array UInt8}

/-- A step of the parser that goes well. -/
private theorem ok_bind {α β : Type} (a : α) (f : α → Except Fault β) : (Except.ok a >>= f) = f a := rfl

/-- The header that the parser reads. -/
private def readHeader (l : Layout) (word : WordSize) (order : ByteOrder) : Header :=
  ⟨word, order, l.header.sectionOffset.toNat, l.header.sectionEntrySize.toNat, l.header.sectionCount.toNat,
    l.header.nameSection.toNat⟩

private theorem decoded_getElem? {i : Nat} {s : SectionHeader} (h : l.sections[i]? = some s) :
    (l.sections.map SectionHeader.decoded)[i]? = some s.decoded := by
  rw [List.getElem?_map, h, Option.map_some]

/-- The null section is neither a table of names nor a table of symbols. -/
private theorem index_ne_zero (h : l.IsImage word order data.toList) {i : Nat} {s : SectionHeader} {kind : UInt32}
    {content : List UInt8} (hs : l.sections[i]? = some s) (hc : s.Covers data.toList kind content) (hkind : kind ≠ 0) :
    i ≠ 0 := by
  rintro rfl
  rw [h.first_null, Option.some.injEq] at hs
  apply hkind
  rw [← hc.kind_eq, ← hs]
  rfl

private theorem sectionNumber_eq (h : l.IsImage word order data.toList) :
    (readHeader l word order).sectionNumber data = .ok l.sections.length ∧ l.sections.length ≠ 0 := by
  have hpos : 0 < l.sections.length := (List.getElem?_eq_some_iff.1 h.first_null).1
  have hcount : (readHeader l word order).sectionCount = l.sections.length := h.count_eq
  refine ⟨?_, by omega⟩
  rw [Header.sectionNumber, hcount, if_pos (by omega)]

/-- All section headers are read. -/
private theorem sections_eq (h : l.IsImage word order data.toList) :
    (readHeader l word order).sections data = .ok (l.sections.map SectionHeader.decoded) := by
  obtain ⟨hnumber, hpos⟩ := sectionNumber_eq h
  have hoffset : (readHeader l word order).sectionOffset ≠ 0 := fun h0 => h.offset_ne (UInt64.toNat_inj.1 h0)
  have hentry : ¬ (readHeader l word order).sectionEntrySize ≠ (readHeader l word order).word.sectionSize :=
    not_not.2 h.entrySize_eq
  have hslice : slice? data (readHeader l word order).sectionOffset
      (l.sections.length * (readHeader l word order).word.sectionSize) =
      some (l.sections.flatMap fun s => s.encode word order).toArray := by
    show slice? data _ (l.sections.length * word.sectionSize) = _
    rw [← length_flatMap (fun s : SectionHeader => s.encode word order) l.sections
      fun s _ => s.length_encode word order]
    exact h.sections_at.slice?_eq
  have hdecode : (l.sections.map fun s => s.encode word order).map (decodeSection word order) =
      l.sections.map SectionHeader.decoded := by
    rw [List.map_map]
    apply List.map_congr_left
    intro s hs
    exact SectionHeader.decodeSection_encode order (h.sections_fit s hs)
  rw [Header.sections, if_neg hoffset, hnumber, ok_bind, if_neg hpos, if_neg hentry, hslice]
  show Except.ok ((chunks word.sectionSize l.sections.length
    (l.sections.flatMap fun s => s.encode word order)).map (decodeSection word order)) = _
  rw [chunks_flatMap _ _ fun s _ => s.length_encode word order, hdecode]

/-- The table with the names of the sections is read. -/
private theorem sectionNames_eq (h : l.IsImage word order data.toList) :
    sectionNames (readHeader l word order) data (l.sections.map SectionHeader.decoded) = .ok l.names.toArray := by
  obtain ⟨s, hs, hc⟩ := h.names_at
  have hzero : (readHeader l word order).nameSection ≠ 0 := index_ne_zero h hs hc (by decide)
  -- the index is below the number of sections, which is a half word
  have hext : (readHeader l word order).nameSection ≠ Header.extendedIndex := by
    have hlt := (List.getElem?_eq_some_iff.1 hs).1
    have hcount := h.count_eq
    have hmax := l.header.sectionCount.toNat_lt
    show l.header.nameSection.toNat ≠ 0xffff
    omega
  have hindex : (readHeader l word order).nameSectionIndex data = .ok l.header.nameSection.toNat := by
    rw [Header.nameSectionIndex, if_pos hext]
    exact if_neg hzero
  have hbits : s.decoded.kind ≠ noBitsKind := by
    show s.kind.toNat ≠ 8
    rw [hc.kind_eq]
    decide
  rw [sectionNames, hindex, ok_bind, decoded_getElem? hs]
  show (if s.decoded.kind = noBitsKind then _ else if s.decoded.fits then _ else _) = _
  rw [if_neg hbits, if_pos (hc.fits h.length_lt), hc.table_eq]

private theorem symbolSectionName_eq : symbolSectionName = symtabName := by decide +kernel

/-- The name of a section is `.symtab` if the table of names has it there. -/
private theorem nameAt?_symtab_iff {names : List UInt8} {s : SectionHeader} :
    nameAt? names.toArray s.decoded.name = some symbolSectionName ↔ Holds names s.name.toNat (symtabName ++ [0]) := by
  have hclean : (0 : UInt8) ∉ symtabName := by decide
  rw [symbolSectionName_eq, nameAt?_eq_some_iff]
  exact ⟨And.right, fun h => ⟨hclean, h⟩⟩

/-- The symbol table is found by its name. -/
private theorem sectionNamed?_eq (h : l.IsImage word order data.toList) :
    sectionNamed? l.names.toArray symbolSectionName (l.sections.map SectionHeader.decoded) = some l.symbolSection := by
  obtain ⟨s, t, hs⟩ := h.symbols_at
  obtain ⟨hlt, hget⟩ := List.getElem?_eq_some_iff.1 hs.at_index
  rw [sectionNamed?, List.findIdx?_eq_some_iff_getElem]
  refine ⟨by simpa using hlt, ?_, ?_⟩
  · simp only [List.getElem_map, hget, decide_eq_true_eq]
    exact nameAt?_symtab_iff.2 hs.named
  · intro j hj
    have hjlt : j < l.sections.length := by omega
    simp only [List.getElem_map, decide_eq_true_eq]
    intro hname
    exact h.symbols_first j l.sections[j] hj (List.getElem?_eq_getElem hjlt) (nameAt?_symtab_iff.1 hname)

private theorem sectionAt_eq {i : Nat} {s : SectionHeader} (hs : l.sections[i]? = some s) (hi : i ≠ 0) :
    sectionAt (l.sections.map SectionHeader.decoded) i = .ok s.decoded := by
  rw [sectionAt, if_neg hi, decoded_getElem? hs]

/-- The string table is read through the link of the symbol table. -/
private theorem linkedNames_eq (h : l.IsImage word order data.toList) {i : Nat} {t : SectionHeader}
    (ht : l.sections[i]? = some t) (hc : t.Covers data.toList 3 l.strings) :
    linkedNames data (l.sections.map SectionHeader.decoded) i = .ok l.strings.toArray := by
  have hzero : i ≠ 0 := index_ne_zero h ht hc (by decide)
  have hkind : ¬ t.decoded.kind ≠ stringTableKind := by
    show ¬ t.kind.toNat ≠ 3
    rw [hc.kind_eq]
    decide
  rw [linkedNames, if_neg hzero, sectionAt_eq ht hzero, ok_bind, if_neg hkind, if_pos (hc.fits h.length_lt),
    hc.table_eq]

/-- Extended indices do no harm. -/
private theorem checkExtendedIndices_eq (h : l.IsImage word order data.toList) :
    checkExtendedIndices data l.symbolSection (l.sections.map SectionHeader.decoded) = .ok () := by
  have hext := h.extended_at
  generalize l.sections = sections at hext
  induction sections with
  | nil => rfl
  | cons s sections ih =>
    have hs : (s.decoded.kind = extendedIndexKind && s.decoded.link = l.symbolSection &&
        (rows? s.decoded data extendedIndexSize).isNone) = false := by
      -- only a section of indices that belongs to the symbol table is looked at
      by_cases hk : s.kind = 18 ∧ s.link.toNat = l.symbolSection
      · obtain ⟨content, hc, hdvd⟩ := hext s (by simp) hk.1 hk.2
        have hdvd' : extendedIndexSize ∣ content.length := hdvd
        rw [hc.rows?_eq (by decide) hdvd']
        simp
      · have hk' : ¬ (s.decoded.kind = extendedIndexKind ∧ s.decoded.link = l.symbolSection) := by
          rintro ⟨hkind, hlink⟩
          exact hk ⟨UInt32.toNat_inj.1 hkind, hlink⟩
        simpa using fun hkind hlink => absurd ⟨hkind, hlink⟩ hk'
    rw [List.map_cons, checkExtendedIndices, hs, if_neg Bool.false_ne_true]
    exact ih fun s' hs' => hext s' (by simp [hs'])

/-- Each row of the table is read as its symbol. -/
private theorem mapM_readRow (h : l.IsImage word order data.toList) :
    (l.symbols.map fun p => p.2.encode word order p.1).mapM (readRow word order l.strings.toArray) =
      .ok (l.rows.map SymbolRow.symbol) := by
  have hfit := h.symbols_fit
  rw [rows]
  generalize l.symbols = symbols at hfit
  induction symbols with
  | nil => rfl
  | cons p symbols ih =>
    obtain ⟨hvalue, hname⟩ := hfit p (by simp)
    rw [List.map_cons, List.mapM_cons, SymbolRow.readRow_encode order hvalue hname,
      ih fun q hq => hfit q (by simp [hq])]
    rfl

/-- The bytes of the symbol table are cut into its rows. -/
private theorem symbolRows_eq {s t : SectionHeader} (hs : l.HasSymbols word order data.toList s t) :
    rows? s.decoded data word.symbolSize = some (l.symbols.map fun p => p.2.encode word order p.1) := by
  have hlen : (l.symbolBytes word order).length = l.symbols.length * word.symbolSize :=
    length_flatMap _ _ fun p _ => p.2.length_encode word order p.1
  have hpos : 0 < word.symbolSize := by cases word <;> decide
  rw [hs.covers.rows?_eq (by decide) (hlen ▸ Nat.dvd_mul_left _ _), hlen, Nat.mul_div_cancel _ hpos]
  exact congrArg some (chunks_flatMap _ _ fun p _ => p.2.length_encode word order p.1)

/-- The rows of the symbol table are read. -/
private theorem symbolsOf_eq (h : l.IsImage word order data.toList) :
    symbolsOf (readHeader l word order) data (l.sections.map SectionHeader.decoded) l.symbolSection =
      .ok (l.rows.map SymbolRow.symbol) := by
  obtain ⟨s, t, hs⟩ := h.symbols_at
  have hzero : l.symbolSection ≠ 0 := index_ne_zero h hs.at_index hs.covers (by decide)
  have hkind : ¬ (s.decoded.kind ≠ symbolTableKind && s.decoded.kind ≠ dynamicSymbolsKind) = true := by
    show ¬ (s.kind.toNat ≠ 2 && s.kind.toNat ≠ 11) = true
    rw [hs.covers.kind_eq]
    decide
  have hrows : rows? s.decoded data (readHeader l word order).word.symbolSize =
      some (l.symbols.map fun p => p.2.encode word order p.1) := symbolRows_eq hs
  have hnames : linkedNames data (l.sections.map SectionHeader.decoded) s.decoded.link = .ok l.strings.toArray :=
    linkedNames_eq h hs.linked hs.strings
  rw [symbolsOf, sectionAt_eq hs.at_index hzero, ok_bind, if_neg hkind, hrows]
  show (linkedNames data (l.sections.map SectionHeader.decoded) s.decoded.link >>= _) = _
  rw [hnames, ok_bind, checkExtendedIndices_eq h, ok_bind]
  exact mapM_readRow h

/-- An image is parsed to the symbols of its rows, in their order. -/
theorem parse_eq {image : ByteArray} (h : l.IsImage word order image.data.toList) :
    parse image = .ok (l.rows.map SymbolRow.symbol) := by
  have hheader : parseHeader word image.data = .ok (readHeader l word order) :=
    parseHeader_of_holds h.header_at h.offset_fits
  have hsections : ¬ (l.sections.map SectionHeader.decoded).isEmpty = true := by
    have := (List.getElem?_eq_some_iff.1 h.first_null).1
    rw [List.isEmpty_iff]
    intro hnil
    simp [List.map_eq_nil_iff.1 hnil] at this
  rw [parse]
  show (wordSize image.data >>= _) = _
  rw [wordSize_of_holds h.header_at, ok_bind, hheader, ok_bind, sections_eq h, ok_bind, if_neg hsections,
    sectionNames_eq h, ok_bind, sectionNamed?_eq h]
  exact symbolsOf_eq h

/-- The symbol table of an image is that of its layout. -/
theorem isOf {image : ByteArray} (h : l.IsImage word order image.data.toList) :
    RowTable.IsOf ⟨word, order, l.symbols.map fun p => p.2.encode word order p.1, l.strings.toArray⟩ image := by
  obtain ⟨s, t, hs⟩ := h.symbols_at
  have hzero : l.symbolSection ≠ 0 := index_ne_zero h hs.at_index hs.covers (by decide)
  exact ⟨readHeader l word order, l.sections.map SectionHeader.decoded, l.names.toArray, l.symbolSection, s.decoded,
    wordSize_of_holds h.header_at, parseHeader_of_holds h.header_at h.offset_fits, rfl, sections_eq h,
    sectionNames_eq h, sectionNamed?_eq h, sectionAt_eq hs.at_index hzero, symbolRows_eq hs,
    linkedNames_eq h hs.linked hs.strings⟩

/-- The rows that stand in an image are those of its layout. -/
theorem hasRow_iff {image : ByteArray} (h : l.IsImage word order image.data.toList) {r : Row} {name : List UInt8} :
    HasRow image r name ↔ ∃ p ∈ l.symbols, p.2.row p.1 = r ∧ p.2.name = name := by
  have hread : ∀ p ∈ l.symbols, decodeRow word order (p.2.encode word order p.1) = p.2.row p.1 ∧
      nameAt? l.strings.toArray (p.2.row p.1).name = some p.2.name := by
    intro p hp
    obtain ⟨hvalue, hname⟩ := h.symbols_fit p hp
    exact ⟨SymbolRow.decodeRow_encode order p.1 hvalue, nameAt?_eq_some_iff.2 ⟨p.2.noNul, hname⟩⟩
  constructor
  · rintro ⟨t, ht, bytes, hbytes, hrow, hname⟩
    obtain rfl := ht.unique h.isOf
    obtain ⟨p, hp, rfl⟩ := List.mem_map.1 hbytes
    obtain ⟨hdecode, hname'⟩ := hread p hp
    obtain rfl : p.2.row p.1 = r := hdecode.symm.trans hrow
    exact ⟨p, hp, rfl, Option.some.inj (hname'.symm.trans hname)⟩
  · rintro ⟨p, hp, rfl, rfl⟩
    exact ⟨_, h.isOf, _, List.mem_map_of_mem hp, hread p hp⟩

end Layout.IsImage

end FirmwareSymbols.Elf
