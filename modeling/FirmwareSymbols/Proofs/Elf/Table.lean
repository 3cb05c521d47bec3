import FirmwareSymbols.Elf.Symbols
import FirmwareSymbols.Proofs.Elf.Assembly
import FirmwareSymbols.Proofs.Elf.Positions

/-!
# The symbol table of an arbitrary image

For bytes that need not be well-formed it is said at which offsets the sections and the rows stand, and what a name in
a table is. Nothing of this goes by the parser: sections may overlap, and an offset may be any number of the format.

* An image that is parsed has no section `.symtab`, or its first one lies inside the file and the symbols are those of
  its rows, one for each.
* One row whose name does not end in the string table makes the whole file malformed.
-/

namespace FirmwareSymbols.Elf

/-- The image has this header: class and byte order stand in its identification, the other numbers at their
offsets. -/
structure Header.IsOf (h : Header) (data : Array UInt8) : Prop where
  class_at : data[4]? = some h.word.code
  order_at : data[5]? = some h.order.code
  fields_at : h = headerAt data h.word h.order

/-- The name stands in the section at the offset, and the NUL after it does. -/
structure Section.HasName (t : Section) (data : Array UInt8) (offset : Nat) (name : List UInt8) : Prop where
  /-- A section without bits has no bytes in the file. -/
  has_bits : t.kind ≠ noBitsKind
  inside : t.offset + t.size ≤ data.size
  ends : offset + name.length < t.size
  noNul : 0 ∉ name
  holds : Holds data.toList (t.offset + offset) (name ++ [0])

/-- The offset is outside the section, or no NUL follows it there. -/
def Section.LacksName (t : Section) (data : Array UInt8) (offset : Nat) : Prop :=
  t.size ≤ offset ∨ ∀ j, offset ≤ j → j < t.size → data[t.offset + j]? ≠ some 0

namespace Header

variable (h : Header) (data : Array UInt8)

/-- What stands in the place of the section header with this index. -/
def sectionHeader (i : Nat) : Section :=
  sectionHeaderAt data h.word h.order (h.sectionOffset + i * h.word.sectionSize)

/-- The number of sections. Zero in the file header sends to the size of the first section. -/
def count : Nat :=
  if h.sectionOffset = 0 then 0
  else if h.sectionCount = 0 then (h.sectionHeader data 0).size
  else h.sectionCount

/-- The index of the section with the names of the sections. An index that does not fit into the file header is the
link of the first section. -/
def namesIndex : Nat :=
  if h.nameSection = extendedIndex then (h.sectionHeader data 0).link else h.nameSection

structure HasSection (i : Nat) (s : Section) : Prop where
  lt : i < h.count data
  eq : s = h.sectionHeader data i

def IsNamed (s : Section) (name : List UInt8) : Prop :=
  ∃ t, h.HasSection data (h.namesIndex data) t ∧ t.HasName data s.name name

/-- The first section that is called `.symtab`. -/
structure IsSymbolTable (i : Nat) (s : Section) : Prop where
  at_index : h.HasSection data i s
  named : h.IsNamed data s symbolSectionName
  first : ∀ j t, j < i → h.HasSection data j t → ¬ h.IsNamed data t symbolSectionName

/-- The string table of a section. Link zero stands for none. -/
structure LinksTo (s t : Section) : Prop where
  link_ne : s.link ≠ 0
  at_link : h.HasSection data s.link t
  kind_eq : t.kind = stringTableKind

/-- The row with this number in the table that starts where the section does. -/
def row (s : Section) (k : Nat) : Row := rowAt data h.word h.order (s.offset + k * h.word.symbolSize)

/-- The section is a symbol table inside the file, and the symbols are those of its rows, one for each. -/
structure AreSymbolsOf (s : Section) (symbols : List Symbol) : Prop where
  kind_eq : s.kind = symbolTableKind ∨ s.kind = dynamicSymbolsKind
  inside : s.offset + s.size ≤ data.size
  length_eq : symbols.length = s.size / h.word.symbolSize
  symbol_at : ∀ k symbol, symbols[k]? = some symbol →
    ∃ t name, h.LinksTo data s t ∧ t.HasName data (h.row data s k).name name ∧
      symbol = (h.row data s k).symbol name

end Header

/-! ### One header, one table -/

theorem WordSize.code_inj {word word' : WordSize} (h : word.code = word'.code) : word = word' := by
  revert h
  cases word <;> cases word' <;> decide

theorem ByteOrder.code_inj {order order' : ByteOrder} (h : order.code = order'.code) : order = order' := by
  revert h
  cases order <;> cases order' <;> decide

variable {data : Array UInt8} {h h' : Header} {sections : List Section}

theorem Header.IsOf.unique (hh : h.IsOf data) (hh' : h'.IsOf data) : h = h' := by
  have hword : h.word = h'.word :=
    WordSize.code_inj (Option.some.inj (hh.class_at.symm.trans hh'.class_at))
  have horder : h.order = h'.order :=
    ByteOrder.code_inj (Option.some.inj (hh.order_at.symm.trans hh'.order_at))
  rw [hh.fields_at, hh'.fields_at, hword, horder]

theorem Header.HasSection.unique {i : Nat} {s s' : Section} (hs : h.HasSection data i s)
    (hs' : h.HasSection data i s') : s = s' := hs.eq.trans hs'.eq.symm

theorem Header.IsSymbolTable.unique {i i' : Nat} {s s' : Section} (hs : h.IsSymbolTable data i s)
    (hs' : h.IsSymbolTable data i' s') : i = i' ∧ s = s' := by
  have hi : i = i' := by
    rcases Nat.lt_trichotomy i i' with hlt | heq | hgt
    · exact absurd hs.named (hs'.first i s hlt hs.at_index)
    · exact heq
    · exact absurd hs'.named (hs.first i' s' hgt hs'.at_index)
  subst hi
  exact ⟨rfl, hs.at_index.unique hs'.at_index⟩

/-! ### Reading sections -/

theorem isOf_of_parseHeader (hword : wordSize data = .ok h.word) (hheader : parseHeader h.word data = .ok h) :
    h.IsOf data :=
  have hplaces := eq_headerAt_of_parseHeader hheader
  ⟨getElem?_of_wordSize hword, hplaces.1, hplaces.2⟩

namespace Header

private theorem map_eq_ok {α β : Type} {x : Except Fault α} {f : α → β} {b : β} (hx : x.map f = .ok b) :
    ∃ a, x = .ok a ∧ f a = b := by
  cases x with
  | error e => cases hx
  | ok a => exact ⟨a, rfl, Except.ok.inj hx⟩

theorem sectionZero_eq_ok {s : Section} (hs : h.sectionZero data = .ok s) : s = h.sectionHeader data 0 := by
  unfold sectionZero at hs
  split at hs
  · cases hs
  split at hs
  · cases hs
  next bytes hslice =>
    obtain ⟨-, rfl⟩ := eq_extract_of_slice? hslice
    rw [decodeSection_extract] at hs
    obtain rfl := Except.ok.inj hs
    rw [sectionHeader, Nat.zero_mul, Nat.add_zero]

theorem sectionNumber_eq_ok {n : Nat} (hoffset : h.sectionOffset ≠ 0) (hn : h.sectionNumber data = .ok n) :
    n = h.count data := by
  rw [count, if_neg hoffset]
  unfold sectionNumber at hn
  split at hn
  next hcount =>
    rw [if_neg hcount]
    exact (Except.ok.inj hn).symm
  next hcount =>
    obtain ⟨s, hs, rfl⟩ := map_eq_ok hn
    rw [if_pos (not_not.1 hcount), sectionZero_eq_ok hs]

/-- The sections that are read are all that there are. -/
theorem sections_eq_ok (hsections : h.sections data = .ok sections) :
    sections = (List.range (h.count data)).map (h.sectionHeader data) := by
  unfold Header.sections at hsections
  split at hsections
  next hoffset =>
    rw [count, if_pos hoffset]
    exact (Except.ok.inj hsections).symm
  next hoffset =>
    obtain ⟨n, hn, hsections⟩ := bind_eq_ok.1 hsections
    obtain rfl := sectionNumber_eq_ok hoffset hn
    split at hsections
    next hzero =>
      rw [hzero]
      exact (Except.ok.inj hsections).symm
    split at hsections
    · cases hsections
    split at hsections
    · cases hsections
    next bytes hslice =>
      obtain ⟨-, rfl⟩ := eq_extract_of_slice? hslice
      rw [chunks_extract, List.map_map] at hsections
      rw [← Except.ok.inj hsections]
      apply List.map_congr_left
      intro i _
      exact decodeSection_extract _ _ _

theorem getElem?_sections_iff (hsections : h.sections data = .ok sections) {i : Nat} {s : Section} :
    sections[i]? = some s ↔ h.HasSection data i s := by
  rw [sections_eq_ok hsections, List.getElem?_map, Option.map_eq_some_iff]
  constructor
  · rintro ⟨j, hj, rfl⟩
    obtain ⟨hlt, rfl⟩ := List.getElem?_eq_some_iff.1 hj
    rw [List.length_range] at hlt
    exact ⟨hlt, by rw [List.getElem_range]⟩
  · rintro ⟨hlt, rfl⟩
    exact ⟨i, List.getElem?_range hlt, rfl⟩

theorem nameSectionIndex_eq_ok {i : Nat} (hi : h.nameSectionIndex data = .ok i) : i = h.namesIndex data := by
  have hpass : ∀ j, (if j = 0 then .error .noNameSection else .ok j : Except Fault Nat) = .ok i → i = j := by
    intro j hj
    split at hj
    · cases hj
    · exact (Except.ok.inj hj).symm
  unfold nameSectionIndex at hi
  rw [namesIndex]
  split at hi
  next hplain =>
    rw [if_neg hplain]
    exact hpass _ hi
  next hext =>
    rw [if_pos (not_not.1 hext)]
    split at hi
    · cases hi
    · obtain ⟨j, hj, hi⟩ := bind_eq_ok.1 hi
      obtain ⟨s, hs, rfl⟩ := map_eq_ok hj
      rw [hpass _ hi, sectionZero_eq_ok hs]

end Header

theorem getElem?_of_sectionAt {i : Nat} {s : Section} (hs : sectionAt sections i = .ok s) :
    sections[i]? = some s := by
  unfold sectionAt at hs
  split at hs
  · cases hs
  split at hs
  · cases hs
  next t ht =>
    obtain rfl := Except.ok.inj hs
    exact ht

/-! ### Reading names -/

variable {names strings : Array UInt8} {name : List UInt8} {offset : Nat}

theorem Section.nameAt?_table_iff {t : Section} (hbits : t.kind ≠ noBitsKind) :
    nameAt? (t.table data) offset = some name ↔ t.HasName data offset name := by
  by_cases hin : t.offset + t.size ≤ data.size
  · rw [Section.table, slice?, if_pos hin, Option.getD_some, nameAt?_eq_some_iff, holds_extract_iff hin,
      List.length_append, List.length_singleton]
    constructor
    · rintro ⟨hclean, hends, hholds⟩
      exact ⟨hbits, hin, by omega, hclean, hholds⟩
    · intro hname
      have hends := hname.ends
      exact ⟨hname.noNul, by omega, hname.holds⟩
  · rw [Section.table, slice?, if_neg hin, Option.getD_none, nameAt?_empty]
    constructor
    · intro hnone
      cases hnone
    · intro hname
      exact absurd hname.inside hin

/-- The name of a section is read off the section with the names. -/
theorem nameAt?_sectionNames_iff (hsections : h.sections data = .ok sections)
    (hnames : sectionNames h data sections = .ok names) {s : Section} :
    nameAt? names s.name = some name ↔ h.IsNamed data s name := by
  unfold sectionNames at hnames
  obtain ⟨i, hi, hnames⟩ := bind_eq_ok.1 hnames
  obtain rfl := Header.nameSectionIndex_eq_ok hi
  split at hnames
  · cases hnames
  next t ht =>
    have ht' := (Header.getElem?_sections_iff hsections).1 ht
    have honly : h.IsNamed data s name ↔ t.HasName data s.name name :=
      ⟨fun ⟨u, hu, hname⟩ => ht'.unique hu ▸ hname, fun hname => ⟨t, ht', hname⟩⟩
    rw [honly]
    split at hnames
    next hbits =>
      obtain rfl := Except.ok.inj hnames
      rw [nameAt?_empty]
      exact ⟨nofun, fun hname => absurd hbits hname.has_bits⟩
    next hbits =>
      split at hnames
      · obtain rfl := Except.ok.inj hnames
        exact Section.nameAt?_table_iff hbits
      · cases hnames

/-- The section that is found by its name is the first one. -/
theorem sectionNamed?_eq_some_iff (hsections : h.sections data = .ok sections)
    (hnames : sectionNames h data sections = .ok names) {i : Nat} {s : Section} :
    sectionNamed? names symbolSectionName sections = some i ∧ sections[i]? = some s ↔ h.IsSymbolTable data i s := by
  have hnamed : ∀ t : Section, decide (nameAt? names t.name = some symbolSectionName) = true ↔
      h.IsNamed data t symbolSectionName := by
    intro t
    rw [decide_eq_true_eq]
    exact nameAt?_sectionNames_iff hsections hnames
  rw [sectionNamed?, List.findIdx?_eq_some_iff_getElem]
  constructor
  · rintro ⟨⟨hlt, hfound, hfirst⟩, hs⟩
    obtain ⟨_, rfl⟩ := List.getElem?_eq_some_iff.1 hs
    refine ⟨(Header.getElem?_sections_iff hsections).1 hs, (hnamed _).1 hfound, ?_⟩
    intro j t hj ht hcalled
    obtain ⟨hjlt, rfl⟩ := List.getElem?_eq_some_iff.1 ((Header.getElem?_sections_iff hsections).2 ht)
    exact hfirst j hj ((hnamed _).2 hcalled)
  · intro htable
    have hs := (Header.getElem?_sections_iff hsections).2 htable.at_index
    obtain ⟨hlt, rfl⟩ := List.getElem?_eq_some_iff.1 hs
    refine ⟨⟨hlt, (hnamed _).2 htable.named, ?_⟩, hs⟩
    intro j hj hcalled
    have hjlt : j < sections.length := Nat.lt_trans hj hlt
    have ht := (Header.getElem?_sections_iff hsections).1 (List.getElem?_eq_getElem hjlt)
    exact htable.first j _ hj ht ((hnamed _).1 hcalled)

theorem not_isNamed_of_sectionNamed?_eq_none (hsections : h.sections data = .ok sections)
    (hnames : sectionNames h data sections = .ok names)
    (hnone : sectionNamed? names symbolSectionName sections = none) {i : Nat} {s : Section}
    (hs : h.HasSection data i s) : ¬ h.IsNamed data s symbolSectionName := by
  intro hcalled
  have hmem := List.mem_of_getElem? ((Header.getElem?_sections_iff hsections).2 hs)
  have hno := List.findIdx?_eq_none_iff.1 hnone s hmem
  rw [decide_eq_false_iff_not] at hno
  exact hno ((nameAt?_sectionNames_iff hsections hnames).2 hcalled)

/-- The name of a row is read off the string table that is linked to. -/
theorem nameAt?_linkedNames_iff (hsections : h.sections data = .ok sections) {s : Section}
    (hstrings : linkedNames data sections s.link = .ok strings) :
    nameAt? strings offset = some name ↔ ∃ t, h.LinksTo data s t ∧ t.HasName data offset name := by
  unfold linkedNames at hstrings
  split at hstrings
  next hzero =>
    obtain rfl := Except.ok.inj hstrings
    rw [nameAt?_empty]
    exact ⟨nofun, fun ⟨t, ht, _⟩ => absurd hzero ht.link_ne⟩
  next hlink =>
    obtain ⟨t, ht, hstrings⟩ := bind_eq_ok.1 hstrings
    have ht' := (Header.getElem?_sections_iff hsections).1 (getElem?_of_sectionAt ht)
    split at hstrings
    · cases hstrings
    next hkind =>
    split at hstrings
    · obtain rfl := Except.ok.inj hstrings
      have hkind' := not_not.1 hkind
      have hbits : t.kind ≠ noBitsKind := by
        rw [hkind']
        decide
      rw [Section.nameAt?_table_iff hbits]
      exact ⟨fun hname => ⟨t, ⟨hlink, ht', hkind'⟩, hname⟩, fun ⟨u, hu, hname⟩ => ht'.unique hu.at_link ▸ hname⟩
    · cases hstrings

/-! ### Reading rows -/

theorem rows?_eq_some {s : Section} (hbits : s.kind ≠ noBitsKind) {width : Nat} {rows : List (List UInt8)}
    (hrows : rows? s data width = some rows) :
    s.offset + s.size ≤ data.size ∧ rows = (List.range (s.size / width)).map fun k =>
      (data.extract (s.offset + k * width) (s.offset + k * width + width)).toList := by
  rw [rows?, Section.data?, if_neg hbits] at hrows
  obtain ⟨bytes, hslice, hrows⟩ := Option.bind_eq_some_iff.1 hrows
  obtain ⟨hin, rfl⟩ := eq_extract_of_slice? hslice
  have hsize : (data.extract s.offset (s.offset + s.size)).size = s.size := by
    rw [Array.size_extract]
    omega
  rw [hsize] at hrows
  split at hrows
  next hwhole =>
    have hmul : s.size / width * width = s.size := Nat.div_mul_cancel (Nat.dvd_of_mod_eq_zero hwhole)
    have hchunks := @chunks_extract data width (s.size / width) s.offset
    rw [hmul] at hchunks
    exact ⟨hin, by rw [← hchunks]; exact (Option.some.inj hrows).symm⟩
  next => cases hrows

/-- The symbols that are read are those of the rows in the file. -/
theorem areSymbolsOf_of_symbolsOf (hsections : h.sections data = .ok sections) {i : Nat} {symbols : List Symbol}
    (hp : symbolsOf h data sections i = .ok symbols) :
    ∃ s, sections[i]? = some s ∧ h.AreSymbolsOf data s symbols := by
  obtain ⟨s, rows, strings, hs, hkind, hrows, hstrings, hmap⟩ := symbolsOf_eq_ok hp
  have hbits : s.kind ≠ noBitsKind := by
    rcases hkind with hkind | hkind <;> (rw [hkind]; decide)
  obtain ⟨hin, rfl⟩ := rows?_eq_some hbits hrows
  have hread := map_eq_of_mapM hmap
  refine ⟨s, getElem?_of_sectionAt hs, hkind, hin, ?_, ?_⟩
  · simpa using (congrArg List.length hread).symm
  · intro k symbol hk
    have hrow : some (readRow h.word h.order strings (data.extract (s.offset + k * h.word.symbolSize)
        (s.offset + k * h.word.symbolSize + h.word.symbolSize)).toList) = some (.ok symbol) := by
      have hlt : k < s.size / h.word.symbolSize := by
        have hlen := (List.getElem?_eq_some_iff.1 hk).1
        have hsame := congrArg List.length hread
        simp only [List.length_map, List.length_range] at hsame
        omega
      have hat := congrArg (·[k]?) hread
      simp only [List.getElem?_map, hk, List.getElem?_range hlt, Option.map_some] at hat
      exact hat
    obtain ⟨name, hname, rfl⟩ := readRow_eq_ok_iff.1 (Option.some.inj hrow)
    rw [decodeRow_extract] at hname ⊢
    obtain ⟨t, ht, hname⟩ := (nameAt?_linkedNames_iff hsections hstrings).1 hname
    exact ⟨t, name, ht, hname, rfl⟩

theorem Section.HasName.not_lacksName {t : Section} (hname : t.HasName data offset name) :
    ¬ t.LacksName data offset := by
  have hlt := hname.ends
  rintro (hout | hno)
  · omega
  · -- the NUL that ends the name
    have hnul : data.toList[t.offset + offset + name.length]? = some 0 :=
      (holds_cons_iff.1 hname.holds.of_append_right).1
    rw [Array.getElem?_toList, Nat.add_assoc] at hnul
    exact hno (offset + name.length) (by omega) hlt hnul

/-- A parsed image has no symbol table, or its symbols are those of the first one. -/
theorem exists_isOf_of_parse {image : ByteArray} {symbols : List Symbol} (hp : parse image = .ok symbols) :
    ∃ h : Header, h.IsOf image.data ∧
      ((symbols = [] ∧ ∀ i s, h.HasSection image.data i s → ¬ h.IsNamed image.data s symbolSectionName) ∨
        ∃ i s, h.IsSymbolTable image.data i s ∧ h.AreSymbolsOf image.data s symbols) := by
  obtain ⟨h, sections, hword, hheader, hsections, hend⟩ := parse_eq_ok hp
  refine ⟨h, isOf_of_parseHeader hword hheader, ?_⟩
  rcases hend with ⟨rfl, rfl⟩ | ⟨names, hnames, ⟨hnone, rfl⟩ | ⟨i, hfound, hp⟩⟩
  · refine .inl ⟨rfl, fun i s hs => ?_⟩
    cases (Header.getElem?_sections_iff hsections).2 hs
  · exact .inl ⟨rfl, fun i s hs => not_isNamed_of_sectionNamed?_eq_none hsections hnames hnone hs⟩
  · obtain ⟨s, hs, hsymbols⟩ := areSymbolsOf_of_symbolsOf hsections hp
    exact .inr ⟨i, s, (sectionNamed?_eq_some_iff hsections hnames).1 ⟨hfound, hs⟩, hsymbols⟩

end FirmwareSymbols.Elf

namespace FirmwareSymbols

open Elf

/-- Symbols that are read off any image are those of the rows of its first section `.symtab`, one for each row. A row
whose name does not end in the linked string table makes the whole file malformed, under every policy. -/
theorem parseSymbols_rows (image : ByteArray) (path : Path) :
    (∀ symbols, parseSymbols image path = .ok symbols →
      ∃ h : Header, h.IsOf image.data ∧
        ((symbols = [] ∧ ∀ i s, h.HasSection image.data i s → ¬ h.IsNamed image.data s symbolSectionName) ∨
          ∃ i s, h.IsSymbolTable image.data i s ∧ h.AreSymbolsOf image.data s symbols)) ∧
    (∀ (h : Header) i s k, h.IsOf image.data → h.IsSymbolTable image.data i s → k < s.size / h.word.symbolSize →
      (∀ t, h.LinksTo image.data s t → t.LacksName image.data (h.row image.data s k).name) →
      ∃ fault : Fault, parseSymbols image path = .error (.malformedBinary path fault.message) ∧
        ∀ (fs : FileSystem) (policy : Policy), fs.readBytes path = .ok image →
          (fs.extractSymbols path policy).result = .error (.malformedBinary path fault.message)) := by
  refine ⟨fun symbols hp => exists_isOf_of_parse (parseSymbols_eq_ok_iff.1 hp), ?_⟩
  intro h i s k hh htable hk hlacks
  cases hp : parse image with
  | error fault =>
    have herror : parseSymbols image path = .error (.malformedBinary path fault.message) := by
      rw [parseSymbols, hp]
    refine ⟨fault, herror, ?_⟩
    intro fs policy hbytes
    have hread : fs.readSymbols path = .error (.malformedBinary path fault.message) := by
      rw [FileSystem.readSymbols, hbytes]
      exact herror
    rw [FileSystem.extractSymbols, hread]
    rfl
  | ok symbols =>
    -- otherwise the row would have a symbol, and the symbol a name
    exfalso
    obtain ⟨h', hh', hend⟩ := exists_isOf_of_parse hp
    obtain rfl := hh.unique hh'
    rcases hend with ⟨-, hnone⟩ | ⟨i', s', htable', hsymbols⟩
    · exact hnone i s htable.at_index htable.named
    · obtain ⟨rfl, rfl⟩ := htable.unique htable'
      have hlt : k < symbols.length := by
        rw [hsymbols.length_eq]
        exact hk
      obtain ⟨t, name, ht, hname, -⟩ := hsymbols.symbol_at k _ (List.getElem?_eq_getElem hlt)
      exact hname.not_lacksName (hlacks t ht)

/-- The image of three rows without the last NUL of its string table. -/
def unendedImage : ByteArray := ⟨(imageOfRows mixedRows).data.setIfInBounds 108 0x78⟩

def unendedHeader : Header := headerAt unendedImage.data .w32 .little

def unendedTable : Section := unendedHeader.sectionHeader unendedImage.data 1

private theorem isSymbolTable_unended : unendedHeader.IsSymbolTable unendedImage.data 1 unendedTable where
  at_index := ⟨by decide +kernel, rfl⟩
  named := by
    have hindex : 3 = unendedHeader.namesIndex unendedImage.data := by decide +kernel
    refine ⟨unendedHeader.sectionHeader unendedImage.data 3, ⟨by decide +kernel, congrArg _ hindex⟩, ?_⟩
    refine ⟨by decide +kernel, by decide +kernel, by decide +kernel, by decide +kernel, ?_⟩
    rw [holds_iff_take_drop]
    decide +kernel
  first := by
    -- only the null section comes before, and the table of section names does not start with this name
    rintro j t hj ht ⟨u, hu, hname⟩
    obtain rfl : j = 0 := by omega
    have hfirst := (holds_iff_take_drop.1 hname.holds).2
    rw [ht.eq, hu.eq] at hfirst
    revert hfirst
    decide +kernel

/-- No NUL follows the start of the last name, six bytes behind the start of the string table. -/
private theorem lacksName_unended {t : Section} (ht : unendedHeader.LinksTo unendedImage.data unendedTable t) :
    t.LacksName unendedImage.data (unendedHeader.row unendedImage.data unendedTable 2).name := by
  obtain rfl := ht.at_link.eq
  have hoffset : (unendedHeader.sectionHeader unendedImage.data unendedTable.link).offset = 100 := by decide +kernel
  have hsize : (unendedHeader.sectionHeader unendedImage.data unendedTable.link).size = 9 := by decide +kernel
  have hname : (unendedHeader.row unendedImage.data unendedTable 2).name = 6 := by decide +kernel
  have hends : ∀ j < 9, 6 ≤ j → unendedImage.data[100 + j]? ≠ some 0 := by decide +kernel
  rw [Section.LacksName, hoffset, hsize, hname]
  exact .inr fun j hfrom hto => hends j hto hfrom

/-- The symbols of an image are those of its rows. Without the last NUL of the string table not one is read, though
only the name of the last row is lost and neither policy accepts it: it is weak. -/
theorem parseSymbols_unended_image :
    (∃ (h : Header) (i : Nat) (s : Section), h.IsSymbolTable (imageOfRows mixedRows).data i s ∧
      h.AreSymbolsOf (imageOfRows mixedRows).data s (mixedRows.map SymbolRow.symbol)) ∧
    (unendedHeader.row unendedImage.data unendedTable 2).info / 16 = 2 ∧
    ∃ fault : Fault, parseSymbols unendedImage ⟨"host.elf"⟩ = .error (.malformedBinary ⟨"host.elf"⟩ fault.message) := by
  refine ⟨?_, by decide +kernel, ?_⟩
  · have hread := parseSymbols_imageOfRows fits_mixedRows ⟨"host.elf"⟩
    obtain ⟨h, -, ⟨hempty, -⟩ | ⟨i, s, htable, hsymbols⟩⟩ := (parseSymbols_rows _ ⟨"host.elf"⟩).1 _ hread
    · cases hempty
    · exact ⟨h, i, s, htable, hsymbols⟩
  · have hheader : unendedHeader.IsOf unendedImage.data := ⟨by decide +kernel, by decide +kernel, rfl⟩
    obtain ⟨fault, herror, -⟩ := (parseSymbols_rows unendedImage ⟨"host.elf"⟩).2 unendedHeader 1 unendedTable 2 hheader
      isSymbolTable_unended (by decide +kernel) fun t ht => lacksName_unended ht
    exact ⟨fault, herror⟩

end FirmwareSymbols
