import FirmwareSymbols.Elf.SymbolTable
import FirmwareSymbols.Proofs.Elf.Bytes
import FirmwareSymbols.Proofs.Policy
import FirmwareSymbols.Proofs.Text.Utf8

/-!
# The rows that stand in an image

What a parsed image holds as bytes, before names are texts and codes are cases: `HasRow image r name` says that the
table `.symtab` of the image has the row `r` and that its name is these bytes. The symbols of an image are the symbols
of its rows (`mem_parse_iff`), and what a policy wants of a symbol is read off the fields of the row
(`required_accepts_symbol_iff`, `provided_accepts_symbol_iff`).
-/

namespace FirmwareSymbols.Elf

/-- A symbol table in an image: the bytes of its rows, and the table with their names. -/
structure RowTable where
  word : WordSize
  order : ByteOrder
  rows : List (List UInt8)
  strings : Array UInt8

/-- The table is the first section of the image that is called `.symtab`, and its names are in the section that it
links to. -/
def RowTable.IsOf (t : RowTable) (image : ByteArray) : Prop :=
  ∃ header sections names index s,
    wordSize image.data = .ok t.word ∧ parseHeader t.word image.data = .ok header ∧ header.order = t.order ∧
      header.sections image.data = .ok sections ∧ sectionNames header image.data sections = .ok names ∧
      sectionNamed? names symbolSectionName sections = some index ∧ sectionAt sections index = .ok s ∧
      rows? s image.data t.word.symbolSize = some t.rows ∧ linkedNames image.data sections s.link = .ok t.strings

/-- The symbol table of the image has the row, and these are the bytes of its name. -/
def HasRow (image : ByteArray) (r : Row) (name : List UInt8) : Prop :=
  ∃ t : RowTable, t.IsOf image ∧ ∃ bytes ∈ t.rows, decodeRow t.word t.order bytes = r ∧
    nameAt? t.strings r.name = some name

/-! ### Parsing goes by the rows -/

theorem bind_eq_ok {ε α β : Type} {x : Except ε α} {f : α → Except ε β} {b : β} :
    x >>= f = .ok b ↔ ∃ a, x = .ok a ∧ f a = .ok b := by
  cases x with
  | error e => exact ⟨nofun, nofun⟩
  | ok a => exact ⟨fun h => ⟨a, rfl, h⟩, fun ⟨_, ha, h⟩ => Except.ok.inj ha ▸ h⟩

/-- A list that is mapped with no failure is mapped element by element. -/
theorem map_eq_of_mapM {ε α β : Type} {f : α → Except ε β} {l : List α} {m : List β} (h : l.mapM f = .ok m) :
    l.map f = m.map .ok := by
  induction l generalizing m with
  | nil =>
    obtain rfl : [] = m := Except.ok.inj h
    rfl
  | cons a l ih =>
    rw [List.mapM_cons] at h
    obtain ⟨b', hb', h⟩ := bind_eq_ok.1 h
    obtain ⟨m', hm', h⟩ := bind_eq_ok.1 h
    obtain rfl : b' :: m' = m := Except.ok.inj h
    rw [List.map_cons, List.map_cons, hb', ih hm']

private theorem mem_of_mapM {ε α β : Type} {f : α → Except ε β} {l : List α} {m : List β} (h : l.mapM f = .ok m)
    (b : β) : b ∈ m ↔ ∃ a ∈ l, f a = .ok b := by
  rw [← List.mem_map, map_eq_of_mapM h]
  simp

theorem word_of_parseHeader {word : WordSize} {data : Array UInt8} {header : Header}
    (h : parseHeader word data = .ok header) : header.word = word := by
  unfold parseHeader at h
  split at h
  · cases h
  · split at h
    · split at h
      · cases h
      · dsimp only at h
        split at h
        · cases h
          rfl
        · cases h
    · cases h

theorem RowTable.IsOf.unique {t u : RowTable} {image : ByteArray} (ht : t.IsOf image) (hu : u.IsOf image) : t = u := by
  obtain ⟨word, order, rows, strings⟩ := t
  obtain ⟨word', order', rows', strings'⟩ := u
  obtain ⟨header, sections, names, index, s, hword, hheader, rfl, hsections, hnames, hindex, hs, hrows, hstrings⟩ := ht
  obtain ⟨header', sections', names', index', s', hword', hheader', rfl, hsections', hnames', hindex', hs', hrows',
    hstrings'⟩ := hu
  dsimp only at *
  obtain rfl : word = word' := Except.ok.inj (hword.symm.trans hword')
  obtain rfl : header = header' := Except.ok.inj (hheader.symm.trans hheader')
  obtain rfl : sections = sections' := Except.ok.inj (hsections.symm.trans hsections')
  obtain rfl : names = names' := Except.ok.inj (hnames.symm.trans hnames')
  obtain rfl : index = index' := Option.some.inj (hindex.symm.trans hindex')
  obtain rfl : s = s' := Except.ok.inj (hs.symm.trans hs')
  obtain rfl : rows = rows' := Option.some.inj (hrows.symm.trans hrows')
  obtain rfl : strings = strings' := Except.ok.inj (hstrings.symm.trans hstrings')
  rfl

/-- The symbols of a section: it has the type of a symbol table, and all its rows are read. -/
theorem symbolsOf_eq_ok {h : Header} {data : Array UInt8} {sections : List Section} {index : Nat}
    {symbols : List Symbol} (hp : symbolsOf h data sections index = .ok symbols) :
    ∃ s rows strings, sectionAt sections index = .ok s ∧
      (s.kind = symbolTableKind ∨ s.kind = dynamicSymbolsKind) ∧ rows? s data h.word.symbolSize = some rows ∧
      linkedNames data sections s.link = .ok strings ∧ rows.mapM (readRow h.word h.order strings) = .ok symbols := by
  unfold symbolsOf at hp
  obtain ⟨s, hs, hp₁⟩ := bind_eq_ok.1 hp
  split at hp₁
  · cases hp₁
  next hkind =>
  split at hp₁
  · cases hp₁
  next rows hrows =>
    obtain ⟨strings, hstrings, hp₂⟩ := bind_eq_ok.1 hp₁
    obtain ⟨-, -, hmap⟩ := bind_eq_ok.1 hp₂
    have hkind' : s.kind = symbolTableKind ∨ s.kind = dynamicSymbolsKind := by
      simpa only [Bool.and_eq_true, decide_eq_true_eq, not_and_or, not_not] using hkind
    exact ⟨s, rows, strings, hs, hkind', hrows, hstrings, hmap⟩

/-- The way of an image through the parser: it may end without sections or without a symbol table. -/
theorem parse_eq_ok {image : ByteArray} {symbols : List Symbol} (hp : parse image = .ok symbols) :
    ∃ header sections, wordSize image.data = .ok header.word ∧ parseHeader header.word image.data = .ok header ∧
      header.sections image.data = .ok sections ∧
      ((sections = [] ∧ symbols = []) ∨
        ∃ names, sectionNames header image.data sections = .ok names ∧
          ((sectionNamed? names symbolSectionName sections = none ∧ symbols = []) ∨
            ∃ index, sectionNamed? names symbolSectionName sections = some index ∧
              symbolsOf header image.data sections index = .ok symbols)) := by
  unfold parse at hp
  obtain ⟨word, hword, hp₁⟩ := bind_eq_ok.1 hp
  obtain ⟨header, hheader, hp₂⟩ := bind_eq_ok.1 hp₁
  obtain rfl := word_of_parseHeader hheader
  obtain ⟨sections, hsections, hp₃⟩ := bind_eq_ok.1 hp₂
  refine ⟨header, sections, hword, hheader, hsections, ?_⟩
  split at hp₃
  next hempty => exact .inl ⟨List.isEmpty_iff.1 hempty, (Except.ok.inj hp₃).symm⟩
  obtain ⟨names, hnames, hp₄⟩ := bind_eq_ok.1 hp₃
  refine .inr ⟨names, hnames, ?_⟩
  split at hp₄
  next hindex => exact .inl ⟨hindex, (Except.ok.inj hp₄).symm⟩
  next index hindex => exact .inr ⟨index, hindex, hp₄⟩

/-- An image without a table has no symbols, and one with a table has those of its rows. -/
theorem parse_cases {image : ByteArray} {symbols : List Symbol} (hp : parse image = .ok symbols) :
    (symbols = [] ∧ ∀ t : RowTable, ¬ t.IsOf image) ∨
      ∃ t : RowTable, t.IsOf image ∧ t.rows.mapM (readRow t.word t.order t.strings) = .ok symbols := by
  obtain ⟨header, sections, hword, hheader, hsections, hend⟩ := parse_eq_ok hp
  have hnone : (∀ names, sectionNames header image.data sections = .ok names →
      sectionNamed? names symbolSectionName sections = none) → ∀ t : RowTable, ¬ t.IsOf image := by
    rintro hno t ⟨header', sections', names, index, s, hword', hheader', -, hsections', hnames, hindex, -⟩
    have hw : header.word = t.word := Except.ok.inj (hword.symm.trans hword')
    rw [← hw] at hheader'
    obtain rfl : header = header' := Except.ok.inj (hheader.symm.trans hheader')
    obtain rfl : sections = sections' := Except.ok.inj (hsections.symm.trans hsections')
    rw [hno names hnames] at hindex
    cases hindex
  rcases hend with ⟨rfl, rfl⟩ | ⟨names, hnames, ⟨hindex, rfl⟩ | ⟨index, hindex, hp⟩⟩
  · exact .inl ⟨rfl, hnone fun _ _ => rfl⟩
  · refine .inl ⟨rfl, hnone fun names' hnames' => ?_⟩
    obtain rfl : names = names' := Except.ok.inj (hnames.symm.trans hnames')
    exact hindex
  · obtain ⟨s, rows, strings, hs, -, hrows, hstrings, hmap⟩ := symbolsOf_eq_ok hp
    exact .inr ⟨⟨header.word, header.order, rows, strings⟩, ⟨header, sections, names, index, s, hword, hheader, rfl,
      hsections, hnames, hindex, hs, hrows, hstrings⟩, hmap⟩

theorem readRow_eq_ok_iff {word : WordSize} {order : ByteOrder} {strings : Array UInt8} {bytes : List UInt8}
    {s : Symbol} : readRow word order strings bytes = .ok s ↔
      ∃ name, nameAt? strings (decodeRow word order bytes).name = some name ∧
        (decodeRow word order bytes).symbol name = s := by
  unfold readRow
  dsimp only
  split
  next h => simp [h]
  next name h => simp [h]

/-- The symbols that an image is parsed to are those of the rows that stand in it. -/
theorem mem_parse_iff {image : ByteArray} {symbols : List Symbol} (hp : parse image = .ok symbols) (s : Symbol) :
    s ∈ symbols ↔ ∃ r name, HasRow image r name ∧ r.symbol name = s := by
  rcases parse_cases hp with ⟨rfl, hnone⟩ | ⟨t, ht, hm⟩
  · simp only [List.not_mem_nil, false_iff]
    rintro ⟨r, name, ⟨t, ht, -⟩, -⟩
    exact hnone t ht
  · rw [mem_of_mapM hm]
    constructor
    · rintro ⟨bytes, hbytes, hs⟩
      obtain ⟨name, hname, rfl⟩ := readRow_eq_ok_iff.1 hs
      exact ⟨_, name, ⟨t, ht, bytes, hbytes, rfl, hname⟩, rfl⟩
    · rintro ⟨r, name, ⟨u, hu, bytes, hbytes, rfl, hname⟩, rfl⟩
      obtain rfl := ht.unique hu
      exact ⟨bytes, hbytes, readRow_eq_ok_iff.2 ⟨name, hname, rfl⟩⟩

/-! ### The fields of a row -/

private theorem natOfLittle_lt (bytes : List UInt8) : natOfLittle bytes < 256 ^ bytes.length := by
  induction bytes with
  | nil => simp [natOfLittle]
  | cons b bytes ih =>
    have hb := b.toNat_lt
    have ih' : bytes.foldr (fun b n => b.toNat + 256 * n) 0 < 256 ^ bytes.length := ih
    simp only [natOfLittle, List.foldr_cons, List.length_cons, Nat.pow_succ]
    omega

theorem ByteOrder.toNat_take_lt (order : ByteOrder) (width : Nat) (bytes : List UInt8) :
    order.toNat (bytes.take width) < 256 ^ width := by
  have hlen : 256 ^ (bytes.take width).length ≤ 256 ^ width :=
    Nat.pow_le_pow_right (by decide) (List.length_take_le _ _)
  refine Nat.lt_of_lt_of_le ?_ hlen
  cases order with
  | little => exact natOfLittle_lt _
  | big =>
    have h := natOfLittle_lt (bytes.take width).reverse
    rwa [List.length_reverse] at h

theorem decodeRow_lt (word : WordSize) (order : ByteOrder) (bytes : List UInt8) :
    (decodeRow word order bytes).info < 256 ∧ (decodeRow word order bytes).home < 65536 := by
  cases word with
  | w32 => exact ⟨order.toNat_take_lt 1 _, order.toNat_take_lt 2 _⟩
  | w64 => exact ⟨order.toNat_take_lt 1 _, order.toNat_take_lt 2 _⟩

theorem HasRow.info_lt {image : ByteArray} {r : Row} {name : List UInt8} (h : HasRow image r name) : r.info < 256 := by
  obtain ⟨t, -, bytes, -, rfl, -⟩ := h
  exact (decodeRow_lt _ _ _).1

theorem HasRow.home_lt {image : ByteArray} {r : Row} {name : List UInt8} (h : HasRow image r name) :
    r.home < 65536 := by
  obtain ⟨t, -, bytes, -, rfl, -⟩ := h
  exact (decodeRow_lt _ _ _).2

namespace Row

/-- Binding 1. -/
def IsGlobal (r : Row) : Prop := r.info / 16 = 1

/-- Section 0. -/
def IsUndefined (r : Row) : Prop := r.home = 0

/-- Any type but 0. -/
def IsTyped (r : Row) : Prop := r.info % 16 ≠ 0

/-- Visibility 0. -/
def IsVisible (r : Row) : Prop := r.other % 4 = 0

end Row

private theorem binding_eq_global_iff (code : UInt8) : Binding.ofCode code = .global ↔ code = 1 := by
  unfold Binding.ofCode
  split <;> simp_all

private theorem kind_eq_noType_iff (code : UInt8) : SymbolKind.ofCode code = .noType ↔ code = 0 := by
  unfold SymbolKind.ofCode
  split <;> simp_all

private theorem home_eq_undefined_iff (code : UInt16) : SectionRef.ofCode code = .undefined ↔ code = 0 := by
  unfold SectionRef.ofCode
  split <;> simp_all

private theorem visibility_eq_default_iff {n : Nat} (h : n < 4) :
    Visibility.ofCode (UInt8.ofNat n) = .default ↔ n = 0 := by
  revert n
  decide

variable {image : ByteArray} {r : Row} {name : List UInt8}

/-- A row is required if it is a global reference with a name. -/
theorem required_accepts_symbol_iff (h : HasRow image r name) :
    Policy.required.accepts (r.symbol name) = true ↔ name ≠ [] ∧ r.IsGlobal ∧ r.IsUndefined := by
  have hinfo := h.info_lt
  have hbinding : r.info / 16 < UInt8.size := by
    show _ < 256
    omega
  rw [Policy.accepts_required_iff, Row.symbol, Ne, Text.decodeLossy_eq_empty_iff, binding_eq_global_iff,
    home_eq_undefined_iff, ← UInt8.toNat_inj, ← UInt16.toNat_inj, UInt8.toNat_ofNat_of_lt' hbinding,
    UInt16.toNat_ofNat_of_lt' h.home_lt]
  rfl

/-- A row is provided if it is a global definition with a name, a type and default visibility. -/
theorem provided_accepts_symbol_iff (h : HasRow image r name) :
    Policy.provided.accepts (r.symbol name) = true ↔
      name ≠ [] ∧ r.IsGlobal ∧ r.IsTyped ∧ ¬ r.IsUndefined ∧ r.IsVisible := by
  have hinfo := h.info_lt
  have hbinding : r.info / 16 < UInt8.size := by
    show _ < 256
    omega
  have hkind : r.info % 16 < UInt8.size := by
    show _ < 256
    omega
  rw [Policy.accepts_provided_iff, Row.symbol, Ne, Text.decodeLossy_eq_empty_iff, binding_eq_global_iff, Ne,
    kind_eq_noType_iff, Ne, home_eq_undefined_iff, visibility_eq_default_iff (by omega), ← UInt8.toNat_inj,
    ← UInt8.toNat_inj, ← UInt16.toNat_inj, UInt8.toNat_ofNat_of_lt' hbinding, UInt8.toNat_ofNat_of_lt' hkind,
    UInt16.toNat_ofNat_of_lt' h.home_lt]
  rfl

end FirmwareSymbols.Elf

namespace FirmwareSymbols

theorem parseSymbols_eq_ok_iff {image : ByteArray} {path : Path} {symbols : List Symbol} :
    parseSymbols image path = .ok symbols ↔ Elf.parse image = .ok symbols := by
  unfold parseSymbols
  split
  next hp => simp [hp]
  next hp => simp [hp]

end FirmwareSymbols
