import FirmwareSymbols.Proofs.Resolution
import FirmwareSymbols.Proofs.Text.Digits
import FirmwareSymbols.Proofs.Text.Utf8Order
import FirmwareSymbols.Proofs.TextList

/-!
# Reading address tables

A reader takes off the padding of a table file, cuts the text at its line feeds, and takes the lines after the first in
pairs. It reads what is written of a table as its entries exactly if no name has a line feed (`read?_renderPadded_iff`):
the two lines of such an entry are read as this entry, and what is read has no line feed as no line has one. The padding
does not matter, because the text ends in a line feed (`exists_render_eq`) and so in no NUL. Hence tables of such names
are told apart by their bytes, however they are padded (`eq_of_renderPadded_eq`).
-/

namespace FirmwareSymbols

open Text

namespace AddressTable

/-- The number that hexadecimal digits write, if there are any and it has 64 bits. -/
def readAddress? (digits : List Char) : Option UInt64 :=
  if digits ≠ [] ∧ (digits.all fun c => (hexDigit? c).isSome) = true ∧ hexValue digits < 2 ^ 64 then
    some (UInt64.ofNat (hexValue digits))
  else none

/-- Reads the pair of lines of an entry. -/
def readPair? (nameLine addressLine : List Char) : Option (String × UInt64) := do
  let name ← "  - Name: ".toList.isPrefixOf? nameLine
  let digits ← "    Addr: 0x".toList.isPrefixOf? addressLine
  return (String.ofList name, ← readAddress? digits)

/-- Reads pairs of lines, up to the empty piece behind the last line feed. -/
def readEntries? : List (List Char) → Option (List (String × UInt64))
  | [[]] => some []
  | nameLine :: addressLine :: rest => do
    let entry ← readPair? nameLine addressLine
    return entry :: (← readEntries? rest)
  | _ => none

/-- Reads the entries of a table from its text. -/
def readText? (text : String) : Option (List (String × UInt64)) :=
  match text.toList.splitOn '\n' with
  | first :: rest => if first = "Symbols:".toList then readEntries? rest else none
  | [] => none

/-- Reads the entries of a table from the bytes of a file, whatever number of NUL bytes they end in. -/
def read? (bytes : ByteArray) : Option (List (String × UInt64)) :=
  readText? (decodeLossy (bytes.data.toList.rdropWhile (· = 0)))

variable {t u : AddressTable} {padding other : Padding}

/-! ### Lines that were written -/

theorem readAddress?_toDigits (address : UInt64) : readAddress? (Nat.toDigits 16 address.toNat) = some address := by
  rw [readAddress?, hexValue_toDigits, if_pos, UInt64.ofNat_toNat]
  refine ⟨Nat.toDigits_ne_nil, ?_, address.toNat_lt⟩
  exact List.all_eq_true.2 fun c hc => isSome_hexDigit?_of_mem_toDigits hc

/-- The first line of an entry, if its name has no line feed. -/
def nameLine (e : String × UInt64) : List Char := "  - Name: ".toList ++ e.1.toList

def addressLine (e : String × UInt64) : List Char := "    Addr: 0x".toList ++ Nat.toDigits 16 e.2.toNat

theorem toList_renderEntry (e : String × UInt64) :
    (renderEntry e).toList = nameLine e ++ '\n' :: (addressLine e ++ ['\n']) := by
  have hmark : "\n    Addr: ".toList ++ "0x".toList = '\n' :: "    Addr: 0x".toList := rfl
  unfold renderEntry hexAddress nameLine addressLine
  simp only [String.toList_append, String.toList_ofList, List.append_assoc]
  rw [← List.append_assoc "\n    Addr: ".toList, hmark]
  rfl

theorem readPair?_lines (e : String × UInt64) : readPair? (nameLine e) (addressLine e) = some e := by
  have hname : "  - Name: ".toList.isPrefixOf? (nameLine e) = some e.1.toList :=
    List.isPrefixOf?_eq_some_iff_append_eq.2 rfl
  have haddress : "    Addr: 0x".toList.isPrefixOf? (addressLine e) = some (Nat.toDigits 16 e.2.toNat) :=
    List.isPrefixOf?_eq_some_iff_append_eq.2 rfl
  unfold readPair?
  rw [hname, haddress, Option.bind_eq_bind, Option.bind_some, Option.bind_eq_bind, Option.bind_some,
    readAddress?_toDigits, String.ofList_toList]
  rfl

theorem feed_not_mem_nameLine {e : String × UInt64} (h : '\n' ∉ e.1.toList) : '\n' ∉ nameLine e := by
  have hmark : '\n' ∉ "  - Name: ".toList := by decide
  exact fun hm => (List.mem_append.1 hm).elim hmark h

theorem feed_not_mem_addressLine (e : String × UInt64) : '\n' ∉ addressLine e := by
  have hmark : '\n' ∉ "    Addr: 0x".toList := by decide
  have hdigits : '\n' ∉ Nat.toDigits 16 e.2.toNat := fun h =>
    absurd (isSome_hexDigit?_of_mem_toDigits h) (by decide)
  exact fun h => (List.mem_append.1 h).elim hmark hdigits

/-- Entries are read back line by line. -/
theorem readEntries?_splitOn {entries : List (String × UInt64)} (h : ∀ e ∈ entries, '\n' ∉ e.1.toList) :
    readEntries? ((String.join (entries.map renderEntry)).toList.splitOn '\n') = some entries := by
  induction entries with
  | nil => rfl
  | cons e entries ih =>
    rw [List.forall_mem_cons] at h
    have hname : '\n' ∉ nameLine e := feed_not_mem_nameLine h.1
    -- each line is cut off where its own line feed stands, as it has no other one
    have hlines : (String.join ((e :: entries).map renderEntry)).toList.splitOn '\n' =
        nameLine e :: addressLine e :: (String.join (entries.map renderEntry)).toList.splitOn '\n' := by
      rw [List.map_cons, String.join_cons, String.toList_append, toList_renderEntry, List.append_assoc,
        List.cons_append, List.append_assoc, List.singleton_append, List.splitOn_append_cons_self,
        List.splitOn_append_cons_self, List.splitOn_eq_singleton hname,
        List.splitOn_eq_singleton (feed_not_mem_addressLine e)]
      rfl
    rw [hlines, readEntries?, readPair?_lines, ih h.2]
    rfl

theorem readText?_render (h : ∀ e ∈ t.entries, '\n' ∉ e.1.toList) : readText? t.render = some t.entries := by
  have hfirst : "Symbols:\n".toList = "Symbols:".toList ++ ['\n'] := rfl
  have hclean : '\n' ∉ "Symbols:".toList := by decide
  have hlines : t.render.toList.splitOn '\n' =
      "Symbols:".toList :: (String.join (t.entries.map renderEntry)).toList.splitOn '\n' := by
    unfold render
    rw [String.toList_append, hfirst, List.append_assoc, List.singleton_append, List.splitOn_append_cons_self,
      List.splitOn_eq_singleton hclean]
    rfl
  unfold readText?
  rw [hlines]
  exact (if_pos rfl).trans (readEntries?_splitOn h)

/-! ### Lines that were read -/

/-- A name has only characters of the line it is read from. -/
theorem feed_not_mem_of_readPair? {nameLine addressLine : List Char} {e : String × UInt64} (hline : '\n' ∉ nameLine)
    (h : readPair? nameLine addressLine = some e) : '\n' ∉ e.1.toList := by
  obtain ⟨name, hname, h⟩ := Option.bind_eq_some_iff.1 h
  obtain ⟨digits, -, h⟩ := Option.bind_eq_some_iff.1 h
  obtain ⟨address, -, h⟩ := Option.bind_eq_some_iff.1 h
  obtain rfl := Option.some.inj h
  rw [List.isPrefixOf?_eq_some_iff_append_eq] at hname
  rw [← hname, List.mem_append, not_or] at hline
  rw [String.toList_ofList]
  exact hline.2

theorem feed_not_mem_of_readEntries? {lines : List (List Char)} {entries : List (String × UInt64)}
    (hlines : ∀ line ∈ lines, '\n' ∉ line) (h : readEntries? lines = some entries) :
    ∀ e ∈ entries, '\n' ∉ e.1.toList := by
  fun_induction readEntries? lines generalizing entries with
  | case1 =>
    obtain rfl := Option.some.inj h
    exact List.forall_mem_nil _
  | case2 nameLine addressLine rest ih =>
    obtain ⟨e, he, h⟩ := Option.bind_eq_some_iff.1 h
    obtain ⟨more, hmore, h⟩ := Option.bind_eq_some_iff.1 h
    obtain rfl := Option.some.inj h
    rw [List.forall_mem_cons, List.forall_mem_cons] at hlines
    exact List.forall_mem_cons.2 ⟨feed_not_mem_of_readPair? hlines.1 he, ih hlines.2.2 hmore⟩
  | case3 => exact absurd h (by simp)

theorem feed_not_mem_of_readText? {text : String} {entries : List (String × UInt64)}
    (h : readText? text = some entries) : ∀ e ∈ entries, '\n' ∉ e.1.toList := by
  unfold readText? at h
  split at h
  next first rest hsplit =>
    split at h
    · refine feed_not_mem_of_readEntries? (fun line hline => ?_) h
      rw [← splitAt_eq_splitOn] at hsplit
      exact not_mem_of_mem_splitAt (hsplit ▸ List.mem_cons_of_mem first hline)
    · exact absurd h (by simp)
  · exact absurd h (by simp)

/-! ### Padding -/

/-- The text ends in a line feed. -/
theorem exists_render_eq (t : AddressTable) : ∃ before, t.render = before ++ "\n" := by
  unfold render
  rcases List.eq_nil_or_concat t.entries with hnil | ⟨entries, e, hlast⟩
  · exact ⟨"Symbols:", by rw [hnil]; rfl⟩
  · obtain ⟨lines, hlines⟩ : ∃ lines, renderEntry e = lines ++ "\n" := ⟨_, rfl⟩
    refine ⟨"Symbols:\n" ++ (String.join (entries.map renderEntry) ++ lines), ?_⟩
    rw [hlast, List.concat_eq_append, List.map_append, String.join_append, List.map_singleton, String.join_cons,
      String.join_nil, String.append_empty, hlines, String.append_assoc, String.append_assoc]

theorem toList_renderPadded (t : AddressTable) (padding : Padding) :
    (t.renderPadded padding).data.toList =
      utf8Bytes t.render ++ List.replicate (padding.amount (utf8Bytes t.render).length) 0 := by
  unfold renderPadded
  rw [ByteArray.data_append, Array.toList_append, List.data_toByteArray]
  rfl

private theorem rdropWhile_append_replicate {l : List UInt8} (h : l.rdropWhile (· = 0) = l) (n : Nat) :
    (l ++ List.replicate n 0).rdropWhile (· = 0) = l := by
  induction n with
  | zero => rw [List.replicate_zero, List.append_nil, h]
  | succ n ih => rw [List.replicate_succ', ← List.append_assoc, List.rdropWhile_concat_pos _ _ _ (by decide), ih]

/-- The padding can be told from the text. -/
theorem rdropWhile_renderPadded (t : AddressTable) (padding : Padding) :
    (t.renderPadded padding).data.toList.rdropWhile (· = 0) = utf8Bytes t.render := by
  obtain ⟨before, hbefore⟩ := exists_render_eq t
  have hend : utf8Bytes t.render = utf8Bytes before ++ [10] := by
    rw [hbefore, utf8Bytes_append]
    rfl
  rw [toList_renderPadded]
  -- a NUL at the end of the last name is safe behind the line feed
  refine rdropWhile_append_replicate ?_ _
  rw [hend, List.rdropWhile_concat_neg _ _ _ (by decide)]

theorem read?_renderPadded (t : AddressTable) (padding : Padding) :
    read? (t.renderPadded padding) = readText? t.render := by
  rw [read?, rdropWhile_renderPadded, decodeLossy_utf8Bytes]

/-- A table is read back exactly if no name has a line feed. -/
theorem read?_renderPadded_iff :
    read? (t.renderPadded padding) = some t.entries ↔ ∀ name ∈ t.names, '\n' ∉ name.toList := by
  rw [read?_renderPadded, names, List.forall_mem_map]
  exact ⟨feed_not_mem_of_readText?, readText?_render⟩

/-- Tables whose names have no line feed are told apart by their bytes, however they are padded. -/
theorem eq_of_renderPadded_eq (ht : ∀ name ∈ t.names, '\n' ∉ name.toList) (hu : ∀ name ∈ u.names, '\n' ∉ name.toList)
    (h : t.renderPadded padding = u.renderPadded other) : t = u := by
  have hentries : some t.entries = some u.entries := by
    rw [← read?_renderPadded_iff.2 ht, h, read?_renderPadded_iff.2 hu]
  obtain ⟨entries, _⟩ := t
  obtain rfl := Option.some.inj hentries
  rfl

/-! ### Names of text lists -/

/-- Its names stand in a text list. -/
def IsOfTextList (t : AddressTable) : Prop :=
  ∃ contents path required, parseSymbolList contents .text path = .ok required ∧ ∀ name ∈ t.names, name ∈ required

theorem IsOfTextList.feed_not_mem (h : t.IsOfTextList) : ∀ name ∈ t.names, '\n' ∉ name.toList := by
  obtain ⟨contents, path, required, hparse, hnames⟩ := h
  exact fun name hname => feed_not_mem_of_parseSymbolList hparse name (hnames name hname)

theorem isOfTextList_resolveSymbols {contents : String} {path : Path} {required : SymbolSet}
    (h : parseSymbolList contents .text path = .ok required) (symbols : List Symbol) :
    (resolveSymbols required symbols).result.table.IsOfTextList :=
  ⟨contents, path, required, h, fun name hname => ((mem_resolved_iff required symbols name).1 hname).1⟩

/-- A name with a line feed can stand for other entries. -/
example :
    (ofList [("draw\n    Addr: 0x1\n  - Name: fill", 2)]).render = (ofList [("draw", 1), ("fill", 2)]).render := by
  decide

end AddressTable

/-- Whatever its padding, a table file is read as the names of the table with their addresses, in ascending order,
exactly if none of these names has a line feed. No name of a text list has one, so the tables of what was found for
text lists are equal when their files are, also if the padding is not of the same kind. -/
theorem renderPadded_read_back :
    (∀ (t : AddressTable) (padding : Padding),
      (AddressTable.read? (t.renderPadded padding) = some t.entries ↔ ∀ name ∈ t.names, '\n' ∉ name.toList) ∧
      (∀ name address, (name, address) ∈ t.entries ↔ t.get? name = some address) ∧
      t.entries.Pairwise fun e f => utf8Bytes e.1 < utf8Bytes f.1) ∧
    (∀ contents path required, parseSymbolList contents .text path = .ok required →
      (∀ name ∈ required, '\n' ∉ name.toList) ∧
      ∀ symbols, (resolveSymbols required symbols).result.table.IsOfTextList) ∧
    ∀ (t u : AddressTable) (padding other : Padding), t.IsOfTextList → u.IsOfTextList →
      t.renderPadded padding = u.renderPadded other → t = u := by
  refine ⟨fun t padding => ⟨AddressTable.read?_renderPadded_iff, fun _ _ => AddressTable.mem_entries_iff, ?_⟩, ?_, ?_⟩
  · exact t.ascending.imp utf8Bytes_lt
  · exact fun _ _ _ hparse =>
      ⟨feed_not_mem_of_parseSymbolList hparse, AddressTable.isOfTextList_resolveSymbols hparse⟩
  · exact fun t u _ _ ht hu h => AddressTable.eq_of_renderPadded_eq ht.feed_not_mem hu.feed_not_mem h

/-- Of two rows of `draw` one is of its own file only, so the table has one entry. It is written with one padding and
read from the other. -/
theorem renderPadded_read_back_draw :
    let required := SymbolSet.ofList ["draw"]
    let rows : List Symbol :=
      [⟨"draw", .local, .func, .index 1, .default, 0x40⟩, ⟨"draw", .global, .func, .index 1, .default, 0x80000⟩]
    let found := (resolveSymbols required rows).result.table
    let written := AddressTable.ofList [("draw", 0x80000)]
    parseSymbolList "draw\n" .text ⟨"api.txt"⟩ = .ok required ∧
      found.renderPadded .aligned = written.renderPadded .legacy ∧ found = written ∧
      AddressTable.read? (found.renderPadded .aligned) = some [("draw", 0x80000)] := by
  intro required rows found written
  have hparse : parseSymbolList "draw\n" .text ⟨"api.txt"⟩ = .ok required := by decide
  have hbytes : found.renderPadded .aligned = written.renderPadded .legacy := by decide
  have hwritten : written.IsOfTextList := ⟨"draw\n", ⟨"api.txt"⟩, required, hparse, by decide⟩
  have hfound : found.IsOfTextList := (renderPadded_read_back.2.1 _ _ required hparse).2 _
  have hequal : found = written := renderPadded_read_back.2.2 found written .aligned .legacy hfound hwritten hbytes
  have hentries : found.entries = [("draw", 0x80000)] := congrArg AddressTable.entries hequal
  refine ⟨hparse, hbytes, hequal, ?_⟩
  rw [← hentries]
  exact (renderPadded_read_back.1 found .aligned).1.2 (by decide)

end FirmwareSymbols
