import FirmwareSymbols.Proofs.JsonList
import FirmwareSymbols.Proofs.TextList
import Mathlib.Algebra.GroupWithZero.Nat
import Mathlib.Algebra.Order.BigOperators.Group.List
import Mathlib.Algebra.Order.Group.Nat
import Mathlib.Data.List.Perm.Subperm

/-!
# The two formats are told apart by their lengths

A JSON document has at least two characters more for each name that it lists, and two for itself
(`SymbolSet.length_le_of_ofJson?`); a text list has one more for each name. So neither form of a set can be read as the
same set in the other format, although every text is a text list (`parseSymbolList_render_iff`).
-/

namespace FirmwareSymbols

namespace Json

/-! ### Spellings are not shorter than what they spell -/

theorem SpellsChar.length_pos {s : List Char} {c : Char} (h : SpellsChar s c) : 0 < s.length := by
  cases h <;> exact Nat.succ_pos _

theorem SpellsText.length_le {s text : List Char} (h : SpellsText s text) : text.length ≤ s.length := by
  induction h with
  | nil => exact Nat.le_refl _
  | cons h _ ih =>
    have hpos := h.length_pos
    rw [List.length_append, List.length_cons]
    omega

/-- A text needs two quotes more than its characters; nothing is said of other values. -/
def Value.textLength : Value → Nat
  | .string text => text.length + 2
  | _ => 0

theorem Spells.textLength_le {s : List Char} {v : Value} (h : Spells s v) : v.textLength ≤ s.length := by
  cases h with
  | string h =>
    have hle := h.length_le
    simp only [Value.textLength, List.length_cons, List.length_append, List.length_nil]
    omega
  | _ => exact Nat.zero_le _

theorem SpellsMember.length_le {value : List Char → Value → Prop} {s : List Char} {m : List Char × Value}
    (h : SpellsMember value s m) : m.1.length + 2 ≤ s.length := by
  obtain ⟨hkey, -, -, -⟩ := h
  have hle := hkey.length_le
  simp only [List.length_cons, List.length_append]
  omega

theorem Padded.exists_length_le {α : Type} {spells : List Char → α → Prop} {s : List Char} {a : α}
    (h : Padded spells s a) : ∃ t, spells t a ∧ t.length ≤ s.length := by
  obtain ⟨-, h, -⟩ := h
  refine ⟨_, h, ?_⟩
  simp only [List.length_append]
  omega

theorem SpellsList.sum_le {α : Type} {spells : List Char → α → Prop} {weight : α → Nat} {s : List Char} {as : List α}
    (h : SpellsList (Padded spells) s as) (hitem : ∀ t a, spells t a → weight a ≤ t.length) :
    (as.map weight).sum ≤ s.length := by
  have hpadded : ∀ t a, Padded spells t a → weight a ≤ t.length := by
    intro t a ht
    obtain ⟨t', ht', hle⟩ := ht.exists_length_le
    exact Nat.le_trans (hitem t' a ht') hle
  induction h with
  | last h => simpa using hpadded _ _ h
  | cons h _ ih =>
    have hle := hpadded _ _ h
    simp only [List.map_cons, List.sum_cons, List.length_append, List.length_cons]
    omega

end Json

namespace Json

theorem Spells.items_le {s : List Char} {items : List Value} (h : Spells s (.array items)) :
    (items.map Value.textLength).sum + 2 ≤ s.length := by
  cases h with
  | emptyArray _ => simp
  | array h =>
    have hle := h.sum_le fun _ _ => Spells.textLength_le
    simp only [List.length_cons, List.length_append, List.length_nil]
    omega

theorem Spells.members_le {s : List Char} {members : List (List Char × Value)} (h : Spells s (.object members)) :
    (members.map fun member => member.1.length + 2).sum + 2 ≤ s.length := by
  cases h with
  | emptyObject _ => simp
  | object h =>
    have hle := h.sum_le fun _ _ => SpellsMember.length_le
    simp only [List.length_cons, List.length_append, List.length_nil]
    omega

end Json

/-- A document that lists names has two characters more for each name, and two for itself. -/
theorem ListsNames.sum_le {contents : String} {names : List String} (h : ListsNames contents names) :
    (names.map fun name => name.length + 2).sum + 2 ≤ contents.length := by
  rw [← String.length_toList]
  rcases h with ⟨h⟩ | ⟨h⟩
  · obtain ⟨s, hs, hle⟩ := h.spelled.exists_length_le
    have hitems := hs.items_le
    simp only [List.map_map, Function.comp_def, Json.Value.textLength, String.length_toList] at hitems
    omega
  · obtain ⟨s, hs, hle⟩ := h.spelled.exists_length_le
    have hmembers := hs.members_le
    simp only [List.map_map, Function.comp_def, String.length_ofList]
    omega

namespace SymbolSet

open Text

variable {s : SymbolSet}

/-- A set has each name once, so it has no more characters than a list of its names. -/
theorem sum_names_le {names : List String} (h : s = ofList names) (weight : String → Nat) :
    (s.names.map weight).sum ≤ (names.map weight).sum := by
  have hsubset : s.names ⊆ names := by
    intro name hname
    exact (mem_ofList.1 (h ▸ hname)).1
  obtain ⟨l, hperm, hsub⟩ := s.nodup_names.subperm hsubset
  rw [← (hperm.map weight).sum_eq]
  exact (hsub.map weight).sum_le_sum fun _ _ => Nat.zero_le _

/-- A document that is read as the set is longer than its text form. -/
theorem length_le_of_ofJson? {contents : String} (h : ofJson? contents = some s) :
    (s.names.map fun name => name.length + 2).sum + 2 ≤ contents.length := by
  obtain ⟨names, hnames, hs⟩ := ofJson?_eq_some_iff.1 h
  have hset := sum_names_le hs fun name => name.length + 2
  have hdocument := hnames.sum_le
  omega

theorem length_toLines (s : SymbolSet) : s.toLines.length = (s.names.map fun name => name.length + 1).sum := by
  rw [← String.length_toList, toList_toLines, List.length_flatMap, List.map_map]
  simp [Function.comp_def, String.length_toList]

/-! ### Each form read in the other format -/

/-- The text form of a set is no document that lists it. -/
theorem ofJson?_toLines_ne (s : SymbolSet) : ofJson? s.toLines ≠ some s := by
  intro h
  have hlong := length_le_of_ofJson? h
  have hless : (s.names.map fun name => name.length + 1).sum ≤ (s.names.map fun name => name.length + 2).sum :=
    List.sum_le_sum fun name _ => Nat.le_succ _
  rw [length_toLines] at hlong
  omega

/-- Line feeds are escaped. -/
private theorem feed_not_mem_escapeChar (c : Char) : '\n' ∉ Json.escapeChar c := by
  by_cases hcontrol : c.toNat < 0x20
  · have hescaped : ∀ n < 0x20, '\n' ∉ Json.escapeChar (Char.ofNat n) := by decide
    rw [← Char.ofNat_toNat c]
    exact hescaped _ hcontrol
  · have hfeed : '\n' ≠ c := by
      rintro rfl
      exact hcontrol (by decide)
    -- what is not a control character stands for itself, or behind a backslash
    unfold Json.escapeChar
    split_ifs
    case neg => simpa using hfeed
    all_goals decide

private theorem feed_not_mem_quote (text : List Char) : '\n' ∉ Json.quote text := by
  simp only [Json.quote, List.mem_cons, List.mem_append, List.mem_flatMap, List.not_mem_nil, or_false]
  rintro (hquote | ⟨c, -, hc⟩ | hquote)
  · exact absurd hquote (by decide)
  · exact feed_not_mem_escapeChar c hc
  · exact absurd hquote (by decide)

private theorem feed_not_mem_intercalate {items : List (List Char)} (h : ∀ item ∈ items, '\n' ∉ item) :
    '\n' ∉ List.intercalate [','] items := by
  induction items with
  | nil => simp
  | cons item items ih =>
    have hitem := h item List.mem_cons_self
    have hitems := ih fun other hother => h other (List.mem_cons_of_mem _ hother)
    cases items with
    | nil => simpa using hitem
    | cons next items =>
      rw [List.intercalate_cons_cons]
      simp [hitem, hitems]

/-- The JSON form of a set is one line. -/
theorem isLine_toJson (s : SymbolSet) : IsLine s.toJson where
  noFeed := by
    have hquoted : ∀ item ∈ (s.names.map String.toList).map Json.quote, '\n' ∉ item := by
      intro item hitem
      obtain ⟨text, -, rfl⟩ := List.mem_map.1 hitem
      exact feed_not_mem_quote text
    have hitems := feed_not_mem_intercalate hquoted
    rw [toJson, String.toList_ofList, Json.stringArray, Json.bracketed, List.mem_cons, List.mem_append,
      List.mem_singleton]
    rintro (hopen | hmem | hclose)
    · exact absurd hopen (by decide)
    · exact hitems hmem
    · exact absurd hclose (by decide)
  noBlankEnd := by
    rw [toJson, String.toList_ofList, Json.stringArray, Json.bracketed, ← List.cons_append, List.getLast?_concat]
    rintro c ⟨⟩
    decide

/-- The JSON form of a set is read as a text list of this one line. -/
theorem ofLines_toJson_ne (s : SymbolSet) : ofLines s.toJson ≠ s := by
  intro h
  have hline := s.isLine_toJson
  have hlong := length_le_of_ofJson? (ofJson?_toJson s)
  have hne : s.toJson.toList ≠ [] := by
    intro hnil
    rw [← String.length_toList, hnil] at hlong
    simp at hlong
  have hmem : s.toJson ∈ s.names := by
    have hread : s.toJson ∈ ofLines s.toJson := by
      rw [ofLines, lines_of_not_mem hline.noFeed hne, mem_ofList, List.map_singleton, hline.trimEnd_eq,
        String.ofList_toList]
      exact ⟨List.mem_singleton_self _, fun hempty => hne (by rw [hempty]; rfl)⟩
    rwa [h] at hread
  have hle : s.toJson.length + 2 ≤ (s.names.map fun name => name.length + 2).sum :=
    List.single_le_sum (fun _ _ => Nat.zero_le _) _ (List.mem_map_of_mem hmem)
  omega

end SymbolSet

/-- A set of names that can be lines is read back from its form in a format exactly in this format: either form read in
the other format is no such list, or one of other names. -/
theorem parseSymbolList_render_iff {s : SymbolSet} (hlines : ∀ name ∈ s, Text.IsLine name)
    {written read : ListFormat} {path : Path} :
    parseSymbolList (s.render written) read path = .ok s ↔ read = written := by
  cases read with
  | text =>
    rw [parseSymbolList, Except.ok.injEq]
    cases written with
    | text => simpa [SymbolSet.render] using SymbolSet.ofLines_toLines_iff.2 hlines
    | json => simpa [SymbolSet.render] using s.ofLines_toJson_ne
  | json =>
    rw [parseSymbolList_json_eq_ok_iff]
    cases written with
    | text => simpa [SymbolSet.render] using s.ofJson?_toLines_ne
    | json => simp [SymbolSet.render, SymbolSet.ofJson?_toJson]

end FirmwareSymbols
