import FirmwareSymbols.Proofs.Json.Reader
import FirmwareSymbols.Proofs.SymbolList

/-!
# The two shapes of JSON lists

A JSON list is a document that is an array of strings, or an object, whose keys count and whose values do not
(`ListsNames`). Exactly these are read, each as the set of its names but the empty one, so that two lists of the same
names are read alike however they are written (`parseSymbolList_json_shapes`).
-/

namespace FirmwareSymbols

/-- The document lists the names: it is the array of them, or an object of which they are the keys. -/
inductive ListsNames (contents : String) : List String → Prop
  | array {names : List String}
      (h : Json.IsDocument contents.toList (.array (names.map fun name => .string name.toList))) :
      ListsNames contents names
  | object {members : List (List Char × Json.Value)} (h : Json.IsDocument contents.toList (.object members)) :
      ListsNames contents (members.map fun member => String.ofList member.1)

namespace SymbolSet

private theorem stringText?_eq_some_iff {v : Json.Value} {name : String} :
    stringText? v = some name ↔ v = .string name.toList := by
  cases v with
  | string text =>
    rw [stringText?, Option.some.injEq, Json.Value.string.injEq]
    constructor
    · rintro rfl
      exact String.toList_ofList.symm
    · rintro rfl
      exact String.ofList_toList
  | _ => simp [stringText?]

private theorem mapM_stringText?_eq_some_iff {items : List Json.Value} {names : List String} :
    items.mapM stringText? = some names ↔ items = names.map fun name => .string name.toList := by
  induction items generalizing names with
  | nil => cases names <;> simp
  | cons v items ih =>
    rw [List.mapM_cons]
    simp only [Option.pure_def, Option.bind_eq_bind, Option.bind_eq_some_iff, Option.some.injEq, ih,
      stringText?_eq_some_iff]
    constructor
    · rintro ⟨name, rfl, names', rfl, rfl⟩
      rfl
    · intro h
      cases names with
      | nil => simp at h
      | cons name names' =>
        obtain ⟨rfl, rfl⟩ := List.cons.inj h
        exact ⟨name, rfl, names', rfl, rfl⟩

theorem namesOfJson?_eq_some_iff {v : Json.Value} {names : List String} :
    namesOfJson? v = some names ↔
      v = .array (names.map fun name => .string name.toList) ∨
      ∃ members, v = .object members ∧ names = members.map fun member => String.ofList member.1 := by
  cases v with
  | array items => simp [namesOfJson?, mapM_stringText?_eq_some_iff]
  | object members => simp [namesOfJson?, eq_comm]
  | _ => simp [namesOfJson?]

/-- A text is read as a set if it lists names, and the set is the set of these names. -/
theorem ofJson?_eq_some_iff {contents : String} {s : SymbolSet} :
    ofJson? contents = some s ↔ ∃ names, ListsNames contents names ∧ s = ofList names := by
  rw [ofJson?]
  simp only [Option.bind_eq_bind, Option.bind_eq_some_iff, Option.pure_def, Option.some.injEq, Json.parse?_eq_some_iff,
    namesOfJson?_eq_some_iff]
  constructor
  · rintro ⟨v, hv, names, rfl | ⟨members, rfl, rfl⟩, rfl⟩
    · exact ⟨names, .array hv, rfl⟩
    · exact ⟨_, .object hv, rfl⟩
  · rintro ⟨names, hv | hv, rfl⟩
    · exact ⟨_, hv, names, Or.inl rfl, rfl⟩
    · exact ⟨_, hv, _, Or.inr ⟨_, rfl, rfl⟩, rfl⟩

theorem eq_ofList_iff {s : SymbolSet} {names : List String} :
    s = ofList names ↔ ∀ name, name ∈ s ↔ name ∈ names ∧ name ≠ "" := by
  constructor
  · rintro rfl name
    exact mem_ofList
  · intro h
    apply ext
    intro name
    rw [h name, mem_ofList]

end SymbolSet

theorem parseSymbolList_json_eq_ok_iff {contents : String} {path : Path} {s : SymbolSet} :
    parseSymbolList contents .json path = .ok s ↔ SymbolSet.ofJson? contents = some s := by
  cases h : SymbolSet.ofJson? contents <;> simp [parseSymbolList, h]

private theorem parseSymbolList_of_listsNames {contents : String} {names : List String}
    (h : ListsNames contents names) (path : Path) :
    parseSymbolList contents .json path = .ok (SymbolSet.ofList names) :=
  parseSymbolList_json_eq_ok_iff.2 (SymbolSet.ofJson?_eq_some_iff.2 ⟨names, h, rfl⟩)

/-- Exactly the arrays of strings and the objects are read, as the set of the strings or of the keys but the empty one;
every other text is refused with the path that was given. So two lists of the same names are read as the same set,
whatever their shapes, orders, repetitions, blanks, values and escapes. -/
theorem parseSymbolList_json_shapes (contents : String) (path : Path) :
    (∀ s, parseSymbolList contents .json path = .ok s ↔
      ∃ names, ListsNames contents names ∧ ∀ name, name ∈ s ↔ name ∈ names ∧ name ≠ "") ∧
    ((∀ names, ¬ ListsNames contents names) →
      parseSymbolList contents .json path =
        .error (.symbolList path "expected a JSON array of names or an object")) ∧
    (∀ other names names', ListsNames contents names → ListsNames other names' →
      (∀ name, name ∈ names ↔ name ∈ names') →
      parseSymbolList contents .json path = parseSymbolList other .json path) := by
  refine ⟨?_, ?_, ?_⟩
  · intro s
    simp only [parseSymbolList_json_eq_ok_iff, SymbolSet.ofJson?_eq_some_iff, SymbolSet.eq_ofList_iff]
  · intro h
    have hnone : SymbolSet.ofJson? contents = none := by
      rw [Option.eq_none_iff_forall_ne_some]
      intro s hs
      obtain ⟨names, hnames, -⟩ := SymbolSet.ofJson?_eq_some_iff.1 hs
      exact h names hnames
    rw [parseSymbolList, hnone]
  · intro other names names' h h' hsame
    have hset : SymbolSet.ofList names = SymbolSet.ofList names' := by
      rw [SymbolSet.eq_ofList_iff]
      intro name
      rw [SymbolSet.mem_ofList, hsame]
    rw [parseSymbolList_of_listsNames h, parseSymbolList_of_listsNames h', hset]

/-- An array with a repeated and an empty name and an object that spells a key by its code list the same names; an
array with another item lists none. -/
theorem parseSymbolList_draw_and_free :
    let array := String.ofList ['[', '"', 'f', '"', ',', ' ', '"', 'd', '"', ',', '"', '"', ',', '"', 'd', '"', ']']
    let object := String.ofList ['\n', '\x7b', '"', '\\', 'u', '0', '0', '6', '4', '"', ' ', ':', '[', 'n', 'u', 'l', 'l',
      ',', '\x7b', '\x7d', ']', ',', '"', '"', ':', '"', 'x', '"', ',', ' ', '"', 'f', '"', ':', 't', 'r', 'u', 'e', '\x7d']
    let mixed := String.ofList ['[', '"', 'd', '"', ',', 'n', 'u', 'l', 'l', ']']
    parseSymbolList array .json ⟨"api.json"⟩ = .ok (SymbolSet.ofList ["d", "f"]) ∧
      parseSymbolList array .json ⟨"api.json"⟩ = parseSymbolList object .json ⟨"api.json"⟩ ∧
      parseSymbolList mixed .json ⟨"api.json"⟩ =
        .error (.symbolList ⟨"api.json"⟩ "expected a JSON array of names or an object") := by
  intro array object mixed
  have harray : ListsNames array ["f", "d", "", "d"] := by
    apply ListsNames.array
    rw [← Json.parse?_eq_some_iff, String.toList_ofList]
    rfl
  have hobject : ListsNames object ["d", "", "f"] := by
    have hdocument : Json.IsDocument object.toList (.object
        [(['d'], .array [.null, .object []]), ([], .string ['x']), (['f'], .bool true)]) := by
      rw [← Json.parse?_eq_some_iff, String.toList_ofList]
      rfl
    exact ListsNames.object hdocument
  have hmixed : Json.parse? mixed.toList = some (.array [.string ['d'], .null]) := by
    rw [String.toList_ofList]
    rfl
  have hnone : ∀ names, ¬ ListsNames mixed names := by
    rintro names (h | h)
    · have hsame := hmixed.symm.trans (Json.parse?_eq_some_iff.2 h)
      simp only [Option.some.injEq, Json.Value.array.injEq] at hsame
      rcases names with _ | ⟨_, _ | ⟨_, _⟩⟩ <;> simp at hsame
    · have hsame := hmixed.symm.trans (Json.parse?_eq_some_iff.2 h)
      simp at hsame
  obtain ⟨hok, -, hshapes⟩ := parseSymbolList_json_shapes array ⟨"api.json"⟩
  refine ⟨(hok _).2 ⟨_, harray, ?_⟩, hshapes object _ _ harray hobject ?_,
    (parseSymbolList_json_shapes mixed ⟨"api.json"⟩).2.1 hnone⟩
  · intro name
    rw [SymbolSet.mem_ofList]
    simp
    tauto
  · intro name
    simp
    tauto

end FirmwareSymbols
