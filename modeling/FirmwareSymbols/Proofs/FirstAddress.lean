import FirmwareSymbols.Proofs.AddressTable
import FirmwareSymbols.Proofs.Text.Utf8Order
import Mathlib.Data.Finset.Card

/-!
# Tables however they are filled

Entries are inserted one after another, and each time it is told whether the table has grown. One insertion is described
by `AddressTable.get?_insert`; a run of them keeps what the table had and adds the first address of every other name
(`get?_insertAll`), and it tells growth where a name is new to the table and to the run (`answers_insertAll`). Both are
shown by induction on the entries with the table generalised. A table that is filled from the empty one is therefore
told by the first addresses alone (`get?_ofList`, `ofList_eq_iff`).
-/

namespace FirmwareSymbols.AddressTable

/-- Inserts entries one after another. The answers tell which of them have made the table grow. -/
def insertAll (t : AddressTable) : List (String × UInt64) → List Bool × AddressTable
  | [] => ([], t)
  | e :: rest =>
    let next := (t.insert e.1 e.2).insertAll rest
    ((t.insert? e.1 e.2).isSome :: next.1, next.2)

/-- The address of the first entry for a name. -/
def firstInserted? (entries : List (String × UInt64)) (name : String) : Option UInt64 :=
  (entries.find? fun e => e.1 = name).map Prod.snd

variable {t : AddressTable} {name : String} {entries : List (String × UInt64)}

/-! ### First entries -/

theorem firstInserted?_cons (e : String × UInt64) : firstInserted? (e :: entries) name =
    if name = e.1 then some e.2 else firstInserted? entries name := by
  unfold firstInserted?
  by_cases h : name = e.1
  · rw [if_pos h, List.find?_cons_of_pos (by simp [h]), Option.map_some]
  · rw [if_neg h, List.find?_cons_of_neg (by simp [Ne.symm h])]

theorem firstInserted?_eq_none_iff : firstInserted? entries name = none ↔ name ∉ entries.map Prod.fst := by
  rw [firstInserted?, Option.map_eq_none_iff, List.find?_eq_none, List.mem_map, not_exists]
  simp only [decide_eq_true_eq, not_and]

/-! ### Runs of insertions -/

/-- What the table had is kept, and of several addresses for one name the first. -/
theorem get?_insertAll (t : AddressTable) (entries : List (String × UInt64)) (name : String) :
    (t.insertAll entries).2.get? name = (t.get? name).or (firstInserted? entries name) := by
  induction entries generalizing t with
  | nil => exact (Option.or_none).symm
  | cons e entries ih =>
    show ((t.insert e.1 e.2).insertAll entries).2.get? name = _
    rw [ih, get?_insert, firstInserted?_cons]
    by_cases h : name = e.1
    · subst h
      rw [if_pos rfl, if_pos rfl]
      cases t.get? e.1 <;> rfl
    · rw [if_neg h, if_neg h]

/-- An entry makes the table grow exactly if its name is in neither the table nor an earlier entry. -/
theorem answers_insertAll (t : AddressTable) (entries : List (String × UInt64)) : (t.insertAll entries).1 =
    entries.mapIdx fun i e => decide (e.1 ∉ t.names ∧ e.1 ∉ (entries.take i).map Prod.fst) := by
  induction entries generalizing t with
  | nil => rfl
  | cons e entries ih =>
    show (t.insert? e.1 e.2).isSome :: ((t.insert e.1 e.2).insertAll entries).1 = _
    rw [List.mapIdx_cons, ih]
    congr 1
    · rw [Bool.eq_iff_iff, Option.isSome_iff_ne_none, Ne, insert?_eq_none_iff]
      simp
    · refine congrArg (entries.mapIdx ·) ?_
      funext i f
      -- for the later entries the name of the first one counts as a name of the table
      simp only [mem_names_insert, List.take_succ_cons, List.map_cons, List.mem_cons, not_or]
      exact decide_eq_decide.2 (by tauto)

/-- A run ends with the table that has all the entries inserted. -/
theorem snd_insertAll (t : AddressTable) (entries : List (String × UInt64)) :
    (t.insertAll entries).2 = entries.foldl (fun t e => t.insert e.1 e.2) t := by
  induction entries generalizing t with
  | nil => rfl
  | cons e entries ih => exact ih (t.insert e.1 e.2)

/-- An entry for a name that has an address changes nothing. -/
theorem insert_eq_self {address : UInt64} (h : name ∈ t.names) : t.insert name address = t := by
  rw [insert, insert?_eq_none_iff.2 h, Option.getD_none]

/-! ### Tables that are filled from the empty one -/

theorem snd_insertAll_empty (entries : List (String × UInt64)) : (empty.insertAll entries).2 = ofList entries :=
  snd_insertAll empty entries

theorem get?_ofList (entries : List (String × UInt64)) (name : String) :
    (ofList entries).get? name = firstInserted? entries name := by
  rw [← snd_insertAll_empty, get?_insertAll, get?_empty, Option.none_or]

theorem mem_names_ofList : name ∈ (ofList entries).names ↔ name ∈ entries.map Prod.fst := by
  rw [mem_names_iff, ← Option.ne_none_iff_exists', get?_ofList, Ne, firstInserted?_eq_none_iff, not_not]

/-- Each name counts once. -/
theorem size_ofList (entries : List (String × UInt64)) :
    (ofList entries).size = (entries.map Prod.fst).toFinset.card := by
  have hnodup : (ofList entries).names.Nodup := by
    refine List.Pairwise.imp ?_ (ascending_names _)
    rintro a _ hlt rfl
    exact String.lt_irrefl a hlt
  have hnames : (ofList entries).names.toFinset = (entries.map Prod.fst).toFinset := by
    ext name
    rw [List.mem_toFinset, List.mem_toFinset, mem_names_ofList]
  rw [← hnames, List.toFinset_card_of_nodup hnodup, names, List.length_map, size]

/-- Tables are equal exactly if the entries that fill them have the same first address for every name. -/
theorem ofList_eq_iff {others : List (String × UInt64)} :
    ofList others = ofList entries ↔ ∀ name, firstInserted? others name = firstInserted? entries name := by
  constructor
  · intro h name
    rw [← get?_ofList, ← get?_ofList, h]
  · intro h
    refine ext fun name => ?_
    rw [get?_ofList, get?_ofList, h]

/-- A table that is filled from the empty one has for each name the first address that was inserted for it. Exactly the
first insertion of a name tells that the table has grown, and a later one changes nothing. The size is the number of
different names, and the names are in strictly ascending order of their bytes. Entries with the same first address for
every name fill equal tables, with the same text and the same bytes. -/
theorem filled_table_keeps_first_addresses (entries others : List (String × UInt64)) :
    (empty.insertAll entries).2 = ofList entries ∧
    (empty.insertAll entries).1 = entries.mapIdx (fun i e => decide (e.1 ∉ (entries.take i).map Prod.fst)) ∧
    (∀ name, (ofList entries).get? name = firstInserted? entries name) ∧
    (∀ name address, name ∈ entries.map Prod.fst → ofList (entries ++ [(name, address)]) = ofList entries) ∧
    (ofList entries).size = (entries.map Prod.fst).toFinset.card ∧
    ((ofList entries).entries.map fun e => Text.utf8Bytes e.1).Pairwise (· < ·) ∧
    (ofList others = ofList entries ↔ ∀ name, firstInserted? others name = firstInserted? entries name) ∧
    ((∀ name, firstInserted? others name = firstInserted? entries name) →
      (ofList others).render = (ofList entries).render ∧
      ∀ padding, (ofList others).renderPadded padding = (ofList entries).renderPadded padding) := by
  refine ⟨snd_insertAll_empty entries, ?_, get?_ofList entries, ?_, size_ofList entries, ?_, ofList_eq_iff, ?_⟩
  · rw [answers_insertAll]
    have hnone (name : String) : name ∉ empty.names := List.not_mem_nil
    simp only [hnone, not_false_eq_true, true_and]
  · intro name address h
    rw [ofList, List.foldl_append]
    exact insert_eq_self (mem_names_ofList.2 h)
  · rw [List.pairwise_map]
    exact (ofList entries).ascending.imp Text.utf8Bytes_lt
  · intro h
    rw [ofList_eq_iff.2 h]
    exact ⟨rfl, fun _ => rfl⟩

end FirmwareSymbols.AddressTable
