import FirmwareSymbols.Proofs.SymbolSet
import FirmwareSymbols.Proofs.Text.Utf8Order
import Mathlib.Data.Finset.Sort

/-!
# Sets however they are built

A set of names is the finite set that the same steps build in mathematics, but for the empty name
(`Construction.mem_build_iff`, by induction on the steps). Everything that can be asked of a set is therefore told by
this finite set (`names_eq_sort`, `size_eq_card`, `difference_eq_sort`, `isSubset_iff`). A union puts in the names of
the other set without looking at them, which comes to the same as inserting them (`union_eq_insertMany`), because no set
has the empty name.
-/

namespace FirmwareSymbols

namespace SymbolSet

variable {s t : SymbolSet} {name : String}

/-- The names of a set as a finite set. -/
def toFinset (s : SymbolSet) : Finset String := s.names.toFinset

theorem mem_toFinset : name ∈ s.toFinset ↔ name ∈ s := List.mem_toFinset

/-- A list in ascending order is the sorted list of its elements. -/
private theorem eq_sort_of_ascending {l : List String} (hl : Ascending id l) {names : Finset String}
    (h : ∀ name, name ∈ l ↔ name ∈ names) : l = names.sort := by
  have hsorted : Ascending id names.sort := (Finset.sortedLT_sort names).pairwise
  refine Ascending.eq_of_mem_iff hl hsorted fun name => ?_
  rw [h, Finset.mem_sort]

theorem names_eq_sort (s : SymbolSet) : s.names = s.toFinset.sort :=
  eq_sort_of_ascending s.ascending fun _ => mem_toFinset.symm

theorem size_eq_card (s : SymbolSet) : s.size = s.toFinset.card := by
  rw [size, names_eq_sort, Finset.length_sort]

theorem difference_eq_sort (s t : SymbolSet) : s.difference t = (s.toFinset \ t.toFinset).sort := by
  refine eq_sort_of_ascending (List.Pairwise.filter _ s.ascending) fun name => ?_
  rw [Finset.mem_sdiff, mem_toFinset, mem_toFinset]
  exact mem_difference

theorem isSubset_iff : s.isSubset t = true ↔ s.toFinset ⊆ t.toFinset := by
  rw [isSubset, List.all_eq_true, Finset.subset_iff]
  simp only [contains_eq_true, mem_toFinset, mem_iff_mem_names]

theorem toFinset_inj : s.toFinset = t.toFinset ↔ s = t := by
  refine ⟨fun h => ext fun name => ?_, congrArg toFinset⟩
  rw [← mem_toFinset, h, mem_toFinset]

/-- Names that are put in without a look at them are as good as inserted. -/
theorem union_eq_insertMany (s t : SymbolSet) : s ∪ t = s.insertMany t.names := by
  apply ext
  intro name
  rw [mem_union, mem_insertMany]
  exact or_congr_right ⟨fun h => ⟨h, ne_empty_of_mem h⟩, And.left⟩

end SymbolSet

/-- The steps by which a set is built. -/
inductive Construction
  | empty
  | collect (names : List String)
  | insert (c : Construction) (name : String)
  | remove (c : Construction) (name : String)
  | extend (c : Construction) (names : List String)
  | unite (c d : Construction)

namespace Construction

def build : Construction → SymbolSet
  | .empty => .empty
  | .collect names => .ofList names
  | .insert c name => c.build.insert name
  | .remove c name => c.build.erase name
  | .extend c names => c.build.insertMany names
  | .unite c d => c.build ∪ d.build

/-- The set that the steps build in mathematics, where the empty name is a name like any other. -/
def ideal : Construction → Finset String
  | .empty => ∅
  | .collect names => names.toFinset
  | .insert c name => Insert.insert name c.ideal
  | .remove c name => c.ideal.erase name
  | .extend c names => c.ideal ∪ names.toFinset
  | .unite c d => c.ideal ∪ d.ideal

/-- The set that the steps build, without the empty name. -/
def members (c : Construction) : Finset String := c.ideal.erase ""

theorem mem_build_iff (c : Construction) {name : String} : name ∈ c.build ↔ name ∈ c.ideal ∧ name ≠ "" := by
  induction c with
  | empty => simp [build, ideal, SymbolSet.not_mem_empty]
  | collect names => rw [build, ideal, SymbolSet.mem_ofList, List.mem_toFinset]
  | insert c new ih =>
    rw [build, ideal, SymbolSet.mem_insert, ih, Finset.mem_insert]
    constructor
    · rintro (⟨hname, hne⟩ | ⟨rfl, hne⟩)
      · exact ⟨.inr hname, hne⟩
      · exact ⟨.inl rfl, hne⟩
    · rintro ⟨rfl | hname, hne⟩
      · exact .inr ⟨rfl, hne⟩
      · exact .inl ⟨hname, hne⟩
  | remove c old ih =>
    rw [build, ideal, SymbolSet.mem_erase, ih, Finset.mem_erase]
    tauto
  | extend c names ih =>
    rw [build, ideal, SymbolSet.mem_insertMany, ih, Finset.mem_union, List.mem_toFinset]
    tauto
  | unite c d ihc ihd =>
    rw [build, ideal, SymbolSet.mem_union, ihc, ihd, Finset.mem_union]
    tauto

theorem toFinset_build (c : Construction) : c.build.toFinset = c.members := by
  ext name
  rw [SymbolSet.mem_toFinset, mem_build_iff, members, Finset.mem_erase, and_comm]

end Construction

/-- A set that is built by any steps holds the names of the mathematical set of the same steps without the empty name, in
strictly ascending order of their bytes. It grows by a name exactly if that is not empty and absent, and shrinks by one
exactly if that is present; its size, its difference to another set, whether it is a subset of one, and whether it is
equal to one are those of the mathematical sets. A union puts the names of one set in their places in the other without
looking at them, and comes to the same as inserting them. -/
theorem construction_is_finite_set (c d : Construction) (name : String) :
    (c.build.names.map Text.utf8Bytes).Pairwise (· < ·) ∧ "" ∉ c.build.names ∧
    c.build.names = c.members.sort ∧
    (c.build.contains name = true ↔ name ∈ c.members) ∧
    ((c.build.insert? name).isSome = true ↔ name ≠ "" ∧ name ∉ c.members) ∧
    ((c.build.erase? name).isSome = true ↔ name ∈ c.members) ∧
    c.build.size = c.members.card ∧
    c.build.difference d.build = (c.members \ d.members).sort ∧
    (c.build.isSubset d.build = true ↔ c.members ⊆ d.members) ∧
    (c.build = d.build ↔ c.members = d.members) ∧
    (c.build ∪ d.build).names = d.build.names.foldl SymbolSet.place c.build.names ∧
    c.build ∪ d.build = c.build.insertMany d.build.names := by
  have hmem : name ∈ c.build ↔ name ∈ c.members := by rw [← SymbolSet.mem_toFinset, c.toFinset_build]
  have hbytes : (c.build.names.map Text.utf8Bytes).Pairwise (· < ·) := by
    rw [List.pairwise_map]
    exact c.build.ascending.imp Text.utf8Bytes_lt
  refine ⟨hbytes, c.build.noEmptyName, ?_, ?_, ?_, ?_, ?_, ?_, ?_, ?_, rfl,
    SymbolSet.union_eq_insertMany _ _⟩
  · rw [SymbolSet.names_eq_sort, c.toFinset_build]
  · rw [SymbolSet.contains_eq_true, hmem]
  · rw [Option.isSome_iff_ne_none, Ne, SymbolSet.insert?_eq_none_iff, hmem, not_or]
  · rw [Option.isSome_iff_ne_none, Ne, SymbolSet.erase?_eq_none_iff, hmem, not_not]
  · rw [SymbolSet.size_eq_card, c.toFinset_build]
  · rw [SymbolSet.difference_eq_sort, c.toFinset_build, d.toFinset_build]
  · rw [SymbolSet.isSubset_iff, c.toFinset_build, d.toFinset_build]
  · rw [← SymbolSet.toFinset_inj, c.toFinset_build, d.toFinset_build]

end FirmwareSymbols
