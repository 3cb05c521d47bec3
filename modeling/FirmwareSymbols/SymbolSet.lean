import FirmwareSymbols.Ascending

/-!
# Symbol sets

A finite set of symbol names in ascending order, without repetitions. The empty name is never a member, so
inserting it changes nothing. Operations that may change nothing say so by `none`. A union puts in the names of the
other set without looking at them, which is safe because none of them is empty (`mem_foldl_place`).
-/

namespace FirmwareSymbols

structure SymbolSet where
  names : List String
  ascending : Ascending id names
  noEmptyName : "" ∉ names

namespace SymbolSet

instance : DecidableEq SymbolSet := fun s t =>
  decidable_of_iff (s.names = t.names) (by cases s; cases t; simp)

def empty : SymbolSet := ⟨[], Ascending.nil, List.not_mem_nil⟩

instance : Inhabited SymbolSet := ⟨empty⟩

instance : Membership String SymbolSet := ⟨fun s name => name ∈ s.names⟩

def contains (s : SymbolSet) (name : String) : Bool := s.names.contains name

def size (s : SymbolSet) : Nat := s.names.length

def isEmpty (s : SymbolSet) : Bool := s.names.isEmpty

/-- The set with `name`, or `none` if it would not grow: the name is empty or a member already. -/
def insert? (s : SymbolSet) (name : String) : Option SymbolSet :=
  if hne : name = "" then none
  else
    match h : Ascending.insert? id name s.names with
    | none => none
    | some l => some ⟨l, Ascending.insert?_some s.ascending h, fun hm =>
        ((Ascending.mem_insert? h).1 hm).elim (fun e => hne e.symm) s.noEmptyName⟩

def insert (s : SymbolSet) (name : String) : SymbolSet := (s.insert? name).getD s

/-- The set without `name`, or `none` if it is no member. -/
def erase? (s : SymbolSet) (name : String) : Option SymbolSet :=
  match h : Ascending.erase? id name s.names with
  | none => none
  | some l => some ⟨l, Ascending.erase?_some s.ascending h, fun hm =>
      s.noEmptyName ((Ascending.erase?_sublist h).subset hm)⟩

def erase (s : SymbolSet) (name : String) : SymbolSet := (s.erase? name).getD s

/-- Inserts the names one after another. -/
def insertMany (s : SymbolSet) (names : List String) : SymbolSet := names.foldl insert s

def ofList (names : List String) : SymbolSet := empty.insertMany names

/-- Puts a name at its place in a list, the empty one like any other. -/
def place (names : List String) (name : String) : List String := (Ascending.insert? id name names).getD names

theorem ascending_place {names : List String} (h : Ascending id names) (name : String) :
    Ascending id (place names name) := by
  unfold place
  cases hinsert : Ascending.insert? id name names with
  | none => exact h
  | some l => exact Ascending.insert?_some h hinsert

theorem mem_place {names : List String} (h : Ascending id names) {name other : String} :
    other ∈ place names name ↔ other = name ∨ other ∈ names := by
  unfold place
  cases hinsert : Ascending.insert? id name names with
  | none =>
    obtain ⟨y, hy, rfl⟩ := (Ascending.insert?_eq_none_iff h).1 hinsert
    refine ⟨.inr, ?_⟩
    rintro (rfl | hmem)
    · exact hy
    · exact hmem
  | some l => exact Ascending.mem_insert? hinsert

theorem ascending_foldl_place {names : List String} (h : Ascending id names) (others : List String) :
    Ascending id (others.foldl place names) := by
  induction others generalizing names with
  | nil => exact h
  | cons other others ih => exact ih (ascending_place h other)

theorem mem_foldl_place {names : List String} (h : Ascending id names) {others : List String} {name : String} :
    name ∈ others.foldl place names ↔ name ∈ names ∨ name ∈ others := by
  induction others generalizing names with
  | nil => simp
  | cons other others ih =>
    rw [List.foldl_cons, ih (ascending_place h other), mem_place h, List.mem_cons, or_assoc]
    exact or_left_comm

/-- The names of both sets. -/
def union (s t : SymbolSet) : SymbolSet where
  names := t.names.foldl place s.names
  ascending := ascending_foldl_place s.ascending t.names
  noEmptyName := fun h => ((mem_foldl_place s.ascending).1 h).elim s.noEmptyName t.noEmptyName

instance : Union SymbolSet := ⟨union⟩

/-- The members that `t` lacks, ascending. -/
def difference (s t : SymbolSet) : List String := s.names.filter fun name => !t.contains name

def isSubset (s t : SymbolSet) : Bool := s.names.all t.contains

end SymbolSet

end FirmwareSymbols
