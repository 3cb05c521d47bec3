import FirmwareSymbols.AddressTable
import FirmwareSymbols.Proofs.SymbolSet

/-!
# Entries of address tables

What a table says about a name is what `AddressTable.get?` gives, and nothing else counts (`ext`). An insertion sets the
address of a name that has none, and changes nothing else (`get?_insert`). The names of a table are those that have an
address (`mem_names_iff`), in strictly ascending order.
-/

namespace FirmwareSymbols.AddressTable

variable {t : AddressTable} {name : String}

/-- The names that have an address. -/
def names (t : AddressTable) : List String := t.entries.map Prod.fst

theorem ascending_names (t : AddressTable) : Ascending id t.names :=
  List.pairwise_map.2 t.ascending

@[simp] theorem get?_empty : empty.get? name = none := rfl

private theorem lookup_cons_ite (e : String × UInt64) (l : List (String × UInt64)) :
    (e :: l).lookup name = if name = e.1 then some e.2 else l.lookup name := by
  rw [List.lookup_cons]
  by_cases h : name = e.1
  · simp [h]
  · have hb : (name == e.1) = false := by simpa using h
    simp [h, hb]

private theorem lookup_isSome_iff (l : List (String × UInt64)) :
    (l.lookup name).isSome = true ↔ ∃ e ∈ l, e.1 = name := by
  induction l with
  | nil => simp
  | cons e l ih =>
    rw [lookup_cons_ite]
    by_cases h : name = e.1
    · simp [h]
    · simp [h, ih, Ne.symm h]

theorem mem_names_iff : name ∈ t.names ↔ ∃ address, t.get? name = some address := by
  rw [← Option.isSome_iff_exists, get?, lookup_isSome_iff, names, List.mem_map]

private theorem lookup_eq_some_iff {l : List (String × UInt64)} (hl : Ascending Prod.fst l) {address : UInt64} :
    l.lookup name = some address ↔ (name, address) ∈ l := by
  induction l with
  | nil => simp
  | cons e l ih =>
    obtain ⟨hfirst, hrest⟩ := List.pairwise_cons.1 hl
    rw [lookup_cons_ite, List.mem_cons]
    by_cases h : name = e.1
    · subst h
      have hnot : (e.1, address) ∉ l := fun hmem => String.lt_irrefl e.1 (hfirst (e.1, address) hmem)
      simp [hnot, Prod.ext_iff, eq_comm]
    · simp [h, ih hrest, Prod.ext_iff]

/-- Each name has one entry, with the address that is found for it. -/
theorem mem_entries_iff {address : UInt64} : (name, address) ∈ t.entries ↔ t.get? name = some address :=
  (lookup_eq_some_iff t.ascending).symm

/-- Tables that give the same addresses are equal. -/
theorem ext {t u : AddressTable} (h : ∀ name, t.get? name = u.get? name) : t = u := by
  obtain ⟨l, hl⟩ := t
  obtain ⟨m, hm⟩ := u
  obtain rfl : l = m := by
    refine Ascending.eq_of_mem_iff hl hm fun e => ?_
    rw [← lookup_eq_some_iff hl, ← lookup_eq_some_iff hm]
    exact Eq.congr_left (h e.1)
  rfl

private theorem lookup_insert? {address : UInt64} {l l' : List (String × UInt64)} {other : String}
    (h : Ascending.insert? Prod.fst (name, address) l = some l') :
    l'.lookup other = if other = name then some address else l.lookup other := by
  induction l generalizing l' with
  | nil =>
    simp only [Ascending.insert?, Option.some.injEq] at h
    subst h
    exact lookup_cons_ite (name, address) []
  | cons e l ih =>
    unfold Ascending.insert? at h
    split at h
    · simp only [Option.some.injEq] at h
      subst h
      exact lookup_cons_ite (name, address) (e :: l)
    · split at h
      · simp at h
      next hne =>
        obtain ⟨m, hm, rfl⟩ := Option.map_eq_some_iff.1 h
        rw [lookup_cons_ite, lookup_cons_ite, ih hm]
        by_cases ho : other = name
        · subst ho
          rw [if_neg hne, if_pos rfl, if_pos rfl]
        · rw [if_neg ho, if_neg ho]

private theorem map_entries_insert? {address : UInt64} :
    (t.insert? name address).map entries = Ascending.insert? Prod.fst (name, address) t.entries := by
  unfold insert?
  split
  next h => exact h.symm
  next h => exact h.symm

private theorem entries_of_insert? {address : UInt64} {u : AddressTable} (h : t.insert? name address = some u) :
    Ascending.insert? Prod.fst (name, address) t.entries = some u.entries := by
  rw [← map_entries_insert?, h, Option.map_some]

/-- A table does not grow by a name that has an address. -/
theorem insert?_eq_none_iff {address : UInt64} : t.insert? name address = none ↔ name ∈ t.names := by
  rw [← Option.map_eq_none_iff (f := entries), map_entries_insert?, Ascending.insert?_eq_none_iff t.ascending, names,
    List.mem_map]

/-- The first address that is recorded for a name is kept. -/
theorem get?_insert {address : UInt64} {other : String} :
    (t.insert name address).get? other =
      if other = name then some ((t.get? name).getD address) else t.get? other := by
  unfold insert
  cases h : t.insert? name address with
  | none =>
    obtain ⟨a, ha⟩ := mem_names_iff.1 (insert?_eq_none_iff.1 h)
    rw [Option.getD_none]
    by_cases ho : other = name
    · simp [ho, ha]
    · simp [ho]
  | some u =>
    have hnew : name ∉ t.names := fun hname => by
      rw [insert?_eq_none_iff.2 hname] at h
      exact Option.some_ne_none u h.symm
    have hnone : t.get? name = none := by
      rw [mem_names_iff, ← Option.ne_none_iff_exists', not_not] at hnew
      exact hnew
    rw [Option.getD_some, hnone, Option.getD_none]
    exact lookup_insert? (entries_of_insert? h)

/-- A new name adds its entry to the others. -/
theorem entries_insert_perm {address : UInt64} (h : name ∉ t.names) :
    (t.insert name address).entries.Perm ((name, address) :: t.entries) := by
  obtain ⟨u, hu⟩ := Option.ne_none_iff_exists'.1 (mt insert?_eq_none_iff.1 h)
  rw [insert, hu, Option.getD_some]
  exact Ascending.perm_insert? (entries_of_insert? hu)

theorem mem_names_insert {address : UInt64} {other : String} :
    other ∈ (t.insert name address).names ↔ other = name ∨ other ∈ t.names := by
  rw [mem_names_iff, mem_names_iff, get?_insert]
  by_cases h : other = name <;> simp [h]

end FirmwareSymbols.AddressTable
