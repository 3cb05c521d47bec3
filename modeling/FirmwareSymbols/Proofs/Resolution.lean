import FirmwareSymbols.Proofs.AddressTable
import FirmwareSymbols.Proofs.SymbolSet
import FirmwareSymbols.Resolution

/-!
# The first definition of each name

A lookup takes the value of the first row that defines a required name, and stops when nothing is outstanding.

* `Lookup.Settled` says what a lookup knows after some rows: the addresses are those of the first definitions among
  these rows, and outstanding are the required names that none of them defines.
* One visit extends the rows by one (`Settled.visit`); a lookup that is done stays settled whatever rows follow
  (`Settled.of_isDone`), so stopping early loses nothing. By induction a run is settled with all rows
  (`Settled.visitUntilDone`).
-/

namespace FirmwareSymbols

/-- The row gives the name an address that other files may use. -/
def Symbol.Defines (s : Symbol) (name : String) : Prop :=
  s.name = name ∧ s.home ≠ .undefined ∧ s.binding ≠ .local

instance (s : Symbol) (name : String) : Decidable (s.Defines name) :=
  inferInstanceAs (Decidable (_ ∧ _ ∧ _))

theorem Symbol.defines_iff {s : Symbol} {name : String} :
    s.Defines name ↔ s.isDefinition = true ∧ s.name = name := by
  simp only [Defines, isDefinition, ne_eq, decide_not, Bool.and_eq_true, Bool.not_eq_true', decide_eq_false_iff_not]
  exact and_comm

/-- The value of the first row that defines the name. -/
def firstAddress? (symbols : List Symbol) (name : String) : Option UInt64 :=
  (symbols.find? fun s => s.Defines name).map Symbol.value

theorem firstAddress?_eq_none_iff {symbols : List Symbol} {name : String} :
    firstAddress? symbols name = none ↔ ∀ s ∈ symbols, ¬ s.Defines name := by
  simp [firstAddress?]

/-- A row that is added at the end settles a name only if no earlier one does. -/
theorem firstAddress?_append_singleton (symbols : List Symbol) (s : Symbol) (name : String) :
    firstAddress? (symbols ++ [s]) name =
      (firstAddress? symbols name).or (if s.Defines name then some s.value else none) := by
  unfold firstAddress?
  rw [List.find?_append]
  cases List.find? (fun s => s.Defines name) symbols with
  | some t => rfl
  | none => by_cases h : s.Defines name <;> simp [h]

namespace Lookup

/-- What a lookup of the required names knows after these rows. -/
structure Settled (required : SymbolSet) (rows : List Symbol) (l : Lookup) : Prop where
  get?_eq : ∀ name, l.table.get? name = if name ∈ required then firstAddress? rows name else none
  mem_outstanding : ∀ name, name ∈ l.outstanding ↔ name ∈ required ∧ firstAddress? rows name = none

variable {required : SymbolSet} {rows : List Symbol} {l : Lookup}

theorem settled_start (required : SymbolSet) : Settled required [] (start required) where
  get?_eq name := by simp [start, firstAddress?]
  mem_outstanding name := by simp [start, firstAddress?]

/-- Rows that settle nothing outstanding keep the lookup as it is. -/
private theorem Settled.of_not_outstanding (h : Settled required rows l) {s : Symbol}
    (hs : ∀ name, s.Defines name → name ∉ l.outstanding) : Settled required (rows ++ [s]) l := by
  have key : ∀ name ∈ required, firstAddress? (rows ++ [s]) name = firstAddress? rows name := by
    intro name hn
    rw [firstAddress?_append_singleton]
    by_cases hd : s.Defines name
    -- the name is required but not outstanding, hence an earlier row defines it
    · have := (h.mem_outstanding name).not.1 (hs name hd)
      obtain ⟨v, hv⟩ := Option.ne_none_iff_exists'.1 fun h' => this ⟨hn, h'⟩
      rw [hv, Option.some_or]
    · rw [if_neg hd, Option.or_none]
  constructor
  · intro name
    rw [h.get?_eq]
    by_cases hn : name ∈ required
    · rw [if_pos hn, if_pos hn, key name hn]
    · rw [if_neg hn, if_neg hn]
  · intro name
    rw [h.mem_outstanding]
    constructor
    · rintro ⟨hn, hf⟩
      exact ⟨hn, (key name hn).trans hf⟩
    · rintro ⟨hn, hf⟩
      exact ⟨hn, (key name hn).symm.trans hf⟩

/-- A row that settles an outstanding name. -/
private theorem Settled.of_erase? (h : Settled required rows l) {s : Symbol} {rest : SymbolSet}
    (hs : s.Defines s.name) (hr : l.outstanding.erase? s.name = some rest) :
    Settled required (rows ++ [s]) ⟨rest, l.table.insert s.name s.value⟩ := by
  obtain ⟨hm, hrest⟩ := SymbolSet.mem_of_erase?_eq_some hr
  obtain ⟨hreq, hnone⟩ := (h.mem_outstanding s.name).1 hm
  have hget : l.table.get? s.name = none := by rw [h.get?_eq, if_pos hreq, hnone]
  have hsame : firstAddress? (rows ++ [s]) s.name = some s.value := by
    rw [firstAddress?_append_singleton, hnone, if_pos hs, Option.none_or]
  have hother : ∀ name, name ≠ s.name → firstAddress? (rows ++ [s]) name = firstAddress? rows name := by
    intro name hne
    have hd : ¬ s.Defines name := fun hd => hne hd.1.symm
    rw [firstAddress?_append_singleton, if_neg hd, Option.or_none]
  constructor
  · intro name
    show (l.table.insert s.name s.value).get? name = _
    rw [AddressTable.get?_insert]
    by_cases hne : name = s.name
    · rw [if_pos hne, hne, hget, Option.getD_none, if_pos hreq, hsame]
    · rw [if_neg hne, h.get?_eq, hother name hne]
  · intro name
    show name ∈ rest ↔ _
    rw [hrest, h.mem_outstanding]
    by_cases hne : name = s.name
    · subst hne
      simp [hsame]
    · rw [hother name hne]
      simp [hne]

/-- One visit takes one more row into account. -/
theorem Settled.visit (h : Settled required rows l) (s : Symbol) :
    Settled required (rows ++ [s]) (l.visit s).result := by
  unfold Lookup.visit
  by_cases hd : s.isDefinition
  · rw [if_pos hd]
    split
    next he =>
      apply h.of_not_outstanding
      rintro name ⟨rfl, -⟩
      exact SymbolSet.erase?_eq_none_iff.1 he
    next rest he =>
      rw [Logged.result_bind, Logged.result_pure]
      exact h.of_erase? (Symbol.defines_iff.2 ⟨hd, rfl⟩) he
  · rw [if_neg hd, Logged.result_pure]
    apply h.of_not_outstanding
    intro name hn
    exact absurd (Symbol.defines_iff.1 hn).1 hd

/-- When nothing is outstanding, no further row changes what is known. -/
theorem Settled.of_isDone (h : Settled required rows l) (hdone : l.isDone = true) (more : List Symbol) :
    Settled required (rows ++ more) l := by
  induction more generalizing rows with
  | nil => simpa using h
  | cons s more ih =>
    have hs : Settled required (rows ++ [s]) l :=
      h.of_not_outstanding fun name _ => SymbolSet.isEmpty_iff.1 hdone name
    simpa using ih hs

/-- A run is settled with all rows, wherever it stopped. -/
theorem Settled.visitUntilDone (h : Settled required rows l) (symbols : List Symbol) :
    Settled required (rows ++ symbols) (l.visitUntilDone symbols).result := by
  induction symbols generalizing rows l with
  | nil => simpa [Lookup.visitUntilDone] using h
  | cons s symbols ih =>
    unfold Lookup.visitUntilDone
    by_cases hdone : l.isDone
    · rw [if_pos hdone]
      exact h.of_isDone hdone (s :: symbols)
    · rw [if_neg hdone, Logged.result_bind]
      simpa using ih (h.visit s)

end Lookup

section

variable (required : SymbolSet) (symbols : List Symbol)

theorem resolveSymbols_get? (name : String) :
    (resolveSymbols required symbols).result.table.get? name =
      if name ∈ required then firstAddress? symbols name else none :=
  ((Lookup.settled_start required).visitUntilDone symbols).get?_eq name

theorem mem_unresolved_iff (name : String) :
    name ∈ (resolveSymbols required symbols).result.unresolved ↔
      name ∈ required ∧ ∀ s ∈ symbols, ¬ s.Defines name := by
  rw [← firstAddress?_eq_none_iff]
  exact ((Lookup.settled_start required).visitUntilDone symbols).mem_outstanding name

theorem mem_resolved_iff (name : String) :
    name ∈ (resolveSymbols required symbols).result.table.names ↔
      name ∈ required ∧ ∃ s ∈ symbols, s.Defines name := by
  rw [AddressTable.mem_names_iff, resolveSymbols_get?]
  by_cases hn : name ∈ required
  · rw [if_pos hn, ← Option.ne_none_iff_exists', Ne, firstAddress?_eq_none_iff]
    simp [hn]
  · simp [hn]

theorem isComplete_iff :
    (resolveSymbols required symbols).result.isComplete = true ↔
      ∀ name ∈ required, ∃ s ∈ symbols, s.Defines name := by
  rw [Resolution.isComplete, SymbolSet.isEmpty_iff]
  simp only [mem_unresolved_iff, not_and, not_forall, not_not, exists_prop]

end

/-- The first definition of each required name gives its address, and no name is lost: the names of the table and
the unresolved ones are the required names, without overlap. -/
theorem resolveSymbols_first_definition (required : SymbolSet) (symbols : List Symbol) :
    let r := (resolveSymbols required symbols).result
    (∀ name value, r.table.get? name = some value ↔
      name ∈ required ∧ ∃ s, symbols.find? (fun s => s.Defines name) = some s ∧ s.value = value) ∧
    (∀ name, name ∈ r.unresolved ↔ name ∈ required ∧ ∀ s ∈ symbols, ¬ s.Defines name) ∧
    (∀ name, name ∈ required ↔ name ∈ r.table.names ∨ name ∈ r.unresolved) ∧
    (∀ name, ¬ (name ∈ r.table.names ∧ name ∈ r.unresolved)) ∧
    (r.isComplete = true ↔ ∀ name ∈ required, ∃ s ∈ symbols, s.Defines name) := by
  refine ⟨?_, mem_unresolved_iff required symbols, ?_, ?_, isComplete_iff required symbols⟩
  · intro name value
    rw [resolveSymbols_get?]
    by_cases hn : name ∈ required
    · rw [if_pos hn, firstAddress?, Option.map_eq_some_iff]
      exact ⟨fun h => ⟨hn, h⟩, fun h => h.2⟩
    · simp [hn]
  · intro name
    rw [mem_resolved_iff, mem_unresolved_iff, ← and_or_left]
    by_cases hs : ∃ s ∈ symbols, s.Defines name
    · simp [hs]
    · have : ∀ s ∈ symbols, ¬ s.Defines name := fun s hm hd => hs ⟨s, hm, hd⟩
      simp only [hs, false_or]
      exact ⟨fun hn => ⟨hn, this⟩, fun h => h.1⟩
  · intro name
    rw [mem_resolved_iff, mem_unresolved_iff]
    rintro ⟨⟨-, s, hs, hd⟩, -, hnone⟩
    exact hnone s hs hd

end FirmwareSymbols
