import FirmwareSymbols.Proofs.SymbolSet
import FirmwareSymbols.Symbol

/-!
# What the policies select

A policy keeps the rows that it accepts, in table order (`Policy.result_filter`). Both policies want a named global
row; one wants it undefined, the other one defined with a type and default visibility (`accepts_required_iff`,
`accepts_provided_iff`).
-/

namespace FirmwareSymbols.Policy

variable {policy : Policy} {s : Symbol}

theorem accepts_required_iff :
    required.accepts s = true ↔ s.name ≠ "" ∧ s.binding = .global ∧ s.home = .undefined := by
  simp [accepts, and_assoc]

theorem accepts_provided_iff :
    provided.accepts s = true ↔ s.name ≠ "" ∧ s.binding = .global ∧ s.kind ≠ .noType ∧ s.home ≠ .undefined ∧
      s.visibility = .default := by
  simp [accepts, and_assoc]

theorem result_filterFrom (policy : Policy) (row : Nat) (symbols : List Symbol) :
    (policy.filterFrom row symbols).result = symbols.filter policy.accepts := by
  induction symbols generalizing row with
  | nil => rfl
  | cons s symbols ih =>
    unfold filterFrom
    rw [List.filter_cons]
    by_cases h : policy.accepts s
    · rw [if_pos h, if_pos h, Logged.result_bind, Logged.result_bind, Logged.result_pure, ih]
    · rw [if_neg h, if_neg h, ih]

theorem result_filter (policy : Policy) (symbols : List Symbol) :
    (policy.filter symbols).result = symbols.filter policy.accepts :=
  result_filterFrom policy 0 symbols

/-- The names of the rows that a policy keeps. -/
def names (policy : Policy) (symbols : List Symbol) : SymbolSet :=
  SymbolSet.ofList ((policy.filter symbols).result.map Symbol.name)

theorem mem_names_iff {symbols : List Symbol} {name : String} :
    name ∈ policy.names symbols ↔ ∃ s ∈ symbols, policy.accepts s = true ∧ s.name = name := by
  rw [names, SymbolSet.mem_ofList, result_filter, List.mem_map]
  simp only [List.mem_filter, and_assoc]
  constructor
  · rintro ⟨h, -⟩
    exact h
  · rintro ⟨s, hs, ha, rfl⟩
    refine ⟨⟨s, hs, ha, rfl⟩, ?_⟩
    cases policy with
    | required => exact (accepts_required_iff.1 ha).1
    | provided => exact (accepts_provided_iff.1 ha).1

end FirmwareSymbols.Policy
