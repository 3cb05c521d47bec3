import FirmwareSymbols.Check
import FirmwareSymbols.Proofs.Policy
import FirmwareSymbols.Proofs.Resolution
import FirmwareSymbols.Proofs.SymbolList

/-!
# Passed checks

A check passes exactly when every required name is provided (`check_isSuccess_iff`). A provided name has a global
row that is defined, so a lookup of the required names in the same rows finds an address for each of them: a plugin
that passed the check against the published list of a host can be loaded by that host.
-/

namespace FirmwareSymbols

theorem check_isSuccess_iff {required provided : SymbolSet} {demangle : Demangler} :
    (check required provided demangle).isSuccess = true ↔ ∀ name ∈ required, name ∈ provided := by
  rw [CheckReport.isSuccess, check, List.isEmpty_iff, List.map_eq_nil_iff, List.eq_nil_iff_forall_not_mem]
  constructor
  · intro h name hn
    by_contra hp
    exact h name (SymbolSet.mem_difference.2 ⟨hn, hp⟩)
  · intro h name hm
    have := SymbolSet.mem_difference.1 hm
    exact this.2 (h name this.1)

/-- A provided row defines its name. -/
theorem Symbol.defines_of_accepts {s : Symbol} (h : Policy.provided.accepts s = true) : s.Defines s.name := by
  obtain ⟨-, hglobal, -, hhome, -⟩ := Policy.accepts_provided_iff.1 h
  refine ⟨rfl, hhome, ?_⟩
  rw [hglobal]
  decide

/-- Required names that are provided by the rows are found in them. -/
theorem isComplete_of_provided {required : SymbolSet} {host : List Symbol}
    (h : ∀ name ∈ required, name ∈ Policy.provided.names host) :
    (resolveSymbols required host).result.isComplete = true := by
  rw [isComplete_iff]
  intro name hn
  obtain ⟨s, hs, ha, rfl⟩ := Policy.mem_names_iff.1 (h name hn)
  exact ⟨s, hs, Symbol.defines_of_accepts ha⟩

/-- The names of a complete table are the required names, in their order. -/
theorem names_of_isComplete {required : SymbolSet} {symbols : List Symbol}
    (h : (resolveSymbols required symbols).result.isComplete = true) :
    (resolveSymbols required symbols).result.table.names = required.names := by
  have hmem : ∀ name, name ∈ (resolveSymbols required symbols).result.table.names ↔ name ∈ required.names := by
    intro name
    rw [mem_resolved_iff]
    exact ⟨And.left, fun hn => ⟨hn, (isComplete_iff required symbols).1 h name hn⟩⟩
  exact Ascending.eq_of_mem_iff (AddressTable.ascending_names _) required.ascending hmem

theorem exists_row_of_get? {required : SymbolSet} {symbols : List Symbol} {name : String} {value : UInt64}
    (h : (resolveSymbols required symbols).result.table.get? name = some value) :
    ∃ s ∈ symbols, s.Defines name ∧ s.value = value := by
  rw [resolveSymbols_get?] at h
  by_cases hn : name ∈ required
  · rw [if_pos hn] at h
    obtain ⟨s, hs, hv⟩ := Option.map_eq_some_iff.1 h
    exact ⟨s, List.mem_of_find?_eq_some hs, by simpa using List.find?_some hs, hv⟩
  · rw [if_neg hn] at h
    simp at h

/-- A plugin whose required names pass the check against the published list of a host gets a complete address table
from that host: it has exactly the required names, each with the value of a row of the host that defines it. -/
theorem complete_of_passed_check (plugin host : List Symbol) (path : Path) (demangle : Demangler) :
    let required := Policy.required.names plugin
    let r := (resolveSymbols required host).result
    ∃ published, parseSymbolList ((Policy.provided.names host).render .json) .json path = .ok published ∧
      ((check required published demangle).isSuccess = true →
        r.isComplete = true ∧ r.unresolved = .empty ∧ r.table.names = required.names ∧
        ∀ name ∈ r.table.names, ∃ s ∈ host, s.name = name ∧ s.home ≠ .undefined ∧ s.binding ≠ .local ∧
          r.table.get? name = some s.value) := by
  intro required r
  refine ⟨Policy.provided.names host, ?_, ?_⟩
  · rw [SymbolSet.render, parseSymbolList, SymbolSet.ofJson?_toJson]
  · intro hpass
    have hcomplete : r.isComplete = true := isComplete_of_provided (check_isSuccess_iff.1 hpass)
    refine ⟨hcomplete, SymbolSet.eq_empty_of_isEmpty hcomplete, names_of_isComplete hcomplete, ?_⟩
    intro name hn
    obtain ⟨value, hget⟩ := AddressTable.mem_names_iff.1 hn
    obtain ⟨s, hs, ⟨hname, hhome, hbinding⟩, rfl⟩ := exists_row_of_get? hget
    exact ⟨s, hs, hname, hhome, hbinding, hget⟩

/-- A plugin that needs two names, one of them with characters that JSON escapes. -/
def drawingPlugin : List Symbol :=
  [⟨"draw", .global, .noType, .undefined, .default, 0⟩, ⟨"a\"\n", .global, .noType, .undefined, .default, 0⟩]

/-- A host in which a reference, a local and a weak row of a name come before its global definition. -/
def drawingHost : List Symbol :=
  [⟨"draw", .global, .noType, .undefined, .default, 0⟩, ⟨"draw", .local, .func, .index 1, .default, 0x40⟩,
    ⟨"draw", .weak, .func, .index 1, .default, 0x300⟩, ⟨"draw", .global, .func, .index 1, .default, 0x400⟩,
    ⟨"a\"\n", .global, .object, .absolute, .default, 0x500⟩]

theorem drawing_host_completes :
    let r := (resolveSymbols (Policy.required.names drawingPlugin) drawingHost).result
    (check (Policy.required.names drawingPlugin) (Policy.provided.names drawingHost) .never).isSuccess = true ∧
      r.isComplete = true ∧ r.table.names = ["a\"\n", "draw"] ∧ r.table.get? "draw" = some 0x300 := by
  obtain ⟨published, hread, h⟩ := complete_of_passed_check drawingPlugin drawingHost ⟨"api.json"⟩ .never
  have hpublished : published = Policy.provided.names drawingHost := by
    rw [SymbolSet.render, parseSymbolList, SymbolSet.ofJson?_toJson] at hread
    exact (Except.ok.inj hread).symm
  have hpass : (check (Policy.required.names drawingPlugin) published .never).isSuccess = true := by
    rw [hpublished]
    decide
  obtain ⟨hcomplete, -, hnames, -⟩ := h hpass
  exact ⟨hpublished ▸ hpass, hcomplete, hnames, by decide⟩

end FirmwareSymbols
