import FirmwareSymbols.Proofs.Check
import FirmwareSymbols.Proofs.Log
import FirmwareSymbols.Proofs.Text.Utf8Order
import Mathlib.Data.List.Forall2

/-!
# What a check reports

Which names a report has does not depend on how they are made readable (`map_name_missing_check`): it has the names
that are required and not provided. A report is told by a line for each of its names, from which the name can always
be read (`MissingSymbol.isToldBy_line`), or by one line if there is none (`CheckReport.log_print`).
-/

namespace FirmwareSymbols

namespace MissingSymbol

/-- The line shows the name, and adds the raw one in parentheses exactly if that is another one. -/
structure IsToldBy (m : MissingSymbol) (line : String) : Prop where
  hasName : m.name.toList <:+: line.toList
  parenthesized_iff : line = "Symbol in plugin not found in api: " ++ m.display ++ " (" ++ m.name ++ ")" ↔
    m.display ≠ m.name
  plain_iff : line = "Symbol in plugin not found in api: " ++ m.name ↔ m.display = m.name

private theorem append_ne_parenthesized (start shown name : String) :
    start ++ name ≠ start ++ shown ++ " (" ++ name ++ ")" := by
  intro h
  have hlength := congrArg String.length h
  have hopen : " (".length = 2 := rfl
  simp only [String.length_append, hopen] at hlength
  omega

theorem isToldBy_line (m : MissingSymbol) : m.IsToldBy m.line := by
  by_cases hshown : m.display = m.name
  · have hline : m.line = "Symbol in plugin not found in api: " ++ m.name := by
      unfold line
      rw [if_pos hshown, hshown, String.append_empty]
    refine ⟨?_, ?_, iff_of_true hline hshown⟩
    · rw [hline, String.toList_append]
      exact (List.suffix_append _ _).isInfix
    · rw [hline]
      exact iff_of_false (append_ne_parenthesized _ _ _) (not_not.2 hshown)
  · have hline : m.line = "Symbol in plugin not found in api: " ++ m.display ++ " (" ++ m.name ++ ")" := by
      unfold line
      rw [if_neg hshown, ← String.append_assoc, ← String.append_assoc]
    refine ⟨?_, iff_of_true hline hshown, ?_⟩
    · rw [hline, String.toList_append, String.toList_append]
      exact ⟨_, _, rfl⟩
    · rw [hline]
      exact iff_of_false (append_ne_parenthesized _ _ _).symm hshown

end MissingSymbol

namespace CheckReport

theorem log_print (r : CheckReport) :
    r.print.log = r.missing.map (fun m => ⟨.error, m.line⟩) ++
      if r.missing.isEmpty then [⟨.info, "All symbols found!"⟩] else [] := by
  have hlines : (r.missing.forM fun m => Logged.error m.line).log = r.missing.map fun m => ⟨.error, m.line⟩ := by
    rw [Logged.log_forM, List.map_eq_flatMap]
    rfl
  rw [print, Logged.log_bind, hlines, isSuccess]
  cases r.missing.isEmpty <;> rfl

end CheckReport

theorem map_name_missing_check (required provided : SymbolSet) (demangle : Demangler) :
    (check required provided demangle).missing.map MissingSymbol.name = required.difference provided := by
  rw [check, List.map_map]
  exact List.map_id' _

theorem isSuccess_check_eq_isSubset (required provided : SymbolSet) (demangle : Demangler) :
    (check required provided demangle).isSuccess = required.isSubset provided := by
  rw [Bool.eq_iff_iff, check_isSuccess_iff, SymbolSet.isSubset, List.all_eq_true]
  simp only [SymbolSet.contains_eq_true, SymbolSet.mem_iff_mem_names]

/-- Whatever makes names readable, a check reports the names that are required and not provided, each once and in
ascending order of their bytes, and it succeeds exactly if the required names are a subset of the provided ones. Any
report is told by an error for each of its names in their order, or by one note if it has none; each error has the raw
name, in parentheses exactly if another one is shown. -/
theorem check_reports_difference (required provided : SymbolSet) (demangle other : Demangler) :
    let report := check required provided demangle
    let names := report.missing.map MissingSymbol.name
    (∀ name, name ∈ names ↔ name ∈ required ∧ name ∉ provided) ∧
    (names.map Text.utf8Bytes).Pairwise (· < ·) ∧ names.Nodup ∧
    (check required provided other).missing.map MissingSymbol.name = names ∧
    report.missing.map MissingSymbol.readable = names.map demangle ∧
    report.isSuccess = required.isSubset provided ∧
    (report.isSuccess = true ↔ ∀ name ∈ required, name ∈ provided) ∧
    ∀ r : CheckReport, ∃ lines : List String,
      r.print.log = lines.map (Record.mk .error) ++
        (if r.missing = [] then [⟨.info, "All symbols found!"⟩] else []) ∧
      List.Forall₂ MissingSymbol.IsToldBy r.missing lines := by
  intro report names
  have hnames : names = required.difference provided := map_name_missing_check required provided demangle
  have hascending : Ascending id (required.difference provided) := List.Pairwise.filter _ required.ascending
  refine ⟨fun name => ?_, ?_, ?_, ?_, ?_, isSuccess_check_eq_isSubset _ _ _, check_isSuccess_iff,
    fun r => ?_⟩
  · rw [hnames, SymbolSet.mem_difference]
  · rw [hnames, List.pairwise_map]
    exact hascending.imp Text.utf8Bytes_lt
  · rw [hnames]
    exact required.nodup_names.filter _
  · rw [hnames, map_name_missing_check]
  · rw [hnames]
    exact List.map_map
  · refine ⟨r.missing.map MissingSymbol.line, ?_, ?_⟩
    · rw [r.log_print, List.map_map]
      cases r.missing <;> rfl
    · rw [List.forall₂_map_right_iff]
      exact List.forall₂_same.2 fun m _ => m.isToldBy_line

end FirmwareSymbols
