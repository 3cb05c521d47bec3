import FirmwareSymbols.Demangle.Readable
import FirmwareSymbols.Proofs.Check
import FirmwareSymbols.Proofs.Demangle.Legacy
import FirmwareSymbols.Proofs.Demangle.V0.Nameless

/-!
# Readable forms that are empty

Where nothing would be shown of a symbol of C++, it has no readable form and is shown as it stands. A path symbol in which
no name is left has a readable form nevertheless, which is empty (`readable?_eq_empty_iff`). In the report of a check, an
empty text stands for such a symbol, and for no other one (`shown_iff_not_nameless`).
-/

namespace FirmwareSymbols.Demangle

/-- A path symbol in which no name is left to be shown. It may have the mark of an imported function. -/
def IsNameless (name : String) : Prop :=
  ∃ body, (Legacy.body? (dropImportMark name.toList) = some body ∧ Legacy.IsNameless body) ∨
    (V0.body? (dropImportMark name.toList) = some body ∧ V0.IsNameless body)

/-- The two schemes for paths start with other letters. -/
theorem legacy_body?_eq_none {s body : List Char} (h : V0.body? s = some body) : Legacy.body? s = none := by
  unfold V0.body? at h
  split at h
  · rfl
  · rfl
  · rfl
  · simp at h

theorem path?_eq_empty_iff {s : List Char} :
    path? s = some ("", []) ↔
      ∃ body, (Legacy.body? s = some body ∧ Legacy.IsNameless body) ∨ (V0.body? s = some body ∧ V0.IsNameless body) := by
  rw [exists_or, ← Legacy.demangle?_eq_empty_iff, ← V0.demangle?_eq_empty_iff]
  unfold path?
  constructor
  · intro h
    split at h
    next r hlegacy => exact .inl (hlegacy.trans h)
    next => exact .inr h
  · rintro (hlegacy | hv0)
    · rw [hlegacy]
    · obtain ⟨body, hbody, -⟩ := V0.demangle?_eq_empty_iff.1 hv0
      have hlegacy : Legacy.demangle? s = none := by
        rw [Legacy.demangle?, legacy_body?_eq_none hbody]
        rfl
      rw [hlegacy]
      exact hv0

/-- A suffix would be shown, so nothing is shown only of a path that is the whole symbol. -/
theorem pathSymbol?_eq_empty_iff {s : List Char} :
    pathSymbol? s = some "" ↔ path? (dropImportMark s) = some ("", []) := by
  unfold pathSymbol?
  constructor
  · intro h
    split at h
    next text suffix hpath =>
      rw [Option.ite_none_right_eq_some, Option.some.injEq, String.append_eq_empty_iff, String.ofList_eq_empty_iff] at h
      rw [hpath, h.2.1, h.2.2]
    · simp at h
  · intro h
    rw [h]
    rfl

theorem readable?_eq_empty_iff {name : String} : readable? name = some "" ↔ IsNameless name := by
  have hcpp : Itanium.demangle? name.toList ≠ some "" := fun h => Itanium.ne_empty_of_demangle? h rfl
  unfold readable? IsNameless
  rw [← path?_eq_empty_iff, ← pathSymbol?_eq_empty_iff, Option.or_eq_some_iff]
  exact ⟨fun h => h.resolve_right fun h' => hcpp h'.2, .inl⟩

theorem of_mem_missing {required provided : SymbolSet} {demangle : Demangler} {m : MissingSymbol}
    (hm : m ∈ (check required provided demangle).missing) : m.name ≠ "" ∧ m.readable = demangle m.name := by
  obtain ⟨name, hname, rfl⟩ := List.mem_map.1 hm
  exact ⟨SymbolSet.ne_empty_of_mem (SymbolSet.mem_difference.1 hname).1, rfl⟩

/-- A readable form is never empty, and a missing name is always shown, except for path symbols without a name in them.
Without readable forms each name is shown. -/
theorem shown_iff_not_nameless (name : String) (required provided : SymbolSet) :
    ((readable? name = none ∨ ∃ text ≠ "", readable? name = some text) ↔ ¬ IsNameless name) ∧
      (∀ m ∈ (check required provided readable?).missing, m.display ≠ "" ↔ ¬ IsNameless m.name) ∧
        ∀ m ∈ (check required provided Demangler.never).missing, m.display ≠ "" := by
  refine ⟨?_, fun m hm => ?_, fun m hm => ?_⟩
  · rw [← readable?_eq_empty_iff]
    cases readable? name with
    | none => simp
    | some text => simp
  · obtain ⟨hne, hreadable⟩ := of_mem_missing hm
    rw [← readable?_eq_empty_iff, ← hreadable, MissingSymbol.display]
    cases m.readable with
    | none => simp [hne]
    | some text => simp
  · obtain ⟨hne, hreadable⟩ := of_mem_missing hm
    rw [MissingSymbol.display, hreadable]
    exact hne

/-- A path without elements, and a crate without a name. The scheme of C++ has no readable form for either. -/
theorem empty_paths_shown_empty :
    readable? "_ZNE" = some "" ∧ readable? "_RC0" = some "" ∧ Itanium.demangle? "_ZNE".toList = none ∧
      Itanium.demangle? "_RC0".toList = none ∧
      (check (SymbolSet.ofList ["_ZNE", "_RC0"]) (SymbolSet.ofList []) readable?).missing.map MissingSymbol.display =
        ["", ""] := by
  decide +kernel

end FirmwareSymbols.Demangle
