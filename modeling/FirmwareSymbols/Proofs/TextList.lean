import FirmwareSymbols.Proofs.SymbolList
import FirmwareSymbols.Proofs.Text.Lines

/-!
# Text lists

A text list has one name on a line. Each name that is read from one has no line feed and no blank at its end
(`SymbolSet.isLine_of_mem_ofLines`), and a set of such names is read back from its text form. So these are the sets that
can be kept as text (`SymbolSet.ofLines_toLines_iff`).
-/

namespace FirmwareSymbols

open Text

namespace SymbolSet

variable {s : SymbolSet} {contents name : String}

theorem toList_toLines (s : SymbolSet) :
    s.toLines.toList = (s.names.map String.toList).flatMap fun name => name ++ ['\n'] := by
  rw [toLines, String.toList_join, List.flatMap_map, List.flatMap_map]
  exact List.flatMap_congr fun name _ => by simp

/-- Any name that is read from a text can be a line of one. -/
theorem isLine_of_mem_ofLines (h : name ∈ ofLines contents) : IsLine name := by
  obtain ⟨hmem, -⟩ := mem_ofList.1 h
  obtain ⟨line, hline, rfl⟩ := List.mem_map.1 hmem
  exact isLine_of_mem_lines hline

/-- A set is read back from its text form exactly if its names can be lines. -/
theorem ofLines_toLines_iff : ofLines s.toLines = s ↔ ∀ name ∈ s, IsLine name := by
  constructor
  · intro h name hname
    rw [← h] at hname
    exact isLine_of_mem_ofLines hname
  · intro h
    have hclean : ∀ t ∈ s.names.map String.toList, '\n' ∉ t := by
      intro t ht
      obtain ⟨name, hname, rfl⟩ := List.mem_map.1 ht
      exact (h name hname).noFeed
    have hread : ∀ name ∈ s.names, String.ofList (trimEnd (dropReturn name.toList)) = name := by
      intro name hname
      rw [trimEnd_dropReturn, (h name hname).trimEnd_eq, String.ofList_toList]
    rw [ofLines, toList_toLines, lines_flatMap hclean, List.map_map, List.map_map]
    refine Eq.trans (congrArg ofList ?_) (ofList_names s)
    exact (List.map_congr_left hread).trans (List.map_id' s.names)

end SymbolSet

theorem feed_not_mem_of_parseSymbolList {contents : String} {path : Path} {s : SymbolSet}
    (h : parseSymbolList contents .text path = .ok s) : ∀ name ∈ s, '\n' ∉ name.toList := by
  obtain rfl : SymbolSet.ofLines contents = s := Except.ok.inj h
  exact fun name hname => (SymbolSet.isLine_of_mem_ofLines hname).noFeed

/-- A set is read back from its text form exactly if no name has a line feed or a blank at its end. Every text is read
as such a set, so that this set is read back from its text form and from its JSON form. -/
theorem parseSymbolList_render_text (path : Path) :
    (∀ s : SymbolSet, parseSymbolList (s.render .text) .text path = .ok s ↔
      ∀ name ∈ s, '\n' ∉ name.toList ∧ ∀ c, name.toList.getLast? = some c → isBlank c = false) ∧
    ∀ contents, ∃ s : SymbolSet, parseSymbolList contents .text path = .ok s ∧
      (∀ name ∈ s, '\n' ∉ name.toList ∧ ∀ c, name.toList.getLast? = some c → isBlank c = false) ∧
      parseSymbolList (s.render .text) .text path = .ok s ∧ parseSymbolList (s.render .json) .json path = .ok s := by
  have hread (s : SymbolSet) : parseSymbolList (s.render .text) .text path = .ok s ↔ ∀ name ∈ s, IsLine name := by
    rw [← SymbolSet.ofLines_toLines_iff]
    exact ⟨Except.ok.inj, congrArg Except.ok⟩
  have hline (name : String) :
      IsLine name ↔ '\n' ∉ name.toList ∧ ∀ c, name.toList.getLast? = some c → isBlank c = false :=
    ⟨fun h => ⟨h.noFeed, h.noBlankEnd⟩, fun h => ⟨h.1, h.2⟩⟩
  simp only [← hline]
  refine ⟨hread, fun contents => ?_⟩
  have hlines : ∀ name ∈ SymbolSet.ofLines contents, IsLine name := fun name => SymbolSet.isLine_of_mem_ofLines
  refine ⟨SymbolSet.ofLines contents, rfl, hlines, (hread _).2 hlines, ?_⟩
  simp only [parseSymbolList, SymbolSet.render, SymbolSet.ofJson?_toJson]

/-- A carriage return inside a name is kept and one at its end is lost; a name with a line feed falls into two. -/
example : SymbolSet.ofLines (SymbolSet.ofList ["a\rb", "c\r", "d\na"]).toLines =
    SymbolSet.ofList ["a", "a\rb", "c", "d"] := by
  decide

end FirmwareSymbols
