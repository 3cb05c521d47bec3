import FirmwareSymbols.Proofs.TextList
import Mathlib.Logic.Relation

/-!
# The layout of text lists

The names of a text list are the pieces between its line feeds without the blanks at their ends, but for the empty one
(`SymbolSet.mem_ofLines_iff`): a carriage return that belongs to a line end is such a blank, and so is one that does
not. Hence two texts one below the other list the names of both (`SymbolSet.ofLines_append`), and from this all follows
that is said of layouts (`Relayout.ofLines_eq`).
-/

namespace FirmwareSymbols

open Text

/-- Nothing but blanks, and no line feed. -/
def Text.OnlyBlanks (s : String) : Prop := ∀ c ∈ s.toList, isBlank c = true ∧ c ≠ '\n'

instance (s : String) : Decidable (OnlyBlanks s) := List.decidableBAll _ s.toList

namespace SymbolSet

variable {name blanks : String}

/-- A text lists the pieces between its line feeds, each without the blanks at its end, unless nothing is left. -/
theorem mem_ofLines_iff {contents : String} : name ∈ ofLines contents ↔
    name ≠ "" ∧ ∃ piece ∈ contents.toList.splitOn '\n', String.ofList (piece.rdropWhile isBlank) = name := by
  rw [ofLines, mem_ofList, List.mem_map, and_comm]
  refine and_congr_right fun hname => ?_
  have hne : name.toList ≠ [] := mt String.toList_eq_nil_iff.1 hname
  have htext (line : List Char) : String.ofList (trimEnd line) = name ↔ trimEnd line = name.toList := by
    rw [← String.toList_inj, String.toList_ofList]
  simp only [← trimEnd_eq_rdropWhile, htext, exists_mem_lines_iff hne, splitAt_eq_splitOn]

/-- Two texts one below the other list what either lists. -/
theorem ofLines_append (above below : String) : ofLines (above ++ "\n" ++ below) = ofLines above ∪ ofLines below := by
  apply ext
  intro name
  have hpieces : (above ++ "\n" ++ below).toList.splitOn '\n' =
      above.toList.splitOn '\n' ++ below.toList.splitOn '\n' := by
    rw [← List.splitOn_append_cons_self]
    simp
  rw [mem_union, mem_ofLines_iff, mem_ofLines_iff, mem_ofLines_iff, hpieces, ← and_or_left]
  simp only [List.mem_append, or_and_right, exists_or]

/-- Blanks at the end do not count. -/
theorem ofLines_append_blanks (contents : String) (h : OnlyBlanks blanks) :
    ofLines (contents ++ blanks) = ofLines contents := by
  have hfeed : '\n' ∉ blanks.toList := fun hmem => (h '\n' hmem).2 rfl
  obtain ⟨before, last, hpieces, hextended⟩ := exists_splitAt_append contents.toList hfeed
  have htrim : trimEnd (last ++ blanks.toList) = trimEnd last := trimEnd_append_blanks last fun c hc => (h c hc).1
  apply ext
  intro name
  simp only [mem_ofLines_iff, ← splitAt_eq_splitOn, ← trimEnd_eq_rdropWhile, String.toList_append, hpieces, hextended,
    List.mem_append, List.mem_singleton, or_and_right, exists_or, exists_eq_left, htrim]

/-- A line end may have a carriage return. -/
theorem ofLines_lineEnd (above below : String) (returned : Bool) :
    ofLines (above ++ (if returned then "\r\n" else "\n") ++ below) = ofLines above ∪ ofLines below := by
  cases returned with
  | false => exact ofLines_append above below
  | true =>
    have hreturn : OnlyBlanks "\r" := by decide
    have hend : above ++ "\r\n" = above ++ "\r" ++ "\n" := by rw [String.append_assoc]; rfl
    rw [if_pos rfl, hend, ofLines_append, ofLines_append_blanks above hreturn]

theorem ofLines_of_blanks (h : OnlyBlanks blanks) : ofLines blanks = empty := by
  rw [← String.empty_append (s := blanks), ofLines_append_blanks "" h]
  rfl

/-- Texts one below the other list what any of them lists. -/
theorem mem_ofLines_intercalate {texts : List String} :
    name ∈ ofLines ("\n".intercalate texts) ↔ ∃ text ∈ texts, name ∈ ofLines text := by
  induction texts with
  | nil =>
    have hempty : ofLines "" = empty := rfl
    simp [hempty, not_mem_empty]
  | cons text texts ih =>
    cases texts with
    | nil => simp
    | cons next texts =>
      rw [String.intercalate_cons_cons, ofLines_append, mem_union, ih, List.exists_mem_cons_iff (l := next :: texts)]

/-- A text among others adds what it lists. -/
theorem mem_ofLines_around {before after : List String} {text : String} :
    name ∈ ofLines ("\n".intercalate (before ++ text :: after)) ↔
      name ∈ ofLines text ∨ name ∈ ofLines ("\n".intercalate (before ++ after)) := by
  simp only [mem_ofLines_intercalate, List.perm_middle.mem_iff, List.exists_mem_cons_iff]

end SymbolSet

/-- A change of the layout of a text: its lines stay, but for blanks at their ends. -/
inductive Relayout : String → String → Prop
  | reorder (lines others : List String) (h : lines.Perm others) :
      Relayout ("\n".intercalate lines) ("\n".intercalate others)
  | repeatLine (before after : List String) (line : String) (h : line ∈ before ++ after) :
      Relayout ("\n".intercalate (before ++ after)) ("\n".intercalate (before ++ line :: after))
  | addBlankLine (before after : List String) (blanks : String) (h : OnlyBlanks blanks) :
      Relayout ("\n".intercalate (before ++ after)) ("\n".intercalate (before ++ blanks :: after))
  | appendBlanks (before after : List String) (line blanks : String) (h : OnlyBlanks blanks) :
      Relayout ("\n".intercalate (before ++ line :: after)) ("\n".intercalate (before ++ (line ++ blanks) :: after))
  /-- Some of the line ends get a carriage return. -/
  | addReturns (lines : List (String × Bool)) (last : String) :
      Relayout (String.join (lines.map fun line => line.1 ++ "\n") ++ last)
        (String.join (lines.map fun line => line.1 ++ if line.2 then "\r\n" else "\n") ++ last)

namespace Relayout

open SymbolSet

private theorem ofLines_addReturns (lines : List (String × Bool)) (last : String) :
    ofLines (String.join (lines.map fun line => line.1 ++ if line.2 then "\r\n" else "\n") ++ last) =
      ofLines (String.join (lines.map fun line => line.1 ++ "\n") ++ last) := by
  induction lines with
  | nil => rfl
  | cons line lines ih =>
    rw [List.map_cons, List.map_cons, String.join_cons, String.join_cons, String.append_assoc, ofLines_lineEnd, ih,
      String.append_assoc, ofLines_append]

theorem ofLines_eq {contents other : String} (h : Relayout contents other) : ofLines contents = ofLines other := by
  cases h with
  | reorder lines others h =>
    apply SymbolSet.ext
    intro name
    simp only [mem_ofLines_intercalate, h.mem_iff]
  | repeatLine before after line h =>
    apply SymbolSet.ext
    intro name
    rw [mem_ofLines_around, mem_ofLines_intercalate]
    exact ⟨Or.inr, fun hname => hname.elim (fun hline => ⟨line, h, hline⟩) id⟩
  | addBlankLine before after blanks h =>
    apply SymbolSet.ext
    intro name
    rw [mem_ofLines_around, ofLines_of_blanks h, or_iff_right not_mem_empty]
  | appendBlanks before after line blanks h =>
    apply SymbolSet.ext
    intro name
    rw [mem_ofLines_around, mem_ofLines_around, ofLines_append_blanks _ h]
  | addReturns lines last => exact (ofLines_addReturns lines last).symm

/-- A whole sequence of changes, each of which may also be undone, leaves the names as they are. -/
theorem ofLines_eq_of_eqvGen {contents other : String} (h : Relation.EqvGen Relayout contents other) :
    ofLines contents = ofLines other := by
  induction h with
  | rel _ _ h => exact h.ofLines_eq
  | refl _ => rfl
  | symm _ _ _ ih => exact ih.symm
  | trans _ _ _ _ _ ih₁ ih₂ => exact ih₁.trans ih₂

end Relayout

/-- Every text is a text list, whose names are the pieces between its line feeds without the blanks at their ends, but
for the empty one. So two texts with a line feed between them list what either lists, and no change of the layout
matters, nor any sequence of such changes: the lines may be put in another order, repeated, mixed with blank lines and
extended by blanks, and any of their ends may have a carriage return. -/
theorem parseSymbolList_text_pieces (path : Path) :
    (∀ contents, ∃ s, parseSymbolList contents .text path = .ok s ∧ ∀ name, name ∈ s ↔
      name ≠ "" ∧ ∃ piece ∈ contents.toList.splitOn '\n', String.ofList (piece.rdropWhile isBlank) = name) ∧
    (∀ above below, ∃ s t, parseSymbolList above .text path = .ok s ∧ parseSymbolList below .text path = .ok t ∧
      parseSymbolList (above ++ "\n" ++ below) .text path = .ok (s ∪ t)) ∧
    ∀ contents other, Relation.EqvGen Relayout contents other →
      parseSymbolList contents .text path = parseSymbolList other .text path := by
  refine ⟨fun contents => ⟨_, rfl, fun name => SymbolSet.mem_ofLines_iff⟩, fun above below => ⟨_, _, rfl, rfl, ?_⟩,
    fun contents other h => ?_⟩
  · exact congrArg Except.ok (SymbolSet.ofLines_append above below)
  · exact congrArg Except.ok (Relayout.ofLines_eq_of_eqvGen h)

/-- Two names in another order, one of them repeated, with blanks, a blank line and carriage returns. -/
theorem parseSymbolList_draw_fill_relaid :
    let plain := "fill\ndraw"
    let relaid := "draw\t\r\n  \nfill\r\ndraw"
    Relation.EqvGen Relayout plain relaid ∧
      parseSymbolList plain .text ⟨"api.txt"⟩ = parseSymbolList relaid .text ⟨"api.txt"⟩ ∧
      parseSymbolList relaid .text ⟨"api.txt"⟩ = .ok (SymbolSet.ofList ["draw", "fill"]) := by
  intro plain relaid
  have hrelaid : Relation.EqvGen Relayout plain relaid := by
    have hordered : Relayout plain "draw\nfill" :=
      .reorder ["fill", "draw"] ["draw", "fill"] (List.Perm.swap "draw" "fill" [])
    have hrepeated : Relayout "draw\nfill" "draw\nfill\ndraw" :=
      .repeatLine ["draw", "fill"] [] "draw" (by decide)
    have hblank : Relayout "draw\nfill\ndraw" "draw\n  \nfill\ndraw" :=
      .addBlankLine ["draw"] ["fill", "draw"] "  " (by decide)
    have hextended : Relayout "draw\n  \nfill\ndraw" "draw\t\n  \nfill\ndraw" :=
      .appendBlanks [] ["  ", "fill", "draw"] "draw" "\t" (by decide)
    have hreturned : Relayout "draw\t\n  \nfill\ndraw" relaid :=
      .addReturns [("draw\t", true), ("  ", false), ("fill", true)] "draw"
    exact .trans _ _ _ (.rel _ _ hordered) (.trans _ _ _ (.rel _ _ hrepeated) (.trans _ _ _ (.rel _ _ hblank)
      (.trans _ _ _ (.rel _ _ hextended) (.rel _ _ hreturned))))
  have hsame := (parseSymbolList_text_pieces ⟨"api.txt"⟩).2.2 plain relaid hrelaid
  have hplain : SymbolSet.ofLines plain = SymbolSet.ofList ["draw", "fill"] := by decide
  exact ⟨hrelaid, hsame, hsame.symm.trans (congrArg Except.ok hplain)⟩

end FirmwareSymbols
