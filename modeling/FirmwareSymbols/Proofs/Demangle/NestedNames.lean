import FirmwareSymbols.Demangle.Readable
import FirmwareSymbols.Proofs.Demangle.Legacy
import Mathlib.Data.List.Infix

/-!
# Nested names

The scheme of C++ and the legacy scheme for paths write a nested name alike: each part after its length, between `_ZN`
and `E`. Such a name is tried as a path first. It is read as its parts (`elements?_flatMap`), and it has neither a suffix
nor the mark of an imported function, so it is shown as the elements of a path (`readable?_nestedSymbol`): all its parts,
apart from a last one that looks like a hash. A hash that was added to a path is not shown (`readable?_hashed`); but a part
of a C++ name is not shown either if it happens to be the letter `h` and hexadecimal digits, however many
(`readable?_nested_iff`).
-/

namespace FirmwareSymbols.Demangle

open Legacy

/-- A name of C: letters, digits and underscores of ASCII, the first of which is no digit. -/
structure IsIdentifier (name : List Char) : Prop where
  ne_nil : name ≠ []
  head_not_digit : ∀ c ∈ name.head?, Text.isDigit c = false
  letters : ∀ c ∈ name, IsLetter c

theorem isIdentifier_iff {name : List Char} :
    IsIdentifier name ↔
      name ≠ [] ∧ (name.head?.all fun c => !Text.isDigit c) = true ∧ (name.all fun c => decide (IsLetter c)) = true := by
  simp only [Option.all_eq_true, List.all_eq_true, Bool.not_eq_true', decide_eq_true_eq]
  constructor
  · exact fun h => ⟨h.ne_nil, h.head_not_digit, h.letters⟩
  · rintro ⟨hne, hhead, hletters⟩
    exact ⟨hne, hhead, hletters⟩

instance : DecidablePred IsIdentifier := fun _ => decidable_of_iff' _ isIdentifier_iff

/-- A part of a nested name, after its length. -/
def lengthPrefixed (part : String) : String := toString part.length ++ part

/-! ### Parts that are read -/

theorem elements?_flatMap {es : List (List Char)} (h : ∀ e ∈ es, IsIdentifier e) :
    elements? (es.flatMap (fun e => Nat.toDigits 10 e.length ++ e) ++ ['E']) = some (es, []) := by
  induction es with
  | nil => exact elements?_end []
  | cons e es ih =>
    rw [List.forall_mem_cons] at h
    have hnext : es.flatMap (fun e => Nat.toDigits 10 e.length ++ e) ++ ['E'] ≠ [] :=
      List.append_ne_nil_of_right_ne_nil _ (List.cons_ne_nil _ _)
    rw [List.flatMap_cons, List.append_assoc, List.append_assoc,
      elements?_element Nat.toDigits_ne_nil (fun _ => Text.isDigit_of_mem_toDigits) (Text.digitsValue_toDigits _) ?_
        hnext, ih h.2]
    · rfl
    · rw [List.head?_append, Option.or_of_isSome (List.isSome_head?.2 h.1.ne_nil)]
      exact h.1.head_not_digit

theorem elementPieces_of_isIdentifier {e : List Char} (h : IsIdentifier e) : elementPieces e = [e] := by
  have hplain : ∀ c ∈ e, isPlain c = true := fun c hc => isPlain_of_isLetter (h.letters c hc)
  unfold elementPieces
  split
  next rest => exact absurd (hplain '$' (by simp)) (by decide)
  · exact pieces_of_plain h.ne_nil hplain

theorem join_pathPieces_of_isIdentifier {names : List String} (h : ∀ name ∈ names, IsIdentifier name.toList) :
    String.join (pathPieces (names.map String.toList)) = "::".intercalate names := by
  have hpieces : ∀ name ∈ names, (elementPieces name.toList).flatten = name.toList := fun name hname => by
    rw [elementPieces_of_isIdentifier (h name hname), List.flatten_singleton]
  have hmap : (names.map String.toList).map (fun e => (elementPieces e).flatten) = names.map String.toList := by
    rw [List.map_map]
    exact List.map_congr_left hpieces
  rw [← String.toList_inj, toList_join_pathPieces, String.toList_intercalate, hmap]
  rfl

/-! ### Symbols without marks and suffixes -/

theorem splitFirst?_eq_none {s : List Char} (h : '.' ∉ s) : splitFirst? importMark s = none := by
  induction s with
  | nil => rfl
  | cons c s ih =>
    rw [List.mem_cons, not_or] at h
    have hmark : importMark.isPrefixOf? (c :: s) = none := by
      rw [Option.eq_none_iff_forall_ne_some]
      intro rest hrest
      rw [List.isPrefixOf?_eq_some_iff_append_eq] at hrest
      exact h.1 (List.cons.inj hrest).1
    rw [splitFirst?, hmark, ih h.2]
    rfl

/-- A path without dots is shown as it is read, with nothing cut off and nothing added. -/
theorem readable?_eq_some {name text : String} (hdot : '.' ∉ name.toList)
    (h : Legacy.demangle? name.toList = some (text, [])) : readable? name = some text := by
  have hmark : dropImportMark name.toList = name.toList := by
    unfold dropImportMark
    rw [splitFirst?_eq_none hdot]
  have hpath : pathSymbol? name.toList = some text := by
    unfold pathSymbol? path?
    rw [hmark, h]
    exact congrArg some (String.append_empty)
  rw [readable?, hpath, Option.some_or]

/-- The symbol of a nested name. -/
def nestedSymbol (parts : List String) : String := "_ZN" ++ String.join (parts.map lengthPrefixed) ++ "E"

theorem toList_nestedSymbol (parts : List String) :
    (nestedSymbol parts).toList =
      '_' :: 'Z' :: 'N' :: ((parts.map String.toList).flatMap (fun e => Nat.toDigits 10 e.length ++ e) ++ ['E']) := by
  have hparts : (String.join (parts.map lengthPrefixed)).toList =
      (parts.map String.toList).flatMap fun e => Nat.toDigits 10 e.length ++ e := by
    rw [String.toList_join, List.flatMap_map, List.flatMap_map]
    refine congrArg (parts.flatMap ·) (funext fun part => ?_)
    rw [lengthPrefixed, String.toList_append, Nat.toString_eq_ofList_toDigits,
      String.toList_ofList, String.length_toList]
  rw [nestedSymbol, String.toList_append, String.toList_append, hparts]
  rfl

/-- A nested name is shown as the elements of a path. -/
theorem readable?_nestedSymbol {parts : List String} (hparts : ∀ part ∈ parts, IsIdentifier part.toList) :
    readable? (nestedSymbol parts) = some (Output.empty.writeAll (pathPieces (shown (parts.map String.toList)))) := by
  have helements : ∀ e ∈ parts.map String.toList, IsIdentifier e := List.forall_mem_map.2 hparts
  have hletters : ∀ c ∈ (nestedSymbol parts).toList, IsLetter c := by
    rw [toList_nestedSymbol]
    simp only [List.forall_mem_cons, List.forall_mem_append, List.forall_mem_flatMap]
    refine ⟨by decide, by decide, by decide, fun e he => ⟨fun c hc => ?_, (helements e he).letters⟩, by decide, ?_⟩
    · exact isLetter_of_isDigit (Text.isDigit_of_mem_toDigits hc)
    · exact List.forall_mem_nil _
  have hdot : '.' ∉ (nestedSymbol parts).toList := fun h => absurd (hletters '.' h) (by decide)
  refine readable?_eq_some hdot (demangle?_eq_some_iff.2 ⟨_, _, ?_, ?_, elements?_flatMap helements, rfl⟩)
  · rw [toList_nestedSymbol]
    rfl
  · intro c hc
    refine toNat_lt_of_isLetter (hletters c ?_)
    rw [toList_nestedSymbol]
    exact List.mem_cons_of_mem _ (List.mem_cons_of_mem _ (List.mem_cons_of_mem _ hc))

/-! ### Parts that are shown -/

/-- The letter `h` and hexadecimal digits, however many. -/
def LooksLikeHash (part : String) : Prop :=
  ∃ digits, part.toList = 'h' :: digits ∧ ∀ c ∈ digits, (Text.hexDigit? c).isSome = true

theorem isHash_iff {part : String} : isHash part.toList = true ↔ LooksLikeHash part := by
  unfold isHash
  constructor
  · intro h
    split at h
    next digits hpart => exact ⟨digits, hpart, List.all_eq_true.1 h⟩
    · simp at h
  · rintro ⟨digits, hpart, hdigits⟩
    rw [hpart]
    exact List.all_eq_true.2 hdigits

/-- A part that is added at the end makes a name longer. -/
theorem exists_intercalate_concat (parts : List String) {last : String} (hlast : last ≠ "") :
    ∃ more ≠ "", "::".intercalate (parts ++ [last]) = "::".intercalate parts ++ more := by
  by_cases hparts : parts = []
  · exact ⟨last, hlast, by rw [hparts]; simp⟩
  · refine ⟨"::" ++ last, fun h => hlast (String.append_eq_empty_iff.1 h).2, ?_⟩
    rw [String.intercalate_append_of_ne_nil hparts (List.cons_ne_nil _ _), String.intercalate_singleton,
      String.append_assoc]

variable {parts : List String} {last : String}

theorem writeAll_pathPieces (hparts : ∀ part ∈ parts, IsIdentifier part.toList)
    (hfit : ("::".intercalate parts).utf8ByteSize ≤ maxOutput) :
    Output.empty.writeAll (pathPieces (parts.map String.toList)) = "::".intercalate parts := by
  have hjoin := join_pathPieces_of_isIdentifier hparts
  rw [Output.writeAll_eq_append (by rw [hjoin]; exact hfit), hjoin, Output.text_empty, String.empty_append]

theorem readable?_of_not_looksLikeHash (hparts : ∀ part ∈ parts, IsIdentifier part.toList)
    (hfit : ("::".intercalate parts).utf8ByteSize ≤ maxOutput) (hlast : ∀ last ∈ parts.getLast?, ¬ LooksLikeHash last) :
    readable? (nestedSymbol parts) = some ("::".intercalate parts) := by
  have hshown : shown (parts.map String.toList) = parts.map String.toList := by
    refine shown_of_not_isHash fun e he => ?_
    rw [List.getLast?_map] at he
    obtain ⟨last, hlast', rfl⟩ := Option.map_eq_some_iff.1 he
    rw [← Bool.not_eq_true, isHash_iff]
    exact hlast last hlast'
  rw [readable?_nestedSymbol hparts, hshown, writeAll_pathPieces hparts hfit]

theorem readable?_of_looksLikeHash (hparts : ∀ part ∈ parts ++ [last], IsIdentifier part.toList)
    (hfit : ("::".intercalate parts).utf8ByteSize ≤ maxOutput) (hlast : LooksLikeHash last) :
    readable? (nestedSymbol (parts ++ [last])) = some ("::".intercalate parts) := by
  have hshown : shown ((parts ++ [last]).map String.toList) = parts.map String.toList := by
    rw [List.map_append, List.map_singleton, shown_concat, if_pos (isHash_iff.2 hlast)]
  rw [readable?_nestedSymbol hparts, hshown,
    writeAll_pathPieces (fun part hpart => hparts part (List.mem_append_left _ hpart)) hfit]

/-! ### Main statements -/

/-- A nested name that is not too long is shown as all its parts exactly if the last one does not look like a hash;
otherwise this part is missing. -/
theorem readable?_nested_iff {parts : List String} (hne : parts ≠ [])
    (hparts : ∀ part ∈ parts, IsIdentifier part.toList) (hfit : ("::".intercalate parts).utf8ByteSize ≤ maxOutput) :
    (readable? (nestedSymbol parts) = some ("::".intercalate parts) ↔ ¬ LooksLikeHash (parts.getLast hne)) ∧
    (LooksLikeHash (parts.getLast hne) →
      readable? (nestedSymbol parts) = some ("::".intercalate parts.dropLast)) := by
  obtain ⟨front, last, rfl⟩ := (List.eq_nil_or_concat' parts).resolve_left hne
  rw [List.getLast_concat, List.dropLast_concat]
  have hlast : last ≠ "" := fun h => (hparts last (by simp)).ne_nil (h ▸ rfl)
  obtain ⟨more, hmore, hconcat⟩ := exists_intercalate_concat front hlast
  have hshort : LooksLikeHash last → readable? (nestedSymbol (front ++ [last])) = some ("::".intercalate front) := by
    intro hhash
    refine readable?_of_looksLikeHash hparts (Nat.le_trans ?_ hfit) hhash
    rw [hconcat, String.utf8ByteSize_append]
    exact Nat.le_add_right _ _
  refine ⟨⟨fun h hhash => ?_, fun h => ?_⟩, hshort⟩
  · have hequal := Option.some.inj (h.symm.trans (hshort hhash))
    rw [hconcat, String.append_eq_left_iff] at hequal
    exact hmore hequal
  · refine readable?_of_not_looksLikeHash hparts hfit fun last' hlast' => ?_
    rw [List.getLast?_concat] at hlast'
    exact Option.some.inj hlast' ▸ h

/-- A member `set` is no hash. -/
theorem leds_set_shown :
    nestedSymbol ["Leds", "set"] = "_ZN4Leds3setE" ∧ readable? "_ZN4Leds3setE" = some "Leds::set" := by
  have hparts : ∀ part ∈ ["Leds", "set"], IsIdentifier part.toList := by decide
  have hset : ¬ LooksLikeHash "set" := by
    rw [← isHash_iff]
    decide
  exact ⟨rfl, (readable?_nested_iff (List.cons_ne_nil _ _) hparts (by decide)).1.2 hset⟩

/-- A member `hface` looks like a hash, although a hash has sixteen digits. In the scheme of C++ its name has both parts. -/
theorem leds_hface_not_shown :
    (∀ part ∈ ["Leds", "hface"], IsIdentifier part.toList) ∧ "hface".length ≠ "h0123456789abcdef".length ∧
    nestedSymbol ["Leds", "hface"] = "_ZN4Leds5hfaceE" ∧ readable? "_ZN4Leds5hfaceE" = some "Leds" ∧
    Itanium.demangle? "_ZN4Leds5hfaceE".toList = some "Leds::hface" :=
  ⟨by decide, by decide, rfl, by decide +kernel, by decide +kernel⟩

/-- A path that is not too long is shown as its parts, whatever hash of sixteen digits was added to it. All its parts are
shown, also those that look like a hash. -/
theorem readable?_hashed {parts : List String} (hparts : ∀ part ∈ parts, IsIdentifier part.toList)
    (hfit : ("::".intercalate parts).utf8ByteSize ≤ maxOutput) {digits : String} (hlength : digits.length = 16)
    (hdigits : ∀ c ∈ digits.toList, (Text.hexDigit? c).isSome = true) :
    readable? ("_ZN" ++ String.join (parts.map lengthPrefixed) ++ "17h" ++ digits ++ "E") =
      some ("::".intercalate parts) := by
  have hlast : ("h" ++ digits).toList = 'h' :: digits.toList := String.toList_append
  have hsymbol : nestedSymbol (parts ++ ["h" ++ digits]) =
      "_ZN" ++ String.join (parts.map lengthPrefixed) ++ "17h" ++ digits ++ "E" := by
    have hprefixed : lengthPrefixed ("h" ++ digits) = "17h" ++ digits := by
      rw [lengthPrefixed, String.length_append, hlength, ← String.append_assoc]
      rfl
    rw [nestedSymbol, List.map_append, List.map_singleton, String.join_append, String.join_cons, String.join_nil,
      String.append_empty, hprefixed, ← String.append_assoc, ← String.append_assoc]
  have hidentifier : IsIdentifier ("h" ++ digits).toList := by
    rw [hlast]
    refine ⟨List.cons_ne_nil _ _, by simp [Text.isDigit], ?_⟩
    exact List.forall_mem_cons.2 ⟨by decide, fun c hc => isLetter_of_isHexDigit (hdigits c hc)⟩
  rw [← hsymbol]
  refine readable?_of_looksLikeHash ?_ hfit ⟨digits.toList, hlast, hdigits⟩
  exact List.forall_mem_append.2 ⟨hparts, List.forall_mem_singleton.2 hidentifier⟩

/-- The element `hcafe` is inside of the path, and the hash has letters of either case. -/
theorem hcafe_write_shown :
    readable? "_ZN4core5hcafe5write17h0123456789ABcdefE" = some "core::hcafe::write" :=
  have hdigits : ("0123456789ABcdef".toList.all fun c => (Text.hexDigit? c).isSome) = true := by decide
  @readable?_hashed ["core", "hcafe", "write"] (by decide) (by decide) "0123456789ABcdef" (by decide)
    (List.all_eq_true.1 hdigits)

end FirmwareSymbols.Demangle
