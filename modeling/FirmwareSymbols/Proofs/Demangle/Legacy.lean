import FirmwareSymbols.Demangle.Legacy
import FirmwareSymbols.Proofs.Demangle.Output
import FirmwareSymbols.Proofs.Text.Digits

/-!
# Paths of the legacy scheme

An element that does not start with a digit is read as it was written, after its length (`elements?_element`), and what is
read was written so (`exists_of_elements?_eq_cons`). An element without dots and dollar signs stands for itself
(`pieces_of_plain`), and a path is shown as its elements with colons between them (`toList_join_pathPieces`). It is shown
as nothing exactly if it has no element that counts (`demangle?_eq_empty_iff`): none at all, a hash only, or one that is
empty.
-/

namespace FirmwareSymbols.Demangle.Legacy

/-! ### Elements that are read -/

theorem elements?_end (rest : List Char) : elements? ('E' :: rest) = some ([], rest) := by
  rw [elements?]

/-- An element is read up to its length, which is written in digits in front of it. -/
theorem elements?_element {digits e after : List Char} (hne : digits ≠ [])
    (hdigits : ∀ c ∈ digits, Text.isDigit c = true) (hlength : Text.digitsValue digits = e.length)
    (hstart : ∀ c ∈ (e ++ after).head?, Text.isDigit c = false) (hafter : after ≠ []) :
    elements? (digits ++ (e ++ after)) = (elements? after).map fun (es, tail) => (e :: es, tail) := by
  obtain ⟨d, digits', rfl⟩ := List.exists_cons_of_ne_nil hne
  obtain ⟨c, after', rfl⟩ := List.exists_cons_of_ne_nil hafter
  have hd : d ≠ 'E' := by
    rintro rfl
    exact absurd (hdigits 'E' List.mem_cons_self) (by decide)
  have hnumber : Text.number? (d :: digits' ++ (e ++ c :: after')) = some (e.length, e ++ c :: after') := by
    rw [Text.number?, Text.digits?_append hne hdigits hstart, Option.map_some]
    exact congrArg (fun n => some (n, e ++ c :: after')) hlength
  rw [List.cons_append] at hnumber ⊢
  rw [elements?]
  · split
    next h => rw [hnumber] at h; simp at h
    next n rest h =>
      rw [hnumber] at h
      obtain ⟨rfl, rfl⟩ := Prod.mk.inj (Option.some.inj h)
      split
      next h' => rw [List.drop_left] at h'; simp at h'
      next c' tail h' =>
        rw [List.drop_left] at h'
        obtain ⟨rfl, rfl⟩ := List.cons.inj h'
        rw [List.take_left]
  · rintro rest ⟨⟩
    exact hd rfl

theorem elements?_eq_nil_iff {s rest : List Char} : elements? s = some ([], rest) ↔ s = 'E' :: rest := by
  constructor
  · intro h
    rw [elements?.eq_def] at h
    split at h
    · obtain ⟨-, rfl⟩ := Prod.mk.inj (Option.some.inj h)
      rfl
    · split at h
      · simp at h
      · split at h
        · simp at h
        · obtain ⟨p, -, hp⟩ := Option.map_eq_some_iff.1 h
          simp at hp
  · rintro rfl
    exact elements?_end rest

/-- What is read as an element was written as one. -/
theorem exists_of_elements?_eq_cons {s e rest : List Char} {es : List (List Char)}
    (h : elements? s = some (e :: es, rest)) :
    ∃ digits after, digits ≠ [] ∧ (∀ c ∈ digits, Text.isDigit c = true) ∧ Text.digitsValue digits = e.length ∧
      (∀ c ∈ (e ++ after).head?, Text.isDigit c = false) ∧ s = digits ++ (e ++ after) ∧
      elements? after = some (es, rest) := by
  rw [elements?.eq_def] at h
  split at h
  · simp at h
  · split at h
    · simp at h
    next n tail hnumber =>
      split at h
      · simp at h
      next c after hdrop =>
        obtain ⟨⟨es', rest'⟩, helements, hp⟩ := Option.map_eq_some_iff.1 h
        obtain ⟨hcons, rfl⟩ := Prod.mk.inj hp
        obtain ⟨rfl, rfl⟩ := List.cons.inj hcons
        obtain ⟨⟨digits, tail'⟩, hdigits, hvalue⟩ := Option.map_eq_some_iff.1 hnumber
        obtain ⟨rfl, rfl⟩ := Prod.mk.inj hvalue
        obtain ⟨hne, hall, hstart, rfl⟩ := Text.digits?_eq_some hdigits
        have hsplit : tail'.take (Text.digitsValue digits) ++ c :: after = tail' := by
          rw [← hdrop, List.take_append_drop]
        have hlong : Text.digitsValue digits < tail'.length := by
          have := congrArg List.length hdrop
          rw [List.length_drop, List.length_cons] at this
          omega
        refine ⟨digits, c :: after, hne, hall, ?_, ?_, ?_, helements⟩
        · rw [List.length_take]
          omega
        · rw [hsplit]
          exact hstart
        · rw [hsplit]

/-! ### Letters -/

/-- A character of an identifier. -/
def IsLetter (c : Char) : Prop := c.isAlphanum = true ∨ c = '_'

instance : DecidablePred IsLetter := fun c => inferInstanceAs (Decidable (c.isAlphanum = true ∨ c = '_'))

theorem isPlain_of_isLetter {c : Char} (h : IsLetter c) : isPlain c = true := by
  unfold isPlain
  rw [Bool.and_eq_true, decide_eq_true_eq, decide_eq_true_eq]
  constructor
  · rintro rfl
    exact absurd h (by decide)
  · rintro rfl
    exact absurd h (by decide)

theorem isLetter_iff {c : Char} :
    IsLetter c ↔ ('A' ≤ c ∧ c ≤ 'Z') ∨ ('a' ≤ c ∧ c ≤ 'z') ∨ ('0' ≤ c ∧ c ≤ '9') ∨ c = '_' := by
  have halphanum : c.isAlphanum =
      ((decide ('A' ≤ c ∧ c ≤ 'Z') || decide ('a' ≤ c) && decide (c ≤ 'z')) ||
        decide ('0' ≤ c) && decide (c ≤ '9')) := rfl
  rw [IsLetter, halphanum]
  simp only [Bool.or_eq_true, Bool.and_eq_true, decide_eq_true_eq, or_assoc]

theorem toNat_lt_of_isLetter {c : Char} (h : IsLetter c) : c.toNat < 0x80 := by
  have hle {d : Char} (hd : d.toNat < 0x80) (hcd : c ≤ d) : c.toNat < 0x80 := Nat.lt_of_le_of_lt hcd hd
  rcases isLetter_iff.1 h with ⟨-, h⟩ | ⟨-, h⟩ | ⟨-, h⟩ | rfl
  · exact hle (by decide) h
  · exact hle (by decide) h
  · exact hle (by decide) h
  · decide

theorem isLetter_of_isDigit {c : Char} (h : Text.isDigit c = true) : IsLetter c :=
  .inl (by rw [Char.isAlphanum, show c.isDigit = true from h, Bool.or_true])

theorem isLetter_of_isHexDigit {c : Char} (h : (Text.hexDigit? c).isSome = true) : IsLetter c := by
  have hlower : 'f' ≤ 'z' := by decide
  have hupper : 'F' ≤ 'Z' := by decide
  unfold Text.hexDigit? at h
  split at h
  next hdigit => exact isLetter_of_isDigit hdigit
  · split at h
    next hc =>
      rw [Bool.and_eq_true, decide_eq_true_eq, decide_eq_true_eq] at hc
      exact isLetter_iff.2 (.inr (.inl ⟨hc.1, Char.le_trans hc.2 hlower⟩))
    · split at h
      next hc =>
        rw [Bool.and_eq_true, decide_eq_true_eq, decide_eq_true_eq] at hc
        exact isLetter_iff.2 (.inl ⟨hc.1, Char.le_trans hc.2 hupper⟩)
      · simp at h

theorem isLetter_of_isHash {hash : List Char} (h : isHash hash = true) : ∀ c ∈ hash, IsLetter c := by
  unfold isHash at h
  split at h
  · rw [List.forall_mem_cons]
    exact ⟨.inl rfl, fun c hc => isLetter_of_isHexDigit (List.all_eq_true.1 h c hc)⟩
  · simp at h

/-! ### Pieces -/

theorem pieces_of_plain {s : List Char} (hne : s ≠ []) (h : ∀ c ∈ s, isPlain c = true) : pieces s = [s] := by
  obtain ⟨c, rest, rfl⟩ := List.exists_cons_of_ne_nil hne
  rw [List.forall_mem_cons] at h
  have hdot : c ≠ '.' := by
    rintro rfl
    exact absurd h.1 (by decide)
  have hdollar : c ≠ '$' := by
    rintro rfl
    exact absurd h.1 (by decide)
  have hrest : rest.dropWhile isPlain = [] := List.dropWhile_eq_nil_iff.2 h.2
  rw [pieces]
  · split
    · rfl
    next h' => rw [hrest] at h'; simp at h'
  · exact fun _ hc _ => hdot hc
  · exact hdot
  · exact hdollar

theorem exists_pieces_eq_cons {s : List Char} (hne : s ≠ []) : ∃ p ps, pieces s = p :: ps ∧ p ≠ [] := by
  rw [pieces.eq_def]
  split
  · exact absurd rfl hne
  · exact ⟨_, _, rfl, by simp⟩
  · exact ⟨_, _, rfl, by simp⟩
  · split
    · exact ⟨_, _, rfl, by simp⟩
    · split
      · exact ⟨_, _, rfl, by simp⟩
      · exact ⟨_, _, rfl, by simp⟩
  · split
    · exact ⟨_, _, rfl, by simp⟩
    · exact ⟨_, _, rfl, by simp⟩

theorem elementPieces_eq_nil_iff {e : List Char} : (elementPieces e).flatten = [] ↔ e = [] := by
  constructor
  · intro h
    by_contra hne
    obtain ⟨s, hs, hpieces⟩ : ∃ s ≠ [], elementPieces e = pieces s := by
      unfold elementPieces
      split
      · exact ⟨_, List.cons_ne_nil _ _, rfl⟩
      · exact ⟨e, hne, rfl⟩
    obtain ⟨p, ps, hcons, hp⟩ := exists_pieces_eq_cons hs
    rw [hpieces, hcons, List.flatten_cons, List.append_eq_nil_iff] at h
    exact hp h.1
  · rintro rfl
    rw [elementPieces, pieces]
    · rfl
    · simp

private theorem intercalate_cons (separator first : List Char) (rest : List (List Char)) :
    separator.intercalate (first :: rest) = first ++ rest.flatMap (separator ++ ·) := by
  induction rest generalizing first with
  | nil => simp
  | cons next rest ih => rw [List.intercalate_cons_cons, ih, List.flatMap_cons, List.append_assoc, List.append_assoc]

/-- A path is shown with two colons between its elements. -/
theorem toList_join_pathPieces (es : List (List Char)) :
    (String.join (pathPieces es)).toList = [':', ':'].intercalate (es.map fun e => (elementPieces e).flatten) := by
  have hjoin : ∀ l : List (List Char), (String.join (l.map String.ofList)).toList = l.flatten := by
    intro l
    rw [String.toList_join, List.flatMap_map]
    simp
  have hrest : ∀ l : List (List (List Char)),
      (l.flatMap ([':', ':'] :: ·)).flatten = (l.map List.flatten).flatMap ([':', ':'] ++ ·) := by
    intro l
    induction l with
    | nil => rfl
    | cons ps l ih => rw [List.flatMap_cons, List.flatten_append, ih, List.map_cons, List.flatMap_cons, List.flatten_cons]
  cases es with
  | nil => rfl
  | cons e es =>
    rw [pathPieces, List.map_cons]
    dsimp only
    rw [hjoin, List.flatten_append, hrest, List.map_cons, intercalate_cons, List.map_map]
    rfl

/-- Nothing is shown only of no elements, and of a single one that is empty. -/
theorem join_pathPieces_eq_empty_iff {es : List (List Char)} :
    String.join (pathPieces es) = "" ↔ es = [] ∨ es = [[]] := by
  rw [← String.toList_inj, toList_join_pathPieces]
  constructor
  · intro h
    match es, h with
    | [], _ => exact .inl rfl
    | [e], h => exact .inr (congrArg (· :: []) (elementPieces_eq_nil_iff.1 (by simpa using h)))
    | e :: e' :: es, h => simp [intercalate_cons] at h
  · rintro (rfl | rfl)
    · rfl
    · simpa using elementPieces_eq_nil_iff.2 rfl

/-! ### Shown paths -/

theorem shown_concat (es : List (List Char)) (last : List Char) :
    shown (es ++ [last]) = if isHash last = true then es else es ++ [last] := by
  rw [shown, List.getLast?_concat, List.dropLast_concat]

theorem shown_of_not_isHash {es : List (List Char)} (h : ∀ last ∈ es.getLast?, isHash last = false) : shown es = es := by
  unfold shown
  split
  next last hlast => rw [h last hlast, if_neg Bool.false_ne_true]
  · rfl

/-- A path is shown without elements if it has none, or only a hash. -/
theorem shown_eq_nil_iff {es : List (List Char)} :
    shown es = [] ↔ es = [] ∨ ∃ hash, isHash hash = true ∧ es = [hash] := by
  constructor
  · intro h
    rcases List.eq_nil_or_concat es with hnil | ⟨es', last, rfl⟩
    · exact .inl hnil
    · rw [List.concat_eq_append, shown_concat] at h
      split at h
      next hhash => exact .inr ⟨last, hhash, by rw [h]; rfl⟩
      · simp at h
  · rintro (rfl | ⟨hash, hhash, rfl⟩)
    · rfl
    · rw [← List.nil_append [hash], shown_concat, if_pos hhash]

/-- An empty element is only ever the last one, because the digits in front of it would go on with those of the next. -/
theorem eq_singleton_of_elements?_eq_cons_nil {s rest : List Char} {es : List (List Char)}
    (h : elements? s = some ([] :: es, rest)) : es = [] := by
  obtain ⟨digits, after, -, -, -, hstart, -, hafter⟩ := exists_of_elements?_eq_cons h
  cases es with
  | nil => rfl
  | cons e es =>
    obtain ⟨digits', after', hne, hdigits, -, -, rfl, -⟩ := exists_of_elements?_eq_cons hafter
    obtain ⟨d, digits', rfl⟩ := List.exists_cons_of_ne_nil hne
    exact absurd (hdigits d List.mem_cons_self) (by simp [hstart d rfl])

/-- What follows the start of a path that is shown as nothing: its end at once, or after a single element that is empty
or a hash. -/
inductive IsNameless : List Char → Prop
  | bare : IsNameless ['E']
  | single {digits e : List Char} (hne : digits ≠ []) (hdigits : ∀ c ∈ digits, Text.isDigit c = true)
      (hlength : Text.digitsValue digits = e.length) (he : e = [] ∨ isHash e = true) :
      IsNameless (digits ++ (e ++ ['E']))

theorem isNameless_iff {body : List Char} :
    IsNameless body ↔ ∃ es, elements? body = some (es, []) ∧ (es = [] ∨ ∃ e, es = [e] ∧ (e = [] ∨ isHash e = true)) := by
  constructor
  · rintro (_ | @⟨digits, e, hne, hdigits, hlength, he⟩)
    · exact ⟨[], elements?_end [], .inl rfl⟩
    · refine ⟨[e], ?_, .inr ⟨e, rfl, he⟩⟩
      rw [elements?_element hne hdigits hlength ?_ (List.cons_ne_nil _ _), elements?_end]
      · rfl
      · rcases he with rfl | hhash
        · simp [Text.isDigit]
        · unfold isHash at hhash
          split at hhash
          · simp [Text.isDigit]
          · simp at hhash
  · rintro ⟨es, hes, rfl | ⟨e, rfl, he⟩⟩
    · rw [elements?_eq_nil_iff.1 hes]
      exact .bare
    · obtain ⟨digits, after, hne, hdigits, hlength, -, rfl, hafter⟩ := exists_of_elements?_eq_cons hes
      rw [elements?_eq_nil_iff.1 hafter]
      exact .single hne hdigits hlength he

theorem IsNameless.toNat_lt {body : List Char} (h : IsNameless body) : ∀ c ∈ body, c.toNat < 0x80 := by
  cases h with
  | bare => exact List.forall_mem_singleton.2 (by decide)
  | single _ hdigits _ he =>
    intro c hc
    rcases List.mem_append.1 hc with hc | hc
    · exact toNat_lt_of_isLetter (isLetter_of_isDigit (hdigits c hc))
    · rcases List.mem_append.1 hc with hc | hc
      · rcases he with rfl | hhash
        · simp at hc
        · exact toNat_lt_of_isLetter (isLetter_of_isHash hhash c hc)
      · rw [List.mem_singleton.1 hc]
        decide

theorem demangle?_eq_some_iff {s rest : List Char} {text : String} :
    demangle? s = some (text, rest) ↔
      ∃ body es, body? s = some body ∧ (∀ c ∈ body, c.toNat < 0x80) ∧ elements? body = some (es, rest) ∧
        Output.empty.writeAll (pathPieces (shown es)) = text := by
  have hascii : ∀ body : List Char, (body.any fun c => 0x80 ≤ c.toNat) = false ↔ ∀ c ∈ body, c.toNat < 0x80 := by
    intro body
    simp [List.any_eq_false]
  simp only [demangle?, Option.bind_eq_bind, Option.bind_eq_some_iff, Option.ite_none_left_eq_some, Bool.not_eq_true,
    hascii, Prod.exists, Option.pure_def, Option.some.injEq, Prod.mk.injEq]
  constructor
  · rintro ⟨body, hbody, hsmall, es, rest', hes, htext, rfl⟩
    exact ⟨body, es, hbody, hsmall, hes, htext⟩
  · rintro ⟨body, es, hbody, hsmall, hes, htext⟩
    exact ⟨body, hbody, hsmall, es, rest, hes, htext, rfl⟩

/-- A path is read to its end and shown as nothing exactly if it has no element that is shown. -/
theorem demangle?_eq_empty_iff {s : List Char} :
    demangle? s = some ("", []) ↔ ∃ body, body? s = some body ∧ IsNameless body := by
  simp only [demangle?_eq_some_iff, Output.writeAll_eq_empty_iff, join_pathPieces_eq_empty_iff, Output.text_empty,
    true_and]
  constructor
  · rintro ⟨body, es, hbody, -, hes, hnil | hempty⟩
    · refine ⟨body, hbody, isNameless_iff.2 ⟨es, hes, ?_⟩⟩
      rcases shown_eq_nil_iff.1 hnil with rfl | ⟨hash, hhash, rfl⟩
      · exact .inl rfl
      · exact .inr ⟨hash, rfl, .inr hhash⟩
    · obtain ⟨rest, rfl⟩ : ∃ rest, es = [] :: rest := by
        rcases List.eq_nil_or_concat es with rfl | ⟨front, last, rfl⟩
        · simp [shown] at hempty
        · rw [List.concat_eq_append]
          rw [List.concat_eq_append, shown_concat] at hempty
          split at hempty
          · exact ⟨[last], by rw [hempty]; rfl⟩
          · exact ⟨[], hempty⟩
      obtain rfl := eq_singleton_of_elements?_eq_cons_nil hes
      exact ⟨body, hbody, isNameless_iff.2 ⟨[[]], hes, .inr ⟨[], rfl, .inl rfl⟩⟩⟩
  · rintro ⟨body, hbody, hnameless⟩
    obtain ⟨es, hes, he⟩ := isNameless_iff.1 hnameless
    refine ⟨body, es, hbody, hnameless.toNat_lt, hes, ?_⟩
    rcases he with rfl | ⟨e, rfl, rfl | hhash⟩
    · exact .inl rfl
    · exact .inr (shown_of_not_isHash (by simp [isHash]))
    · exact .inl (shown_eq_nil_iff.2 (.inr ⟨e, hhash, rfl⟩))

end FirmwareSymbols.Demangle.Legacy
