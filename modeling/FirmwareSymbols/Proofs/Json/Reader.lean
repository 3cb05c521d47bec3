import FirmwareSymbols.Proofs.Json.Lexemes

/-!
# Reading documents

The reader accepts exactly the documents of the grammar, and reads each as its value (`parse?_eq_some_iff`).

* `Reads read spells` joins both directions for one reader: it takes what is spelled at the front of a text, and what
  it takes was spelled there.
* Arrays and objects are lists between brackets (`enclosed`), so both follow from one statement about such lists
  (`enclosed_spelled`, `spells_of_enclosed`), which is an induction on the items.
* By induction on the depth of nesting, `value n` reads the values that are nested at most `n` levels deep
  (`reads_value`).
-/

namespace FirmwareSymbols.Json

/-! ### Depths -/

theorem itemsDepth_le_iff {items : List Value} {n : Nat} : itemsDepth items ≤ n ↔ ∀ v ∈ items, v.depth ≤ n := by
  induction items with
  | nil => simp [itemsDepth]
  | cons v items ih => rw [itemsDepth, Nat.max_le, ih, List.forall_mem_cons]

theorem membersDepth_le_iff {members : List (List Char × Value)} {n : Nat} :
    membersDepth members ≤ n ↔ ∀ m ∈ members, m.2.depth ≤ n := by
  induction members with
  | nil => simp [membersDepth]
  | cons m members ih => rw [membersDepth, Nat.max_le, ih, List.forall_mem_cons]

/-! ### Lists with commas -/

section

variable {α : Type} {spells spells' : List Char → α → Prop} {p : α → Prop}

/-- A condition on the items of a list is one on the spelled items. -/
theorem spellsList_and_iff {s : List Char} {as : List α} :
    SpellsList (fun t a => spells t a ∧ p a) s as ↔ SpellsList spells s as ∧ ∀ a ∈ as, p a := by
  constructor
  · intro h
    induction h with
    | last h => exact ⟨.last h.1, by simpa using h.2⟩
    | cons h _ ih => exact ⟨.cons h.1 ih.1, by simpa using ⟨h.2, ih.2⟩⟩
  · rintro ⟨h, hp⟩
    induction h with
    | last h => exact .last ⟨h, hp _ (by simp)⟩
    | cons h _ ih => exact .cons ⟨h, hp _ (by simp)⟩ (ih fun a ha => hp a (by simp [ha]))

theorem padded_and_iff {s : List Char} {a : α} :
    Padded (fun t a => spells t a ∧ p a) s a ↔ Padded spells s a ∧ p a := by
  constructor
  · rintro ⟨hb, h, hb'⟩
    exact ⟨.mk hb h.1 hb', h.2⟩
  · rintro ⟨⟨hb, h, hb'⟩, hp⟩
    exact .mk hb ⟨h, hp⟩ hb'

theorem SpellsList.length_le {s : List Char} {as : List α} (h : SpellsList spells s as) : as.length ≤ s.length + 1 := by
  induction h with
  | last h => simp
  | cons _ _ ih =>
    simp only [List.length_cons, List.length_append]
    omega

end

theorem spellsMember_and_iff {spells : List Char → Value → Prop} {p : Value → Prop} {s : List Char}
    {m : List Char × Value} :
    SpellsMember (fun t v => spells t v ∧ p v) s m ↔ SpellsMember spells s m ∧ p m.2 := by
  constructor
  · rintro ⟨hkey, hb, hb', hv, hp⟩
    exact ⟨.mk hkey hb hb' hv, hp⟩
  · rintro ⟨⟨hkey, hb, hb', hv⟩, hp⟩
    exact .mk hkey hb hb' ⟨hv, hp⟩

/-- One or more items up to a closing mark, as `items` and `members` read them. -/
def separated {α : Type} (item : List Char → Option (α × List Char)) (close : Char) :
    Nat → List Char → Option (List α × List Char)
  | 0, _ => none
  | n + 1, s => do
    let (a, s) ← item s
    match skipBlanks s with
    | [] => none
    | c :: s =>
      if c = ',' then (separated item close n s).map fun (as, rest) => (a :: as, rest)
      else if c = close then some ([a], s)
      else none

/-- Any number of items up to a closing mark, as `array` and `object` read them. -/
def enclosed {α : Type} (item : List Char → Option (α × List Char)) (close : Char) (s : List Char) :
    Option (List α × List Char) :=
  if (skipBlanks s).head? = some close then some ([], (skipBlanks s).tail) else separated item close s.length s

private theorem items_eq_separated (item : List Char → Option (Value × List Char)) (n : Nat) (s : List Char) :
    items item n s = separated item ']' n s := by
  induction n generalizing s with
  | zero => rfl
  | succ n ih =>
    rw [items, separated]
    congr 1
    funext p
    obtain ⟨v, s⟩ := p
    simp only
    cases skipBlanks s with
    | nil => rfl
    | cons c s =>
      by_cases hcomma : c = ','
      · subst hcomma
        simp [ih]
      · by_cases hclose : c = ']'
        · subst hclose
          rfl
        · simp [hcomma, hclose]

private theorem members_eq_separated (item : List Char → Option (Value × List Char)) (n : Nat) (s : List Char) :
    members item n s = separated (member item) '\x7d' n s := by
  induction n generalizing s with
  | zero => rfl
  | succ n ih =>
    rw [members, separated]
    congr 1
    funext p
    obtain ⟨v, s⟩ := p
    simp only
    cases skipBlanks s with
    | nil => rfl
    | cons c s =>
      by_cases hcomma : c = ','
      · subst hcomma
        simp [ih]
      · by_cases hclose : c = '\x7d'
        · subst hclose
          rfl
        · simp [hcomma, hclose]

private theorem head?_ne_some {s : List Char} {c : Char} (h : ∀ rest, s ≠ c :: rest) : s.head? ≠ some c := by
  rw [ne_eq, List.head?_eq_some_iff]
  rintro ⟨rest, hs⟩
  exact h rest hs

theorem array_eq_enclosed (item : List Char → Option (Value × List Char)) (s : List Char) :
    array item s = (enclosed item ']' s).map fun (vs, rest) => (.array vs, rest) := by
  unfold array enclosed
  split
  next rest hs => simp [hs]
  next hne => rw [if_neg (head?_ne_some hne), items_eq_separated]

theorem object_eq_enclosed (item : List Char → Option (Value × List Char)) (s : List Char) :
    object item s = (enclosed (member item) '\x7d' s).map fun (ms, rest) => (.object ms, rest) := by
  unfold object enclosed
  split
  next rest hs => simp [hs]
  next hne => rw [if_neg (head?_ne_some hne), members_eq_separated]

/-- The reader takes what is spelled at the front of a text, after blanks, and nothing else. -/
structure Reads {α : Type} (read : List Char → Option (α × List Char)) (spells : List Char → α → Prop) : Prop where
  spelled : ∀ {s a b rest}, spells s a → IsBlanks b → EndsNumber rest → read (b ++ (s ++ rest)) = some (a, rest)
  sound : ∀ {s a rest}, read s = some (a, rest) → ∃ b t, IsBlanks b ∧ spells t a ∧ s = b ++ (t ++ rest)

theorem EndsNumber.blanks_append {b s : List Char} (hb : IsBlanks b) (hs : EndsNumber s) : EndsNumber (b ++ s) := by
  cases b with
  | nil => exact hs
  | cons c b =>
    intro d hd
    obtain rfl := Option.some.inj hd
    rcases hb c (by simp) with rfl | rfl | rfl | rfl <;> decide

theorem endsNumber_cons {c : Char} (hc : c = ',' ∨ c = ']' ∨ c = '\x7d') (s : List Char) : EndsNumber (c :: s) := by
  intro d hd
  obtain rfl := Option.some.inj hd
  rcases hc with rfl | rfl | rfl <;> decide

theorem IsBlanks.append {b b' : List Char} (hb : IsBlanks b) (hb' : IsBlanks b') : IsBlanks (b ++ b') := by
  intro c hc
  rcases List.mem_append.1 hc with hc | hc
  · exact hb c hc
  · exact hb' c hc

section

variable {α : Type} {item : List Char → Option (α × List Char)} {spells : List Char → α → Prop} {close : Char}

/-- A list with commas is read up to its closing mark, if enough items are allowed. -/
theorem separated_spelled (hitem : Reads item spells) (hclose : close = ']' ∨ close = '\x7d') {s : List Char}
    {as : List α} (h : SpellsList (Padded spells) s as) {n : Nat} (hn : as.length ≤ n) (rest : List Char) :
    separated item close n (s ++ close :: rest) = some (as, rest) := by
  have hblank : isBlank close = false := by rcases hclose with rfl | rfl <;> rfl
  have hcomma : close ≠ ',' := by rcases hclose with rfl | rfl <;> decide
  have hends : ∀ s, EndsNumber (close :: s) := endsNumber_cons (Or.inr hclose)
  induction h generalizing n with
  | last h =>
    obtain ⟨hb, h, hb'⟩ := h
    obtain ⟨n, rfl⟩ : ∃ m, n = m + 1 := ⟨n - 1, by simp at hn; omega⟩
    rw [List.append_assoc, List.append_assoc, separated,
      hitem.spelled h hb (EndsNumber.blanks_append hb' (hends rest))]
    simp only [Option.bind_eq_bind, Option.bind_some, skipBlanks_append hb', skipBlanks_cons hblank, hcomma, if_false,
      if_true]
  | cons h _ ih =>
    obtain ⟨hb, h, hb'⟩ := h
    obtain ⟨n, rfl⟩ : ∃ m, n = m + 1 := ⟨n - 1, by simp at hn; omega⟩
    rw [List.append_assoc, List.append_assoc, List.append_assoc, List.cons_append, separated,
      hitem.spelled h hb (EndsNumber.blanks_append hb' (endsNumber_cons (Or.inl rfl) _))]
    have hskip : ∀ s, skipBlanks (',' :: s) = ',' :: s := skipBlanks_cons rfl
    simp only [Option.bind_eq_bind, Option.bind_some, skipBlanks_append hb', hskip, if_true,
      ih (Nat.le_of_succ_le_succ hn), Option.map_some]

theorem spells_of_separated (hitem : Reads item spells) {n : Nat} {s rest : List Char} {as : List α}
    (h : separated item close n s = some (as, rest)) :
    ∃ t, SpellsList (Padded spells) t as ∧ s = t ++ close :: rest := by
  induction n generalizing s as with
  | zero => simp [separated] at h
  | succ n ih =>
    rw [separated, Option.bind_eq_bind, Option.bind_eq_some_iff, Prod.exists] at h
    obtain ⟨a, s', ha, h⟩ := h
    obtain ⟨b, t, hb, ht, rfl⟩ := hitem.sound ha
    obtain ⟨b', hb', hskip⟩ := exists_blanks s'
    simp only at h
    cases hs : skipBlanks s' with
    | nil => simp [hs] at h
    | cons c s'' =>
      rw [hs] at hskip h
      simp only at h
      split at h
      next hc =>
        obtain ⟨⟨as', rest'⟩, hr, he⟩ := Option.map_eq_some_iff.1 h
        simp only [Prod.mk.injEq] at he
        obtain ⟨rfl, rfl⟩ := he
        obtain ⟨t', ht', rfl⟩ := ih hr
        refine ⟨b ++ t ++ b' ++ ',' :: t', .cons (.mk hb ht hb') ht', ?_⟩
        rw [hskip, hc]
        simp
      · split at h
        next hc =>
          simp only [Option.some.injEq, Prod.mk.injEq] at h
          obtain ⟨rfl, rfl⟩ := h
          refine ⟨b ++ t ++ b', .last (.mk hb ht hb'), ?_⟩
          rw [hskip, hc]
          simp
        · simp at h

/-- Between the brackets stand blanks alone, or one or more items. -/
def SpellsEnclosed (spells : List Char → α → Prop) (s : List Char) (as : List α) : Prop :=
  (IsBlanks s ∧ as = []) ∨ SpellsList (Padded spells) s as

private theorem SpellsList.exists_first {s : List Char} {as : List α} (h : SpellsList (Padded spells) s as) :
    ∃ b t a more, IsBlanks b ∧ spells t a ∧ s = b ++ (t ++ more) := by
  cases h with
  | @last _ a h =>
    obtain @⟨b, t, b', _, hb, h, -⟩ := h
    exact ⟨b, t, a, b', hb, h, by simp⟩
  | @cons _ s' a _ h _ =>
    obtain @⟨b, t, b', _, hb, h, -⟩ := h
    exact ⟨b, t, a, b' ++ ',' :: s', hb, h, by simp⟩

/-- Brackets with items in them are read, if no item can be taken for the closing mark. -/
theorem enclosed_spelled (hitem : Reads item spells) (hclose : close = ']' ∨ close = '\x7d')
    (hhead : ∀ {t a}, spells t a → ∃ c t', t = c :: t' ∧ isBlank c = false ∧ c ≠ close) {s : List Char} {as : List α}
    (h : SpellsEnclosed spells s as) (rest : List Char) :
    enclosed item close (s ++ close :: rest) = some (as, rest) := by
  have hblank : isBlank close = false := by rcases hclose with rfl | rfl <;> rfl
  unfold enclosed
  rcases h with ⟨hb, rfl⟩ | h
  · rw [skipBlanks_append hb, skipBlanks_cons hblank]
    simp
  · obtain ⟨b, t, a, more, hb, ht, rfl⟩ := h.exists_first
    obtain ⟨c, t', rfl, hc, hne⟩ := hhead ht
    have hskip : skipBlanks (b ++ (c :: t' ++ more) ++ close :: rest) = c :: (t' ++ more ++ close :: rest) := by
      rw [List.append_assoc, skipBlanks_append hb]
      exact skipBlanks_cons hc _
    have hfirst : ¬ some c = some close := by simpa using hne
    have hlen := h.length_le
    rw [hskip, List.head?_cons, if_neg hfirst]
    apply separated_spelled hitem hclose h
    rw [List.length_append, List.length_cons]
    omega

theorem spells_of_enclosed (hitem : Reads item spells) {s rest : List Char} {as : List α}
    (h : enclosed item close s = some (as, rest)) :
    ∃ t, SpellsEnclosed spells t as ∧ s = t ++ close :: rest := by
  unfold enclosed at h
  split at h
  next hhead =>
    obtain ⟨b, hb, hskip⟩ := exists_blanks s
    obtain ⟨rest', hs⟩ := List.head?_eq_some_iff.1 hhead
    rw [hs, List.tail_cons] at h
    simp only [Option.some.injEq, Prod.mk.injEq] at h
    obtain ⟨rfl, rfl⟩ := h
    exact ⟨b, Or.inl ⟨hb, rfl⟩, by rw [← hs, ← hskip]⟩
  · obtain ⟨t, ht, rfl⟩ := spells_of_separated hitem h
    exact ⟨t, Or.inr ht, rfl⟩

end

/-! ### Values -/

/-- The spellings of values that are nested at most `n` levels deep. -/
def SpellsWithin (n : Nat) (s : List Char) (v : Value) : Prop := Spells s v ∧ v.depth ≤ n

private theorem reads_member {item : List Char → Option (Value × List Char)} {spells : List Char → Value → Prop}
    (hitem : Reads item spells) : Reads (member item) (SpellsMember spells) where
  spelled := by
    intro s m b rest h hb hrest
    obtain ⟨hkey, hb', hb'', hv⟩ := h
    rw [member, skipBlanks_append hb]
    simp only [List.cons_append, List.append_assoc]
    rw [skipBlanks_cons rfl]
    simp only [stringBody_spelled hkey, Option.bind_eq_bind, Option.bind_some, skipBlanks_append hb']
    rw [skipBlanks_cons rfl]
    simp only [hitem.spelled hv hb'' hrest, Option.map_some]
  sound := by
    intro s m rest h
    obtain ⟨b, hb, hskip⟩ := exists_blanks s
    unfold member at h
    split at h
    next s' hs =>
      rw [Option.bind_eq_bind, Option.bind_eq_some_iff, Prod.exists] at h
      obtain ⟨key, s'', hkey, h⟩ := h
      obtain ⟨t, ht, rfl⟩ := spells_of_stringBody hkey
      obtain ⟨b', hb', hskip'⟩ := exists_blanks s''
      simp only at h
      split at h
      next s''' hs' =>
        obtain ⟨⟨v, rest'⟩, hv, he⟩ := Option.map_eq_some_iff.1 h
        simp only [Prod.mk.injEq] at he
        obtain ⟨rfl, rfl⟩ := he
        obtain ⟨b'', t', hb'', ht', rfl⟩ := hitem.sound hv
        refine ⟨b, _, hb, .mk ht hb' hb'' ht', ?_⟩
        rw [hskip, hs, hskip', hs']
        simp
      · simp at h
    · simp at h

private theorem spellsEnclosed_items_iff {n : Nat} {s : List Char} {items : List Value} :
    SpellsEnclosed (SpellsWithin n) s items ↔ SpellsWithin (n + 1) ('[' :: (s ++ [']'])) (.array items) := by
  have hpad : Padded (SpellsWithin n) = fun t v => Padded Spells t v ∧ v.depth ≤ n := by
    funext t v
    exact propext padded_and_iff
  rw [SpellsEnclosed, hpad, spellsList_and_iff, ← itemsDepth_le_iff, SpellsWithin, Value.depth, Nat.succ_le_succ_iff]
  constructor
  · rintro (⟨hb, rfl⟩ | ⟨h, hdepth⟩)
    · exact ⟨.emptyArray hb, Nat.zero_le n⟩
    · exact ⟨.array h, hdepth⟩
  · rintro ⟨h, hdepth⟩
    generalize hs' : s ++ [']'] = s' at h
    cases h with
    | emptyArray hb =>
      obtain rfl := List.append_cancel_right hs'
      exact Or.inl ⟨hb, rfl⟩
    | array h =>
      obtain rfl := List.append_cancel_right hs'
      exact Or.inr ⟨h, hdepth⟩

private theorem spellsEnclosed_members_iff {n : Nat} {s : List Char} {members : List (List Char × Value)} :
    SpellsEnclosed (SpellsMember (SpellsWithin n)) s members ↔
      SpellsWithin (n + 1) ('\x7b' :: (s ++ ['\x7d'])) (.object members) := by
  have hmember : SpellsMember (SpellsWithin n) = fun t m => SpellsMember Spells t m ∧ m.2.depth ≤ n := by
    funext t m
    exact propext spellsMember_and_iff
  have hpad : Padded (SpellsMember (SpellsWithin n)) =
      fun t m => Padded (SpellsMember Spells) t m ∧ m.2.depth ≤ n := by
    funext t m
    rw [hmember]
    exact propext padded_and_iff
  rw [SpellsEnclosed, hpad, spellsList_and_iff, ← membersDepth_le_iff, SpellsWithin, Value.depth,
    Nat.succ_le_succ_iff]
  constructor
  · rintro (⟨hb, rfl⟩ | ⟨h, hdepth⟩)
    · exact ⟨.emptyObject hb, Nat.zero_le n⟩
    · exact ⟨.object h, hdepth⟩
  · rintro ⟨h, hdepth⟩
    generalize hs' : s ++ ['\x7d'] = s' at h
    cases h with
    | emptyObject hb =>
      obtain rfl := List.append_cancel_right hs'
      exact Or.inl ⟨hb, rfl⟩
    | object h =>
      obtain rfl := List.append_cancel_right hs'
      exact Or.inr ⟨h, hdepth⟩

private theorem digit_ne {c d : Char} (hc : Text.isDigit c = true) (hd : Text.isDigit d = false) : c ≠ d := by
  rintro rfl
  rw [hd] at hc
  exact absurd hc (by decide)

/-- An unsigned number starts with a digit. -/
private theorem head_of_spellsUnsigned {s : List Char} {l : Literal} (h : SpellsUnsigned s l) :
    ∃ c s', s = c :: s' ∧ Text.isDigit c = true := by
  obtain ⟨fraction, exponent, -, -, rfl⟩ := h.parts
  obtain ⟨c, ds, hds⟩ := List.exists_cons_of_ne_nil h.whole.1
  exact ⟨c, _, by rw [hds]; rfl, h.whole.2 c (by simp [hds])⟩

private theorem isBlank_digit {c : Char} (hc : Text.isDigit c = true) : isBlank c = false := by
  simp [isBlank, digit_ne hc (d := ' ') rfl, digit_ne hc (d := '\n') rfl, digit_ne hc (d := '\t') rfl,
    digit_ne hc (d := '\r') rfl]

/-- No spelling starts with a blank or a closing bracket. -/
private theorem head_of_spells {s : List Char} {v : Value} (h : Spells s v) :
    ∃ c s', s = c :: s' ∧ isBlank c = false ∧ c ≠ ']' := by
  cases h with
  | number h =>
    cases h with
    | positive h =>
      obtain ⟨c, s', rfl, hc⟩ := head_of_spellsUnsigned h
      exact ⟨c, s', rfl, isBlank_digit hc, digit_ne hc rfl⟩
    | negative h => exact ⟨'-', _, rfl, by decide⟩
  | null | true | false | string | emptyArray | array | emptyObject | object => exact ⟨_, _, rfl, by decide⟩

/-- A text that starts with a digit is read as a number. -/
private theorem value_of_digit {n : Nat} {c : Char} {s s' : List Char} (hskip : skipBlanks s = c :: s')
    (hc : Text.isDigit c = true) : value n s = number false (c :: s') := by
  rw [value, hskip]
  split
  all_goals try rfl
  all_goals
    next heq =>
      obtain ⟨rfl, -⟩ := List.cons.inj heq
      exact absurd hc (by decide)

/-- A value is read as it is spelled, if the values one level further down are. -/
private theorem value_spelled {n : Nat} (hsub : ∀ d, n = d + 1 → Reads (value d) (SpellsWithin d)) {s b : List Char}
    {v : Value} (h : SpellsWithin n s v) (hb : IsBlanks b) {rest : List Char} (hrest : EndsNumber rest) :
    value n (b ++ (s ++ rest)) = some (v, rest) := by
  obtain ⟨c, s', rfl, hc, -⟩ := head_of_spells h.1
  have hskip : skipBlanks (b ++ (c :: s' ++ rest)) = c :: (s' ++ rest) := by
    rw [skipBlanks_append hb]
    exact skipBlanks_cons hc _
  obtain ⟨hs, hdepth⟩ := id h
  cases hs with
  | null | true | false =>
    rw [value, hskip]
    rfl
  | string htext =>
    rw [value, hskip]
    simp only [List.append_assoc, List.cons_append, List.nil_append, stringBody_spelled htext, Option.map_some]
  | number hnumber =>
    cases hnumber with
    | negative hl hsign =>
      rw [value, hskip]
      show number true _ = _
      rw [← hsign]
      exact number_spelled hl hrest
    | positive hl hsign =>
      obtain ⟨c', s'', hcons, hdigit⟩ := head_of_spellsUnsigned hl
      obtain ⟨rfl, rfl⟩ := List.cons.inj hcons
      rw [value_of_digit hskip hdigit, ← hsign]
      exact number_spelled hl hrest
  | emptyArray | array =>
    obtain ⟨d, rfl⟩ : ∃ d, n = d + 1 := ⟨n - 1, by simp [Value.depth] at hdepth; omega⟩
    have hread := enclosed_spelled (hsub d rfl) (Or.inl rfl) (fun ht => head_of_spells ht.1)
      (spellsEnclosed_items_iff.2 h) rest
    rw [value, hskip]
    show array (value d) _ = _
    rw [List.append_assoc, List.singleton_append, array_eq_enclosed, hread]
    rfl
  | emptyObject | object =>
    obtain ⟨d, rfl⟩ : ∃ d, n = d + 1 := ⟨n - 1, by simp [Value.depth] at hdepth; omega⟩
    have hquote : ∀ {t m}, SpellsMember (SpellsWithin d) t m →
        ∃ c t', t = c :: t' ∧ isBlank c = false ∧ c ≠ '\x7d' := by
      rintro t m ⟨⟩
      exact ⟨'"', _, rfl, rfl, by decide⟩
    have hread := enclosed_spelled (reads_member (hsub d rfl)) (Or.inr rfl) hquote
      (spellsEnclosed_members_iff.2 h) rest
    rw [value, hskip]
    show object (value d) _ = _
    rw [List.append_assoc, List.singleton_append, object_eq_enclosed, hread]
    rfl

/-- What is read was spelled, if that holds one level further down. -/
private theorem spells_of_value {n : Nat} (hsub : ∀ d, n = d + 1 → Reads (value d) (SpellsWithin d))
    {s rest : List Char} {v : Value} (h : value n s = some (v, rest)) :
    ∃ b t, IsBlanks b ∧ SpellsWithin n t v ∧ s = b ++ (t ++ rest) := by
  obtain ⟨b, hb, hskip⟩ := exists_blanks s
  suffices ∃ t, SpellsWithin n t v ∧ skipBlanks s = t ++ rest by
    obtain ⟨t, ht, hs⟩ := this
    exact ⟨b, t, hb, ht, by rw [← hs, ← hskip]⟩
  have scalar : ∀ {t v}, Spells t v → v.depth = 0 → SpellsWithin n t v :=
    fun ht h0 => ⟨ht, by rw [h0]; exact Nat.zero_le n⟩
  unfold value at h
  split at h
  next hs =>
    obtain ⟨rfl, rfl⟩ := Prod.mk.inj (Option.some.inj h)
    exact ⟨_, scalar .null rfl, hs⟩
  next hs =>
    obtain ⟨rfl, rfl⟩ := Prod.mk.inj (Option.some.inj h)
    exact ⟨_, scalar .true rfl, hs⟩
  next hs =>
    obtain ⟨rfl, rfl⟩ := Prod.mk.inj (Option.some.inj h)
    exact ⟨_, scalar .false rfl, hs⟩
  next s' hs =>
    obtain ⟨⟨text, rest'⟩, htext, he⟩ := Option.map_eq_some_iff.1 h
    obtain ⟨rfl, rfl⟩ := Prod.mk.inj he
    obtain ⟨t, ht, rfl⟩ := spells_of_stringBody htext
    exact ⟨'"' :: (t ++ ['"']), scalar (.string ht) rfl, by rw [hs]; simp⟩
  next s' hs =>
    obtain ⟨t, l, ht, hsign, rfl, rfl⟩ := spells_of_number h
    exact ⟨'-' :: t, scalar (.number (.negative ht hsign)) rfl, by rw [hs]; rfl⟩
  next s' hs =>
    cases n with
    | zero => simp at h
    | succ d =>
      change array (value d) s' = _ at h
      rw [array_eq_enclosed] at h
      obtain ⟨⟨items, rest'⟩, hitems, he⟩ := Option.map_eq_some_iff.1 h
      obtain ⟨rfl, rfl⟩ := Prod.mk.inj he
      obtain ⟨t, ht, rfl⟩ := spells_of_enclosed (hsub d rfl) hitems
      exact ⟨_, spellsEnclosed_items_iff.1 ht, by rw [hs]; simp⟩
  next s' hs =>
    cases n with
    | zero => simp at h
    | succ d =>
      change object (value d) s' = _ at h
      rw [object_eq_enclosed] at h
      obtain ⟨⟨members, rest'⟩, hmembers, he⟩ := Option.map_eq_some_iff.1 h
      obtain ⟨rfl, rfl⟩ := Prod.mk.inj he
      obtain ⟨t, ht, rfl⟩ := spells_of_enclosed (reads_member (hsub d rfl)) hmembers
      exact ⟨_, spellsEnclosed_members_iff.1 ht, by rw [hs]; simp⟩
  · obtain ⟨t, l, ht, hsign, rfl, hs⟩ := spells_of_number h
    exact ⟨t, scalar (.number (.positive ht hsign)) rfl, hs⟩

/-- By induction on the depth, the reader takes exactly the values that are not nested more deeply. -/
theorem reads_value (n : Nat) : Reads (value n) (SpellsWithin n) := by
  have step : ∀ n, (∀ d, n = d + 1 → Reads (value d) (SpellsWithin d)) → Reads (value n) (SpellsWithin n) :=
    fun n hsub => ⟨fun h hb hrest => value_spelled hsub h hb hrest, fun h => spells_of_value hsub h⟩
  induction n with
  | zero => exact step 0 fun d hd => by simp at hd
  | succ n ih =>
    apply step
    rintro d hd
    obtain rfl := Nat.succ.inj hd
    exact ih

/-- Exactly the documents are read, each as its value. -/
theorem parse?_eq_some_iff {c : List Char} {v : Value} : parse? c = some v ↔ IsDocument c v := by
  constructor
  · intro h
    rw [parse?, Option.bind_eq_bind, Option.bind_eq_some_iff, Prod.exists] at h
    obtain ⟨v', rest, hv, h⟩ := h
    obtain ⟨hrest, hveq⟩ := Option.ite_none_right_eq_some.1 h
    obtain rfl := Option.some.inj hveq
    obtain ⟨b, t, hb, ⟨ht, hdepth⟩, rfl⟩ := (reads_value maxDepth).sound hv
    obtain ⟨b', hb', hskip⟩ := exists_blanks rest
    rw [List.isEmpty_iff.1 hrest, List.append_nil] at hskip
    rw [hskip, ← List.append_assoc]
    exact ⟨.mk hb ht hb', Nat.lt_succ_of_le hdepth⟩
  · rintro ⟨@⟨b, s, b', _, hb, hs, hb'⟩, hdepth⟩
    have hends : EndsNumber [] := by simp [EndsNumber]
    have hv := (reads_value maxDepth).spelled ⟨hs, Nat.le_of_lt_succ hdepth⟩ hb (hends.blanks_append hb')
    have hskip : skipBlanks (b' ++ []) = [] := skipBlanks_append hb' []
    rw [List.append_nil] at hv hskip
    rw [parse?, List.append_assoc, hv]
    simp [hskip]

end FirmwareSymbols.Json
