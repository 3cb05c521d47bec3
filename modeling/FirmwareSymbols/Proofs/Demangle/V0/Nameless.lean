import FirmwareSymbols.Proofs.Demangle.V0.Quiet

/-!
# Paths without a name

A path of the second scheme is shown as nothing if it consists of crates and nested names that are all empty. First this
is read off its runs, in both directions (`Blank.outcome_path`, `blank_of_quiet`): such a path could also refer back to
another one. But what stands before a reference inside a blank path are only the paths around it, so the reference would
lead to itself again (`not_blank_of_reference`), and no reference is left from the start of a symbol on
(`Blank.nameless`). So the symbols that are read to their end and shown as nothing are told by their letters
(`demangle?_eq_empty_iff`).
-/

namespace FirmwareSymbols.Demangle.V0

variable {s : State}

/-! ### Blank paths -/

/-- Between these places stands an empty name, which may have a number. -/
def Unnamed (c c' : Cursor) : Prop :=
  ∃ dis c₁ name, disambiguator c = .ok (dis, c₁) ∧ ident c₁ = .ok (name, c') ∧ name.isEmpty = true

/-- Between these places stands a path that is shown as nothing, with so many levels below it. -/
inductive Blank : Nat → Cursor → Cursor → Prop
  | crate {depth : Nat} {c₀ c₁ c₂ : Cursor} (htag : next c₀ = .ok ('C', c₁)) (hname : Unnamed c₁ c₂) :
      Blank (depth + 1) c₀ c₂
  | nested {depth : Nat} {c₀ c₁ c₂ c₃ c₄ : Cursor} (htag : next c₀ = .ok ('N', c₁))
      (hspace : namespaceLetter c₁ = .ok (none, c₂)) (hinner : Blank depth c₂ c₃) (hname : Unnamed c₃ c₄) :
      Blank (depth + 1) c₀ c₄
  | reference {depth : Nat} {c₀ c₁ c₂ target after : Cursor} (htag : next c₀ = .ok ('B', c₁))
      (hreference : backReference c₁ = .ok (target, c₂)) (hinner : Blank depth target after) :
      Blank (depth + 2) c₀ c₂

theorem outcome_pathFrom {inner : Parts} {inValue : Bool} {c c' : Cursor} {tag : Char} {t : State}
    (hc : s.cursor = .ok c) (htag : next c = .ok (tag, c'))
    (h : outcome (pathOf inner inValue tag) { s with cursor := .ok c' } = (.ok (), t)) :
    outcome (pathFrom inner inValue) s = (.ok (), t) := by
  rw [pathFrom_eq, requireCursor]
  refine outcome_part ?_
  rw [outcome_read_bind hc rfl, outcome_read_bind rfl htag]
  exact h

/-- A blank path is read to its end, and nothing is written. -/
theorem Blank.outcome_path {depth : Nat} {c c' : Cursor} (h : Blank depth c c') (inValue : Bool)
    (hc : s.cursor = .ok c) :
    ∃ t, outcome ((parts depth).path inValue) s = (.ok (), t) ∧ t.cursor = .ok c' ∧
      t.output.map Output.text = s.output.map Output.text := by
  induction h generalizing s with
  | @crate _ c₀ c₁ c₂ htag hname =>
    obtain ⟨dis, c, name, hdis, hident, hempty⟩ := hname
    obtain ⟨output, hwrite, houtput⟩ := outcome_writeIdent hempty { s with cursor := .ok c₂ }
    refine ⟨⟨.ok c₂, output, s.binders⟩, outcome_pathFrom hc htag ?_, rfl, houtput⟩
    rw [pathOf, crateRoot, outcome_read_bind rfl hdis, outcome_read_bind rfl hident]
    exact hwrite
  | @nested _ c₀ c₁ c₂ c₃ c₄ htag hspace _ hname ih =>
    obtain ⟨dis, c, name, hdis, hident, hempty⟩ := hname
    obtain ⟨t, hinner, ht, houtput⟩ := ih (s := { s with cursor := .ok c₂ }) rfl
    refine ⟨{ t with cursor := .ok c₄ }, outcome_pathFrom hc htag ?_, rfl, houtput⟩
    rw [pathOf, nestedPath, outcome_read_bind rfl hspace, outcome_bind, hinner]
    dsimp only
    rw [outcome_hasFailed_bind ht, if_neg Bool.false_ne_true]
    rw [outcome_read_bind ht hdis, outcome_read_bind rfl hident, writeNested, hempty]
    rfl
  | @reference depth c₀ c₁ c₂ target after htag hreference _ ih =>
    rcases hwriting : s.output with _ | o
    · refine ⟨{ s with cursor := .ok c₂ }, outcome_pathFrom hc htag ?_, rfl, by rw [hwriting]⟩
      exact outcome_atReference_off rfl hreference hwriting
    · obtain ⟨t, hinner, -, houtput⟩ := ih (s := { s with cursor := .ok target }) rfl
      refine ⟨{ t with cursor := .ok c₂ }, outcome_pathFrom hc htag ?_, rfl, by rw [houtput, hwriting]⟩
      exact outcome_atReference_on rfl hreference (by rw [hwriting]; rfl) hinner

theorem of_quiet_crateRoot {c : Cursor} (hc : s.cursor = .ok c) (h : Quiet (outcome crateRoot s)) :
    ∃ c', Unnamed c c' := by
  obtain ⟨dis, c₁, hdis, h⟩ := quiet_read_at hc h
  obtain ⟨name, c₂, hname, h⟩ := quiet_read_at rfl h
  exact ⟨c₂, dis, c₁, name, hdis, hname, isEmpty_of_quiet h⟩

theorem of_quiet_nestedPath {inner : Parts} [inner.Appends] {inValue : Bool} {c : Cursor} (hc : s.cursor = .ok c)
    (h : Quiet (outcome (nestedPath inner inValue) s)) :
    ∃ space c₁, namespaceLetter c = .ok (space, c₁) ∧
      Quiet (outcome (inner.path inValue) { s with cursor := .ok c₁ }) ∧
      ∀ t c₂, outcome (inner.path inValue) { s with cursor := .ok c₁ } = (.ok (), t) → t.cursor = .ok c₂ →
        space = none ∧ ∃ c₃, Unnamed c₂ c₃ := by
  obtain ⟨space, c₁, hspace, h⟩ := quiet_read_at hc h
  obtain ⟨hinner, hrest⟩ := quiet_bind h
  refine ⟨space, c₁, hspace, hinner, fun t c₂ ht hcursor => ?_⟩
  replace h := hrest () t ht
  rw [outcome_hasFailed_bind hcursor, if_neg Bool.false_ne_true] at h
  dsimp only at h
  obtain ⟨dis, c₃, hdis, h⟩ := quiet_read_at hcursor h
  obtain ⟨name, c₄, hname, h⟩ := quiet_read_at rfl h
  obtain ⟨rfl, hempty⟩ := of_quiet_writeNested h
  exact ⟨rfl, c₄, dis, c₃, name, hdis, hname, hempty⟩

/-- Only a blank path is shown as nothing. -/
theorem blank_of_quiet {depth : Nat} {inValue : Bool} (h : Quiet (outcome ((parts depth).path inValue) s)) :
    ∃ c c', s.cursor = .ok c ∧ Blank depth c c' := by
  -- A reference prints a path two levels below.
  induction depth using Nat.strongRecOn generalizing s inValue with
  | ind depth ih =>
    cases depth with
    | zero =>
      replace h : Quiet (outcome (part (requireCursor >>= fun _ => fail .tooDeep)) s) := h
      obtain ⟨_, _, _, -, -, h⟩ := quiet_read_bind (quiet_partOr h)
      exact absurd h not_quiet_fail
    | succ depth =>
      replace h : Quiet (outcome (pathFrom (parts depth) inValue) s) := h
      rw [pathFrom_eq] at h
      obtain ⟨c, _, _, hc, hsame, h⟩ := quiet_read_bind (quiet_partOr h)
      obtain ⟨-, rfl⟩ := Prod.mk.inj (Except.ok.inj hsame)
      obtain ⟨tag, c₁, htag, h⟩ := quiet_read_at rfl h
      unfold pathOf at h
      split at h
      · obtain ⟨c₂, hname⟩ := of_quiet_crateRoot rfl h
        exact ⟨c, c₂, hc, .crate htag hname⟩
      · obtain ⟨space, c₂, hspace, hquiet, hrest⟩ := of_quiet_nestedPath rfl h
        obtain ⟨_, c₃, hc', hinner⟩ := ih depth (Nat.lt_succ_self depth) hquiet
        obtain rfl := Except.ok.inj hc'
        obtain ⟨t, ht, hcursor, -⟩ := hinner.outcome_path inValue hc'
        obtain ⟨rfl, c₄, hname⟩ := hrest t c₃ ht hcursor
        exact ⟨c, c₄, hc, .nested htag hspace hinner hname⟩
      · exact absurd h not_quiet_implPath
      · exact absurd h not_quiet_implPath
      · exact absurd h not_quiet_implPath
      · exact absurd h not_quiet_genericPath
      · cases depth with
        | zero =>
          replace h : Quiet (outcome (atReference () none) _) := h
          obtain ⟨_, _, _, -, -, h⟩ := quiet_read_bind (quiet_partOr h)
          exact absurd h not_quiet_fail
        | succ depth =>
          replace h : Quiet (outcome (atReference () (some ((parts depth).path inValue))) _) := h
          obtain ⟨target, c₂, hreference, h⟩ := of_quiet_atReference rfl h
          obtain ⟨_, c₃, hc', hinner⟩ := ih depth (by omega) h
          obtain rfl := Except.ok.inj hc'
          exact ⟨c, c₂, hc, .reference htag hreference hinner⟩
      · exact absurd h not_quiet_fail

/-! ### Back references -/

/-- Between these places stands a path of empty names only, with so many levels below it. -/
inductive Nameless : Nat → Cursor → Cursor → Prop
  | crate {depth : Nat} {c₀ c₁ c₂ : Cursor} (htag : next c₀ = .ok ('C', c₁)) (hname : Unnamed c₁ c₂) :
      Nameless (depth + 1) c₀ c₂
  | nested {depth : Nat} {c₀ c₁ c₂ c₃ c₄ : Cursor} (htag : next c₀ = .ok ('N', c₁))
      (hspace : namespaceLetter c₁ = .ok (none, c₂)) (hinner : Nameless depth c₂ c₃) (hname : Unnamed c₃ c₄) :
      Nameless (depth + 1) c₀ c₄

theorem Nameless.blank {depth : Nat} {c c' : Cursor} (h : Nameless depth c c') : Blank depth c c' := by
  induction h with
  | crate htag hname => exact .crate htag hname
  | nested htag hspace _ hname ih => exact .nested htag hspace ih hname

section

variable {symbol : List Char} {k p : Nat}

theorem of_next_eq_ok {x : Char} {c : Cursor} (h : next ((Cursor.start symbol).moveTo p) = .ok (x, c)) :
    symbol[p]? = some x ∧ c = (Cursor.start symbol).moveTo (p + 1) := by
  unfold next at h
  split at h
  · simp at h
  next y rest hrest =>
    replace hrest : symbol.drop p = y :: rest := hrest
    obtain ⟨rfl, rfl⟩ := Prod.mk.inj (Except.ok.inj h)
    constructor
    · rw [← List.head?_drop, hrest, List.head?_cons]
    · simp [Cursor.skip, Cursor.moveTo, Cursor.start, List.drop_drop]

theorem of_namespaceLetter_eq_none {c : Cursor}
    (h : namespaceLetter ((Cursor.start symbol).moveTo p) = .ok (none, c)) :
    (∃ x, symbol[p]? = some x ∧ 'a' ≤ x) ∧ c = (Cursor.start symbol).moveTo (p + 1) := by
  unfold namespaceLetter at h
  rcases hnext : next ((Cursor.start symbol).moveTo p) with fault | ⟨x, c'⟩
  · rw [hnext] at h
    simp [bind, Except.bind] at h
  · obtain ⟨hx, hc'⟩ := of_next_eq_ok hnext
    rw [hnext] at h
    simp only [bind, Except.bind] at h
    split at h
    · simp [pure, Except.pure] at h
    · split at h
      next hlower =>
        rw [Bool.and_eq_true, decide_eq_true_eq, decide_eq_true_eq] at hlower
        obtain ⟨-, rfl⟩ := Prod.mk.inj (Except.ok.inj h)
        exact ⟨⟨x, hx, hlower.1⟩, hc'⟩
      · simp at h

theorem of_backReference_eq_ok {target after : Cursor}
    (h : backReference ((Cursor.start symbol).moveTo (p + 1)) = .ok (target, after)) :
    ∃ q < p, target = (Cursor.start symbol).moveTo q := by
  unfold backReference at h
  rcases hnumber : number62 ((Cursor.start symbol).moveTo (p + 1)) with fault | ⟨n, after'⟩
  · rw [hnumber] at h
    simp [bind, Except.bind] at h
  · rw [hnumber] at h
    simp only [bind, Except.bind] at h
    split at h
    next hn =>
      obtain ⟨rfl, -⟩ := Prod.mk.inj (Except.ok.inj h)
      exact ⟨n, Nat.lt_of_succ_lt_succ hn, rfl⟩
    · simp at h

/-- The symbol starts with so many nested paths, each inside the one before it. -/
def StartsNested (symbol : List Char) (k : Nat) : Prop :=
  ∀ i < k, symbol[2 * i]? = some 'N' ∧ ∃ x, symbol[2 * i + 1]? = some x ∧ 'a' ≤ x

theorem StartsNested.getElem?_eq_some {x : Char} (h : StartsNested symbol k) (hp : p < 2 * k)
    (hx : symbol[p]? = some x) :
    (p + 2 ≤ 2 * k ∧ x = 'N') ∨ 'a' ≤ x := by
  obtain ⟨htag, y, hy, hlower⟩ := h (p / 2) (by omega)
  rcases Nat.mod_two_eq_zero_or_one p with heven | hodd
  · rw [show 2 * (p / 2) = p by omega, hx] at htag
    exact .inl ⟨by omega, Option.some.inj htag⟩
  · rw [show 2 * (p / 2) + 1 = p by omega, hx] at hy
    exact .inr (Option.some.inj hy ▸ hlower)

/-- A reference back into the paths around it leads to itself again. -/
theorem not_blank_of_reference (hnested : StartsNested symbol k) (hreference : symbol[2 * k]? = some 'B')
    (hp : p ≤ 2 * k) {depth : Nat} {c : Cursor} : ¬ Blank depth ((Cursor.start symbol).moveTo p) c := by
  intro h
  generalize hc : (Cursor.start symbol).moveTo p = c₀ at h
  have hplace {q : Nat} {x : Char} (hq : q ≤ 2 * k) (hx : symbol[q]? = some x) :
      (q = 2 * k ∧ x = 'B') ∨ (q + 2 ≤ 2 * k ∧ x = 'N') ∨ 'a' ≤ x := by
    rcases Nat.lt_or_eq_of_le hq with hlt | rfl
    · exact .inr (hnested.getElem?_eq_some hlt hx)
    · exact .inl ⟨rfl, Option.some.inj (hx.symm.trans hreference)⟩
  induction h generalizing p with
  | crate htag _ =>
    subst hc
    rcases hplace hp (of_next_eq_ok htag).1 with ⟨-, h⟩ | ⟨-, h⟩ | hlower
    · simp at h
    · simp at h
    · exact absurd hlower (by decide)
  | nested htag hspace _ _ ih =>
    subst hc
    obtain ⟨hx, rfl⟩ := of_next_eq_ok htag
    obtain ⟨-, rfl⟩ := of_namespaceLetter_eq_none hspace
    rcases hplace hp hx with ⟨-, h⟩ | ⟨hinner, -⟩ | hlower
    · simp at h
    · exact ih hinner rfl
    · exact absurd hlower (by decide)
  | reference htag hback _ ih =>
    subst hc
    obtain ⟨-, rfl⟩ := of_next_eq_ok htag
    obtain ⟨q, hq, rfl⟩ := of_backReference_eq_ok hback
    exact ih (by omega) rfl

/-- No reference is left in a path that is shown as nothing from the start of the symbol on. -/
theorem Blank.nameless (hnested : StartsNested symbol k) {depth : Nat} {c : Cursor}
    (h : Blank depth ((Cursor.start symbol).moveTo (2 * k)) c) :
    Nameless depth ((Cursor.start symbol).moveTo (2 * k)) c := by
  generalize hc : (Cursor.start symbol).moveTo (2 * k) = c₀ at h
  induction h generalizing k with
  | crate htag hname => exact .crate htag hname
  | nested htag hspace _ hname ih =>
    subst hc
    obtain ⟨hx, rfl⟩ := of_next_eq_ok htag
    obtain ⟨hlower, rfl⟩ := of_namespaceLetter_eq_none hspace
    refine .nested htag hspace (ih (k := k + 1) ?_ rfl) hname
    intro i hi
    rcases Nat.lt_succ_iff_lt_or_eq.1 hi with hi | rfl
    · exact hnested i hi
    · exact ⟨hx, hlower⟩
  | reference htag hback hinner _ =>
    subst hc
    obtain ⟨hx, rfl⟩ := of_next_eq_ok htag
    obtain ⟨q, hq, rfl⟩ := of_backReference_eq_ok hback
    exact absurd hinner (not_blank_of_reference hnested hx (Nat.le_of_lt hq))

end

/-! ### Symbols -/

theorem skipPath_of_blank {c c' : Cursor} (h : Blank maxDepth c c') : skipPath c = .ok c' := by
  obtain ⟨t, ht, hcursor, -⟩ := h.outcome_path false (s := ⟨.ok c, none, 0⟩) rfl
  show (outcome ((parts maxDepth).path false) ⟨.ok c, none, 0⟩).2.cursor = _
  rw [ht]
  exact hcursor

/-- The state in which the readable path is printed. -/
def renderState (body : List Char) : State := ⟨.ok (Cursor.start body), some .empty, 0⟩

theorem render_eq (body : List Char) :
    render body = match outcome ((parts maxDepth).path true) (renderState body) with
      | (.ok _, s) => (s.output.getD .empty).text
      | (.error _, s) => (s.output.getD .empty).text ++ limitNote := by
  unfold render
  rcases hrun : outcome ((parts maxDepth).path true) (renderState body) with ⟨e | a, t⟩
  all_goals
    unfold outcome renderState at hrun
    rw [hrun]

theorem quiet_of_render_eq_empty {body : List Char} (h : render body = "") :
    Quiet (outcome ((parts maxDepth).path true) (renderState body)) := by
  have hgoes : GoesOn (some .empty) _ := Appends.goesOn (p := (parts maxDepth).path true) (renderState body)
  rw [render_eq] at h
  rcases hrun : outcome ((parts maxDepth).path true) (renderState body) with ⟨e | a, t⟩ <;> rw [hrun] at h hgoes
  · rw [String.append_eq_empty_iff] at h
    exact absurd h.2 limitNote_ne_empty
  · obtain ⟨o, ho⟩ : ∃ o, t.output = some o := hgoes.exists_eq_some
    dsimp only at h
    rw [ho] at h
    exact ⟨nofun, o, ho, h⟩

theorem render_eq_empty_iff {body : List Char} : render body = "" ↔ ∃ c, Nameless maxDepth (Cursor.start body) c := by
  constructor
  · intro h
    obtain ⟨_, c, hc, hblank⟩ := blank_of_quiet (quiet_of_render_eq_empty h)
    obtain rfl := Except.ok.inj hc
    exact ⟨c, @Blank.nameless body 0 nofun _ _ hblank⟩
  · rintro ⟨c, hc⟩
    obtain ⟨t, ht, -, houtput⟩ := hc.blank.outcome_path true (s := renderState body) rfl
    obtain ⟨o, ho, htext⟩ := Option.map_eq_some_iff.1 houtput
    rw [render_eq, ht]
    dsimp only
    rw [ho]
    exact htext

/-- A body whose path has empty names only. The path of the crate that asked for it may follow. -/
def IsNameless (body : List Char) : Prop :=
  (∀ c ∈ body, c.toNat < 0x80) ∧ ∃ c, Nameless maxDepth (Cursor.start body) c ∧
    (c.rest = [] ∨ startsPath c.rest = true ∧ ∃ c', skipPath c = .ok c' ∧ c'.rest = [])

theorem startsPath_of_next {body : List Char} {x : Char} {c : Cursor} (h : next (Cursor.start body) = .ok (x, c))
    (hx : 'A' ≤ x ∧ x ≤ 'Z') : startsPath body = true := by
  obtain ⟨hbody, -⟩ := @of_next_eq_ok body 0 _ _ h
  rw [← List.head?_eq_getElem?] at hbody
  simp [startsPath, hbody, hx]

theorem Nameless.startsPath {depth : Nat} {body : List Char} {c : Cursor} (h : Nameless depth (Cursor.start body) c) :
    startsPath body = true := by
  cases h with
  | crate htag _ => exact startsPath_of_next htag (by decide)
  | nested htag _ _ _ => exact startsPath_of_next htag (by decide)

theorem demangle?_eq_some_iff {s rest : List Char} {text : String} :
    demangle? s = some (text, rest) ↔
      ∃ body c, body? s = some body ∧ startsPath body = true ∧ (∀ c ∈ body, c.toNat < 0x80) ∧ skipPaths body = .ok c ∧
        render body = text ∧ c.rest = rest := by
  unfold demangle?
  rw [Option.bind_eq_bind, Option.bind_eq_some_iff]
  refine exists_congr fun body => ?_
  rw [Option.ite_none_left_eq_some, Bool.or_eq_true, not_or]
  rcases skipPaths body with fault | c
  · simp
  · simp [and_assoc]

theorem skipPaths_eq_ok_iff {body : List Char} {c : Cursor} :
    skipPaths body = .ok c ↔
      ∃ c₁, skipPath (Cursor.start body) = .ok c₁ ∧
        (if startsPath c₁.rest = true then skipPath c₁ else .ok c₁) = .ok c := by
  unfold skipPaths
  rcases skipPath (Cursor.start body) with fault | c₁
  · simp [bind, Except.bind]
  · simp [bind, Except.bind, pure, Except.pure]

/-- A symbol is read to its end and shown as nothing exactly if its path has empty names only. -/
theorem demangle?_eq_empty_iff {s : List Char} :
    demangle? s = some ("", []) ↔ ∃ body, body? s = some body ∧ IsNameless body := by
  rw [demangle?_eq_some_iff]
  refine exists_congr fun body => ?_
  constructor
  · rintro ⟨c, hbody, -, hascii, hskip, hrender, hrest⟩
    obtain ⟨c₁, hc₁⟩ := render_eq_empty_iff.1 hrender
    obtain ⟨_, hfirst, hsecond⟩ := skipPaths_eq_ok_iff.1 hskip
    obtain rfl := Except.ok.inj ((skipPath_of_blank hc₁.blank).symm.trans hfirst)
    refine ⟨hbody, hascii, c₁, hc₁, ?_⟩
    split at hsecond
    next hstarts => exact .inr ⟨hstarts, c, hsecond, hrest⟩
    next => exact .inl (Except.ok.inj hsecond ▸ hrest)
  · rintro ⟨hbody, hascii, c₁, hc₁, hrest⟩
    have hrender := render_eq_empty_iff.2 ⟨c₁, hc₁⟩
    have hfirst := skipPath_of_blank hc₁.blank
    rcases hrest with hrest | ⟨hstarts, c, hsecond, hrest⟩
    · have hstarts : ¬ startsPath c₁.rest = true := by simp [startsPath, hrest]
      exact ⟨c₁, hbody, hc₁.startsPath, hascii, skipPaths_eq_ok_iff.2 ⟨c₁, hfirst, if_neg hstarts⟩, hrender, hrest⟩
    · exact ⟨c, hbody, hc₁.startsPath, hascii, skipPaths_eq_ok_iff.2 ⟨c₁, hfirst, by rw [if_pos hstarts, hsecond]⟩,
        hrender, hrest⟩

end FirmwareSymbols.Demangle.V0
