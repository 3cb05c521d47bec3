import FirmwareSymbols.Proofs.Demangle.V0.Growth
import Mathlib.Order.Basic

/-!
# Runs that write nothing

What is written stays, so a run writes nothing exactly if none of its steps does (`quiet_bind`). A fault is noted, so
all is read where nothing is written (`quiet_read`), and each element of a path leaves a trace, except for names that are
empty (`Ident.join_pieces_eq_empty_iff`, `of_quiet_writeNested`): implementations and generic arguments write brackets
(`not_quiet_implPath`, `not_quiet_genericPath`), and a reference writes what its target does (`of_quiet_atReference`).
-/

namespace FirmwareSymbols.Demangle.V0

-- The search counts an instance twice for each printer that runs before it.
set_option synthInstance.maxSize 8192

variable {α β : Type}

/-! ### Names -/

theorem ne_nil_of_insertAll {bias code next : Nat} {first : Bool} {text digits r : List Char}
    (h : Text.Punycode.insertAll bias code next first text digits = some r) : r ≠ [] := by
  induction bias, code, next, first, text, digits using Text.Punycode.insertAll.induct with
  | case1 bias code next first text digits hdelta =>
    rw [Text.Punycode.insertAll.eq_def] at h
    split at h
    · simp at h
    next h' => simp [hdelta] at h'
  | case2 bias code next first text digits delta rest hdelta size ih =>
    rw [Text.Punycode.insertAll.eq_def] at h
    split at h
    · simp at h
    next delta' rest' h' =>
      obtain ⟨rfl, rfl⟩ := Prod.mk.inj (Option.some.inj (hdelta.symm.trans h'))
      simp only [Option.bind_eq_bind, Option.bind_eq_some_iff, Option.ite_none_left_eq_some] at h
      obtain ⟨sum, -, code', -, c, -, -, h⟩ := h
      split at h
      · obtain rfl := Option.some.inj h
        have hindex : sum % (text.length + 1) ≤ text.length := Nat.le_of_lt_succ (Nat.mod_lt sum (Nat.succ_pos _))
        rw [← List.length_pos_iff, List.length_insertIdx_of_le_length hindex]
        exact Nat.succ_pos _
      · exact ih sum code' c h

/-- A name is shown as nothing exactly if it is empty. -/
theorem Ident.join_pieces_eq_empty_iff {i : Ident} : String.join i.pieces = "" ↔ i.isEmpty = true := by
  unfold pieces isEmpty
  split
  next hdigits => simp [hdigits]
  next hdigits =>
    refine iff_of_false ?_ (by simp [hdigits])
    split
    next text htext =>
      have hne : text ≠ [] := by
        unfold Text.Punycode.decode? at htext
        split at htext
        · simp at htext
        · exact ne_nil_of_insertAll htext
      obtain ⟨c, rest, rfl⟩ := List.exists_cons_of_ne_nil hne
      intro h
      rw [List.map_cons, String.join_cons, String.append_eq_empty_iff] at h
      exact absurd h.1 (by simp [Char.toString])
    next =>
      intro h
      rw [String.join_cons, String.append_eq_empty_iff] at h
      exact absurd h.1 (by decide)

/-! ### Steps -/

variable {p : Printer α} {f : α → Printer β} {s : State}

theorem outcome_part {p : Printer Unit} {t : State} (h : outcome p s = (.ok (), t)) :
    outcome (part p) s = (.ok (), t) := by
  rw [part, outcome_partOr, h]

theorem outcome_read {reader : Reader α} {c c' : Cursor} {a : α} (hc : s.cursor = .ok c)
    (hread : reader c = .ok (a, c')) :
    outcome (read reader) s = (.ok a, { s with cursor := .ok c' }) := by
  unfold read
  rw [outcome_bind, outcome_get]
  dsimp only
  rw [hc]
  dsimp only
  rw [hread]
  rfl

theorem outcome_read_bind {reader : Reader α} {c c' : Cursor} {a : α} (hc : s.cursor = .ok c)
    (hread : reader c = .ok (a, c')) :
    outcome (read reader >>= f) s = outcome (f a) { s with cursor := .ok c' } := by
  rw [outcome_bind, outcome_read hc hread]

theorem outcome_hasFailed_bind {f : Bool → Printer α} {c : Cursor} (hc : s.cursor = .ok c) :
    outcome (hasFailed >>= f) s = outcome (f false) s := by
  have h : outcome hasFailed s = (.ok false, s) := by
    rw [hasFailed, outcome_bind, outcome_get]
    dsimp only
    rw [hc]
    rfl
  rw [outcome_bind, h]

theorem outcome_isWriting_bind {f : Bool → Printer α} :
    outcome (isWriting >>= f) s = outcome (f s.output.isSome) s := by
  rw [outcome_bind]
  rfl

theorem outcome_atReference_off {default : α} {target after c : Cursor} (hc : s.cursor = .ok c)
    (hreference : backReference c = .ok (target, after)) (hoff : s.output = none) :
    outcome (atReference default (some p)) s = (.ok default, { s with cursor := .ok after }) := by
  rw [atReference, outcome_partOr, outcome_read_bind hc hreference, outcome_isWriting_bind, hoff]
  rfl

theorem outcome_atReference_on {default a : α} {target after c : Cursor} {t : State} (hc : s.cursor = .ok c)
    (hreference : backReference c = .ok (target, after)) (hon : s.output.isSome = true)
    (h : outcome p { s with cursor := .ok target } = (.ok a, t)) :
    outcome (atReference default (some p)) s = (.ok a, { t with cursor := .ok after }) := by
  rw [atReference, outcome_partOr, outcome_read_bind hc hreference, outcome_isWriting_bind, hon]
  simp only [if_true, outcome_bind, outcome_get, outcome_modify]
  rw [h]
  rfl

/-- Nothing to write always fits. -/
theorem outcome_write_empty (s : State) :
    ∃ output, outcome (write "") s = (.ok (), { s with output := output }) ∧
      output.map Output.text = s.output.map Output.text := by
  rcases s with ⟨cursor, _ | o, binders⟩
  · exact ⟨none, rfl, rfl⟩
  · have hwrite : o.write? "" = some ⟨"" :: o.pieces, o.room - 0⟩ := if_pos (Nat.zero_le _)
    refine ⟨_, by rw [outcome_write]; dsimp only; rw [hwrite], ?_⟩
    rw [Option.map_some, Option.map_some, Output.text_of_write? hwrite, String.append_empty]

theorem outcome_writeIdent {i : Ident} (hi : i.isEmpty = true) (s : State) :
    ∃ output, outcome (writeIdent i) s = (.ok (), { s with output := output }) ∧
      output.map Output.text = s.output.map Output.text := by
  obtain ⟨output, hwrite, houtput⟩ := outcome_write_empty s
  have hpieces : i.pieces = [""] := by
    rw [Ident.isEmpty, Bool.and_eq_true, List.isEmpty_iff, List.isEmpty_iff] at hi
    rw [Ident.pieces, hi.1, hi.2]
    rfl
  refine ⟨output, ?_, houtput⟩
  rw [writeIdent, hpieces]
  change outcome (write "" >>= fun _ => pure ()) s = _
  rw [outcome_bind, hwrite]
  rfl

/-! ### Runs that write nothing -/

/-- Everything fits, and nothing has been written. -/
def Quiet (r : Except Exit α × State) : Prop := r.1 ≠ .error .full ∧ ∃ o, r.2.output = some o ∧ o.text = ""

/-- Where nothing is written, nothing is written at first, and nothing after that. -/
theorem quiet_bind [Appends p] [∀ a, Appends (f a)] (h : Quiet (outcome (p >>= f) s)) :
    Quiet (outcome p s) ∧ ∀ a t, outcome p s = (.ok a, t) → Quiet (outcome (f a) t) := by
  rw [outcome_bind] at h
  rcases hp : outcome p s with ⟨e | a, t⟩ <;> rw [hp] at h
  · exact ⟨⟨fun he => h.1 (congrArg Except.error (Except.error.inj he)), h.2⟩, by simp⟩
  · obtain ⟨o', ho', htext⟩ := h.2
    exact ⟨⟨nofun, (Appends.goesOn t).text_eq_empty ho' htext⟩, by rintro _ _ ⟨⟩; exact h⟩

theorem not_quiet_write {piece : String} (hne : piece ≠ "") : ¬ Quiet (outcome (write piece) s) := by
  intro ⟨hfull, o, ho, htext⟩
  rw [outcome_write] at hfull ho
  split at hfull
  next hoff => simp [hoff] at ho
  next o' ho' =>
    split at hfull
    next o'' hwrite =>
      rw [ho'] at ho
      simp only [hwrite, Option.some.injEq] at ho
      rw [← ho, Output.text_of_write? hwrite, String.append_eq_empty_iff] at htext
      exact hne htext.2
    next => exact hfull rfl

theorem not_quiet_write_bind {piece : String} {f : Unit → Printer α} [∀ a, Appends (f a)] (hne : piece ≠ "") :
    ¬ Quiet (outcome (write piece >>= f) s) :=
  fun h => not_quiet_write hne (quiet_bind h).1

theorem not_quiet_fail {fault : Fault} : ¬ Quiet (outcome (fail fault : Printer α) s) :=
  not_quiet_write_bind (by cases fault <;> decide)

theorem quiet_partOr {default : α} (h : Quiet (outcome (partOr default p) s)) : Quiet (outcome p s) := by
  rw [outcome_partOr] at h
  rcases hrun : outcome p s with ⟨(_ | _) | a, t⟩ <;> rw [hrun] at h
  · exact ⟨nofun, h.2⟩
  · exact h
  · exact h

/-- What cannot be read is noted. -/
theorem quiet_read {reader : Reader α} (h : Quiet (outcome (read reader) s)) :
    ∃ c a c', s.cursor = .ok c ∧ reader c = .ok (a, c') := by
  unfold read at h
  rw [outcome_bind, outcome_get] at h
  dsimp only at h
  rcases hc : s.cursor with fault | c <;> rw [hc] at h
  · exact absurd h (not_quiet_write_bind (by decide))
  · dsimp only at h
    rcases hread : reader c with fault | ⟨a, c'⟩ <;> rw [hread] at h
    · exact absurd h not_quiet_fail
    · exact ⟨c, a, c', rfl, hread⟩

theorem quiet_read_bind {reader : Reader α} [∀ a, Appends (f a)] (h : Quiet (outcome (read reader >>= f) s)) :
    ∃ c a c', s.cursor = .ok c ∧ reader c = .ok (a, c') ∧ Quiet (outcome (f a) { s with cursor := .ok c' }) := by
  obtain ⟨c, a, c', hc, hread⟩ := quiet_read (quiet_bind h).1
  exact ⟨c, a, c', hc, hread, (quiet_bind h).2 _ _ (outcome_read hc hread)⟩

theorem quiet_read_at {reader : Reader α} [∀ a, Appends (f a)] {c : Cursor} (hc : s.cursor = .ok c)
    (h : Quiet (outcome (read reader >>= f) s)) :
    ∃ a c', reader c = .ok (a, c') ∧ Quiet (outcome (f a) { s with cursor := .ok c' }) := by
  obtain ⟨c₀, a, c', hc₀, hread, h⟩ := quiet_read_bind h
  obtain rfl := Except.ok.inj (hc.symm.trans hc₀)
  exact ⟨a, c', hread, h⟩

theorem join_eq_empty_of_quiet {pieces : List String} (h : Quiet (outcome (pieces.forM write) s)) :
    String.join pieces = "" := by
  induction pieces generalizing s with
  | nil => rfl
  | cons piece pieces ih =>
    change Quiet (outcome (write piece >>= fun _ => pieces.forM write) s) at h
    obtain rfl : piece = "" := by
      by_contra hne
      exact not_quiet_write_bind hne h
    obtain ⟨output, hwrite, -⟩ := outcome_write_empty s
    rw [String.join_cons, String.empty_append]
    exact ih ((quiet_bind h).2 _ _ hwrite)

theorem isEmpty_of_quiet {i : Ident} (h : Quiet (outcome (writeIdent i) s)) : i.isEmpty = true :=
  Ident.join_pieces_eq_empty_iff.1 (join_eq_empty_of_quiet h)

/-- A part that writes nothing ends normally. -/
theorem quiet_part_bind [Appends p] [IsPart p] [∀ a, Appends (f a)] (h : Quiet (outcome (p >>= f) s)) :
    Quiet (outcome p s) ∧ ∃ a t, outcome p s = (.ok a, t) ∧ Quiet (outcome (f a) t) := by
  obtain ⟨hp, hf⟩ := quiet_bind h
  refine ⟨hp, ?_⟩
  have hfull := hp.1
  have hunread := IsPart.not_unread (p := p) s
  rcases hrun : outcome p s with ⟨(_ | _) | a, t⟩ <;> rw [hrun] at hfull hunread
  · exact absurd rfl hunread
  · exact absurd rfl hfull
  · exact ⟨a, t, rfl, hf a t hrun⟩

/-! ### Elements of paths -/

theorem of_quiet_writeNested {space : Option Char} {dis : Nat} {name : Ident}
    (h : Quiet (outcome (writeNested space dis name) s)) : space = none ∧ name.isEmpty = true := by
  unfold writeNested at h
  cases space with
  | some c => exact absurd h (not_quiet_write_bind (by decide))
  | none =>
    refine ⟨rfl, ?_⟩
    by_contra hname
    dsimp only at h
    rw [if_pos (by simpa using hname)] at h
    exact not_quiet_write_bind (by decide) h

theorem not_quiet_implPath {inner : Parts} [inner.Appends] {hasBlock hasTrait : Bool} :
    ¬ Quiet (outcome (implPath inner hasBlock hasTrait) s) := by
  unfold implPath
  intro h
  cases hasBlock with
  | false => exact not_quiet_write_bind (by decide) h
  | true =>
    dsimp only at h
    rw [if_pos rfl] at h
    obtain ⟨c, dis, c', -, -, h⟩ := quiet_read_bind h
    obtain ⟨t, ht⟩ := outcome_silently (inner.path false) { s with cursor := .ok c' }
    exact not_quiet_write_bind (by decide) ((quiet_bind h).2 _ _ ht)

theorem not_quiet_genericPath {inner : Parts} [inner.Appends] {inValue : Bool} :
    ¬ Quiet (outcome (genericPath inner inValue) s) := by
  unfold genericPath
  intro h
  obtain ⟨-, -, t, -, h⟩ := quiet_part_bind h
  cases inValue with
  | false => exact not_quiet_write_bind (by decide) h
  | true => exact not_quiet_write_bind (by decide) h

theorem of_quiet_atReference [Appends p] {default : α} {c : Cursor} (hc : s.cursor = .ok c)
    (h : Quiet (outcome (atReference default (some p)) s)) :
    ∃ target after, backReference c = .ok (target, after) ∧ Quiet (outcome p { s with cursor := .ok target }) := by
  have hon : s.output.isSome = true := by
    obtain ⟨o', ho', htext⟩ := h.2
    obtain ⟨o, ho, -⟩ := (Appends.goesOn s).text_eq_empty ho' htext
    rw [ho, Option.isSome_some]
  obtain ⟨target, after, hreference, h⟩ := quiet_read_at hc (quiet_partOr h)
  refine ⟨target, after, hreference, ?_⟩
  dsimp only at h
  rw [outcome_isWriting_bind, if_pos hon] at h
  exact (quiet_bind ((quiet_bind ((quiet_bind h).2 _ _ rfl)).2 _ _ rfl)).1

end FirmwareSymbols.Demangle.V0
