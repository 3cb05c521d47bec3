import FirmwareSymbols.Proofs.Log
import FirmwareSymbols.Proofs.Resolution

/-!
# Lookups step by step

A lookup that visits all rows finds what one finds that stops when nothing is outstanding, and emits the same records
(`Lookup.visitUntilDone_eq_visitAll`): from then on a visit changes nothing. The records are those of the rows that
settle a name, the first definition of each outstanding name (`Lookup.log_visitAll`), and these rows are the entries of
the table (`Lookup.entries_visitAll_perm`).
-/

namespace FirmwareSymbols

namespace Symbol

/-- The record of the address that a row gives. -/
def addressRecord (s : Symbol) : Record := ⟨.debug, AddressTable.hexAddress s.value ++ "\t" ++ s.name⟩

/-- The row defines one of the names. -/
def settles (s : Symbol) (outstanding : SymbolSet) : Bool := s.isDefinition && outstanding.contains s.name

theorem settles_iff {s : Symbol} {outstanding : SymbolSet} :
    s.settles outstanding = true ↔ s.isDefinition = true ∧ s.name ∈ outstanding := by
  rw [settles, Bool.and_eq_true, SymbolSet.contains_eq_true]

end Symbol

/-- The rows that settle a name: of those that define an outstanding one, the first for each name. -/
def settlingRows (outstanding : SymbolSet) (rows : List Symbol) : List Symbol :=
  (rows.filter fun s => s.settles outstanding).eraseDupsBy fun s t => s.name == t.name

section

variable {outstanding : SymbolSet} {s : Symbol}

theorem settlingRows_cons_of_settles (h : s.settles outstanding = true) (rows : List Symbol) :
    settlingRows outstanding (s :: rows) = s :: settlingRows (outstanding.erase s.name) rows := by
  have hfilter : (rows.filter fun t => t.settles outstanding).filter (fun t => (t.name == s.name) = false) =
      rows.filter fun t => t.settles (outstanding.erase s.name) := by
    rw [List.filter_filter]
    refine List.filter_congr fun t _ => ?_
    rw [Bool.eq_iff_iff, Bool.and_eq_true, decide_eq_true_eq, beq_eq_false_iff_ne, Symbol.settles_iff,
      Symbol.settles_iff, SymbolSet.mem_erase]
    tauto
  rw [settlingRows, List.filter_cons, if_pos h, List.eraseDupsBy_cons, hfilter]
  rfl

theorem settlingRows_cons_of_not_settles (h : ¬ s.settles outstanding = true) (rows : List Symbol) :
    settlingRows outstanding (s :: rows) = settlingRows outstanding rows := by
  rw [settlingRows, List.filter_cons, if_neg h]
  rfl

end

namespace Lookup

variable {l : Lookup} {s : Symbol}

/-- Visits all rows, even if nothing is outstanding. -/
def visitAll (l : Lookup) (rows : List Symbol) : Logged Lookup := rows.foldlM visit l

theorem visitAll_cons (l : Lookup) (s : Symbol) (rows : List Symbol) :
    l.visitAll (s :: rows) = l.visit s >>= fun next => next.visitAll rows := rfl

theorem visitAll_append (l : Lookup) (rows more : List Symbol) :
    l.visitAll (rows ++ more) = l.visitAll rows >>= fun next => next.visitAll more := List.foldlM_append

/-! ### One visit -/

theorem visit_of_settles (h : s.settles l.outstanding = true) :
    l.visit s = ⟨⟨l.outstanding.erase s.name, l.table.insert s.name s.value⟩, [s.addressRecord]⟩ := by
  obtain ⟨hdefinition, hname⟩ := Symbol.settles_iff.1 h
  obtain ⟨rest, hrest⟩ := Option.ne_none_iff_exists'.1 (mt SymbolSet.erase?_eq_none_iff.1 (not_not.2 hname))
  rw [visit, if_pos hdefinition, SymbolSet.erase, hrest]
  rfl

theorem visit_of_not_settles (h : ¬ s.settles l.outstanding = true) : l.visit s = pure l := by
  unfold visit
  split
  next hdefinition =>
    have hname : s.name ∉ l.outstanding := fun hname => h (Symbol.settles_iff.2 ⟨hdefinition, hname⟩)
    rw [SymbolSet.erase?_eq_none_iff.2 hname]
  next => rfl

/-- A lookup that is done stays as it is. -/
theorem visit_of_isDone (h : l.isDone = true) (s : Symbol) : l.visit s = pure l :=
  visit_of_not_settles fun hs => SymbolSet.isEmpty_iff.1 h s.name (Symbol.settles_iff.1 hs).2

/-! ### All visits -/

theorem visitAll_of_isDone (h : l.isDone = true) (rows : List Symbol) : l.visitAll rows = pure l := by
  induction rows with
  | nil => rfl
  | cons s rows ih => rw [visitAll_cons, visit_of_isDone h, pure_bind, ih]

theorem visitUntilDone_eq_visitAll (l : Lookup) (rows : List Symbol) : l.visitUntilDone rows = l.visitAll rows := by
  induction rows generalizing l with
  | nil => rfl
  | cons s rows ih =>
    unfold visitUntilDone
    split
    next hdone => exact (visitAll_of_isDone hdone (s :: rows)).symm
    next => simp only [ih, visitAll_cons]

theorem log_visitAll (l : Lookup) (rows : List Symbol) :
    (l.visitAll rows).log = (settlingRows l.outstanding rows).map Symbol.addressRecord := by
  induction rows generalizing l with
  | nil => rfl
  | cons s rows ih =>
    rw [visitAll_cons, Logged.log_bind, ih]
    by_cases hs : s.settles l.outstanding = true
    · rw [visit_of_settles hs, settlingRows_cons_of_settles hs]
      rfl
    · rw [visit_of_not_settles hs, settlingRows_cons_of_not_settles hs]
      rfl

/-- The table grows by the addresses of the rows that settle a name, which has none before. -/
theorem entries_visitAll_perm (rows : List Symbol) (h : ∀ name ∈ l.outstanding, name ∉ l.table.names) :
    (l.visitAll rows).result.table.entries.Perm
      ((settlingRows l.outstanding rows).map (fun s => (s.name, s.value)) ++ l.table.entries) := by
  induction rows generalizing l with
  | nil => exact List.Perm.refl _
  | cons s rows ih =>
    rw [visitAll_cons, Logged.result_bind]
    by_cases hs : s.settles l.outstanding = true
    · have hnew : s.name ∉ l.table.names := h s.name (Symbol.settles_iff.1 hs).2
      rw [visit_of_settles hs, settlingRows_cons_of_settles hs]
      have hnext : ∀ name ∈ l.outstanding.erase s.name, name ∉ (l.table.insert s.name s.value).names := by
        intro name hname
        obtain ⟨hname, hne⟩ := SymbolSet.mem_erase.1 hname
        rw [AddressTable.mem_names_insert, not_or]
        exact ⟨hne, h name hname⟩
      refine (ih hnext).trans ?_
      rw [List.map_cons, List.cons_append]
      exact ((AddressTable.entries_insert_perm hnew).append_left _).trans List.perm_middle
    · rw [visit_of_not_settles hs, settlingRows_cons_of_not_settles hs]
      exact ih h

theorem settled_visitAll (targets : SymbolSet) (rows : List Symbol) :
    Settled targets rows ((start targets).visitAll rows).result := by
  rw [← visitUntilDone_eq_visitAll]
  exact (settled_start targets).visitUntilDone rows

/-- A required name is outstanding or has an address. -/
theorem Settled.mem_required_iff {required : SymbolSet} {rows : List Symbol} (h : Settled required rows l)
    {name : String} : name ∈ required ↔ name ∈ l.outstanding ∨ name ∈ l.table.names := by
  rw [h.mem_outstanding, AddressTable.mem_names_iff, h.get?_eq, ← Option.ne_none_iff_exists']
  by_cases hname : name ∈ required
  · simp [hname, em]
  · simp [hname]

theorem Settled.not_mem_names {required : SymbolSet} {rows : List Symbol} (h : Settled required rows l)
    {name : String} (hname : name ∈ l.outstanding) : name ∉ l.table.names := by
  obtain ⟨hrequired, hnone⟩ := (h.mem_outstanding name).1 hname
  rw [AddressTable.mem_names_iff, h.get?_eq, if_pos hrequired, hnone]
  simp

end Lookup

/-- After any visits each target is outstanding or has an address, and none is both, so that an address is only
recorded for a name that has none. A lookup that is done stays done: no visit changes it or emits anything. Visiting
all rows therefore gives the same resolution and the same records as stopping when nothing is outstanding: a record for
each entry of the table, in the order of the rows that settle the names. -/
theorem visitAll_agrees_with_resolveSymbols (targets : SymbolSet) (rows : List Symbol) :
    let run := (Lookup.start targets).visitAll rows
    let l := run.result
    (∀ name, name ∈ targets ↔ name ∈ l.outstanding ∨ name ∈ l.table.names) ∧
    (∀ name, ¬ (name ∈ l.outstanding ∧ name ∈ l.table.names)) ∧
    (∀ name address, (l.outstanding.erase? name).isSome = true → (l.table.insert? name address).isSome = true) ∧
    (l.isDone = true → (∀ s, l.visit s = pure l) ∧
      ∀ more, ((Lookup.start targets).visitAll (rows ++ more)).result.isDone = true) ∧
    Lookup.finish <$> run = resolveSymbols targets rows ∧
    run.log = (settlingRows targets rows).map Symbol.addressRecord ∧
    l.table.entries.Perm ((settlingRows targets rows).map fun s => (s.name, s.value)) := by
  intro run l
  have hsettled : Lookup.Settled targets rows l := Lookup.settled_visitAll targets rows
  refine ⟨fun name => hsettled.mem_required_iff, fun name h => hsettled.not_mem_names h.1 h.2, ?_, ?_, ?_,
    Lookup.log_visitAll _ rows, ?_⟩
  · intro name address houtstanding
    rw [Option.isSome_iff_ne_none, Ne, SymbolSet.erase?_eq_none_iff, not_not] at houtstanding
    rw [Option.isSome_iff_ne_none, Ne, AddressTable.insert?_eq_none_iff]
    exact hsettled.not_mem_names houtstanding
  · refine fun hdone => ⟨Lookup.visit_of_isDone hdone, fun more => ?_⟩
    rw [Lookup.visitAll_append, Logged.result_bind, Lookup.visitAll_of_isDone hdone, Logged.result_pure]
    exact hdone
  · rw [resolveSymbols, Lookup.visitUntilDone_eq_visitAll, map_eq_pure_bind]
  · have hempty : ∀ name ∈ (Lookup.start targets).outstanding, name ∉ (Lookup.start targets).table.names :=
      fun _ _ => List.not_mem_nil
    exact (Lookup.entries_visitAll_perm rows hempty).trans (List.append_nil _ ▸ List.Perm.refl _)

/-- A definition of `fill` among rows of `draw`: a reference, a local row, and two definitions. -/
def fillAndDrawRows : List Symbol :=
  [⟨"draw", .global, .noType, .undefined, .default, 0⟩, ⟨"fill", .global, .func, .index 1, .default, 0x500⟩,
    ⟨"draw", .local, .func, .index 1, .default, 0x40⟩, ⟨"draw", .weak, .func, .index 1, .default, 0x300⟩,
    ⟨"draw", .global, .func, .index 1, .default, 0x400⟩]

/-- When `fill` is found `draw` has no address yet. After all rows nothing is left to do; the rows that settled the names
are reported in their order. -/
theorem fill_and_draw_settled :
    let targets := SymbolSet.ofList ["draw", "fill"]
    let early := ((Lookup.start targets).visitAll (fillAndDrawRows.take 2)).result
    let run := (Lookup.start targets).visitAll fillAndDrawRows
    early.isDone = false ∧ (early.table.insert? "draw" 0x300).isSome = true ∧
      run.result.isDone = true ∧
      run.result.visit ⟨"draw", .global, .func, .index 2, .default, 0x600⟩ = pure run.result ∧
      ((Lookup.start targets).visitAll (fillAndDrawRows ++ fillAndDrawRows)).result.isDone = true ∧
      Lookup.finish <$> run = resolveSymbols targets fillAndDrawRows ∧
      run.log = [⟨.debug, "0x500\tfill"⟩, ⟨.debug, "0x300\tdraw"⟩] := by
  intro targets early run
  obtain ⟨-, -, hinsert, -⟩ := visitAll_agrees_with_resolveSymbols targets (fillAndDrawRows.take 2)
  obtain ⟨-, -, -, hdone, hsame, hlog, -⟩ := visitAll_agrees_with_resolveSymbols targets fillAndDrawRows
  have hall : run.result.isDone = true := by decide
  obtain ⟨hvisit, hmore⟩ := hdone hall
  exact ⟨by decide, hinsert "draw" 0x300 (by decide), hall, hvisit _, hmore fillAndDrawRows, hsame,
    hlog.trans (by decide)⟩

end FirmwareSymbols
