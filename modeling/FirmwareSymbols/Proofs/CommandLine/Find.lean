import FirmwareSymbols.Proofs.AllowList
import FirmwareSymbols.Proofs.CommandLine.Spelling
import FirmwareSymbols.Proofs.FileSystem.Write
import FirmwareSymbols.Proofs.Resolution

/-!
# Calls that look for addresses

Such a call reads a list of names and a binary, and writes the table of the addresses that it found. It writes nothing
unless both were read (`run_of_unread`), and then it writes the table whether or not there are names without an
address (`run_of_written`); these only show in the exit status. If the table cannot be written nothing has changed
(`run_of_not_written`).
-/

namespace FirmwareSymbols.CommandLine

namespace FindRequest

variable {fs : FileSystem} {r : FindRequest} {required : SymbolSet} {rows : List Symbol}

/-- Without the names or the rows there is nothing to write. -/
theorem run_of_unread (h : ∀ required rows, ¬ fs.InputsRead r.symbols r.binary required rows) :
    ∃ log e, r.run fs = .ofError fs log e := by
  unfold run
  cases hlist : fs.readSymbolList r.symbols with
  | error e => exact ⟨_, e, rfl⟩
  | ok required =>
    cases hbinary : fs.readSymbols r.binary with
    | error e =>
      have hresolve : fs.resolve required r.binary = pure (.error e) := by rw [FileSystem.resolve, hbinary]
      simp only [hresolve, Logged.result_bind, Logged.result_pure]
      exact ⟨_, e, rfl⟩
    | ok rows => exact absurd (FileSystem.inputsRead_iff.2 ⟨hlist, hbinary⟩) (h required rows)

private theorem result_resolve {binary : Path} (h : fs.readSymbols binary = .ok rows) :
    (fs.resolve required binary).result = .ok (resolveSymbols required rows).result := by
  rw [FileSystem.resolve, h]
  rfl

/-- If the table cannot be written, nothing has changed. -/
theorem run_of_not_written (h : fs.InputsRead r.symbols r.binary required rows) {e : ToolError}
    (hwrite : (fs.writeAddressTable r.out (resolveSymbols required rows).result.table r.padding).1 = .error e) :
    ∃ log, r.run fs = .ofError fs log e := by
  have hunwritten : fs.writeAddressTable r.out (resolveSymbols required rows).result.table r.padding = (.error e, fs) :=
    FileSystem.writeAtomic_of_error hwrite
  obtain ⟨hlist, hbinary⟩ := FileSystem.inputsRead_iff.1 h
  unfold run
  simp only [hlist, Logged.result_bind, result_resolve hbinary, hunwritten]
  exact ⟨_, rfl⟩

/-- The written table is at the output, and the request passed if no name is left over. -/
theorem run_of_written (h : fs.InputsRead r.symbols r.binary required rows)
    (hwrite : (fs.writeAddressTable r.out (resolveSymbols required rows).result.table r.padding).1 = .ok ()) :
    let found := (resolveSymbols required rows).result
    ∃ l log, fs.Names r.out l ∧
      r.run fs = .ofLog (fs.set l (.file (found.table.renderPadded r.padding) false)) log found.isComplete := by
  intro found
  obtain ⟨l, hl, hwritten⟩ := FileSystem.exists_names_of_ok hwrite
  have htable : fs.writeAddressTable r.out found.table r.padding =
      (.ok (), fs.set l (.file (found.table.renderPadded r.padding) false)) := hwritten
  obtain ⟨hlist, hbinary⟩ := FileSystem.inputsRead_iff.1 h
  unfold run
  simp only [hlist, Logged.result_bind, result_resolve hbinary, htable, found]
  exact ⟨l, _, hl, rfl⟩

/-- The table has the required names that some row defines, each with the value of the first such row. -/
def IsTableOf (table : AddressTable) (required : SymbolSet) (rows : List Symbol) : Prop :=
  ∀ name, table.get? name = if name ∈ required then firstAddress? rows name else none

/-- Only one table is right, the one that the lookup finds. -/
theorem isTableOf_iff {table : AddressTable} :
    IsTableOf table required rows ↔ table = (resolveSymbols required rows).result.table := by
  constructor
  · intro h
    exact AddressTable.ext fun name => (h name).trans (resolveSymbols_get? required rows name).symm
  · rintro rfl
    exact resolveSymbols_get? required rows

/-- With both inputs at hand, it is for the lookup and the write to succeed. -/
private theorem exists_isTableOf_iff (hread : fs.InputsRead r.symbols r.binary required rows) :
    (∃ required rows table, fs.InputsRead r.symbols r.binary required rows ∧ IsTableOf table required rows ∧
      (∀ name ∈ required, ∃ s ∈ rows, s.Defines name) ∧ (fs.writeAddressTable r.out table r.padding).1 = .ok ()) ↔
    (resolveSymbols required rows).result.isComplete = true ∧
      (fs.writeAddressTable r.out (resolveSymbols required rows).result.table r.padding).1 = .ok () := by
  rw [isComplete_iff]
  constructor
  · rintro ⟨required', rows', table, hread', htable, hdefined, hwrite⟩
    obtain ⟨rfl, rfl⟩ := hread.unique hread'
    obtain rfl := isTableOf_iff.1 htable
    exact ⟨hdefined, hwrite⟩
  · rintro ⟨hdefined, hwrite⟩
    exact ⟨required, rows, _, hread, isTableOf_iff.2 rfl, hdefined, hwrite⟩

/-- The request passed if both inputs were read, each name has a definition and the table was written. -/
theorem code_run (fs : FileSystem) (r : FindRequest) :
    ((r.run fs).outcome.code = 0 ↔ ∃ required rows table,
      fs.InputsRead r.symbols r.binary required rows ∧ IsTableOf table required rows ∧
      (∀ name ∈ required, ∃ s ∈ rows, s.Defines name) ∧ (fs.writeAddressTable r.out table r.padding).1 = .ok ()) ∧
    ((r.run fs).outcome.code = 0 ∨ (r.run fs).outcome.code = 1) := by
  by_cases hread : ∃ required rows, fs.InputsRead r.symbols r.binary required rows
  · obtain ⟨required, rows, hread⟩ := hread
    rw [exists_isTableOf_iff hread]
    cases hwrite : (fs.writeAddressTable r.out (resolveSymbols required rows).result.table r.padding).1 with
    | error cause =>
      obtain ⟨log, hrun⟩ := run_of_not_written hread hwrite
      rw [hrun]
      simp [Report.ofError, Outcome.code]
    | ok _ =>
      obtain ⟨l, log, -, hrun⟩ := run_of_written hread hwrite
      rw [hrun]
      exact ⟨Outcome.code_ofBool_eq_zero_iff.trans (and_iff_left rfl).symm, Outcome.code_ofBool_eq_zero_or_one⟩
  · obtain ⟨log, cause, hrun⟩ := run_of_unread fun required rows h => hread ⟨required, rows, h⟩
    rw [hrun]
    refine ⟨⟨fun h => absurd h Nat.one_ne_zero, ?_⟩, .inr rfl⟩
    rintro ⟨required, rows, table, h, -⟩
    exact absurd ⟨required, rows, h⟩ hread

/-- Nothing is printed but records. -/
theorem stdout_run : (r.run fs).stdout = "" := by
  unfold run
  dsimp only
  repeat' split
  all_goals rfl

/-- A call that looks for addresses. If its list or its binary cannot be read it fails and changes nothing. If both
are read, it puts the table of the first definitions at the output, padded in the way that is asked for, and changes
nothing else; if that cannot be written it fails and changes nothing at all. It succeeds exactly if it wrote the table
and each required name has a definition. -/
theorem execute_find (e : Environment) (fs : FileSystem) (r : FindRequest) :
    (r.symbols.text ≠ "" → r.binary.text ≠ "" → r.out.text ≠ "" → Requests r.arguments (.find r)) ∧
    ∀ arguments, Requests arguments (.find r) →
      let done := execute e fs arguments
      let padding : Padding := if r.legacyPadding then .legacy else .aligned
      ((∀ required rows, ¬ fs.InputsRead r.symbols r.binary required rows) → done.code = 1 ∧ done.files = fs) ∧
      (∀ required rows, fs.InputsRead r.symbols r.binary required rows → ∃ table, IsTableOf table required rows ∧
        let written := (fs.writeAddressTable r.out table padding).1
        (written = .ok () →
          ∃ l, fs.Names r.out l ∧ fs.IsReplaced done.files l (table.renderPadded padding)) ∧
        ∀ cause, written = .error cause → done.code = 1 ∧ done.files = fs) ∧
      (done.code = 0 ↔ ∃ required rows table, fs.InputsRead r.symbols r.binary required rows ∧
        IsTableOf table required rows ∧ (∀ name ∈ required, ∃ s ∈ rows, s.Defines name) ∧
        (fs.writeAddressTable r.out table padding).1 = .ok ()) ∧
      (done.code = 0 ∨ done.code = 1) ∧ done.stdout = "" := by
  refine ⟨fun hsymbols hbinary hout => requests_arguments hsymbols hbinary hout, ?_⟩
  intro arguments hrequests done padding
  have hpadding : r.padding = padding := rfl
  have hcode : done.code = (r.run fs).outcome.code := hrequests.code_execute e fs
  have hstdout : done.stdout = (r.run fs).stdout := hrequests.stdout_execute e fs
  have hfiles : done.files = (r.run fs).files := hrequests.files_execute e fs
  obtain ⟨hpassed, hzero_or_one⟩ := code_run fs r
  rw [hcode, hstdout, hfiles, ← hpadding]
  refine ⟨?_, ?_, hpassed, hzero_or_one, stdout_run⟩
  · intro hunread
    obtain ⟨log, cause, hrun⟩ := run_of_unread hunread
    rw [hrun]
    exact ⟨rfl, rfl⟩
  · intro required rows hread
    refine ⟨_, isTableOf_iff.2 rfl, ?_, ?_⟩
    · intro hwrite
      obtain ⟨l, log, hl, hrun⟩ := run_of_written hread hwrite
      rw [hrun]
      exact ⟨l, hl, FileSystem.isReplaced_set hl.ne_nil fs _⟩
    · intro cause hwrite
      obtain ⟨log, hrun⟩ := run_of_not_written hread hwrite
      rw [hrun]
      exact ⟨rfl, rfl⟩

/-- A list of names beside a binary that defines `draw`. -/
def drawBoard (names : String) : FileSystem := .board "api.txt" names [AllowList.drawRow]

/-- The addresses of the names go to a new file. -/
def drawRequest (legacyPadding : Bool) : FindRequest :=
  ⟨⟨"api.txt"⟩, ⟨"main.elf"⟩, ⟨"table.yaml"⟩, legacyPadding⟩

private theorem inputsRead_drawBoard (names : String) :
    (drawBoard names).InputsRead ⟨"api.txt"⟩ ⟨"main.elf"⟩ (SymbolSet.ofLines names) [AllowList.drawRow.symbol] :=
  FileSystem.inputsRead_board (by decide) (by decide) (by decide) rfl (by decide)

private theorem isDestination_drawBoard (names : String) :
    (drawBoard names).IsDestination ⟨"table.yaml"⟩ ["table.yaml"] := by
  have hshort : (drawBoard "").isTemporaryTooLong ⟨"."⟩ = false := by decide
  exact FileSystem.isDestination_name (by decide) (by decide) rfl nofun (by decide) hshort ⟨rfl, rfl, rfl⟩

private theorem writeAddressTable_drawBoard (names : String) (table : AddressTable) (padding : Padding) :
    ((drawBoard names).writeAddressTable ⟨"table.yaml"⟩ table padding).1 = .ok () :=
  congrArg Prod.fst (FileSystem.writeAtomic_of_isDestination (isDestination_drawBoard names) _)

/-- The table that has the address of `draw` only. -/
def drawTable : AddressTable := .ofList [("draw", 0x8000)]

/-- It is right for each list that asks for the address. -/
private theorem isTableOf_draw {names : String} (h : "draw" ∈ SymbolSet.ofLines names) :
    IsTableOf drawTable (SymbolSet.ofLines names) [AllowList.drawRow.symbol] := by
  intro name
  show (AddressTable.empty.insert "draw" 0x8000).get? name = _
  rw [AddressTable.get?_insert, AllowList.symbol_drawRow]
  by_cases hname : name = "draw"
  · subst hname
    rw [if_pos rfl, if_pos h]
    rfl
  · rw [if_neg hname, AddressTable.get?_empty, eq_comm, ite_eq_right_iff]
    intro _
    simp [firstAddress?, Symbol.Defines, Ne.symm hname]

private theorem renderPadded_draw (legacyPadding : Bool) :
    drawTable.renderPadded (if legacyPadding then .legacy else .aligned) =
      (if legacyPadding then "Symbols:\n  - Name: draw\n    Addr: 0x8000\n\x00"
        else "Symbols:\n  - Name: draw\n    Addr: 0x8000\n\x00\x00\x00").toUTF8 := by
  cases legacyPadding <;> decide

theorem incomplete_table_written :
    let incomplete := execute .bare (drawBoard "draw\nfill\n") (drawRequest false).arguments
    let legacy := execute .bare (drawBoard "draw\nfill\n") (drawRequest true).arguments
    let complete := execute .bare (drawBoard "draw\n") (drawRequest false).arguments
    incomplete.code = 1 ∧ complete.code = 0 ∧
      incomplete.files.node? ["table.yaml"] =
        some (.file "Symbols:\n  - Name: draw\n    Addr: 0x8000\n\x00\x00\x00".toUTF8 false) ∧
      legacy.files.node? ["table.yaml"] =
        some (.file "Symbols:\n  - Name: draw\n    Addr: 0x8000\n\x00".toUTF8 false) ∧
      incomplete.files.node? ["api.txt"] = some (.file "draw\nfill\n".toUTF8 false) := by
  intro incomplete legacy complete
  have hcalls (names : String) (legacyPadding : Bool) :=
    (execute_find .bare (drawBoard names) (drawRequest legacyPadding)).2 _
      (requests_arguments (by simp [drawRequest]) (by simp [drawRequest]) (by simp [drawRequest]))
  -- in either way the table of `draw` is written
  have hreplaced (legacyPadding : Bool) : (drawBoard "draw\nfill\n").IsReplaced
      (execute .bare (drawBoard "draw\nfill\n") (drawRequest legacyPadding).arguments).files ["table.yaml"]
      (drawTable.renderPadded (if legacyPadding then .legacy else .aligned)) := by
    obtain ⟨-, hread, -⟩ := hcalls "draw\nfill\n" legacyPadding
    obtain ⟨table, htable, hwritten, -⟩ := hread _ _ (inputsRead_drawBoard "draw\nfill\n")
    obtain rfl : table = drawTable := (isTableOf_iff.1 htable).trans (isTableOf_iff.1 (isTableOf_draw (by decide))).symm
    obtain ⟨l, hl, hreplaced⟩ := hwritten (writeAddressTable_drawBoard _ _ _)
    obtain rfl := (isDestination_drawBoard _).names.unique hl
    exact hreplaced
  refine ⟨?_, ?_, ?_, ?_, (hreplaced false).others ["api.txt"] (by decide)⟩
  · obtain ⟨-, -, hpasses, hcode, -⟩ := hcalls "draw\nfill\n" false
    refine hcode.resolve_left fun hzero => ?_
    obtain ⟨required, rows, -, hread, -, hdefined, -⟩ := hpasses.1 hzero
    obtain ⟨rfl, rfl⟩ := (inputsRead_drawBoard _).unique hread
    obtain ⟨s, hs, hdefines, -⟩ := hdefined "fill" (by decide)
    rw [List.mem_singleton.1 hs, AllowList.symbol_drawRow] at hdefines
    exact absurd hdefines (by decide)
  · obtain ⟨-, -, hpasses, -⟩ := hcalls "draw\n" false
    refine hpasses.2 ⟨_, _, _, inputsRead_drawBoard "draw\n", isTableOf_draw (by decide), ?_,
      writeAddressTable_drawBoard _ _ _⟩
    intro name hname
    have hnames : (SymbolSet.ofLines "draw\n").names = ["draw"] := by decide
    rw [SymbolSet.mem_iff_mem_names, hnames, List.mem_singleton] at hname
    refine ⟨_, List.mem_singleton_self _, ?_⟩
    rw [AllowList.symbol_drawRow]
    exact ⟨hname.symm, by decide, by decide⟩
  · rw [(hreplaced false).file, renderPadded_draw]
    rfl
  · rw [(hreplaced true).file, renderPadded_draw]
    rfl

end FindRequest

end FirmwareSymbols.CommandLine
