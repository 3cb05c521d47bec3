import FirmwareSymbols.Proofs.AllowList
import FirmwareSymbols.Proofs.CommandLine.Spelling
import FirmwareSymbols.Proofs.FileSystem.Discovery
import FirmwareSymbols.Proofs.FileSystem.Write

/-!
# Calls that dump the names that plugins may use

Such a call builds the allow-list and writes it to the outputs that are asked for, the JSON form before the text form,
or prints it, whether or not all inputs could be read (`run_of_written`). If a write fails it ends with what was written
before (`run_of_json_error`, `run_of_text_error`, `run_of_print_error`). The inputs that failed only show in the exit
status (`isComplete_build_iff`).
-/

namespace FirmwareSymbols

namespace AllowList

variable {fs : FileSystem} {config : AllowListConfig} {files dirs : List Path}

private theorem failuresOf_eq_nil_iff {dir : Path} : failuresOf fs config dir = [] ↔
    ∃ d, (fs.discoverObjects dir config.extensions).result = .ok d ∧ d.failures = [] := by
  unfold failuresOf
  cases (fs.discoverObjects dir config.extensions).result <;> simp

private theorem readFailure?_eq_none_iff {path : Path} :
    fs.readFailure? path = none ↔ ∃ rows, fs.readSymbols path = .ok rows := by
  unfold FileSystem.readFailure?
  cases fs.readSymbols path <;> simp

/-- An allow-list is complete exactly if all directories were listed and all files read. -/
theorem isComplete_build_iff : (build fs config files dirs).result.isComplete = true ↔
    (∀ dir ∈ dirs, ∃ d, (fs.discoverObjects dir config.extensions).result = .ok d ∧ d.failures = []) ∧
      ∀ path ∈ inputs fs config files dirs, ∃ rows, fs.readSymbols path = .ok rows := by
  rw [isComplete, List.isEmpty_iff, failures_build, List.append_eq_nil_iff, List.flatMap_eq_nil_iff,
    List.filterMap_eq_nil_iff]
  simp only [failuresOf_eq_nil_iff, readFailure?_eq_none_iff]

end AllowList

namespace CommandLine

section

variable {fs : FileSystem} {s : SymbolSet} {format : ListFormat} {out : Option Path}

private theorem writeIfAsked_some (path : Path) :
    writeIfAsked fs s format (some path) = fs.writeAtomic path (s.render format).toUTF8 := rfl

theorem writeIfAsked_of_isDestination {path : Path} {l : Location} (h : fs.IsDestination path l) :
    writeIfAsked fs s format (some path) = (.ok (), fs.set l (.file (s.render format).toUTF8 false)) := by
  rw [writeIfAsked_some, FileSystem.writeAtomic_of_isDestination h]

/-- A list that cannot be written leaves everything as it was. -/
theorem writeIfAsked_of_error {e : ToolError} (h : (writeIfAsked fs s format out).1 = .error e) :
    writeIfAsked fs s format out = (.error e, fs) := by
  cases out with
  | none => cases h
  | some path =>
    rw [writeIfAsked_some] at h ⊢
    exact FileSystem.writeAtomic_of_error h

private theorem writeIfAsked_cases (fs : FileSystem) (s : SymbolSet) (format : ListFormat) (out : Option Path) :
    (writeIfAsked fs s format out).2 = fs ∨ ∃ path ∈ out, ∃ l, fs.Names path l ∧
      (writeIfAsked fs s format out).2 = fs.set l (.file (s.render format).toUTF8 false) := by
  cases hwrite : (writeIfAsked fs s format out).1 with
  | error e => exact .inl (by rw [writeIfAsked_of_error hwrite])
  | ok done =>
    cases out with
    | none => exact .inl rfl
    | some path =>
      rw [writeIfAsked_some] at hwrite
      obtain ⟨l, hl, hwritten⟩ := FileSystem.exists_names_of_ok hwrite
      exact .inr ⟨path, rfl, l, hl, by rw [writeIfAsked_some, hwritten]⟩

/-- A list that is written stands at the entry that its path names. -/
theorem node?_writeIfAsked {path : Path} (h : (writeIfAsked fs s format out).1 = .ok ()) (hout : path ∈ out) :
    ∃ l, fs.Names path l ∧
      (writeIfAsked fs s format out).2.node? l = some (.file (s.render format).toUTF8 false) := by
  obtain rfl : out = some path := hout
  rw [writeIfAsked_some] at h
  obtain ⟨l, hl, hwritten⟩ := FileSystem.exists_names_of_ok h
  refine ⟨l, hl, ?_⟩
  rw [writeIfAsked_some, hwritten, FileSystem.node?_set_self hl.ne_nil]

/-- Nothing else changes. -/
theorem node?_writeIfAsked_of_not_names {k : Location} (hk : ∀ path ∈ out, ¬ fs.Names path k) :
    (writeIfAsked fs s format out).2.node? k = fs.node? k := by
  rcases writeIfAsked_cases fs s format out with hsame | ⟨path, hpath, l, hl, hset⟩
  · rw [hsame]
  · have hne : k ≠ l := by
      rintro rfl
      exact hk path hpath hl
    rw [hset, FileSystem.node?_set_of_ne hl.ne_nil hne]

/-- The path of a list that is written does not ask for a directory. -/
theorem asks_file_of_writeIfAsked {path : Path} (h : (writeIfAsked fs s format out).1 = .ok ()) (hout : path ∈ out) :
    FileSystem.endsWithSlash path = false := by
  obtain rfl : out = some path := hout
  rw [writeIfAsked_some] at h
  obtain ⟨l, hl⟩ := FileSystem.exists_isDestination_of_ok h
  exact hl.asks_file

/-- No link is new. -/
theorem link_of_writeIfAsked {k : Location} {target : Path}
    (h : (writeIfAsked fs s format out).2.node? k = some (.link target)) : fs.node? k = some (.link target) := by
  rcases writeIfAsked_cases fs s format out with hsame | ⟨_, _, l, hl, hset⟩
  · rwa [hsame] at h
  · rw [hset, FileSystem.node?_set hl.ne_nil] at h
    split at h
    · cases h
    · exact h

/-- Unless the list takes the place of a link, paths name the same entries as before. -/
theorem names_writeIfAsked {path : Path} {k : Location}
    (hlink : ∀ other ∈ out, ∀ l target, fs.Names other l → fs.node? l ≠ some (.link target)) (h : fs.Names path k) :
    (writeIfAsked fs s format out).2.Names path k := by
  cases hwrite : (writeIfAsked fs s format out).1 with
  | error e => rwa [writeIfAsked_of_error hwrite]
  | ok done =>
    cases out with
    | none => exact h
    | some other =>
      rw [writeIfAsked_some] at hwrite ⊢
      obtain ⟨l, hl⟩ := FileSystem.exists_isDestination_of_ok hwrite
      rw [FileSystem.writeAtomic_of_isDestination hl]
      exact h.set hl.no_directory fun target => hlink other rfl l target hl.names

/-- Paths that name an entry after the list was written named the same one before. -/
theorem names_of_names_writeIfAsked {path : Path} {k : Location}
    (h : (writeIfAsked fs s format out).2.Names path k) : fs.Names path k := by
  rcases writeIfAsked_cases fs s format out with hsame | ⟨_, _, l, hl, hset⟩
  · rwa [hsame] at h
  · rw [hset] at h
    exact FileSystem.Names.of_set hl.ne_nil h

end

namespace DumpRequest

variable {fs : FileSystem} {r : DumpRequest} {out : StandardOutput} {e : ToolError} {s : SymbolSet} {taken : String}

/-! ### Printing -/

/-- A list that goes to a file is not printed. -/
theorem print_of_asked (h : r.jsonOut ≠ none ∨ r.textOut ≠ none) : r.print out s = (.ok (), "") := by
  have hasked : (r.jsonOut.isNone && r.textOut.isNone) = false := by
    rw [Bool.and_eq_false_iff, Option.isNone_eq_false_iff, Option.isNone_eq_false_iff]
    exact h.imp Option.isSome_iff_ne_none.2 Option.isSome_iff_ne_none.2
  rw [print, hasked]
  rfl

theorem print_of_unasked (hjson : r.jsonOut = none) (htext : r.textOut = none) :
    r.print out s =
      match out s.toLines with
      | none => (.ok (), s.toLines)
      | some (part, cause) => (.error (.io ⟨"<stdout>"⟩ cause), part) := by
  rw [print, hjson, htext]
  rfl

/-- There is nothing to print, or standard output takes it. -/
theorem print_eq_ok_iff :
    (r.print out s).1 = .ok () ↔ (r.jsonOut = none → r.textOut = none → out s.toLines = none) := by
  by_cases h : r.jsonOut = none ∧ r.textOut = none
  · rw [print_of_unasked h.1 h.2]
    cases out s.toLines <;> simp [h]
  · rw [print_of_asked (not_and_or.1 h)]
    exact iff_of_true rfl fun hjson htext => absurd ⟨hjson, htext⟩ h

/-! ### The run -/

/-- The allow-list of the request. -/
def allowList (fs : FileSystem) (r : DumpRequest) : AllowList :=
  (AllowList.build fs { extensions := r.extensions } r.files r.directories).result

/-- How the JSON form is written, and the files after it. -/
def json (fs : FileSystem) (r : DumpRequest) : Except ToolError Unit × FileSystem :=
  writeIfAsked fs (r.allowList fs).symbols .json r.jsonOut

/-- How the text form is written after the JSON form, and the files after it. -/
def text (fs : FileSystem) (r : DumpRequest) : Except ToolError Unit × FileSystem :=
  writeIfAsked (r.json fs).2 (r.allowList fs).symbols .text r.textOut

private theorem writeIfAsked_json (hjson : (r.json fs).1 = .ok ()) :
    writeIfAsked fs (r.buildList fs).result.symbols .json r.jsonOut = (.ok (), (r.json fs).2) :=
  Prod.ext hjson rfl

private theorem writeIfAsked_text (htext : (r.text fs).1 = .ok ()) :
    writeIfAsked (r.json fs).2 (r.buildList fs).result.symbols .text r.textOut = (.ok (), (r.text fs).2) :=
  Prod.ext htext rfl

/-- If the JSON form cannot be written, nothing has changed. -/
theorem run_of_json_error (out : StandardOutput) (h : (r.json fs).1 = .error e) :
    ∃ log, r.run out fs = .ofError fs log e := by
  have hjson : writeIfAsked fs (r.buildList fs).result.symbols .json r.jsonOut = (.error e, fs) :=
    writeIfAsked_of_error h
  refine ⟨(r.buildList fs).log, ?_⟩
  unfold run
  simp only [hjson]

/-- If the text form cannot be written, only the JSON form is. -/
theorem run_of_text_error (out : StandardOutput) (hjson : (r.json fs).1 = .ok ()) (h : (r.text fs).1 = .error e) :
    ∃ log, r.run out fs = .ofError (r.json fs).2 log e := by
  have htext : writeIfAsked (r.json fs).2 (r.buildList fs).result.symbols .text r.textOut = (.error e, (r.json fs).2) :=
    writeIfAsked_of_error h
  refine ⟨(r.buildList fs).log, ?_⟩
  unfold run
  simp only [writeIfAsked_json hjson, htext]

/-- If the list cannot be printed, the call ends with what was printed of it. -/
theorem run_of_print_error (hjson : (r.json fs).1 = .ok ()) (htext : (r.text fs).1 = .ok ())
    (h : r.print out (r.allowList fs).symbols = (.error e, taken)) :
    ∃ log, r.run out fs = .ofError (r.text fs).2 log e taken := by
  have hprint : r.print out (r.buildList fs).result.symbols = (.error e, taken) := h
  refine ⟨(r.buildList fs).log, ?_⟩
  unfold run
  simp only [writeIfAsked_json hjson, writeIfAsked_text htext, hprint]

/-- If both forms are written, it is for the inputs whether the request passed. -/
theorem run_of_written (hjson : (r.json fs).1 = .ok ()) (htext : (r.text fs).1 = .ok ())
    (h : r.print out (r.allowList fs).symbols = (.ok (), taken)) :
    ∃ log, r.run out fs = .ofLog (r.text fs).2 log (r.allowList fs).isComplete taken := by
  have hprint : r.print out (r.buildList fs).result.symbols = (.ok (), taken) := h
  refine ⟨(r.buildList fs).log ++ conclusion (r.allowList fs), ?_⟩
  unfold run
  simp only [writeIfAsked_json hjson, writeIfAsked_text htext, hprint]
  rfl

/-- Once the JSON form is written, the files are as they are after the text form, whether it could be written or not. -/
theorem files_run (out : StandardOutput) (hjson : (r.json fs).1 = .ok ()) : (r.run out fs).files = (r.text fs).2 := by
  cases htext : (r.text fs).1 with
  | error e =>
    obtain ⟨log, hrun⟩ := run_of_text_error out hjson htext
    rw [hrun, text, writeIfAsked_of_error htext]
    rfl
  | ok _ =>
    rcases hprint : r.print out (r.allowList fs).symbols with ⟨_ | _, taken⟩
    · obtain ⟨log, hrun⟩ := run_of_print_error hjson htext hprint
      rw [hrun]
      rfl
    · obtain ⟨log, hrun⟩ := run_of_written hjson htext hprint
      rw [hrun]
      rfl

/-- The JSON form stands at its output unless the text form was put in the same place. -/
theorem node?_json {path : Path} (out : StandardOutput) (hout : path ∈ r.jsonOut) (hjson : (r.json fs).1 = .ok ()) :
    ∃ l, fs.Names path l ∧ (((r.text fs).1 = .ok () → ∀ other ∈ r.textOut, ¬ fs.Names other l) →
      (r.run out fs).files.node? l = some (.file (r.allowList fs).symbols.toJson.toUTF8 false)) := by
  obtain ⟨l, hl, hnode⟩ := node?_writeIfAsked hjson hout
  refine ⟨l, hl, fun hother => ?_⟩
  refine Eq.trans ?_ hnode
  rw [files_run out hjson]
  cases htext : (r.text fs).1 with
  | error e =>
    rw [text, writeIfAsked_of_error htext]
    rfl
  | ok _ =>
    -- an output that names the place now named it before the JSON form was written, too
    exact node?_writeIfAsked_of_not_names fun other hmem hnames =>
      hother htext other hmem (names_of_names_writeIfAsked hnames)

/-- The text form stands at its output. -/
theorem node?_text {path : Path} (out : StandardOutput) (hout : path ∈ r.textOut) (hjson : (r.json fs).1 = .ok ())
    (htext : (r.text fs).1 = .ok ()) :
    ∃ l, fs.Names path l ∧
      (r.run out fs).files.node? l = some (.file (r.allowList fs).symbols.toLines.toUTF8 false) := by
  obtain ⟨l, hl, hnode⟩ := node?_writeIfAsked htext hout
  refine ⟨l, names_of_names_writeIfAsked hl, ?_⟩
  rw [files_run out hjson]
  exact hnode

/-- What no output names does not change. -/
theorem node?_run_of_not_names {k : Location} (out : StandardOutput) (hjson : ∀ path ∈ r.jsonOut, ¬ fs.Names path k)
    (htext : ∀ path ∈ r.textOut, ¬ fs.Names path k) : (r.run out fs).files.node? k = fs.node? k := by
  cases hwrite : (r.json fs).1 with
  | error e =>
    obtain ⟨log, hrun⟩ := run_of_json_error out hwrite
    rw [hrun]
    rfl
  | ok _ =>
    have hsecond : (r.text fs).2.node? k = (r.json fs).2.node? k :=
      node?_writeIfAsked_of_not_names fun path hmem hnames => htext path hmem (names_of_names_writeIfAsked hnames)
    rw [files_run out hwrite, hsecond]
    exact node?_writeIfAsked_of_not_names hjson

/-- The request passed if no input and no write failed. -/
theorem code_run (out : StandardOutput) (fs : FileSystem) (r : DumpRequest) :
    ((r.run out fs).outcome.code = 0 ↔ (r.allowList fs).isComplete = true ∧ (r.json fs).1 = .ok () ∧
      (r.text fs).1 = .ok () ∧ (r.print out (r.allowList fs).symbols).1 = .ok ()) ∧
    ((r.run out fs).outcome.code = 0 ∨ (r.run out fs).outcome.code = 1) := by
  cases hjson : (r.json fs).1 with
  | error e =>
    obtain ⟨log, hrun⟩ := run_of_json_error out hjson
    rw [hrun]
    simp [Report.ofError, Outcome.code]
  | ok _ =>
    cases htext : (r.text fs).1 with
    | error e =>
      obtain ⟨log, hrun⟩ := run_of_text_error out hjson htext
      rw [hrun]
      simp [Report.ofError, Outcome.code]
    | ok _ =>
      rcases hprint : r.print out (r.allowList fs).symbols with ⟨_ | _, taken⟩
      · obtain ⟨log, hrun⟩ := run_of_print_error hjson htext hprint
        rw [hrun]
        simp [Report.ofError, Outcome.code]
      · obtain ⟨log, hrun⟩ := run_of_written hjson htext hprint
        rw [hrun]
        exact ⟨Outcome.code_ofBool_eq_zero_iff.trans (by simp), Outcome.code_ofBool_eq_zero_or_one⟩

/-- Nothing is printed if the list goes to a file. -/
theorem stdout_run_of_asked (out : StandardOutput) (h : r.jsonOut ≠ none ∨ r.textOut ≠ none) :
    (r.run out fs).stdout = "" := by
  cases hjson : (r.json fs).1 with
  | error e =>
    obtain ⟨log, hrun⟩ := run_of_json_error out hjson
    rw [hrun]
    rfl
  | ok _ =>
    cases htext : (r.text fs).1 with
    | error e =>
      obtain ⟨log, hrun⟩ := run_of_text_error out hjson htext
      rw [hrun]
      rfl
    | ok _ =>
      obtain ⟨log, hrun⟩ := run_of_written hjson htext (print_of_asked h)
      rw [hrun]
      rfl

/-- A list that goes to no file is printed, as far as standard output takes it. -/
theorem run_of_unasked (hjson : r.jsonOut = none) (htext : r.textOut = none) :
    (out (r.allowList fs).symbols.toLines = none → (r.run out fs).stdout = (r.allowList fs).symbols.toLines) ∧
    ∀ part cause, out (r.allowList fs).symbols.toLines = some (part, cause) →
      (r.run out fs).outcome.code = 1 ∧ (r.run out fs).stdout = part := by
  have hjson' : (r.json fs).1 = .ok () := by rw [json, hjson, writeIfAsked]
  have htext' : (r.text fs).1 = .ok () := by rw [text, htext, writeIfAsked]
  constructor
  · intro htaken
    have hprint : r.print out (r.allowList fs).symbols = (.ok (), (r.allowList fs).symbols.toLines) := by
      rw [print_of_unasked hjson htext, htaken]
    obtain ⟨log, hrun⟩ := run_of_written hjson' htext' hprint
    rw [hrun, Report.ofLog]
  · intro part cause hrefused
    have hprint : r.print out (r.allowList fs).symbols = (.error (.io ⟨"<stdout>"⟩ cause), part) := by
      rw [print_of_unasked hjson htext, hrefused]
    obtain ⟨log, hrun⟩ := run_of_print_error hjson' htext' hprint
    rw [hrun]
    exact ⟨rfl, rfl⟩

/-- A call that dumps the names that plugins may use. It writes the allow-list that is built from its inputs to each
output that is asked for, the JSON form first, even if some inputs failed. If a write fails it ends there. It changes
nothing but the entries that the outputs name, and prints the list exactly if no output is asked for. It succeeds
exactly if all inputs could be read, no place below its directories was refused, and the list was written to all outputs
or printed. -/
theorem execute_dump (e : Environment) (fs : FileSystem) (r : DumpRequest) :
    (r.IsSpellable → Requests r.arguments (.dump r)) ∧
    ∀ arguments, Requests arguments (.dump r) →
      let names := (r.allowList fs).symbols
      let done := execute e fs arguments
      (∀ cause, (r.json fs).1 = .error cause → done.code = 1 ∧ done.files = fs) ∧
      (∀ cause, (r.json fs).1 = .ok () → (r.text fs).1 = .error cause → done.code = 1 ∧ done.files = (r.json fs).2) ∧
      (∀ path ∈ r.jsonOut, (r.json fs).1 = .ok () → ∃ l, fs.Names path l ∧
        (((r.text fs).1 = .ok () → ∀ other ∈ r.textOut, ¬ fs.Names other l) →
          done.files.node? l = some (.file names.toJson.toUTF8 false))) ∧
      (∀ path ∈ r.textOut, (r.json fs).1 = .ok () → (r.text fs).1 = .ok () → ∃ l, fs.Names path l ∧
        done.files.node? l = some (.file names.toLines.toUTF8 false)) ∧
      (∀ k, (∀ path ∈ r.jsonOut, ¬ fs.Names path k) → (∀ path ∈ r.textOut, ¬ fs.Names path k) →
        done.files.node? k = fs.node? k) ∧
      (r.jsonOut ≠ none ∨ r.textOut ≠ none → done.stdout = "") ∧
      (r.jsonOut = none → r.textOut = none → (e.stdout names.toLines = none → done.stdout = names.toLines) ∧
        ∀ part cause, e.stdout names.toLines = some (part, cause) → done.code = 1 ∧ done.stdout = part) ∧
      (done.code = 0 ↔
        (∀ dir ∈ r.directories, ∃ d, (fs.discoverObjects dir r.extensions).result = .ok d ∧ d.failures = []) ∧
        (∀ path ∈ AllowList.inputs fs { extensions := r.extensions } r.files r.directories,
          ∃ rows, fs.readSymbols path = .ok rows) ∧
        (r.json fs).1 = .ok () ∧ (r.text fs).1 = .ok () ∧
        (r.jsonOut = none → r.textOut = none → e.stdout names.toLines = none)) ∧
      (fs.WellFormed → ∀ dir ∈ r.directories, ∀ start, fs.stat dir = .ok (start, .directory) →
        fs.ResolvesTrails dir start →
        ((∃ d, (fs.discoverObjects dir r.extensions).result = .ok d ∧ d.failures = []) ↔
          ∀ place, fs.Reachable start place.location → ¬ fs.IsRefused place)) ∧
      (done.code = 0 ∨ done.code = 1) := by
  refine ⟨requests_arguments, ?_⟩
  intro arguments hrequests names done
  have hcode : done.code = (r.run e.stdout fs).outcome.code := hrequests.code_execute e fs
  have hstdout : done.stdout = (r.run e.stdout fs).stdout := hrequests.stdout_execute e fs
  have hfiles : done.files = (r.run e.stdout fs).files := hrequests.files_execute e fs
  obtain ⟨hpassed, hzero_or_one⟩ := code_run e.stdout fs r
  rw [hcode, hstdout, hfiles]
  refine ⟨?_, ?_, fun path => node?_json e.stdout, fun path => node?_text e.stdout,
    fun k => node?_run_of_not_names e.stdout, stdout_run_of_asked e.stdout, run_of_unasked, ?_, ?_, hzero_or_one⟩
  · intro cause hjson
    obtain ⟨log, hrun⟩ := run_of_json_error e.stdout hjson
    rw [hrun]
    exact ⟨rfl, rfl⟩
  · intro cause hjson htext
    obtain ⟨log, hrun⟩ := run_of_text_error e.stdout hjson htext
    rw [hrun]
    exact ⟨rfl, rfl⟩
  · have hcomplete : (r.allowList fs).isComplete = true ↔ _ := AllowList.isComplete_build_iff
    rw [hpassed, hcomplete, print_eq_ok_iff]
    exact and_assoc
  · intro hwf dir _ start hdir hresolves
    exact FileSystem.exists_failures_eq_nil_iff hwf hdir hresolves

/-- An object file that defines `draw` beside an empty directory. -/
def drawTree : FileSystem where
  nodes := [(["draw.o"], .file (imageOfRows [AllowList.drawRow]) false), (["objs"], .directory)]
  working := []

/-- In the directory is an entry that cannot be read. -/
def shutTree : FileSystem where
  nodes := (["objs", "fill.obj"], .file .empty false) :: drawTree.nodes
  working := []
  device := { hide := fun _ => some (.entry .permissionDenied) }

/-- Both forms of the list go to one file, or it is printed. -/
def drawDump (dir : Path) (out : Option Path) : DumpRequest := ⟨[dir], [⟨"draw.o"⟩], ["obj"], out, out⟩

/-- Standard output takes nothing. -/
def fullOutput : Environment := { Environment.bare with stdout := fun _ => some ("", .other "No space left on device") }

private theorem isSpellable_drawDump {dir : Path} {out : Option Path} (hdir : dir.text ≠ "" ∧ ',' ∉ dir.text.toList)
    (hout : ∀ path ∈ out, path.text ≠ "") : (drawDump dir out).IsSpellable where
  some_directory := by simp [drawDump]
  some_extension := by simp [drawDump]
  directories := by simpa [drawDump] using hdir
  files := by simp [drawDump]
  extensions := by simp [drawDump]
  textOut := hout
  jsonOut := hout

private theorem isSpellable_written {dir : Path} (h : dir.text ≠ "" ∧ ',' ∉ dir.text.toList) :
    (drawDump dir (some ⟨"list"⟩)).IsSpellable :=
  isSpellable_drawDump h (by simp)

private theorem isSpellable_printed : (drawDump ⟨"objs"⟩ none).IsSpellable :=
  isSpellable_drawDump ⟨by decide, by decide⟩ nofun

section

variable {fs : FileSystem} (hworking : fs.working = []) (hnode : fs.node? ["list"] ≠ some .directory)
  (hdevice : fs.device.create = none ∧ fs.device.write = none ∧ fs.device.rename = none)

include hworking hnode hdevice

private theorem isDestination_list : fs.IsDestination ⟨"list"⟩ ["list"] :=
  FileSystem.isDestination_root (by decide) (by decide) (by decide) hworking hnode hdevice

omit hnode in
private theorem isDestination_list_set (content : ByteArray) :
    (fs.set ["list"] (.file content false)).IsDestination ⟨"list"⟩ ["list"] := by
  refine isDestination_list hworking ?_ hdevice
  rw [FileSystem.node?_set_self (by simp)]
  simp

private theorem json_drawDump (dir : Path) : (drawDump dir (some ⟨"list"⟩)).json fs = (.ok (), fs.set ["list"]
    (.file ((drawDump dir (some ⟨"list"⟩)).allowList fs).symbols.toJson.toUTF8 false)) :=
  writeIfAsked_of_isDestination (isDestination_list hworking hnode hdevice)

private theorem text_drawDump (dir : Path) : ((drawDump dir (some ⟨"list"⟩)).text fs).1 = .ok () := by
  rw [text, json_drawDump hworking hnode hdevice]
  exact congrArg Prod.fst (writeIfAsked_of_isDestination (isDestination_list_set hworking hdevice _))

end

private theorem stat_objs_drawTree : drawTree.stat ⟨"objs"⟩ = .ok (["objs"], .directory) :=
  FileSystem.stat_name (by decide) (by decide) rfl rfl nofun

private theorem discoverObjects_objs : (drawTree.discoverObjects ⟨"objs"⟩ ["obj"]).result = .ok ⟨[], []⟩ :=
  FileSystem.discoverObjects_of_empty stat_objs_drawTree rfl rfl

private theorem discoverObjects_none : (drawTree.discoverObjects ⟨"none"⟩ ["obj"]).result =
    .error (.io ⟨"none"⟩ .notFound) := by
  have hlocate : drawTree.locate ⟨"none"⟩ = .error .notFound := by
    rw [FileSystem.locate_name (by decide) (by decide), FileSystem.follow_missing rfl (by decide) rfl]
  have hstat : drawTree.stat ⟨"none"⟩ = .error .notFound := by
    rw [FileSystem.stat, hlocate]
    rfl
  rw [FileSystem.discoverObjects, hstat]
  rfl

private theorem readSymbols_drawTree : drawTree.readSymbols ⟨"draw.o"⟩ = .ok [AllowList.drawRow.symbol] := by
  have hbytes : drawTree.readBytes ⟨"draw.o"⟩ = .ok (imageOfRows [AllowList.drawRow]) :=
    FileSystem.readBytes_name (by decide) (by decide) rfl rfl
  exact FileSystem.readSymbols_eq_ok_iff.2 ⟨_, hbytes, parseSymbols_imageOfRows (by decide) _⟩

/-- With the empty directory nothing stands in the way. -/
private theorem inputs_drawTree :
    (∀ dir ∈ [(⟨"objs"⟩ : Path)], ∃ d, (drawTree.discoverObjects dir ["obj"]).result = .ok d ∧ d.failures = []) ∧
      ∀ path ∈ AllowList.inputs drawTree { extensions := ["obj"] } [⟨"draw.o"⟩] [⟨"objs"⟩],
        ∃ rows, drawTree.readSymbols path = .ok rows := by
  have hinputs : AllowList.inputs drawTree { extensions := ["obj"] } [⟨"draw.o"⟩] [⟨"objs"⟩] = [⟨"draw.o"⟩] := by
    simp [AllowList.inputs, AllowList.objectsOf, discoverObjects_objs]
  rw [hinputs]
  exact ⟨List.forall_mem_singleton.2 ⟨_, discoverObjects_objs, rfl⟩,
    List.forall_mem_singleton.2 ⟨_, readSymbols_drawTree⟩⟩

private theorem draw_mem_allowList {dir : Path} {out : Option Path} :
    "draw" ∈ ((drawDump dir out).allowList drawTree).symbols := by
  refine (AllowList.mem_build_iff _).2 (.inr ⟨⟨"draw.o"⟩, by simp [AllowList.inputs, drawDump], _,
    readSymbols_drawTree, _, List.mem_singleton_self _, ?_, ?_⟩)
  · rw [AllowList.symbol_drawRow]
    decide
  · rw [AllowList.symbol_drawRow]

private theorem wellFormed_shutTree : shutTree.WellFormed := by decide

/-- No trail leads through an entry that cannot be read. -/
private theorem resolvesTrails_shutTree : shutTree.ResolvesTrails ⟨"objs"⟩ ["objs"] := by
  intro dir l before name node k _ _ hentry
  exact nomatch (FileSystem.mem_entries_iff.1 hentry).2

private theorem isRefused_fill : shutTree.IsRefused (.entry ["objs"] "fill.obj") :=
  ⟨rfl, ⟨.file .empty false, .head _⟩, nofun⟩

theorem list_written_despite_failure :
    let complete := execute .bare drawTree (drawDump ⟨"objs"⟩ (some ⟨"list"⟩)).arguments
    let incomplete := execute .bare drawTree (drawDump ⟨"none"⟩ (some ⟨"list"⟩)).arguments
    let shut := execute .bare shutTree (drawDump ⟨"objs"⟩ (some ⟨"list"⟩)).arguments
    let printed := execute .bare drawTree (drawDump ⟨"objs"⟩ none).arguments
    let refused := execute fullOutput drawTree (drawDump ⟨"objs"⟩ none).arguments
    let names := ((drawDump ⟨"none"⟩ (some ⟨"list"⟩)).allowList drawTree).symbols
    let names' := ((drawDump ⟨"objs"⟩ (some ⟨"list"⟩)).allowList shutTree).symbols
    let names'' := ((drawDump ⟨"objs"⟩ none).allowList drawTree).symbols
    complete.code = 0 ∧ incomplete.code = 1 ∧ "draw" ∈ names ∧
      incomplete.files.node? ["list"] = some (.file names.toLines.toUTF8 false) ∧
      incomplete.files.node? ["draw.o"] = drawTree.node? ["draw.o"] ∧ incomplete.stdout = "" ∧
      shut.code = 1 ∧ shut.files.node? ["list"] = some (.file names'.toLines.toUTF8 false) ∧
      printed.code = 0 ∧ "draw" ∈ names'' ∧ printed.stdout = names''.toLines ∧
      refused.code = 1 ∧ refused.stdout = "" := by
  intro complete incomplete shut printed refused names names' names''
  have hcalls (e : Environment) (fs : FileSystem) (r : DumpRequest) (h : r.IsSpellable) :=
    (execute_dump e fs r).2 r.arguments ((execute_dump e fs r).1 h)
  have hunlisted : drawTree.node? ["list"] ≠ some .directory := nofun
  have hunlisted' : shutTree.node? ["list"] ≠ some .directory := nofun
  have hjson (dir : Path) : ((drawDump dir (some ⟨"list"⟩)).json drawTree).1 = .ok () :=
    congrArg Prod.fst (json_drawDump rfl hunlisted ⟨rfl, rfl, rfl⟩ dir)
  have htext (dir : Path) : ((drawDump dir (some ⟨"list"⟩)).text drawTree).1 = .ok () :=
    text_drawDump rfl hunlisted ⟨rfl, rfl, rfl⟩ dir
  have hlist : drawTree.Names ⟨"list"⟩ ["list"] := (isDestination_list rfl hunlisted ⟨rfl, rfl, rfl⟩).names
  have hobjs : shutTree.stat ⟨"objs"⟩ = .ok (["objs"], .directory) :=
    FileSystem.stat_name (by decide) (by decide) rfl rfl nofun
  obtain ⟨-, -, -, hwritten, hothers, hsilent, -, hcode, -, hzero_or_one⟩ :=
    hcalls .bare drawTree (drawDump ⟨"none"⟩ (some ⟨"list"⟩)) (isSpellable_written ⟨by decide, by decide⟩)
  obtain ⟨-, -, -, hwritten', -, -, -, hcode', hfailures, hzero_or_one'⟩ :=
    hcalls .bare shutTree (drawDump ⟨"objs"⟩ (some ⟨"list"⟩)) (isSpellable_written ⟨by decide, by decide⟩)
  refine ⟨?_, ?_, draw_mem_allowList, ?_, ?_, ?_, ?_, ?_, ?_, draw_mem_allowList, ?_, ?_⟩
  · obtain ⟨-, -, -, -, -, -, -, hcode, -⟩ :=
      hcalls .bare drawTree (drawDump ⟨"objs"⟩ (some ⟨"list"⟩)) (isSpellable_written ⟨by decide, by decide⟩)
    exact hcode.2 ⟨inputs_drawTree.1, inputs_drawTree.2, hjson _, htext _, fun _ _ => rfl⟩
  · refine hzero_or_one.resolve_left fun hzero => ?_
    obtain ⟨d, hd, -⟩ := (hcode.1 hzero).1 ⟨"none"⟩ (List.mem_singleton_self _)
    cases discoverObjects_none.symm.trans hd
  · obtain ⟨l, hl, hnode⟩ := hwritten ⟨"list"⟩ rfl (hjson _) (htext _)
    obtain rfl := hlist.unique hl
    exact hnode
  · refine hothers ["draw.o"] ?_ ?_ <;>
    · rintro _ ⟨⟩ hnames
      exact absurd (hlist.unique hnames) (by decide)
  · exact hsilent (.inl nofun)
  · refine hzero_or_one'.resolve_left fun hzero => ?_
    have hfailed := (hfailures wellFormed_shutTree ⟨"objs"⟩ (List.mem_singleton_self _) ["objs"] hobjs
      resolvesTrails_shutTree).1 ((hcode'.1 hzero).1 ⟨"objs"⟩ (List.mem_singleton_self _))
    exact hfailed (.entry ["objs"] "fill.obj") .root isRefused_fill
  · obtain ⟨l, hl, hnode⟩ := hwritten' ⟨"list"⟩ rfl
      (congrArg Prod.fst (json_drawDump rfl hunlisted' ⟨rfl, rfl, rfl⟩ _))
      (text_drawDump rfl hunlisted' ⟨rfl, rfl, rfl⟩ _)
    obtain rfl := (isDestination_list rfl hunlisted' ⟨rfl, rfl, rfl⟩).names.unique hl
    exact hnode
  · obtain ⟨-, -, -, -, -, -, -, hcode, -⟩ := hcalls .bare drawTree (drawDump ⟨"objs"⟩ none) isSpellable_printed
    exact hcode.2 ⟨inputs_drawTree.1, inputs_drawTree.2, rfl, rfl, fun _ _ => rfl⟩
  · obtain ⟨-, -, -, -, -, -, hprinted, -⟩ := hcalls .bare drawTree (drawDump ⟨"objs"⟩ none) isSpellable_printed
    exact (hprinted rfl rfl).1 rfl
  · obtain ⟨-, -, -, -, -, -, hprinted, -⟩ := hcalls fullOutput drawTree (drawDump ⟨"objs"⟩ none) isSpellable_printed
    exact (hprinted rfl rfl).2 _ _ rfl

end DumpRequest

end CommandLine

end FirmwareSymbols
