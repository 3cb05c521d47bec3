import FirmwareSymbols.Proofs.CheckReport
import FirmwareSymbols.Proofs.CommandLine.Spelling

/-!
# Calls that check a plugin

Such a call only reads. If the list and the plugin are read, it tells the required names that the list has not
(`run_of_read`), each on a line of its own (`missingLine`). Whether readable forms are wanted changes what stands in
these lines and nothing else (`exists_run_eq`).
-/

namespace FirmwareSymbols.CommandLine.CheckRequest

variable {fs : FileSystem} {plugin api : Path} {provided : SymbolSet} {rows : List Symbol} {name : String}

/-- The line about a name that is missing. -/
def missingLine (r : CheckRequest) (name : String) : Line :=
  .record ⟨.error, (MissingSymbol.mk name (r.demangler name)).line⟩

/-- Some row is a global reference to the name. -/
def Requires (rows : List Symbol) (name : String) : Prop :=
  name ≠ "" ∧ ∃ s ∈ rows, s.binding = .global ∧ s.home = .undefined ∧ s.name = name

/-- The names that the rows require and the list has not. -/
def missing (rows : List Symbol) (provided : SymbolSet) : List String :=
  (Policy.required.names rows).difference provided

theorem mem_missing_iff : name ∈ missing rows provided ↔ Requires rows name ∧ name ∉ provided := by
  rw [missing, SymbolSet.mem_difference, Policy.mem_names_iff]
  refine and_congr_left fun _ => ?_
  constructor
  · rintro ⟨s, hs, haccepts, rfl⟩
    obtain ⟨hname, hglobal, hhome⟩ := Policy.accepts_required_iff.1 haccepts
    exact ⟨hname, s, hs, hglobal, hhome, rfl⟩
  · rintro ⟨hname, s, hs, hglobal, hhome, rfl⟩
    exact ⟨s, hs, Policy.accepts_required_iff.2 ⟨hname, hglobal, hhome⟩, rfl⟩

/-- The line that a check adds if no name is missing. -/
def allFound (missing : List String) : List Record :=
  if missing.isEmpty then [⟨.info, "All symbols found!"⟩] else []

theorem log_print (required provided : SymbolSet) (demangle : Demangler) :
    (check required provided demangle).print.log =
      (required.difference provided).map (fun name => ⟨.error, (MissingSymbol.mk name (demangle name)).line⟩) ++
        allFound (required.difference provided) := by
  rw [CheckReport.log_print, check, List.map_map, List.isEmpty_map]
  rfl

/-- Reading the plugin, once the list is read. -/
private def readPlugin (fs : FileSystem) (plugin : Path) : Logged (Except ToolError SymbolSet) := do
  Logged.info ("Checking if symbols in " ++ plugin.text ++ " would be resolved")
  fs.requiredNames plugin

private theorem run_of_list {r : CheckRequest} (hlist : fs.readSymbolList r.api = .ok provided) :
    r.run fs = match (readPlugin fs r.plugin).result with
      | .error e => .ofError fs (readPlugin fs r.plugin).log e
      | .ok names =>
        .ofLog fs ((readPlugin fs r.plugin).log ++ (check names provided r.demangler).print.log)
          (check names provided r.demangler).isSuccess := by
  rw [run, hlist]
  rfl

private theorem result_readPlugin_of_error {e : ToolError} (h : fs.readSymbols plugin = .error e) :
    (readPlugin fs plugin).result = .error e := by
  simp [readPlugin, FileSystem.requiredNames, FileSystem.extractSymbols, h]

private theorem result_readPlugin (h : fs.readSymbols plugin = .ok rows) :
    (readPlugin fs plugin).result = .ok (Policy.required.names rows) := by
  simp [readPlugin, FileSystem.requiredNames, FileSystem.extractSymbols, h, Policy.names]

/-- If something cannot be read, the reports for raw and for readable names are the same. -/
theorem run_of_unread (h : ∀ provided rows, ¬ fs.InputsRead api plugin provided rows) :
    ∃ log e, ∀ rawNames, (CheckRequest.mk plugin api rawNames).run fs = .ofError fs log e := by
  cases hlist : fs.readSymbolList api with
  | error e =>
    refine ⟨[], e, fun rawNames => ?_⟩
    rw [run, hlist]
  | ok provided =>
    cases hplugin : fs.readSymbols plugin with
    | error e =>
      refine ⟨(readPlugin fs plugin).log, e, fun rawNames => ?_⟩
      rw [run_of_list (r := ⟨plugin, api, rawNames⟩) hlist]
      dsimp only
      rw [result_readPlugin_of_error hplugin]
    | ok rows => exact absurd (FileSystem.inputsRead_iff.2 ⟨hlist, hplugin⟩) (h provided rows)

/-- If both are read, the missing names are reported after what reading the plugin has to say. -/
theorem run_of_read (h : fs.InputsRead api plugin provided rows) :
    ∃ before, ∀ rawNames,
      let r : CheckRequest := ⟨plugin, api, rawNames⟩
      r.run fs =
        { outcome := .ofBool (missing rows provided).isEmpty
          lines := before ++ (missing rows provided).map r.missingLine ++ (allFound (missing rows provided)).map .record
          files := fs } := by
  obtain ⟨hlist, hplugin⟩ := FileSystem.inputsRead_iff.1 h
  refine ⟨(readPlugin fs plugin).log.map .record, fun rawNames => ?_⟩
  intro r
  have hsuccess : (check (Policy.required.names rows) provided r.demangler).isSuccess =
      (missing rows provided).isEmpty := List.isEmpty_map
  rw [run_of_list (r := r) hlist, result_readPlugin hplugin]
  simp only [Report.ofLog, log_print, hsuccess, List.map_append, List.append_assoc, List.map_map]
  rfl

/-- The report but for the missing names does not depend on how names are shown, and it tells of a failure unless both
inputs were read and nothing is missing. -/
theorem exists_run_eq (fs : FileSystem) (plugin api : Path) :
    ∃ (passed : Bool) (before after : List Line) (missing : List String),
      (passed = true ↔ ∃ provided rows, fs.InputsRead api plugin provided rows ∧
        ∀ name, Requires rows name → name ∈ provided) ∧
      Ascending id missing ∧
      (∀ name, name ∈ missing ↔ ∃ provided rows, fs.InputsRead api plugin provided rows ∧
        Requires rows name ∧ name ∉ provided) ∧
      ∀ rawNames, let r : CheckRequest := ⟨plugin, api, rawNames⟩
        r.run fs =
          { outcome := .ofBool passed, lines := before ++ missing.map r.missingLine ++ after, files := fs } := by
  by_cases hread : ∃ provided rows, fs.InputsRead api plugin provided rows
  · obtain ⟨provided, rows, hread⟩ := hread
    obtain ⟨before, hrun⟩ := run_of_read hread
    refine ⟨_, before, _, missing rows provided, ?_, List.Pairwise.filter _ (SymbolSet.ascending _), ?_, hrun⟩
    · rw [List.isEmpty_iff, List.eq_nil_iff_forall_not_mem]
      constructor
      · intro hnone
        refine ⟨provided, rows, hread, fun name hrequires => ?_⟩
        by_contra hmissing
        exact hnone name (mem_missing_iff.2 ⟨hrequires, hmissing⟩)
      · rintro ⟨provided', rows', hread', hall⟩ name hname
        obtain ⟨rfl, rfl⟩ := hread.unique hread'
        obtain ⟨hrequires, hmissing⟩ := mem_missing_iff.1 hname
        exact hmissing (hall name hrequires)
    · intro name
      rw [mem_missing_iff]
      constructor
      · rintro ⟨hrequires, hmissing⟩
        exact ⟨provided, rows, hread, hrequires, hmissing⟩
      · rintro ⟨provided', rows', hread', hname⟩
        obtain ⟨rfl, rfl⟩ := hread.unique hread'
        exact hname
  · have hnone : ∀ provided rows, ¬ fs.InputsRead api plugin provided rows :=
      fun provided rows h => hread ⟨provided, rows, h⟩
    obtain ⟨log, e, hrun⟩ := run_of_unread hnone
    refine ⟨false, (log ++ (Logged.error e.message).log).map .record, [], [], ?_, List.Pairwise.nil, ?_, ?_⟩
    · simp [hnone]
    · simp [hnone]
    · intro rawNames r
      rw [hrun]
      simp [Report.ofError, Outcome.ofBool]

/-- What is required are the names of the references. -/
private theorem passes_iff : (∃ provided rows, fs.InputsRead api plugin provided rows ∧
      ∀ name, Requires rows name → name ∈ provided) ↔
    ∃ contents provided image rows, fs.readText api = .ok contents ∧
      parseSymbolList contents (if api.extension? = some "json" then .json else .text) api = .ok provided ∧
      fs.readBytes plugin = .ok image ∧ parseSymbols image plugin = .ok rows ∧
      ∀ s ∈ rows, s.binding = .global → s.home = .undefined → s.name ≠ "" → s.name ∈ provided := by
  constructor
  · rintro ⟨provided, rows, ⟨⟨contents, htext, hparsed⟩, image, hbytes, hrows⟩, hall⟩
    refine ⟨contents, provided, image, rows, htext, hparsed, hbytes, hrows, ?_⟩
    exact fun s hs hglobal hhome hname => hall s.name ⟨hname, s, hs, hglobal, hhome, rfl⟩
  · rintro ⟨contents, provided, image, rows, htext, hparsed, hbytes, hrows, hall⟩
    refine ⟨provided, rows, ⟨⟨contents, htext, hparsed⟩, image, hbytes, hrows⟩, ?_⟩
    rintro _ ⟨hname, s, hs, hglobal, hhome, rfl⟩
    exact hall s hs hglobal hhome hname

/-- A call that checks a plugin. It succeeds exactly if the list and the plugin can be read and parsed, the list as JSON
if its name has the extension `json` and else as text, and each name that the plugin refers to is in the list. It changes
no file and prints nothing but records. Readable names make no
difference to the status, nor to which names are reported missing and in which order. -/
theorem execute_check (e : Environment) (fs : FileSystem) (plugin api : Path) :
    let request (rawNames : Bool) : CheckRequest := ⟨plugin, api, rawNames⟩
    (plugin.text ≠ "" → api.text ≠ "" →
      ∀ rawNames, Requests (request rawNames).arguments (.check (request rawNames))) ∧
    (∀ rawNames arguments, Requests arguments (.check (request rawNames)) →
      let done := execute e fs arguments
      (done.code = 0 ↔ ∃ contents provided image rows, fs.readText api = .ok contents ∧
        parseSymbolList contents (if api.extension? = some "json" then .json else .text) api = .ok provided ∧
        fs.readBytes plugin = .ok image ∧ parseSymbols image plugin = .ok rows ∧
        ∀ s ∈ rows, s.binding = .global → s.home = .undefined → s.name ≠ "" → s.name ∈ provided) ∧
      (done.code = 0 ∨ done.code = 1) ∧ done.files = fs ∧ done.stdout = "") ∧
    (∀ raw readable, Requests raw (.check (request true)) → Requests readable (.check (request false)) →
      (execute e fs raw).code = (execute e fs readable).code) ∧
    ∃ (before after : List Line) (missing : List String), Ascending id missing ∧
      (∀ name, name ∈ missing ↔ ∃ provided rows, fs.InputsRead api plugin provided rows ∧
        Requires rows name ∧ name ∉ provided) ∧
      ∀ rawNames arguments, Requests arguments (.check (request rawNames)) →
        ∃ verbose, (execute e fs arguments).stderr = String.join
          ((before ++ missing.map (request rawNames).missingLine ++ after).map
            (Line.print (Level.ofVerbose verbose) e.colorsLog)) := by
  intro request
  obtain ⟨passed, before, after, missing, hpassed, hascending, hmissing, hrun⟩ := exists_run_eq fs plugin api
  have hexecute (rawNames : Bool) (arguments : List String) (h : Requests arguments (.check (request rawNames))) :
      ∃ verbose, execute e fs arguments = ⟨(Outcome.ofBool passed).code, "",
        String.join ((before ++ missing.map (request rawNames).missingLine ++ after).map
          (Line.print (Level.ofVerbose verbose) e.colorsLog)), fs⟩ := by
    obtain ⟨verbose, hverbose⟩ := h.exists_execute_eq e fs
    refine ⟨verbose, ?_⟩
    rw [hverbose]
    dsimp only [Request.run]
    rw [hrun rawNames]
  refine ⟨fun hplugin hapi rawNames => requests_arguments hplugin hapi, ?_, ?_, before, after, missing, hascending,
    hmissing, ?_⟩
  · intro rawNames arguments hrequests done
    obtain ⟨verbose, hdone⟩ := hexecute rawNames arguments hrequests
    have hcode : done.code = (Outcome.ofBool passed).code := congrArg Result.code hdone
    refine ⟨?_, ?_, congrArg Result.files hdone, congrArg Result.stdout hdone⟩
    · rw [hcode, Outcome.code_ofBool_eq_zero_iff, hpassed, passes_iff]
    · rw [hcode]
      exact Outcome.code_ofBool_eq_zero_or_one
  · intro raw readable hraw hreadable
    obtain ⟨_, hdone⟩ := hexecute true raw hraw
    obtain ⟨_, hdone'⟩ := hexecute false readable hreadable
    rw [hdone, hdone']
  · intro rawNames arguments hrequests
    obtain ⟨verbose, hdone⟩ := hexecute rawNames arguments hrequests
    exact ⟨verbose, congrArg Result.stderr hdone⟩

private theorem nul_not_mem_plain : (0 : UInt8) ∉ [0x64, 0x72, 0x61, 0x77] := by decide

private theorem nul_not_mem_mangled : (0 : UInt8) ∉ [0x5f, 0x5a, 0x34, 0x66, 0x69, 0x6c, 0x6c, 0x76] := by decide

/-- A plugin that refers to `draw`, and to the function `fill()` by its mangled name. -/
def fillPlugin : List Elf.SymbolRow :=
  [referenceRow [0x64, 0x72, 0x61, 0x77] nul_not_mem_plain,
    referenceRow [0x5f, 0x5a, 0x34, 0x66, 0x69, 0x6c, 0x6c, 0x76] nul_not_mem_mangled]

private theorem symbols_fillPlugin : fillPlugin.map Elf.SymbolRow.symbol =
    [⟨"draw", .global, .noType, .undefined, .default, 0⟩, ⟨"_Z4fillv", .global, .noType, .undefined, .default, 0⟩] := by
  decide +kernel

private theorem inputsRead_text :
    (FileSystem.board "api.txt" "draw\n" fillPlugin).InputsRead ⟨"api.txt"⟩ ⟨"main.elf"⟩ (SymbolSet.ofLines "draw\n")
      (fillPlugin.map Elf.SymbolRow.symbol) :=
  FileSystem.inputsRead_board (by decide) (by decide) (by decide) rfl (by decide)

/-- A JSON list of both names. -/
def fillList : String := "[\"draw\", \"_Z4fillv\"]"

private theorem inputsRead_json :
    (FileSystem.board "api.json" fillList fillPlugin).InputsRead ⟨"api.json"⟩ ⟨"main.elf"⟩
      (SymbolSet.ofList ["draw", "_Z4fillv"]) (fillPlugin.map Elf.SymbolRow.symbol) :=
  FileSystem.inputsRead_board (by decide) (by decide) (by decide) (by decide +kernel) (by decide)

private theorem requires_fillPlugin_iff {name : String} :
    Requires (fillPlugin.map Elf.SymbolRow.symbol) name ↔ name = "draw" ∨ name = "_Z4fillv" := by
  rw [symbols_fillPlugin]
  constructor
  · rintro ⟨-, s, hs, -, -, rfl⟩
    rcases List.mem_cons.1 hs with rfl | hs
    · exact .inl rfl
    · exact .inr (by rw [List.mem_singleton.1 hs])
  · rintro (rfl | rfl)
    · exact ⟨by decide, _, List.mem_cons_self, rfl, rfl, rfl⟩
    · exact ⟨by decide, _, List.mem_cons_of_mem _ List.mem_cons_self, rfl, rfl, rfl⟩

private theorem readable?_fill : Demangle.readable? "_Z4fillv" = some "fill()" := by decide +kernel

private theorem print_missingLine (verbose rawNames : Bool) :
    Line.print (Level.ofVerbose verbose) Environment.bare.colorsLog
        (missingLine ⟨⟨"main.elf"⟩, ⟨"api.txt"⟩, rawNames⟩ "_Z4fillv") =
      if rawNames then "error: Symbol in plugin not found in api: _Z4fillv\n"
      else "error: Symbol in plugin not found in api: fill() (_Z4fillv)\n" := by
  have hreadable (rawNames : Bool) : demangler ⟨⟨"main.elf"⟩, ⟨"api.txt"⟩, rawNames⟩ "_Z4fillv" =
      if rawNames then none else some "fill()" := by
    cases rawNames
    · rw [demangler, if_neg Bool.false_ne_true, if_neg Bool.false_ne_true, readable?_fill]
    · rw [demangler, if_pos rfl, if_pos rfl, Demangler.never]
  rw [missingLine, hreadable]
  cases verbose <;> cases rawNames <;> rfl

private theorem exists_around (print : Line → String) (before after : List Line) (line : Line) :
    ∃ head tail, String.join ((before ++ [line] ++ after).map print) = head ++ print line ++ tail :=
  ⟨String.join (before.map print), String.join (after.map print), by simp [String.append_assoc]⟩

theorem mangled_name_reported :
    let files := FileSystem.board "api.txt" "draw\n" fillPlugin
    let raw := execute .bare files (CheckRequest.mk ⟨"main.elf"⟩ ⟨"api.txt"⟩ true).arguments
    let readable := execute .bare files (CheckRequest.mk ⟨"main.elf"⟩ ⟨"api.txt"⟩ false).arguments
    let listed := execute .bare (.board "api.json" fillList fillPlugin)
      (CheckRequest.mk ⟨"main.elf"⟩ ⟨"api.json"⟩ false).arguments
    raw.code = 1 ∧ readable.code = 1 ∧ listed.code = 0 ∧ readable.files = files ∧ readable.stdout = "" ∧
      (∃ before after, raw.stderr = before ++ "error: Symbol in plugin not found in api: _Z4fillv\n" ++ after) ∧
      ∃ before after, readable.stderr =
        before ++ "error: Symbol in plugin not found in api: fill() (_Z4fillv)\n" ++ after := by
  intro files raw readable listed
  obtain ⟨hspelled, hcalls, hsame, before, after, missing, hascending, hmissing, hstderr⟩ :=
    execute_check .bare files ⟨"main.elf"⟩ ⟨"api.txt"⟩
  have hrequests := hspelled (by decide) (by decide)
  have hread := inputsRead_text
  obtain rfl : missing = ["_Z4fillv"] := by
    refine Ascending.eq_of_mem_iff hascending (List.pairwise_singleton _ _) fun name => ?_
    rw [hmissing, List.mem_singleton]
    constructor
    · rintro ⟨provided, rows, hread', hrequires, hnot⟩
      obtain ⟨rfl, rfl⟩ := hread.unique hread'
      refine (requires_fillPlugin_iff.1 hrequires).resolve_left ?_
      rintro rfl
      exact hnot (by decide)
    · rintro rfl
      exact ⟨_, _, hread, requires_fillPlugin_iff.2 (.inr rfl), by decide⟩
  obtain ⟨hzero, hcode, hfiles, hstdout⟩ := hcalls false _ (hrequests false)
  have hfailed : readable.code = 1 := by
    refine hcode.resolve_left fun h => ?_
    obtain ⟨provided, rows, hread', hall⟩ := passes_iff.2 (hzero.1 h)
    obtain ⟨rfl, rfl⟩ := hread.unique hread'
    exact absurd (hall "_Z4fillv" (requires_fillPlugin_iff.2 (.inr rfl))) (by decide)
  have hpassed : listed.code = 0 := by
    obtain ⟨hspelled', hcalls', -⟩ :=
      execute_check .bare (.board "api.json" fillList fillPlugin) ⟨"main.elf"⟩ ⟨"api.json"⟩
    refine (hcalls' false _ (hspelled' (by decide) (by decide) false)).1.2 (passes_iff.1 ⟨_, _, inputsRead_json, ?_⟩)
    intro name hrequires
    rcases requires_fillPlugin_iff.1 hrequires with rfl | rfl <;> decide
  refine ⟨(hsame _ _ (hrequests true) (hrequests false)).trans hfailed, hfailed, hpassed, hfiles, hstdout, ?_, ?_⟩
  · obtain ⟨verbose, hlines⟩ := hstderr true _ (hrequests true)
    obtain ⟨head, tail, htext⟩ := exists_around (Line.print (Level.ofVerbose verbose) Environment.bare.colorsLog)
      before after (missingLine ⟨⟨"main.elf"⟩, ⟨"api.txt"⟩, true⟩ "_Z4fillv")
    rw [print_missingLine] at htext
    exact ⟨head, tail, hlines.trans htext⟩
  · obtain ⟨verbose, hlines⟩ := hstderr false _ (hrequests false)
    obtain ⟨head, tail, htext⟩ := exists_around (Line.print (Level.ofVerbose verbose) Environment.bare.colorsLog)
      before after (missingLine ⟨⟨"main.elf"⟩, ⟨"api.txt"⟩, false⟩ "_Z4fillv")
    rw [print_missingLine] at htext
    exact ⟨head, tail, hlines.trans htext⟩

end FirmwareSymbols.CommandLine.CheckRequest
