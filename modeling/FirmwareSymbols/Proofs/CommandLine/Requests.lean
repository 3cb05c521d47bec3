import FirmwareSymbols.CommandLine.Run
import FirmwareSymbols.Proofs.Elf.Assembly
import FirmwareSymbols.Proofs.FileSystem.Resolve

/-!
# Calls that make a request

Arguments make a request if they are read as a call for it (`Requests`). Then the request alone decides what the call
comes to, but for the level from which records are printed (`Requests.exists_execute_eq`). Requests that need a list of
names and a binary file go on only if both can be read (`InputsRead`).
-/

namespace FirmwareSymbols

namespace FileSystem

variable {fs : FileSystem} {list binary : Path} {names names' : SymbolSet} {rows rows' : List Symbol}

/-- A list is read in the format that the extension of its name tells. -/
theorem readSymbolList_eq_ok_iff : fs.readSymbolList list = .ok names ↔
    ∃ contents, fs.readText list = .ok contents ∧
      parseSymbolList contents (if list.extension? = some "json" then .json else .text) list = .ok names := by
  unfold readSymbolList
  cases fs.readText list with
  | error cause => simp
  | ok contents => simp [ListFormat.ofPath]

theorem readSymbols_eq_ok_iff : fs.readSymbols binary = .ok rows ↔
    ∃ image, fs.readBytes binary = .ok image ∧ parseSymbols image binary = .ok rows := by
  unfold readSymbols
  cases fs.readBytes binary <;> simp

/-- A list of names and a binary file can be read and parsed, the list as JSON exactly if its name has the extension
`json`, and this is what they have. -/
structure InputsRead (fs : FileSystem) (list binary : Path) (names : SymbolSet) (rows : List Symbol) : Prop where
  list : ∃ contents, fs.readText list = .ok contents ∧
    parseSymbolList contents (if list.extension? = some "json" then .json else .text) list = .ok names
  binary : ∃ image, fs.readBytes binary = .ok image ∧ parseSymbols image binary = .ok rows

theorem inputsRead_iff : fs.InputsRead list binary names rows ↔
    fs.readSymbolList list = .ok names ∧ fs.readSymbols binary = .ok rows := by
  rw [readSymbolList_eq_ok_iff, readSymbols_eq_ok_iff]
  exact ⟨fun h => ⟨h.list, h.binary⟩, fun h => ⟨h.1, h.2⟩⟩

theorem InputsRead.unique (h : fs.InputsRead list binary names rows) (h' : fs.InputsRead list binary names' rows') :
    names = names' ∧ rows = rows' := by
  obtain ⟨hlist, hbinary⟩ := inputsRead_iff.1 h
  obtain ⟨hlist', hbinary'⟩ := inputsRead_iff.1 h'
  exact ⟨Except.ok.inj (hlist.symm.trans hlist'), Except.ok.inj (hbinary.symm.trans hbinary')⟩

/-- A file with a list beside a binary `main.elf` with these rows. -/
def board (list contents : String) (rows : List Elf.SymbolRow) : FileSystem where
  nodes := [([list], .file contents.toUTF8 false), (["main.elf"], .file (imageOfRows rows) false)]
  working := []

theorem inputsRead_board {list contents : String} {rows : List Elf.SymbolRow} (hname : IsName list)
    (hnul : '\x00' ∉ list.toList) (hlist : list ≠ "main.elf")
    (hparsed : parseSymbolList contents (if Path.extension? ⟨list⟩ = some "json" then .json else .text) ⟨list⟩ =
      .ok names) (hfits : Elf.FitsClass .w32 rows) :
    (board list contents rows).InputsRead ⟨list⟩ ⟨"main.elf"⟩ names (rows.map Elf.SymbolRow.symbol) where
  list := by
    have hnode : (board list contents rows).node? [list] = some (.file contents.toUTF8 false) := by
      simp [board, node?]
    exact ⟨contents, readText_name hname hnul rfl hnode, hparsed⟩
  binary := by
    have hne : (["main.elf"] == [list]) = false := beq_eq_false_iff_ne.2 fun h => hlist (List.singleton_inj.1 h).symm
    have hnode : (board list contents rows).node? ["main.elf"] = some (.file (imageOfRows rows) false) := by
      rw [node?, if_neg (List.cons_ne_nil _ _), board, List.lookup_cons, hne, List.lookup_cons_self]
    have hbytes : (board list contents rows).readBytes ⟨"main.elf"⟩ = .ok (imageOfRows rows) :=
      readBytes_name (by decide) (by decide) rfl hnode
    exact ⟨_, hbytes, parseSymbols_imageOfRows hfits _⟩

end FileSystem

namespace CommandLine

/-- The arguments are understood as a call that makes the request. -/
def Requests (arguments : List String) (request : Request) : Prop :=
  ∃ call, Call.ofArguments arguments = .ok call ∧ call.request = request

namespace Requests

variable {arguments : List String} {request : Request} (h : Requests arguments request) (e : Environment)
  (fs : FileSystem)

include h

/-- What comes of the arguments is what comes of the request, and what is printed of its lines. -/
theorem exists_execute_eq :
    let report := request.run e fs
    ∃ verbose, execute e fs arguments = ⟨report.outcome.code, report.stdout,
      String.join (report.lines.map (Line.print (Level.ofVerbose verbose) e.colorsLog)), report.files⟩ := by
  obtain ⟨call, hcall, rfl⟩ := h
  exact ⟨call.isVerbose, by rw [execute, hcall]⟩

theorem code_execute : (execute e fs arguments).code = (request.run e fs).outcome.code := by
  obtain ⟨verbose, hexecute⟩ := h.exists_execute_eq e fs
  rw [hexecute]

theorem stdout_execute : (execute e fs arguments).stdout = (request.run e fs).stdout := by
  obtain ⟨verbose, hexecute⟩ := h.exists_execute_eq e fs
  rw [hexecute]

theorem files_execute : (execute e fs arguments).files = (request.run e fs).files := by
  obtain ⟨verbose, hexecute⟩ := h.exists_execute_eq e fs
  rw [hexecute]

end Requests

/-- Surroundings that name nothing, and in which no program can be started. -/
def Environment.bare : Environment where
  searchPath := none
  rasterizer := none
  launcher _ _ _ _ := .error .notFound

namespace Outcome

variable {passed : Bool}

@[simp] theorem code_ofBool_eq_zero_iff : (ofBool passed).code = 0 ↔ passed = true := by
  cases passed <;> simp [ofBool, code]

theorem code_ofBool_eq_zero_or_one : (ofBool passed).code = 0 ∨ (ofBool passed).code = 1 := by
  cases passed
  · exact .inr rfl
  · exact .inl rfl

end Outcome

end CommandLine

end FirmwareSymbols
