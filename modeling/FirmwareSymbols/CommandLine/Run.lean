import FirmwareSymbols.AllowList
import FirmwareSymbols.Check
import FirmwareSymbols.CommandLine.Request
import FirmwareSymbols.Demangle.Readable
import FirmwareSymbols.Raster.Conversion
import FirmwareSymbols.Resolution
import FirmwareSymbols.SymbolList

/-!
# Carrying out requests

Each request has an outcome, a log, a text for standard output, and the files as it leaves them. The exit status is
zero exactly if the request passed.
-/

namespace FirmwareSymbols.CommandLine

inductive Outcome
  | passed
  | failed
  /-- The program broke off. -/
  | crashed
deriving DecidableEq, Repr

def Outcome.code : Outcome → Nat
  | .passed => 0
  | .failed => 1
  | .crashed => 101

def Outcome.ofBool (passed : Bool) : Outcome := if passed then .passed else .failed

/-- What is written to standard error: log records, and what a rasterizer writes there itself. -/
inductive Line
  | record (r : Record)
  | raw (text : String)
deriving DecidableEq, Repr

/-- How standard output takes a text: `none` if it takes all of it, or else what it takes, and why no more. -/
abbrev StandardOutput := String → Option (String × IoCause)

/-- What standard output holds of a text that was written to it. -/
def StandardOutput.taken (out : StandardOutput) (text : String) : String :=
  match out text with
  | none => text
  | some (part, _) => part

/-- What has come of a request. -/
structure Report where
  outcome : Outcome
  lines : List Line
  stdout : String := ""
  files : FileSystem

namespace Report

/-- A request that ends with an error. -/
def ofError (fs : FileSystem) (log : List Record) (e : ToolError) (stdout : String := "") : Report :=
  { outcome := .failed, lines := (log ++ (Logged.error e.message).log).map .record, stdout, files := fs }

/-- A request that has come to its end. -/
def ofLog (fs : FileSystem) (log : List Record) (passed : Bool) (stdout : String := "") : Report :=
  { outcome := .ofBool passed, lines := log.map .record, stdout, files := fs }

end Report

/-- Writes a list to an optional path. -/
def writeIfAsked (fs : FileSystem) (s : SymbolSet) (format : ListFormat) :
    Option Path → Except ToolError Unit × FileSystem
  | none => (.ok (), fs)
  | some path => fs.writeSymbolList path s format

namespace DumpRequest

def buildList (fs : FileSystem) (r : DumpRequest) : Logged AllowList := do
  let built ← AllowList.build fs { extensions := r.extensions } r.files r.directories
  Logged.debug (toString built.symbols.size ++ " symbols available to plugins")
  return built

/-- Writes the list to standard output, unless it goes to a file, and tells what was taken of it. -/
def print (out : StandardOutput) (r : DumpRequest) (s : SymbolSet) : Except ToolError Unit × String :=
  if r.jsonOut.isNone && r.textOut.isNone then
    match out s.toLines with
    | none => (.ok (), s.toLines)
    | some (part, cause) => (.error (.io ⟨"<stdout>"⟩ cause), part)
  else (.ok (), "")

/-- Says how many inputs failed. -/
def conclusion (built : AllowList) : List Record :=
  if built.isComplete then [] else (Logged.error (toString built.failures.length ++ " input(s) could not be read")).log

def run (out : StandardOutput) (fs : FileSystem) (r : DumpRequest) : Report :=
  let built := r.buildList fs
  match writeIfAsked fs built.result.symbols .json r.jsonOut with
  | (.error e, fs) => .ofError fs built.log e
  | (.ok (), fs) =>
    match writeIfAsked fs built.result.symbols .text r.textOut with
    | (.error e, fs) => .ofError fs built.log e
    | (.ok (), fs) =>
      match r.print out built.result.symbols with
      | (.error e, taken) => .ofError fs built.log e taken
      | (.ok (), taken) => .ofLog fs (built.log ++ conclusion built.result) built.result.isComplete taken

end DumpRequest

namespace CheckRequest

def demangler (r : CheckRequest) : Demangler := if r.rawNames then Demangler.never else Demangle.readable?

def run (fs : FileSystem) (r : CheckRequest) : Report :=
  match fs.readSymbolList r.api with
  | .error e => .ofError fs [] e
  | .ok provided =>
    let required : Logged (Except ToolError SymbolSet) := do
      Logged.info ("Checking if symbols in " ++ r.plugin.text ++ " would be resolved")
      fs.requiredNames r.plugin
    match required.result with
    | .error e => .ofError fs required.log e
    | .ok names =>
      let report := check names provided r.demangler
      .ofLog fs (required.log ++ report.print.log) report.isSuccess

end CheckRequest

namespace FindRequest

/-- Tells which names are looked for. -/
def announce (required : SymbolSet) : Logged Unit := do
  Logged.debug "API requires symbols:"
  required.names.forM Logged.debug
  Logged.debug "Finding symbol addresses"

def padding (r : FindRequest) : Padding := if r.legacyPadding then .legacy else .aligned

def run (fs : FileSystem) (r : FindRequest) : Report :=
  let start := (Logged.debug ("Looking for symbols in " ++ r.symbols.text)).log
  match fs.readSymbolList r.symbols with
  | .error e => .ofError fs start e
  | .ok required =>
    let found : Logged (Except ToolError Resolution) := do
      announce required
      fs.resolve required r.binary
    match found.result with
    | .error e => .ofError fs (start ++ found.log) e
    | .ok resolution =>
      let log := start ++ found.log ++ resolution.report.log ++ (Logged.debug "Writing symbol table").log
      match fs.writeAddressTable r.out resolution.table r.padding with
      | (.error e, fs) => .ofError fs log e
      | (.ok (), fs) => .ofLog fs log resolution.isComplete

end FindRequest

namespace ConvertRequest

/-- What a batch writes to standard error while it runs. -/
def itemLines (job : Raster.Job) (item : Raster.Item) : List Line :=
  (if item.messages = "" then [] else [.raw item.messages]) ++ (item.report job).log.map .record

/-- Why the program breaks off: a clock has no time for the end of the patience. -/
def crashMessage : String := "overflow when adding duration to instant"

/-- Converts the drawings with the rasterizer that was found. -/
def runWith (launcher : Raster.Launcher) (crashReport : String → String) (fs : FileSystem) (r : ConvertRequest)
    (rasterizer : Raster.Rasterizer) : Report :=
  let start := (Logged.debug ("Using " ++ rasterizer.program.text)).log
  match Raster.collectDrawings fs r.input with
  | .error e => .ofError fs start e
  | .ok svgs =>
    match fs.makeDirectories r.output with
    | .error cause => .ofError fs start (.io r.output cause)
    | .ok fs =>
      let (items, last) := Raster.convertEach rasterizer launcher r.output r.job fs svgs
      let lines := start.map .record ++ items.flatMap (itemLines r.job)
      if items.any fun item => item.attempt = .aborted then
        { outcome := .crashed, lines := lines ++ [.raw (crashReport crashMessage)], files := last }
      else
        let batch := Raster.Batch.ofItems items
        let count := Logged.info (toString batch.converted.length ++ " converted, " ++
          toString batch.failures.length ++ " failed")
        { outcome := .ofBool batch.failures.isEmpty, lines := lines ++ count.log.map .record, files := last }

def notFound : String :=
  Raster.programName ++ " is not found. Put it in your PATH, or set " ++ Raster.programVariable ++
    " to the path to the binary"

def run (launcher : Raster.Launcher) (crashReport : String → String) (searchPath named : Option String)
    (fs : FileSystem) (r : ConvertRequest) : Report :=
  match Raster.locate fs searchPath named with
  | none => .ofLog fs (Logged.error notFound).log false
  | some program => r.runWith launcher crashReport fs ⟨program, r.patience * 1000⟩

end ConvertRequest

/-- What surrounds a call: the search path for programs, the rasterizer that is named, how programs are started, whether
colour is asked for or declined, how standard output takes a text, and what is written to standard error for the message
with which the program breaks off. -/
structure Environment where
  searchPath : Option String
  rasterizer : Option String
  launcher : Raster.Launcher
  forceColor : Option String := none
  noColor : Option String := none
  stdout : StandardOutput := fun _ => none
  crashReport : String → String := fun message => message ++ "\n"

namespace Environment

/-- Whether log records are coloured. -/
def colorsLog (e : Environment) : Bool := e.forceColor.any (· ≠ "0")

/-- Whether help and the messages about a wrong call are coloured. -/
def colorsHelp (e : Environment) : Bool := e.forceColor.any (· ≠ "") && !e.noColor.any (· ≠ "")

end Environment

def Request.run (e : Environment) (fs : FileSystem) : Request → Report
  | .dump r => r.run e.stdout fs
  | .check r => r.run fs
  | .find r => r.run fs
  | .convert r => r.run e.launcher e.crashReport e.searchPath e.rasterizer fs

/-- A text for standard error as it is printed. -/
def Line.print (limit : Level) (color : Bool) : Line → String
  | .record r => Record.print limit color [r]
  | .raw text => text

/-- What a call comes to. -/
structure Result where
  code : Nat
  stdout : String
  stderr : String
  files : FileSystem

/-- The result of a call that makes no request. Whether standard output takes the help makes no difference to the
status. -/
def Answer.result (e : Environment) (fs : FileSystem) : Answer → Result
  | .help text => ⟨0, e.stdout.taken (text.render e.colorsHelp), "", fs⟩
  | .guidance text => ⟨2, "", text.render e.colorsHelp, fs⟩
  | .problem p => ⟨2, "", p.message.render e.colorsHelp, fs⟩

/-- Runs the program with these arguments. -/
def execute (e : Environment) (fs : FileSystem) (arguments : List String) : Result :=
  match Call.ofArguments arguments with
  | .error answer => answer.result e fs
  | .ok call =>
    let report := call.request.run e fs
    let limit := Level.ofVerbose call.isVerbose
    let lines := report.lines.map (Line.print limit e.colorsLog)
    ⟨report.outcome.code, report.stdout, String.join lines, report.files⟩

end FirmwareSymbols.CommandLine
