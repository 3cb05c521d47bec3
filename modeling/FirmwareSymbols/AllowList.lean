import FirmwareSymbols.Elf.Symbols
import FirmwareSymbols.FileSystem.Discovery
import FirmwareSymbols.SymbolSet

/-!
# Building the allow-list

The names that plugins may use: what the object files of the firmware define, and what its runtime provides without
any of them defining it. An input that cannot be read is recorded and contributes nothing.
-/

namespace FirmwareSymbols

/-- What the C runtime and the startup code provide. -/
def runtimeSymbols : List String :=
  ["malloc", "calloc", "realloc", "free", "_malloc_r", "_calloc_r", "_realloc_r", "_free_r", "_times_r", "memalign",
    "abort", "__assert_func", "_impure_ptr", "_impure_data", "__cxa_pure_virtual", "_exit", "_fini", "_getpid_r",
    "_open_r", "_close_r", "_fstat_r", "stat", "_isatty_r", "_write_r", "_kill_r", "_read_r", "_lseek_r", "_sbrk_r",
    "gettimeofday", "_gettimeofday", "_gettimeofday_r", "expm1l", "log1pl", "__atexit", "__aeabi_atexit",
    "__atexit_recursive_mutex", "_Z9get_ticksv"]

/-- Which files count as object files, and which names are provided in any case. -/
structure AllowListConfig where
  extensions : List String := ["obj"]
  implicitNames : List String := runtimeSymbols

/-- The names, and the inputs that could not be read. -/
structure AllowList where
  symbols : SymbolSet
  failures : List ToolError

namespace AllowList

def isComplete (a : AllowList) : Bool := a.failures.isEmpty

/-- Logs an error and keeps it. -/
def recordFailure (e : ToolError) : Logged ToolError := do
  Logged.error e.message
  return e

/-- The object files of a directory, and what could not be listed. -/
def inputsOf (fs : FileSystem) (config : AllowListConfig) (dir : Path) : Logged (List Path × List ToolError) := do
  match ← fs.discoverObjects dir config.extensions with
  | .error e => return ([], [← recordFailure e])
  | .ok discovery =>
    if discovery.objects.isEmpty then Logged.debug ("No object files in " ++ dir.text)
    let failures ← discovery.failures.mapM recordFailure
    return (discovery.objects, failures)

/-- Adds the names that an object file defines. -/
def addInput (fs : FileSystem) (a : AllowList) (path : Path) : Logged AllowList := do
  Logged.debug "------"
  Logged.debug ("Looking for symbols in " ++ path.text)
  match ← fs.extractSymbols path .provided with
  | .error e => return { a with failures := a.failures ++ [← recordFailure e] }
  | .ok symbols => return { a with symbols := a.symbols.insertMany (symbols.map Symbol.name) }

/-- What is noted of an implicit name that an input defines. -/
def implicitNote (name : String) : String :=
  "Note: implicit runtime symbol " ++ name ++
    " already found in object files, consider removing it from the implicit list"

/-- Tells which implicit names the inputs define anyway. -/
def noteImplicit (implicit found : SymbolSet) : Logged Unit :=
  (implicit.names.filter found.contains).forM fun name => Logged.info (implicitNote name)

def build (fs : FileSystem) (config : AllowListConfig) (files dirs : List Path) : Logged AllowList := do
  let discovered ← dirs.mapM (inputsOf fs config)
  let inputs := files ++ discovered.flatMap Prod.fst
  let found ← inputs.foldlM (addInput fs) ⟨.empty, discovered.flatMap Prod.snd⟩
  let implicit := SymbolSet.ofList config.implicitNames
  noteImplicit implicit found.symbols
  return { found with symbols := found.symbols ∪ implicit }

end AllowList

end FirmwareSymbols
