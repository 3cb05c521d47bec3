/-!
# Options

The commands of the program and the options that each of them takes.
-/

namespace FirmwareSymbols.CommandLine

/-- What has to follow an option. -/
inductive Takes
  | nothing
  /-- A path that is not empty. -/
  | path
  | text
  /-- Values separated by commas; the option may be given again. -/
  | paths
  | texts
  /-- A number of so many bits. -/
  | number (bits : Nat)
deriving DecidableEq, Repr

structure Opt where
  /-- As it is typed, with its dashes. -/
  name : String
  takes : Takes
  /-- What stands for the value in a usage line. -/
  valueName : String := ""
  help : String
  required : Bool := false
  default? : Option String := none
deriving DecidableEq, Repr

namespace Opt

def isLong (o : Opt) : Bool := "--".toList.isPrefixOf o.name.toList

def takesValue (o : Opt) : Bool := o.takes ≠ .nothing

def isRepeatable (o : Opt) : Bool := o.takes = .paths || o.takes = .texts

/-- The option with the name of its value. -/
def usage (o : Opt) : String := if o.takesValue then o.name ++ " <" ++ o.valueName ++ ">" else o.name

end Opt

/-- What can be asked of the program, or of one of its commands. -/
structure Spec where
  /-- The words that lead to it. -/
  usageName : String
  about : String
  /-- Its own options in their order. -/
  options : List Opt
  /-- Options that it shares with others. -/
  shared : List Opt := []
  hasHelp : Bool := true
  /-- A command has to follow. -/
  takesCommand : Bool := false

def programName : String := "plugin-syms"

def verbose : Opt := { name := "-v", takes := .nothing, help := "Verbose logging" }

def helpOption : Opt := { name := "--help", takes := .nothing, help := "Print help" }

namespace Spec

/-- The options in the order in which they are looked up. -/
def allOptions (s : Spec) : List Opt := s.options ++ s.shared ++ (if s.hasHelp then [helpOption] else [])

def required (s : Spec) : List Opt := s.options.filter Opt.required

/-- The option with this name. -/
def find? (s : Spec) (name : String) : Option Opt := s.allOptions.find? fun o => o.name = name

/-- The option that one letter stands for. -/
def findLetter? (s : Spec) (c : Char) : Option Opt :=
  if c = 'h' && s.hasHelp then some helpOption else s.find? (String.ofList ['-', c])

/-- The names of the options that start with two dashes, without these. -/
def longNames (s : Spec) : List String :=
  (s.allOptions.filter Opt.isLong).map fun o => String.ofList (o.name.toList.drop 2)

end Spec

inductive CommandName
  | dumpSymbols
  | checkSymbols
  | findSymbols
  | svgToPng
deriving DecidableEq, Repr

namespace CommandName

def all : List CommandName := [.dumpSymbols, .checkSymbols, .findSymbols, .svgToPng]

def text : CommandName → String
  | .dumpSymbols => "dump-symbols"
  | .checkSymbols => "check-symbols"
  | .findSymbols => "find-symbols"
  | .svgToPng => "svg-to-png"

def ofText? (word : String) : Option CommandName := all.find? fun c => c.text = word

def about : CommandName → String
  | .dumpSymbols => "Dump the symbols that plugins may use"
  | .checkSymbols => "Check that every symbol a plugin needs is in the API symbol list"
  | .findSymbols => "Find the addresses of the API symbols in the linked firmware"
  | .svgToPng => "Convert SVG artwork to PNG with Inkscape"

def options : CommandName → List Opt
  | .dumpSymbols =>
    [{ name := "--objdir", takes := .paths, valueName := "OBJDIRS", required := true,
       help := "Directory searched recursively for object files with the symbols to make available" },
     { name := "--objfile", takes := .paths, valueName := "OBJFILES",
       help := "Object file with symbols to make available" },
     { name := "--ext", takes := .texts, valueName := "EXTENSIONS", default? := some "obj",
       help := "Object file extensions picked up in --objdir" },
     { name := "--text-out", takes := .path, valueName := "TEXT_OUT",
       help := "File to write the symbol names to, one per line" },
     { name := "--json-out", takes := .path, valueName := "JSON_OUT",
       help := "File to write the symbol names to as a JSON array" }]
  | .checkSymbols =>
    [{ name := "--plugin", takes := .path, valueName := "PLUGIN", required := true,
       help := "Plugin file to check (.so)" },
     { name := "--api", takes := .path, valueName := "API", required := true,
       help := "API-provided symbols (json or text file)" },
     { name := "--no-demangle", takes := .nothing, help := "Report missing symbols by their raw names" }]
  | .findSymbols =>
    [{ name := "--symbols", takes := .path, valueName := "SYMBOLS", required := true,
       help := "File with the symbol names to find (json or plain text)" },
     { name := "--elf", takes := .path, valueName := "ELF", required := true,
       help := "Fully linked ELF file to scan (main.elf)" },
     { name := "--out", takes := .path, valueName := "OUT", required := true,
       help := "Output symbol table (yaml)" },
     { name := "--legacy-padding", takes := .nothing,
       help := "Pad the table the way older releases did, for byte-exact output" }]
  | .svgToPng =>
    [{ name := "--input", takes := .path, valueName := "INPUT", required := true,
       help := "An .svg file or a directory containing .svg files" },
     { name := "--output", takes := .path, valueName := "OUTPUT", required := true,
       help := "Directory for the converted .png files" },
     { name := "--white", takes := .nothing, help := "White background instead of transparency" },
     { name := "--height", takes := .number 32, valueName := "HEIGHT",
       help := "Height in pixels. Deduced from the document if omitted" },
     { name := "--layer", takes := .text, valueName := "LAYER", help := "Export only this layer" },
     { name := "--timeout-secs", takes := .number 64, valueName := "TIMEOUT_SECS", default? := some "60",
       help := "Seconds to wait for each conversion" }]

def spec (c : CommandName) : Spec :=
  { usageName := programName ++ " " ++ c.text, about := c.about, options := c.options, shared := [verbose] }

end CommandName

/-- The word that asks for help. -/
def helpWord : String := "help"

def helpAbout : String := "Print this message or the help of the given subcommand(s)"

def programSpec : Spec :=
  { usageName := programName, about := "Check and locate the firmware symbols used by plugins", options := [verbose],
    takesCommand := true }

def helpSpec : Spec :=
  { usageName := programName ++ " " ++ helpWord, about := helpAbout, options := [], hasHelp := false }

/-- The words that can stand in the place of a command. -/
def commandWords : List String := CommandName.all.map CommandName.text ++ [helpWord]

end FirmwareSymbols.CommandLine
