import FirmwareSymbols.FileSystem.Write
import FirmwareSymbols.Json.Reader
import FirmwareSymbols.Json.Writer
import FirmwareSymbols.SymbolSet
import FirmwareSymbols.Text.Lines

/-!
# Symbol lists

The files in which sets of symbol names are kept. A JSON list is an array of names, or an object whose keys are the
names; a text list has one name per line, blanks at the end of a line and empty lines not counting.
-/

namespace FirmwareSymbols

inductive ListFormat
  | json
  | text
deriving DecidableEq, Repr

namespace ListFormat

/-- Files with the extension `json` are JSON, all others text. -/
def ofPath (p : Path) : ListFormat := if p.extension? = some "json" then .json else .text

end ListFormat

namespace SymbolSet

/-- The text of a JSON string. -/
def stringText? : Json.Value → Option String
  | .string text => some (String.ofList text)
  | _ => none

/-- The names that a JSON value lists. -/
def namesOfJson? : Json.Value → Option (List String)
  | .array items => items.mapM stringText?
  | .object members => some (members.map fun member => String.ofList member.1)
  | _ => none

def ofJson? (contents : String) : Option SymbolSet := do
  return ofList (← namesOfJson? (← Json.parse? contents.toList))

def ofLines (contents : String) : SymbolSet :=
  ofList ((Text.lines contents.toList).map fun line => String.ofList (Text.trimEnd line))

def toJson (s : SymbolSet) : String := String.ofList (Json.stringArray (s.names.map String.toList))

def toLines (s : SymbolSet) : String := String.join (s.names.map (· ++ "\n"))

def render (s : SymbolSet) : ListFormat → String
  | .json => s.toJson
  | .text => s.toLines

end SymbolSet

/-- Reads a list; the path is that of the report. -/
def parseSymbolList (contents : String) (format : ListFormat) (path : Path) : Except ToolError SymbolSet :=
  match format with
  | .text => .ok (SymbolSet.ofLines contents)
  | .json =>
    match SymbolSet.ofJson? contents with
    | some s => .ok s
    | none => .error (.symbolList path "expected a JSON array of names or an object")

namespace FileSystem

/-- Reads a list in the format that its name tells. -/
def readSymbolList (fs : FileSystem) (path : Path) : Except ToolError SymbolSet :=
  match fs.readText path with
  | .error cause => .error (.io path cause)
  | .ok contents => parseSymbolList contents (ListFormat.ofPath path) path

def writeSymbolList (fs : FileSystem) (path : Path) (s : SymbolSet) (format : ListFormat) :
    Except ToolError Unit × FileSystem :=
  fs.writeAtomic path (s.render format).toUTF8

end FileSystem

end FirmwareSymbols
