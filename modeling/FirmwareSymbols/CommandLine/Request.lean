import FirmwareSymbols.CommandLine.Call
import FirmwareSymbols.Raster.Job

/-!
# Requests

What the program is asked to do, with everything that the options say about it.
-/

namespace FirmwareSymbols.CommandLine

/-- Dump the names that plugins may use. -/
structure DumpRequest where
  directories : List Path
  files : List Path
  extensions : List String
  textOut : Option Path
  jsonOut : Option Path

/-- Check that a plugin can be loaded. -/
structure CheckRequest where
  plugin : Path
  api : Path
  rawNames : Bool

/-- Find the addresses of names in a linked binary. -/
structure FindRequest where
  symbols : Path
  binary : Path
  out : Path
  legacyPadding : Bool

/-- Convert drawings. -/
structure ConvertRequest where
  input : Path
  output : Path
  job : Raster.Job
  /-- How long each conversion may take, in seconds. -/
  patience : Nat

inductive Request
  | dump (r : DumpRequest)
  | check (r : CheckRequest)
  | find (r : FindRequest)
  | convert (r : ConvertRequest)

namespace Given

def path (g : Given) (name : String) : Path := ⟨(g.value? name).getD ""⟩

def path? (g : Given) (name : String) : Option Path := (g.value? name).map Path.mk

def paths (g : Given) (name : String) : List Path := (g.values name).map Path.mk

def hasName (g : Given) (name : String) : Bool := g.any fun (o, _) => o.name = name

/-- The number that was given, if it has so many bits. -/
def number? (g : Given) (name : String) (bits : Nat) : Option Nat :=
  (g.value? name).bind fun value => (CommandLine.number? bits value).toOption

def job (g : Given) : Raster.Job where
  background := if g.hasName "--white" then .white else .transparent
  size := ((g.number? "--height" 32).map fun n => Raster.ExportSize.height (UInt32.ofNat n)).getD .auto
  layer := g.value? "--layer"

end Given

/-- The request that a call makes. -/
def Call.request (c : Call) : Request :=
  let g := c.given
  match c.command with
  | .dumpSymbols =>
    .dump ⟨g.paths "--objdir", g.paths "--objfile", g.values "--ext" ["obj"], g.path? "--text-out",
      g.path? "--json-out"⟩
  | .checkSymbols => .check ⟨g.path "--plugin", g.path "--api", g.hasName "--no-demangle"⟩
  | .findSymbols => .find ⟨g.path "--symbols", g.path "--elf", g.path "--out", g.hasName "--legacy-padding"⟩
  | .svgToPng => .convert ⟨g.path "--input", g.path "--output", g.job, (g.number? "--timeout-secs" 64).getD 60⟩

end FirmwareSymbols.CommandLine
