import FirmwareSymbols.Raster.Launch
import FirmwareSymbols.Main.Script.Execution

/-!
# Starting programs

The launcher for the programs of the system and for scripts. A program gets the variables of those who start it, can
read nothing from its standard input, and writes its messages where they see them.
-/

namespace FirmwareSymbols.Script

open Raster (ExitStatus)

/-- How deep commands may be nested. -/
def depthLimit : Nat := 400

/-- How many commands a run may take. -/
def commandLimit : Nat := 100000

/-- The number of the first process of a run. -/
def firstProcess : Nat := 1000

/-- What those who started a run see of it. -/
structure Run where
  machine : Machine
  /-- How it ends, if it does before nobody waits any more. -/
  ending : Option ExitStatus

/-- Runs a program up to its end. Processes that run on their own go on for as long as it does. -/
def runImage (below : Level) (image : Image) : Action ExitStatus := do
  let result ← attempt (below.toEnd do
    pass 1
    below.execute image)
  let m ← get
  for d in m.deferred do
    let _ ← attempt (below.carryOut d (min m.time m.patience))
  resume result

/-- The state at the start of a run. -/
def initial (files : FileSystem) (environment : List (String × String)) (patience : Nat) : Machine :=
  { files
    streams := #[{ target := .null, writes := false }, { target := .null }, { target := .messages }]
    patience
    budget := commandLimit
    nextProcess := firstProcess + 1
    shell :=
      { name := ""
        vars := environment.map fun (name, value) => (name, { value, isExported := true })
        descriptors := [(0, 0), (1, 1), (2, 2)]
        process := firstProcess
        own := firstProcess } }

def run (image : Image) (start : Machine) : Run :=
  match (runImage (levels depthLimit) image).run start with
  | (.ok status, machine) => ⟨machine, some status⟩
  | (.error _, machine) => ⟨machine, none⟩

/-- The run as it is seen by those who started it. -/
def Run.launch (r : Run) : Raster.Launch :=
  let m := r.machine
  let last := match r.ending with
    | some _ => min m.time m.patience
    | none => m.patience
  let count := last / Raster.interval + 2
  ⟨0, Raster.looks (r.ending.map fun status => (m.time, status)) count 0, m.files, m.messages⟩

/-- Starts a program that is looked up in the search path; it is watched for `timeout` milliseconds. -/
def start (environment : List (String × String)) : Raster.Launcher := fun files program arguments timeout =>
  let searchPath := (environment.lookup "PATH").getD "/bin:/usr/bin"
  match startedImage files searchPath program.text arguments with
  | .error cause => .error cause
  | .ok image =>
    let launch := (run image (initial files environment (Raster.lastLook timeout))).launch
    .ok { launch with files := workingAs files launch.files }

end FirmwareSymbols.Script
