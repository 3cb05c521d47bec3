import FirmwareSymbols.FileSystem.Write
import FirmwareSymbols.Log
import FirmwareSymbols.Raster.Job
import FirmwareSymbols.Raster.Launch

/-!
# Converting drawings

A rasterizer is a program that converts one drawing at a time. It is found on the search path or named by the
environment. A batch converts its drawings one after another and goes on when one of them fails.
-/

namespace FirmwareSymbols.Raster

/-- The name of the program. -/
def programName : String := "inkscape"

/-- The environment variable that names the program. -/
def programVariable : String := "INKSCAPE_BIN_PATH"

structure Rasterizer where
  program : Path
  /-- How long one conversion may take, in milliseconds. -/
  timeout : Nat
deriving DecidableEq, Repr

/-- The first program with the right name in the directories of the search path. -/
def findProgram? (fs : FileSystem) (searchPath : String) : Option Path :=
  ((Text.splitText ':' searchPath).map fun dir => (Path.mk dir).join programName).find? fs.isExecutable

/-- The program on the search path, or else the one that the environment names. -/
def locate (fs : FileSystem) (searchPath named : Option String) : Option Path :=
  (searchPath.bind (findProgram? fs)).or (named.map Path.mk)

/-- What a conversion comes to. -/
inductive Attempt
  | converted (png : Path)
  | failed (e : ToolError)
  /-- The conversion came to no end, and nothing after it is done. -/
  | aborted
deriving DecidableEq, Repr

namespace Rasterizer

def failure (r : Rasterizer) (message : String) : Attempt := .failed (.externalTool r.program.text message)

/-- What the end of the program means for the conversion to `png`. -/
def judge (r : Rasterizer) (png : Path) : Option Verdict → Attempt
  | some (.ended status) => if status.isSuccess then .converted png else r.failure ("exited with " ++ status.text)
  | some (.hidden cause) => r.failure cause.message
  | some .timedOut => r.failure ("timed out after " ++ thousandths r.timeout ++ "s")
  | some .noDeadline => .aborted
  | none => .aborted

/-- What the program was seen to do: the attempt, the files after it, what it wrote to standard error, and what was done
to it after it was started. -/
structure Outcome where
  attempt : Attempt
  files : FileSystem
  messages : String := ""
  steps : List Step := []

/-- Starts the program and watches it until its end. -/
def run (r : Rasterizer) (launcher : Launcher) (fs : FileSystem) (png : Path) (arguments : List String) : Outcome :=
  let refuse (cause : IoCause) : Outcome :=
    { attempt := r.failure ("failed to start: " ++ cause.message), files := fs }
  if (r.program.text :: arguments).any fun a => a.toList.contains '\x00' then
    refuse (.other "nul byte found in provided data")
  else
    match launcher fs r.program arguments r.timeout with
    | .error cause => refuse cause
    | .ok launch =>
      let watching := watch launch.start r.timeout launch.observations
      ⟨r.judge png watching.verdict, launch.files, launch.messages, watching.steps⟩

/-- Converts one drawing into the output directory. -/
def convert (r : Rasterizer) (launcher : Launcher) (fs : FileSystem) (svg outDir : Path) (job : Job) : Outcome :=
  match fs.readText svg with
  | .error cause => { attempt := .failed (.io svg cause), files := fs }
  | .ok text =>
    let png := pngPath svg outDir
    r.run launcher fs png (job.arguments svg png text)

end Rasterizer

/-- A drawing of a batch with what came of it. -/
structure Item where
  svg : Path
  attempt : Attempt
  messages : String

/-- Converts drawings in order, up to one whose conversion comes to no end. -/
def convertEach (r : Rasterizer) (launcher : Launcher) (outDir : Path) (job : Job) :
    FileSystem → List Path → List Item × FileSystem
  | fs, [] => ([], fs)
  | fs, svg :: rest =>
    let outcome := r.convert launcher fs svg outDir job
    let item : Item := ⟨svg, outcome.attempt, outcome.messages⟩
    if outcome.attempt = .aborted then ([item], outcome.files)
    else
      let (items, last) := convertEach r launcher outDir job outcome.files rest
      (item :: items, last)

namespace Item

/-- Tells what came of a drawing. -/
def report (job : Job) (item : Item) : Logged Unit :=
  match item.attempt with
  | .converted png =>
    Logged.info ("Converted " ++ item.svg.text ++ " to " ++ png.fileName?.getD png.text ++ " at " ++
      job.sizeWords ++ ".")
  | .failed e => Logged.error ("Failed converting " ++ item.svg.text ++ ": " ++ e.message)
  | .aborted => pure ()

def png? (item : Item) : Option Path :=
  match item.attempt with
  | .converted png => some png
  | _ => none

def error? (item : Item) : Option ToolError :=
  match item.attempt with
  | .failed e => some e
  | _ => none

end Item

/-- The files that a batch has made, and its failures. -/
structure Batch where
  converted : List Path
  failures : List ToolError

def Batch.ofItems (items : List Item) : Batch := ⟨items.filterMap Item.png?, items.filterMap Item.error?⟩

/-- Converts every drawing, carrying on past failures. -/
def convertAll (r : Rasterizer) (launcher : Launcher) (fs : FileSystem) (svgs : List Path) (outDir : Path)
    (job : Job) : Logged Batch × FileSystem :=
  let (items, last) := convertEach r launcher outDir job fs svgs
  (do
    items.forM (Item.report job)
    return Batch.ofItems items, last)

/-- Whether an entry of a directory is a drawing. -/
def isDrawing (fs : FileSystem) (path : Path) : Bool := fs.isFile path && path.extension? = some "svg"

/-- The input itself if it is a file, else the drawings directly inside it, in path order. It is an error if one of its
entries cannot be read. -/
def collectDrawings (fs : FileSystem) (input : Path) : Except ToolError (List Path) :=
  if fs.isFile input then .ok [input]
  else
    match fs.readDirectory input with
    | .error cause => .error (.io input cause)
    | .ok entries =>
      match entries.mapM Listed.name with
      | .error cause => .error (.io input cause)
      | .ok names => .ok (Path.sort ((names.map input.join).filter (isDrawing fs)))

end FirmwareSymbols.Raster
