import FirmwareSymbols.Path
import FirmwareSymbols.Text.Lines

/-!
# Raster jobs

How a drawing is to be exported, and the arguments that tell it to the rasterizer. The resolution depends on whether
the width of the document is given in millimetres.
-/

namespace FirmwareSymbols.Raster

inductive Background
  | transparent
  | white
deriving DecidableEq, Repr

inductive ExportSize
  /-- The resolution follows from the document. -/
  | auto
  | height (pixels : UInt32)
deriving DecidableEq, Repr

structure Job where
  background : Background := .transparent
  size : ExportSize := .auto
  /-- Export only this layer. -/
  layer : Option String := none
deriving DecidableEq, Repr

/-- The resolution for documents in millimetres, and for those in pixels. -/
inductive Dpi
  | millimetre
  | pixel
deriving DecidableEq, Repr

def Dpi.text : Dpi → String
  | .millimetre => "47.44"
  | .pixel => "60.72"

/-- What follows each occurrence of a pattern. -/
def afterEach (pattern : List Char) : List Char → List (List Char)
  | [] => []
  | c :: s =>
    match pattern.isPrefixOf? (c :: s) with
    | some rest => rest :: afterEach pattern s
    | none => afterEach pattern s

/-- The start of a width attribute. -/
def widthAttribute : List Char := "width=\"".toList

/-- The end of an attribute in millimetres. -/
def millimetreEnd : List Char := "mm\"".toList

/-- A width attribute starts on the line, and somewhere after its first character an attribute in millimetres
ends. -/
def hasMillimetreWidth (line : List Char) : Bool :=
  (afterEach widthAttribute line).any fun value => !(afterEach millimetreEnd value.tail).isEmpty

def dpiOf (svg : String) : Dpi :=
  if (Text.lines svg.toList).any hasMillimetreWidth then .millimetre else .pixel

/-- The path of the exported file. -/
def pngPath (svg outDir : Path) : Path := outDir.join (svg.stem?.getD svg.text ++ ".png")

namespace Job

def layerArguments (job : Job) : List String :=
  match job.layer with
  | none => []
  | some layer => ["--export-id=" ++ layer, "--export-id-only"]

def sizeArgument (job : Job) (svgText : String) : String :=
  match job.size with
  | .auto => "--export-dpi=" ++ (dpiOf svgText).text
  | .height pixels => "--export-height=" ++ toString pixels.toNat

def backgroundArguments (job : Job) : List String :=
  match job.background with
  | .transparent => []
  | .white => ["--export-background=white"]

/-- The arguments of the rasterizer for one drawing. -/
def arguments (job : Job) (svg png : Path) (svgText : String) : List String :=
  "--export-type=png" :: job.layerArguments ++ ["--export-png-use-dithering=false", job.sizeArgument svgText] ++
    job.backgroundArguments ++ ["--export-filename=" ++ png.text, svg.text]

/-- The size in words. -/
def sizeWords (job : Job) : String :=
  match job.size with
  | .auto => "auto dpi"
  | .height pixels => toString pixels.toNat ++ " px high"

end Job

end FirmwareSymbols.Raster
