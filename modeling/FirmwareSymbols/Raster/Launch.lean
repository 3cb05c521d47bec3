import FirmwareSymbols.FileSystem.Basic
import FirmwareSymbols.Raster.Watch

/-!
# Starting programs

How a program is started is left open: a launcher gets the files, the program, its arguments and the time for which
it will be watched, and gives what those who watch the program will see, and the files as the program leaves them.
-/

namespace FirmwareSymbols.Raster

/-- A program that was started. -/
structure Launch where
  /-- The time of the clock at the start. -/
  start : Nat
  observations : List Observation
  files : FileSystem
  /-- What the program writes to the standard error of those who started it. -/
  messages : String

abbrev Launcher := FileSystem → Path → List String → Nat → Except IoCause Launch

end FirmwareSymbols.Raster
