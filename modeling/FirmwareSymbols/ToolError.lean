import FirmwareSymbols.Path

/-!
# Errors

Why an operation of the tool failed, with the path or tool that is concerned, and the message that tells it.
-/

namespace FirmwareSymbols

/-- Why the operating system refused an operation on a file. -/
inductive IoCause
  | notFound
  | permissionDenied
  | notDirectory
  | isDirectory
  | alreadyExists
  | notEmpty
  | nameTooLong
  | tooManyLinks
  | badExecutable
  | busy
  | invalidUtf8
  | nulInPath
  | other (message : String)
deriving DecidableEq, Repr

namespace IoCause

/-- The number that the operating system has for a cause. -/
def number? : IoCause → Option Nat
  | notFound => some 2
  | badExecutable => some 8
  | permissionDenied => some 13
  | busy => some 16
  | alreadyExists => some 17
  | notDirectory => some 20
  | isDirectory => some 21
  | nameTooLong => some 36
  | notEmpty => some 39
  | tooManyLinks => some 40
  | invalidUtf8 | nulInPath | other _ => none

def words : IoCause → String
  | notFound => "No such file or directory"
  | badExecutable => "Exec format error"
  | permissionDenied => "Permission denied"
  | busy => "Device or resource busy"
  | alreadyExists => "File exists"
  | notDirectory => "Not a directory"
  | isDirectory => "Is a directory"
  | nameTooLong => "File name too long"
  | notEmpty => "Directory not empty"
  | tooManyLinks => "Too many levels of symbolic links"
  | invalidUtf8 => "stream did not contain valid UTF-8"
  | nulInPath => "file name contained an unexpected NUL byte"
  | other message => message

def message (cause : IoCause) : String :=
  match cause.number? with
  | some n => cause.words ++ " (os error " ++ toString n ++ ")"
  | none => cause.words

end IoCause

inductive ToolError
  /-- A file could not be read or written. -/
  | io (path : Path) (cause : IoCause)
  /-- A file is no ELF file, or a damaged one. -/
  | malformedBinary (path : Path) (message : String)
  /-- A symbol list has the wrong shape. -/
  | symbolList (path : Path) (message : String)
  /-- The rasterizer failed. -/
  | externalTool (tool : String) (message : String)
deriving DecidableEq, Repr

namespace ToolError

def message : ToolError → String
  | .io path cause => path.text ++ ": " ++ cause.message
  | .malformedBinary path message => path.text ++ ": not a valid ELF file: " ++ message
  | .symbolList path message => path.text ++ ": bad symbol list: " ++ message
  | .externalTool tool message => tool ++ ": " ++ message

/-- The cause below this error, if it has one. -/
def source? : ToolError → Option IoCause
  | .io _ cause => some cause
  | _ => none

end ToolError

end FirmwareSymbols
