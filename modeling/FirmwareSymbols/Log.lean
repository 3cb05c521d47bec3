/-!
# Log records

Computations emit records in order. A record is printed if its level is enabled; errors and warnings carry a tag,
which may be coloured.
-/

namespace FirmwareSymbols

inductive Level
  | error
  | warn
  | info
  | debug
  | trace
deriving DecidableEq, Repr

namespace Level

def name : Level → String
  | .error => "ERROR"
  | .warn => "WARN"
  | .info => "INFO"
  | .debug => "DEBUG"
  | .trace => "TRACE"

/-- How much detail a level stands for. -/
def detail : Level → Nat
  | .error => 1
  | .warn => 2
  | .info => 3
  | .debug => 4
  | .trace => 5

/-- The least important level that is printed. -/
def ofVerbose (verbose : Bool) : Level := if verbose then .debug else .info

def isEnabled (limit level : Level) : Bool := level.detail ≤ limit.detail

end Level

structure Record where
  level : Level
  message : String
deriving DecidableEq, Repr

namespace Record

/-- A tag in bold and the colour with this number. -/
def tag (color : Bool) (code text : String) : String :=
  if color then "\x1b[1;" ++ code ++ "m" ++ text ++ "\x1b[0m" else text

def format (color : Bool) (r : Record) : String :=
  match r.level with
  | .error => tag color "31" "error" ++ ": " ++ r.message
  | .warn => tag color "33" "warning" ++ ": " ++ r.message
  | _ => r.message

/-- The lines that are printed for the records, each with its line feed. -/
def print (limit : Level) (color : Bool) (records : List Record) : String :=
  String.join ((records.filter fun r => limit.isEnabled r.level).map fun r => r.format color ++ "\n")

end Record

/-- A result and the records emitted on the way to it. -/
structure Logged (α : Type) where
  result : α
  log : List Record

namespace Logged

instance : Monad Logged where
  pure a := ⟨a, []⟩
  bind x f := ⟨(f x.result).result, x.log ++ (f x.result).log⟩

def emit (level : Level) (message : String) : Logged Unit := ⟨(), [⟨level, message⟩]⟩

def error (message : String) : Logged Unit := emit .error message
def info (message : String) : Logged Unit := emit .info message
def debug (message : String) : Logged Unit := emit .debug message

@[simp] theorem result_pure {α : Type} (a : α) : (pure a : Logged α).result = a := rfl
@[simp] theorem log_pure {α : Type} (a : α) : (pure a : Logged α).log = [] := rfl
@[simp] theorem result_bind {α β : Type} (x : Logged α) (f : α → Logged β) :
    (x >>= f).result = (f x.result).result := rfl
@[simp] theorem log_bind {α β : Type} (x : Logged α) (f : α → Logged β) :
    (x >>= f).log = x.log ++ (f x.result).log := rfl
@[simp] theorem log_emit (level : Level) (message : String) : (emit level message).log = [⟨level, message⟩] := rfl

end Logged

end FirmwareSymbols
