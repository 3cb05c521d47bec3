import FirmwareSymbols.Main.Script.Expansion

/-!
# Redirections

The words of all redirections of a command are expanded before the first of them takes effect, but a document is
expanded when its turn comes. What cannot be opened is a mistake, and the redirections before it
stay in effect for as long as the command would have run.
-/

namespace FirmwareSymbols.Script

/-- A redirection with its word expanded, except for a document, which is expanded when it is opened. -/
structure Opening where
  descriptor : Nat
  kind : RedirectionKind
  target : String := ""
  document : Word := []

/-- The descriptor that a text names; `none` if it stands for no descriptor at all. -/
def namedDescriptor? (text : String) : Option (Option Nat) :=
  match text.toList with
  | ['-'] => some none
  | [c] => if Text.isDigit c then some (some (Text.digitValue c)) else none
  | _ => none

/-- Lets a descriptor go where another one goes, or nowhere. -/
def duplicate (descriptor : Nat) (target : String) : Action Unit := do
  match (namedDescriptor? target).join with
  | none => setDescriptor descriptor none
  | some other =>
    match ← stream? other with
    | some (n, _) => setDescriptor descriptor (some n)
    | none => fail (target ++ ": Bad file descriptor")

/-- Whether a file is there that must not be replaced. -/
def isProtected (path : String) : Action Bool := do
  let m ← get
  return m.shell.hasOption 'C' && m.files.isFile ⟨path⟩

/-- Opens a stream on the descriptor, or complains. -/
def openOr (o : Opening) (act : String) (words : IoCause → String) (opened : Except IoCause Stream) :
    Action Unit :=
  match opened with
  | .ok s => openOn o.descriptor s
  | .error cause => fail ("cannot " ++ act ++ " " ++ o.target ++ ": " ++ words cause)

namespace Level

/-- Expands the word of a redirection. -/
def opening (below : Level) : Redirection → Action Opening
  | .mk descriptor .document target => return { descriptor, kind := .document, document := target }
  | .mk descriptor kind target => do
    let target ← below.plainText target
    if kind = .duplicate && (namedDescriptor? target).isNone then
      modifyShell fun s => { s with line := s.nextLine }
      fail "Syntax error: Bad fd number"
    return { descriptor, kind, target }

/-- Lets a redirection take effect. -/
def redirect (below : Level) (o : Opening) : Action Unit := do
  let create (keeps appends reads : Bool) : Action Unit := do
    openOr o "create" createWords (← openOutput o.target keeps appends reads)
  match o.kind with
  | .input => openOr o "open" openWords (← openInput o.target)
  | .output =>
    if ← isProtected o.target then fail ("cannot create " ++ o.target ++ ": File exists")
    create false false false
  | .overwrite => create false false false
  | .append => create true true false
  | .update => create true false true
  | .duplicate => duplicate o.descriptor o.target
  | .document => openText o.descriptor (← below.plainText o.document).toUTF8

/-- Lets redirections take effect in order. -/
def redirectAll (below : Level) (openings : List Opening) : Action Unit := openings.forM below.redirect

end Level

/-- Runs an action and puts the descriptors back that were there before. -/
def keepingDescriptors {α : Type} (p : Action α) : Action α := do
  let before := (← shell).descriptors
  let result ← attempt p
  modifyShell fun s => { s with descriptors := before }
  resume result

end FirmwareSymbols.Script
