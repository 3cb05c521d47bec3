import FirmwareSymbols.Main.Script.Change
import FirmwareSymbols.Main.Script.Machine
import FirmwareSymbols.Text.Utf8

/-!
# Streams

Descriptors refer to streams, and several of them may refer to the same stream: they share the place in it.
-/

namespace FirmwareSymbols.Script

/-! ### Descriptors -/

/-- The stream of a descriptor with its number. -/
def stream? (descriptor : Nat) : Action (Option (Nat × Stream)) := do
  let m ← get
  return (m.shell.descriptors.lookup descriptor).bind fun n => (m.streams[n]?).map fun s => (n, s)

/-- A new stream; its number. -/
def newStream (s : Stream) : Action Nat := do
  let m ← get
  set { m with streams := m.streams.push s }
  return m.streams.size

/-- Lets a descriptor refer to a stream, or closes it. -/
def setDescriptor (descriptor : Nat) (stream : Option Nat) : Action Unit :=
  modifyShell fun s =>
    let others := s.descriptors.filter fun d => d.1 ≠ descriptor
    { s with descriptors := (stream.map fun n => (descriptor, n)).toList ++ others }

/-- Opens a stream on a descriptor. -/
def openOn (descriptor : Nat) (s : Stream) : Action Unit := do setDescriptor descriptor (some (← newStream s))

/-- A new pipe with this content; its number. -/
def newPipe (content : ByteArray) : Action Nat := do
  let m ← get
  set { m with pipes := m.pipes.push content }
  return m.pipes.size

/-- A stream from which bytes can be read that are there already. -/
def openText (descriptor : Nat) (content : ByteArray) : Action Unit := do
  openOn descriptor { target := .pipe (← newPipe content), writes := false }

/-! ### Bytes -/

/-- All bytes that a target has. -/
def Machine.content (m : Machine) : Target → ByteArray
  | .null | .messages | .directory => .empty
  | .pipe n => m.pipes.getD n .empty
  | .file l =>
    match m.files.node? l with
    | some (.file content _) => content
    | _ => .empty

/-- Bytes with others put over them, or after them, from a position on. -/
def overwritten (old new : ByteArray) (position : Nat) : ByteArray :=
  let gap : ByteArray := ⟨(List.replicate (position - old.size) (0 : UInt8)).toArray⟩
  old.extract 0 position ++ gap ++ new ++ old.extract (position + new.size) old.size

/-- How many bytes a pipe takes. Who writes more does not survive, as nobody will read that. -/
def pipeLimit : Nat := 1048576

/-- Writes to a stream that is open for it. -/
def writeStream (number : Nat) (s : Stream) (data : ByteArray) : Action Unit := do
  let m ← get
  match s.target with
  | .null | .directory => pure ()
  | .messages => set { m with messages := m.messages ++ Text.decodeLossy data.toList }
  | .pipe n =>
    if pipeLimit < (m.pipes.getD n .empty).size then throw (.killed 13)
    set { m with pipes := m.pipes.modify n (· ++ data) }
  | .file l =>
    match m.files.node? l with
    | some (.file content executable) =>
      let position := if s.appends then content.size else s.position
      let files := m.files.set l (.file (overwritten content data position) executable)
      set { m with files, streams := m.streams.modify number fun s => { s with position := position + data.size } }
    | _ => pure ()

/-- Writes to a descriptor; whether it is open for that. -/
def writeBytes (descriptor : Nat) (data : ByteArray) : Action Bool := do
  match ← stream? descriptor with
  | none => return false
  | some (number, s) =>
    if s.writes then writeStream number s data
    return s.writes

def writeText (descriptor : Nat) (text : String) : Action Bool := writeBytes descriptor text.toUTF8

/-- Writes a text to standard output. -/
def put (text : String) : Action Unit := do let _ ← writeText 1 text

/-- Writes a line to standard error. -/
def putError (line : String) : Action Unit := do let _ ← writeText 2 (line ++ "\n")

/-- What is left to read from a descriptor, which is used up if `consumes`; a cause if it cannot be read. -/
def readBytes (descriptor : Nat) (consumes : Bool := true) : Action (Except IoCause ByteArray) := do
  match ← stream? descriptor with
  | none => return .error (.other "Bad file descriptor")
  | some (number, s) =>
    if !s.reads then return .error (.other "Bad file descriptor")
    else if s.target = .directory then return .error .isDirectory
    else
      let content := (← get).content s.target
      if consumes then
        modify fun m =>
          { m with streams := m.streams.modify number fun s => { s with position := max s.position content.size } }
      return .ok (content.extract s.position content.size)

/-- Marks so many bytes of a descriptor as read. -/
def advance (descriptor count : Nat) : Action Unit := do
  match ← stream? descriptor with
  | none => pure ()
  | some (number, _) =>
    modify fun m =>
      { m with streams := m.streams.modify number fun s => { s with position := s.position + count } }

/-! ### Opening files -/

/-- Which descriptor a path stands for. -/
def descriptorOf? (path : String) : Option Nat :=
  match path with
  | "/dev/stdin" => some 0
  | "/dev/stdout" => some 1
  | "/dev/stderr" => some 2
  | _ => ("/dev/fd/".toList.isPrefixOf? path.toList).bind fun n => (String.ofList n).toNat?

/-- The target that a file or directory is. -/
def targetOf (l : Location) : Node → Target
  | .null => .null
  | .directory => .directory
  | .file .. | .sealed .. | .link _ => .file l

/-- Opens what a path names, to read it. -/
def openInput (path : String) : Action (Except IoCause Stream) := do
  match descriptorOf? path with
  | some n =>
    match ← stream? n with
    | some (_, s) => return .ok s
    | none => return .error .notFound
  | none =>
    match (← get).files.stat ⟨path⟩ with
    | .ok (_, .sealed cause _) => return .error cause
    | .ok (l, n) => return .ok { target := targetOf l n, writes := false }
    | .error cause => return .error cause

/-- Opens what a path names, to write to it. A missing file is made; the content is dropped unless it is kept. -/
def openOutput (path : String) (keeps appends reads : Bool) : Action (Except IoCause Stream) := do
  match descriptorOf? path with
  | some n =>
    match ← stream? n with
    | some (_, s) => return .ok s
    | none => return .error .notFound
  | none =>
    let m ← get
    match m.files.writeInPlace ⟨path⟩ (if keeps then id else fun _ => .empty) with
    | .error cause => return .error cause
    | .ok files =>
      set { m with files }
      match files.stat ⟨path⟩ with
      | .ok (l, n) => return .ok { target := targetOf l n, appends, reads }
      | .error cause => return .error cause

end FirmwareSymbols.Script
