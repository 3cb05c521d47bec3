import FirmwareSymbols.Main.Script.Signal

/-!
# Jobs

A process that runs on its own is tried first. What takes no time is carried out at once. All else is put off until
somebody waits for it, until so much time has passed, or until it is killed.
-/

namespace FirmwareSymbols.Script

open Raster (ExitStatus)

namespace Level

/-- Carries out what a process does that was put off, up to a time. -/
def carryOut (below : Level) (d : Deferred) (limit : Nat) : Action Unit := do
  let before ← get
  set { before with time := d.start, patience := limit, shell := d.shell,
                    deferred := before.deferred.filter fun e => e.shell.own ≠ d.shell.own }
  let result ← attempt (below.toEnd (below.command false d.body))
  let ended := match result with
    | .ok status => [(d.shell.own, status)]
    | .error _ => []
  modify fun m => { m with time := before.time, patience := before.patience, shell := before.shell,
                           files := workingAs before.files m.files, ended := ended ++ m.ended }
  receiveSent

/-- The processes that end up to a time, the first one first. -/
def dueBefore (time : Nat) (l : List Deferred) : List Deferred :=
  (l.filter fun d => d.ending.any (· ≤ time)).mergeSort fun d e => d.ending.getD 0 ≤ e.ending.getD 0

/-- Lets time pass, in which other processes end. -/
def sleep (below : Level) (milliseconds : Nat) : Action Unit := do
  let m ← get
  (dueBefore (m.time + milliseconds) m.deferred).forM fun d => below.carryOut d m.patience
  pass milliseconds

/-- Starts a process that runs on its own. -/
def launch (below : Level) (body : Command) : Action Unit := do
  let before ← get
  let own := before.nextProcess
  let start : Action Unit := openOn 0 { target := .null, writes := false }
  let result ← attempt (inProcess do
    start
    below.toEnd (below.command false body))
  match result with
  | .ok status =>
    let m ← get
    if m.time = before.time then set { m with ended := (own, status) :: m.ended }
    else putOff before own (some m.time)
  | .error _ => putOff before own none
  modifyShell fun s => { s with jobs := s.jobs ++ [own], latest := some own, status := 0 }
where
  /-- Goes back to the state before the trial. -/
  putOff (before : Machine) (own : Nat) (ending : Option Nat) : Action Unit := do
    set { before with nextProcess := own + 1, shell := before.shell.copy own }
    openOn 0 { target := .null, writes := false }
    modify fun m => { m with shell := before.shell,
                             deferred := m.deferred ++ [⟨m.shell, body, before.time, ending⟩] }

/-- Waits for the end of a process. -/
def awaitProcess (below : Level) (process : Nat) : Action Unit := do
  let m ← get
  match m.deferred.find? fun d => d.shell.own = process with
  | none => pure ()
  | some d =>
    below.carryOut d m.patience
    match d.ending with
    | some time => modify fun m => { m with time := max m.time time }
    | none => throw .never

/-- Waits for a job, which is none after that; its status. -/
def awaitJob (below : Level) (process : Nat) : Action Nat := do
  if !(← shell).jobs.contains process then return 127
  below.awaitProcess process
  modifyShell fun s => { s with jobs := s.jobs.filter (· ≠ process) }
  match (← get).ended.lookup process with
  | some status =>
    tellEnd status
    return statusNumber status
  | none => return 127

/-- Waits for all jobs. -/
def awaitAll (below : Level) : Action Unit := do
  let mine := (← shell).jobs
  let m ← get
  let deferred := m.deferred.filter fun d => mine.contains d.shell.own
  (dueBefore m.patience deferred).forM fun d => below.awaitProcess d.shell.own
  (deferred.filter fun d => d.ending.isNone).forM fun d => below.awaitProcess d.shell.own
  modifyShell fun s => { s with jobs := [] }

/-- Sends a signal to a process; whether there is such a process. -/
def send (below : Level) (process signal : Nat) : Action Bool := do
  let m ← get
  if process = m.shell.own then
    takeSignal signal
    return true
  if m.shell.parents.contains process then
    if signal ≠ 0 then set { m with signals := m.signals ++ [SentSignal.mk m.time process signal] }
    return true
  match m.deferred.find? fun d => d.shell.own = process with
  | none => return false
  | some d =>
    if d.ending.any (· ≤ m.time) then below.carryOut d m.patience
    else if !isHarmless signal && (d.shell.response? signal).isNone then
      below.carryOut d m.time
      modify fun m => { m with ended := (process, .signal signal) :: m.ended }
    return true

end Level

end FirmwareSymbols.Script
