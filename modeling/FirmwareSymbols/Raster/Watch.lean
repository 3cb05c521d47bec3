import FirmwareSymbols.Raster.Status
import FirmwareSymbols.ToolError

/-!
# Watching a running program

A program that was started is looked at again and again until it has ended or its time is over; then it is killed and
waited for. Times are in milliseconds. The clock counts seconds in 64 bits with a sign, so a deadline may lie beyond
what it can show.
-/

namespace FirmwareSymbols.Raster

/-- What a look at the program shows. -/
inductive Sight
  | running
  | ended (status : ExitStatus)
  /-- The system does not tell. -/
  | hidden (cause : IoCause)
deriving DecidableEq, Repr

/-- A look at the program and the time of the clock just after it. -/
structure Observation where
  sight : Sight
  time : Nat
deriving DecidableEq, Repr

/-- Why the watching is over. -/
inductive Verdict
  | ended (status : ExitStatus)
  | hidden (cause : IoCause)
  | timedOut
  /-- There is no deadline that the clock can show. -/
  | noDeadline
deriving DecidableEq, Repr

/-- What those who watch a program do to it. -/
inductive Step
  | look (sight : Sight)
  | kill
  | wait
deriving DecidableEq, Repr

structure Watching where
  /-- Why the watching is over, if it is. -/
  verdict : Option Verdict
  /-- All that was done to the program, in order. -/
  steps : List Step
deriving DecidableEq, Repr

/-- The clock stays below this time. -/
def clockLimit : Nat := Nat.pow 2 63 * 1000

/-- The time until which a program may run. -/
def deadline? (start timeout : Nat) : Option Nat :=
  if start + timeout < clockLimit then some (start + timeout) else none

/-- Goes through the observations until one of them is the last. A program whose time is over is killed and waited
for. -/
def watchUntil (deadline : Nat) : List Observation → Watching
  | [] => ⟨none, []⟩
  | o :: rest =>
    match o.sight with
    | .ended status => ⟨some (.ended status), [.look o.sight]⟩
    | .hidden cause => ⟨some (.hidden cause), [.look o.sight]⟩
    | .running =>
      if deadline ≤ o.time then ⟨some .timedOut, [.look o.sight, .kill, .wait]⟩
      else
        let later := watchUntil deadline rest
        ⟨later.verdict, .look o.sight :: later.steps⟩

/-- Watches a program that was started at the time `start`. -/
def watch (start timeout : Nat) (observations : List Observation) : Watching :=
  match deadline? start timeout with
  | none => ⟨some .noDeadline, []⟩
  | some deadline => watchUntil deadline observations

/-- The time between two looks. -/
def interval : Nat := 20

/-- The looks at a program that was started at time zero and ends as `ending` tells, or goes on for ever: at most
`n` looks from the `k`-th on, the last one the first that shows the end. -/
def looks (ending : Option (Nat × ExitStatus)) : Nat → Nat → List Observation
  | 0, _ => []
  | n + 1, k =>
    let now := k * interval
    match ending with
    | some (time, status) =>
      if time ≤ now then [⟨.ended status, now⟩] else ⟨.running, now⟩ :: looks ending n (k + 1)
    | none => ⟨.running, now⟩ :: looks ending n (k + 1)

/-- The time at which a program is killed that has not ended before. -/
def lastLook (timeout : Nat) : Nat := (timeout + interval - 1) / interval * interval

/-- A number of thousandths as a decimal, without needless digits. -/
def thousandths (n : Nat) : String :=
  let fraction := ((toString (1000 + n % 1000)).toList.drop 1).reverse.dropWhile (· = '0')
  if fraction.isEmpty then toString (n / 1000)
  else toString (n / 1000) ++ "." ++ String.ofList fraction.reverse

end FirmwareSymbols.Raster
