import FirmwareSymbols.CommandLine.Values
import FirmwareSymbols.Raster.Conversion

/-!
# Programs that are left behind

A program that has ended stays in the table of processes until somebody has waited for it. What becomes of a program is
told by the steps that those who started it take (`Undergoes`). The watching looks at the program until one look is the
last, and nothing else is done to it unless its time is over; then it is killed and waited for (`steps_watchUntil`). So
the program is collected when the watching is over, except where the last look does not tell whether it has ended, and
where there is no deadline that the clock can show: then it may still be running (`Rasterizer.run_collects_iff`).
-/

namespace FirmwareSymbols.Raster

/-! ### What becomes of a program -/

inductive ProgramState
  | running
  /-- It has ended, and nobody has waited for it. -/
  | ended
  /-- It has ended and has been waited for. -/
  | collected
deriving DecidableEq

/-- A program in the first state may be in the second one after these steps. It may end by itself at any time. -/
inductive Undergoes : ProgramState → List Step → ProgramState → Prop
  | done {p : ProgramState} : Undergoes p [] p
  | ends {p : ProgramState} {steps : List Step} : Undergoes .ended steps p → Undergoes .running steps p
  | seenRunning {p : ProgramState} {steps : List Step} :
      Undergoes .running steps p → Undergoes .running (.look .running :: steps) p
  /-- The look at which the end is seen collects the program. -/
  | seenEnded {p : ProgramState} {status : ExitStatus} {steps : List Step} :
      Undergoes .collected steps p → Undergoes .ended (.look (.ended status) :: steps) p
  | unseen {p q : ProgramState} {cause : IoCause} {steps : List Step} :
      Undergoes q steps p → Undergoes q (.look (.hidden cause) :: steps) p
  | killed {p q : ProgramState} {steps : List Step} :
      q ≠ .collected → Undergoes .ended steps p → Undergoes q (.kill :: steps) p
  /-- Waiting takes until the program has ended. -/
  | waited {p : ProgramState} {steps : List Step} :
      Undergoes .collected steps p → Undergoes .ended (.wait :: steps) p

variable {p : ProgramState} {steps : List Step} {deadline start timeout : Nat} {observations : List Observation}
  {verdict : Verdict}

/-- A program that was seen running has not ended before. -/
theorem undergoes_seenRunning_iff : Undergoes .running (.look .running :: steps) p ↔ Undergoes .running steps p := by
  refine ⟨fun h => ?_, .seenRunning⟩
  cases h with
  | ends h => cases h
  | seenRunning h => exact h

theorem undergoes_replicate_iff (n : Nat) :
    Undergoes .running (List.replicate n (.look .running) ++ steps) p ↔ Undergoes .running steps p := by
  induction n with
  | zero => rfl
  | succ n ih => rw [List.replicate_succ, List.cons_append, undergoes_seenRunning_iff, ih]

theorem undergoes_collected_iff : Undergoes .collected [] p ↔ p = .collected := by
  constructor
  · intro h
    cases h
    rfl
  · rintro rfl
    exact .done

theorem undergoes_waited_iff : Undergoes .ended [.wait] p ↔ p = .collected := by
  rw [← undergoes_collected_iff]
  refine ⟨fun h => ?_, .waited⟩
  cases h with
  | waited h => exact h

/-- After these steps a program that was running is collected, and in no other state. -/
def Collects (steps : List Step) : Prop := ∀ p, Undergoes .running steps p ↔ p = .collected

theorem collects_replicate_append_iff (n : Nat) :
    Collects (List.replicate n (.look .running) ++ steps) ↔ Collects steps := by
  unfold Collects
  simp only [undergoes_replicate_iff]

theorem collects_seenEnded (status : ExitStatus) : Collects [.look (.ended status)] := by
  intro p
  rw [← undergoes_collected_iff]
  refine ⟨fun h => ?_, fun h => .ends (.seenEnded h)⟩
  cases h with
  | ends h =>
    cases h with
    | seenEnded h => exact h

/-- Whether or not the program ended before it was killed, it is waited for. -/
theorem collects_killed : Collects [.look .running, .kill, .wait] := by
  intro p
  rw [undergoes_seenRunning_iff, ← undergoes_waited_iff]
  refine ⟨fun h => ?_, .killed nofun⟩
  cases h with
  | ends h =>
    cases h with
    | killed _ h => exact h
  | killed _ h => exact h

/-- Nothing that was seen keeps the program from running on. -/
theorem not_collects_of_undergoes_running (h : Undergoes .running steps .running) : ¬ Collects steps := by
  intro hcollects
  cases (hcollects _).1 h

/-! ### What a watching does -/

/-- How the last steps go with the verdict. -/
inductive Concludes : Verdict → List Step → Prop
  | ended (status : ExitStatus) : Concludes (.ended status) [.look (.ended status)]
  | hidden (cause : IoCause) : Concludes (.hidden cause) [.look (.hidden cause)]
  | timedOut : Concludes .timedOut [.look .running, .kill, .wait]

/-- The program is seen running until the steps that conclude the watching. -/
theorem steps_watchUntil (h : (watchUntil deadline observations).verdict = some verdict) :
    ∃ n last, (watchUntil deadline observations).steps = List.replicate n (.look .running) ++ last ∧
      Concludes verdict last := by
  induction observations with
  | nil => simp [watchUntil] at h
  | cons o rest ih =>
    obtain ⟨sight, time⟩ := o
    cases sight with
    | ended status =>
      obtain rfl := Option.some.inj h
      exact ⟨0, _, rfl, .ended status⟩
    | hidden cause =>
      obtain rfl := Option.some.inj h
      exact ⟨0, _, rfl, .hidden cause⟩
    | running =>
      simp only [watchUntil] at h ⊢
      split at h
      next hover =>
        rw [if_pos hover]
        obtain rfl := Option.some.inj h
        exact ⟨0, _, rfl, .timedOut⟩
      next hover =>
        -- one look more at the running program
        rw [if_neg hover]
        obtain ⟨n, last, hsteps, hlast⟩ := ih h
        refine ⟨n + 1, last, ?_, hlast⟩
        simp only [hsteps, List.replicate_succ, List.cons_append]

/-- A watching goes on as long as the program is seen running before the deadline. -/
theorem verdict_watchUntil_eq_none_iff : (watchUntil deadline observations).verdict = none ↔
    ∀ o ∈ observations, o.sight = .running ∧ o.time < deadline := by
  induction observations with
  | nil => simp [watchUntil]
  | cons o rest ih =>
    obtain ⟨sight, time⟩ := o
    rw [List.forall_mem_cons, ← ih]
    cases sight with
    | ended status => simp [watchUntil]
    | hidden cause => simp [watchUntil]
    | running =>
      simp only [watchUntil]
      split
      next hover => simp [Nat.not_lt.2 hover]
      next hover => simp [Nat.lt_of_not_le hover]

theorem watch_of_lt (h : start + timeout < clockLimit) :
    watch start timeout observations = watchUntil (start + timeout) observations := by
  rw [watch, deadline?, if_pos h]

theorem watch_of_not_lt (h : ¬ start + timeout < clockLimit) :
    watch start timeout observations = ⟨some .noDeadline, []⟩ := by
  rw [watch, deadline?, if_neg h]

/-! ### Conclusions -/

theorem Concludes.verdict_ne (h : Concludes verdict steps) : verdict ≠ .noDeadline := by
  cases h <;> exact nofun

/-- The program is collected unless the last look does not tell whether it has ended. -/
theorem Concludes.collects_iff (h : Concludes verdict steps) :
    Collects steps ↔ ∀ cause, .look (.hidden cause) ∉ steps := by
  cases h with
  | ended status => simp [collects_seenEnded]
  | hidden cause => simp [not_collects_of_undergoes_running (.unseen .done)]
  | timedOut => simp [collects_killed]

/-- The program is collected when the watching is over, unless the last look does not tell. -/
theorem collects_watchUntil_iff (h : (watchUntil deadline observations).verdict = some verdict) :
    Collects (watchUntil deadline observations).steps ↔
      ∀ cause, .look (.hidden cause) ∉ (watchUntil deadline observations).steps := by
  obtain ⟨n, last, hsteps, hlast⟩ := steps_watchUntil h
  rw [hsteps, collects_replicate_append_iff, hlast.collects_iff]
  simp

/-! ### Runs -/

namespace Rasterizer

variable {r : Rasterizer} {launcher : Launcher} {fs : FileSystem} {png : Path} {arguments : List String} {launch : Launch}

/-- The program is started with these arguments. -/
structure Starts (r : Rasterizer) (launcher : Launcher) (fs : FileSystem) (arguments : List String)
    (launch : Launch) : Prop where
  noNul : ∀ a ∈ r.program.text :: arguments, '\x00' ∉ a.toList
  launched : launcher fs r.program arguments r.timeout = .ok launch

/-- The conversion has a result: the file, or an error of the tool. -/
def HasResult (r : Rasterizer) (png : Path) (attempt : Attempt) : Prop :=
  attempt = .converted png ∨ ∃ message, attempt = .failed (.externalTool r.program.text message)

theorem run_of_starts (h : r.Starts launcher fs arguments launch) :
    r.run launcher fs png arguments =
      let watching := watch launch.start r.timeout launch.observations
      ⟨r.judge png watching.verdict, launch.files, launch.messages, watching.steps⟩ := by
  have hclean : ¬ ((r.program.text :: arguments).any fun a => a.toList.contains '\x00') = true := by
    simpa using h.noNul
  rw [run, if_neg hclean, h.launched]

theorem hasResult_judge_iff : r.HasResult png (r.judge png (some verdict)) ↔ verdict ≠ .noDeadline := by
  unfold HasResult judge failure
  cases verdict with
  | ended status => by_cases hsuccess : status.isSuccess = true <;> simp [hsuccess]
  | hidden cause => simp
  | timedOut => simp
  | noDeadline => simp

/-- A program that was started is watched as long as it is seen running before its deadline. When the watching is over,
the conversion has a result exactly if the clock can show the deadline; and the program has ended and has been waited
for exactly if, besides, every look told how it was. -/
theorem run_collects_iff (r : Rasterizer) (launcher : Launcher) (fs : FileSystem) (png : Path)
    (arguments : List String) (launch : Launch) (h : r.Starts launcher fs arguments launch) :
    let outcome := r.run launcher fs png arguments
    let verdict := (watch launch.start r.timeout launch.observations).verdict
    (verdict = none ↔ launch.start + r.timeout < clockLimit ∧
      ∀ o ∈ launch.observations, o.sight = .running ∧ o.time < launch.start + r.timeout) ∧
    (verdict ≠ none →
      (r.HasResult png outcome.attempt ↔ launch.start + r.timeout < clockLimit) ∧
      (Collects outcome.steps ↔
        launch.start + r.timeout < clockLimit ∧ ∀ cause, .look (.hidden cause) ∉ outcome.steps)) := by
  intro outcome verdict
  have houtcome : outcome = _ := run_of_starts h
  rw [houtcome]
  by_cases hfits : launch.start + r.timeout < clockLimit
  · -- the observations are gone through, and the last steps go with the verdict
    have hwatch : watch launch.start r.timeout launch.observations = _ := watch_of_lt hfits
    simp only [verdict, hwatch, hfits, true_and, iff_true]
    refine ⟨verdict_watchUntil_eq_none_iff, fun hend => ?_⟩
    obtain ⟨v, hv⟩ := Option.ne_none_iff_exists'.1 hend
    obtain ⟨_, _, -, hlast⟩ := steps_watchUntil hv
    rw [hv]
    exact ⟨hasResult_judge_iff.2 hlast.verdict_ne, collects_watchUntil_iff hv⟩
  · -- the watching is over before the first look
    have hwatch : watch launch.start r.timeout launch.observations = _ := watch_of_not_lt hfits
    simp only [verdict, hwatch, hfits, false_and, iff_false]
    refine ⟨nofun, fun _ => ⟨fun hresult => ?_, not_collects_of_undergoes_running .done⟩⟩
    exact hasResult_judge_iff.1 hresult rfl

/-- A launcher of which every program is seen like this. -/
def launcherOf (observations : List Observation) : Launcher := fun fs _ _ _ => .ok ⟨0, observations, fs, ""⟩

/-- The outcome of a run in which the program is seen like this. -/
def outcomeOf (r : Rasterizer) (observations : List Observation) : Outcome :=
  r.run (launcherOf observations) ⟨[], [], {}⟩ ⟨"a.png"⟩ ["a.svg"]

/-- A rasterizer with the default patience of a minute. -/
def usual : Rasterizer := ⟨⟨"inkscape"⟩, 60 * 1000⟩

/-- A rasterizer whose patience is the longest that the command line accepts. -/
def patient : Rasterizer := ⟨⟨"inkscape"⟩, 18446744073709551615 * 1000⟩

/-- A slow program is killed at the first look after the deadline, and waited for. -/
theorem slow_program_collected :
    let outcome := usual.outcomeOf [⟨.running, 0⟩, ⟨.running, 59999⟩, ⟨.running, 60019⟩]
    outcome.steps = [.look .running, .look .running, .look .running, .kill, .wait] ∧
      usual.HasResult ⟨"a.png"⟩ outcome.attempt ∧ Collects outcome.steps := by
  intro outcome
  have h := run_collects_iff usual (launcherOf [⟨.running, 0⟩, ⟨.running, 59999⟩, ⟨.running, 60019⟩]) ⟨[], [], {}⟩
    ⟨"a.png"⟩ ["a.svg"] _ ⟨by decide, rfl⟩
  have hsteps : outcome.steps = [.look .running, .look .running, .look .running, .kill, .wait] := by decide
  have hfits : 0 + usual.timeout < clockLimit := by decide
  obtain ⟨hresult, hcollects⟩ := h.2 (by decide)
  refine ⟨hsteps, hresult.2 hfits, hcollects.2 ⟨hfits, fun cause hmem => ?_⟩⟩
  have hmem : Step.look (.hidden cause) ∈ outcome.steps := hmem
  simp [hsteps] at hmem

/-- With a deadline that the clock cannot show there is no result, and nothing is done to the program that was started.
With another one, a look that does not tell is the last, and the program may run on. -/
theorem program_left_running :
    CommandLine.unsigned? 64 "18446744073709551615" = .ok 18446744073709551615 ∧
      ¬ patient.HasResult ⟨"a.png"⟩ (patient.outcomeOf [⟨.ended (.code 0), 0⟩]).attempt ∧
      Undergoes .running (patient.outcomeOf [⟨.ended (.code 0), 0⟩]).steps .running ∧
      Undergoes .running (usual.outcomeOf [⟨.hidden .permissionDenied, 0⟩]).steps .running := by
  refine ⟨rfl, ?_, .done, .unseen .done⟩
  rintro (h | ⟨message, h⟩) <;> cases h

end Rasterizer

end FirmwareSymbols.Raster
