import FactoryHub.Rockin.Benchmark
import FactoryHub.Lib.Run

/-!
# Feedback in task benchmarks

Which handler of a task benchmark judges a BenchmarkFeedback. `task-benchmarks.clp` defines the handler
of TBM2 a second time, in the place of that of TBM3, which is left with the one it inherits.

* `TaskFeedback.handle_eq` — the handlers that count, among all that are defined.
* `TaskFeedback.judged_step_iff` — what a message does in one step.
* `TaskFeedback.judged_run_iff` — the messages of a run.
-/

namespace FactoryHub.Rockin

open Clips Lib

/-! ## Messages -/

/-- The enum `PlateState` of a BenchmarkFeedback. -/
inductive PlateState where
  | unusable | faulty | perfect
  deriving DecidableEq, Repr

/-- A BenchmarkFeedback with the fields for TBM2. -/
structure TaskFeedback extends BenchmarkFeedback where
  afterReceiving : Option PlateState := none
  afterDrilling : Option PlateState := none
  deriving DecidableEq, Repr

/-! ## Handlers -/

/-- `handle-feedback` of BenchmarkScenario. -/
def BenchmarkScenario.handleFeedback (_ : TaskFeedback) : Command := .continue

/-- `handle-feedback` of TaskBenchmark1. -/
def TaskBenchmark1.handleFeedback (feedback : TaskFeedback) : Command :=
  if feedback.assemblyAidTrayId.isSome ∧ feedback.containerId.isSome then .continue else .finish

/-- The first `handle-feedback` of TaskBenchmark2. -/
def TaskBenchmark2.handleFeedback (feedback : TaskFeedback) : Command :=
  if feedback.afterReceiving.isSome ∧ feedback.afterDrilling.isSome then .continue else .finish

/-- The `handle-feedback` of TaskBenchmark2 that comes after `setup` of TaskBenchmark3. -/
def TaskBenchmark2.handleFeedbackAlways (_ : TaskFeedback) : Command := .finish

namespace TaskFeedback

/-- The definitions of `handle-feedback` for the class of a task benchmark, in their order. -/
def handlers : Scenario → List (TaskFeedback → Command)
  | .tbm1 => [TaskBenchmark1.handleFeedback]
  | .tbm2 => [TaskBenchmark2.handleFeedback, TaskBenchmark2.handleFeedbackAlways]
  | _ => []

/-- The last definition for the class counts, and without one that of BenchmarkScenario. -/
def handle (s : Scenario) (feedback : TaskFeedback) : Command :=
  (handlers s).getLast?.getD BenchmarkScenario.handleFeedback feedback

/-- The handlers of the task benchmarks. -/
theorem handle_eq {s : Scenario} (h : s.type = .tbm) (feedback : TaskFeedback) :
    handle s feedback = s.handleFeedback feedback.toBenchmarkFeedback := by
  cases s with
  | tbm1 => rfl
  | tbm2 => rfl
  | tbm3 => rfl
  | _ => cases h

/-- The feedback ends a task benchmark: it does so in TBM3, and in the others if a field is missing
that the task asks for. -/
def Ends (feedback : TaskFeedback) : Scenario → Prop
  | .tbm1 => feedback.assemblyAidTrayId = none ∨ feedback.containerId = none
  | .tbm2 => feedback.afterReceiving = none ∨ feedback.afterDrilling = none
  | .tbm3 => True
  | _ => False

instance (feedback : TaskFeedback) (s : Scenario) : Decidable (feedback.Ends s) := by
  unfold Ends
  split <;> infer_instance

end TaskFeedback

/-! ## Runs -/

/-- The inputs of the refbox, with all fields of a BenchmarkFeedback that the handlers ask for. -/
inductive TaskInput where
  | setBenchmarkScenario (type : BenchmarkType) (typeId : ℕ)
  | setBenchmarkTransitionEvent (event : TransitionEvent)
  | benchmarkFeedback (clientType : Comm.ClientType) (host : String) (feedback : TaskFeedback)
  | beacon (robot : Robot)
  | robotRemove (robot : Robot)
  | tick
  deriving DecidableEq, Repr

def TaskInput.toInput : TaskInput → Input
  | .setBenchmarkScenario type typeId => .setBenchmarkScenario type typeId
  | .setBenchmarkTransitionEvent event => .setBenchmarkTransitionEvent event
  | .benchmarkFeedback clientType host feedback =>
      .benchmarkFeedback clientType host feedback.toBenchmarkFeedback
  | .beacon robot => .beacon robot
  | .robotRemove robot => .robotRemove robot
  | .tick => .tick

namespace TaskFeedback

/-- The runs of the refbox. -/
abbrev TaskRun (clock : Clock) (rand : ℕ → ℕ) :
    List (Step Refbox TaskInput) → Refbox → Prop :=
  Run (fun r i r' => r.step clock rand i.toInput = r') .start

/-- A task benchmark is current, and the message of a robot that asks to end the execution arrives. -/
def Arrives (r : Refbox) (clientType : Comm.ClientType) (host : String) (feedback : TaskFeedback) :
    Prop :=
  r.Matches clientType host ∧ feedback.phaseToTerminate = .execution ∧
    r.benchmark.currentScenario.type = .tbm

instance (r : Refbox) (clientType : Comm.ClientType) (host : String) (feedback : TaskFeedback) :
    Decidable (Arrives r clientType host feedback) := by
  unfold Arrives
  infer_instance

/-- A message that arrives in the RunningState leads to the finished state iff it ends the benchmark,
and in other states does nothing. -/
def Judged (t : Step Refbox TaskInput) : Prop :=
  match t.label with
  | .benchmarkFeedback clientType host feedback =>
      Arrives t.pre clientType host feedback →
        (t.pre.benchmark.current = .runningState →
          (t.post.benchmark.current = .finishedState ↔
            feedback.Ends t.pre.benchmark.currentScenario)) ∧
        (t.pre.benchmark.current ≠ .runningState → t.post = t.pre)
  | _ => True

/-- A message arrives in the RunningState of TBM3, or one in that of TBM2 that has both fields. -/
def Misjudged (r : Refbox) : TaskInput → Prop
  | .benchmarkFeedback clientType host feedback =>
      Arrives r clientType host feedback ∧ r.benchmark.current = .runningState ∧
        (r.benchmark.currentScenario = .tbm3 ∨
          r.benchmark.currentScenario = .tbm2 ∧ feedback.afterReceiving.isSome ∧
            feedback.afterDrilling.isSome)
  | _ => False

instance (r : Refbox) (i : TaskInput) : Decidable (Misjudged r i) := by
  unfold Misjudged
  split <;> infer_instance

section

variable {clock : Clock} {rand : ℕ → ℕ} {r : Refbox} {clientType : Comm.ClientType}
  {host : String} {feedback : TaskFeedback}

/-- The states of the task benchmarks are the same. -/
theorem states_tbm {s : Scenario} (h : s.type = .tbm) : s.states = TaskBenchmark.states := by
  cases s with
  | tbm1 => rfl
  | tbm2 => rfl
  | tbm3 => rfl
  | _ => cases h

/-- All states of a task benchmark are of the phase of execution. -/
theorem phase_tbm (n : StateName) : (TaskBenchmark.states n).phase = .execution := by
  cases n <;> rfl

/-- Only the RunningState is finished. -/
theorem next_finish (n : StateName) :
    (machine clock rand TaskBenchmark.states).next n .finish =
      if n = .runningState then some .finishedState else none := by
  cases n <;> rfl

/-- What a message does that arrives: the handler decides whether the RunningState is finished. -/
theorem step_of_arrives (h : Arrives r clientType host feedback) :
    let r' := r.step clock rand (.benchmarkFeedback clientType host feedback.toBenchmarkFeedback)
    if r.benchmark.current = .runningState ∧
        handle r.benchmark.currentScenario feedback = .finish then
      r'.benchmark.current = .finishedState
    else r' = r := by
  obtain ⟨hmatches, hphase, htbm⟩ := h
  have hstates := states_tbm htbm
  have hstate : r.benchmark.state.phase = .execution := by
    show (r.benchmark.currentScenario.states _).phase = _
    rw [hstates]
    exact phase_tbm _
  have hstep : ∀ command, handle r.benchmark.currentScenario feedback = command →
      r.step clock rand (.benchmarkFeedback clientType host feedback.toBenchmarkFeedback) =
        if command = .finish then
          { r with benchmark := r.benchmark.processEvent clock rand .finish }
        else r := by
    intro command hcommand
    rw [handle_eq htbm] at hcommand
    show r.benchmarkFeedback clock rand clientType host _ = _
    unfold Refbox.benchmarkFeedback Benchmark.receiveFeedback
    rewrite [if_pos hmatches, hphase, hstate, if_neg (not_not_intro rfl), hcommand]
    cases command <;> rfl
  dsimp only
  rw [hstep _ rfl]
  cases handle r.benchmark.currentScenario feedback with
  | «continue» => simp
  | finish =>
      rw [if_pos (rfl : Command.finish = Command.finish)]
      have hnext : (r.benchmark.machine clock rand).next r.benchmark.stateMachine.current .finish =
          if r.benchmark.current = .runningState then some .finishedState else none := by
        unfold Benchmark.machine
        rw [hstates]
        exact next_finish _
      by_cases hrunning : r.benchmark.current = .runningState
      · rw [if_pos hrunning] at hnext
        rw [if_pos ⟨hrunning, rfl⟩]
        show ((r.benchmark.machine clock rand).processEvent .finish _).current = _
        rw [StateMachine.processEvent_of_next hnext]
        rfl
      · rw [if_neg hrunning] at hnext
        rw [if_neg fun h => hrunning h.1]
        unfold Benchmark.processEvent StateMachine.processEvent
        rw [hnext]

/-- The handlers of the task benchmarks judge as the tasks ask for, but for TBM3 and for messages for
TBM2 with both fields. -/
theorem handle_finish_iff {s : Scenario} (h : s.type = .tbm) :
    (handle s feedback = .finish ↔ feedback.Ends s) ↔
      ¬ (s = .tbm3 ∨ s = .tbm2 ∧ feedback.afterReceiving.isSome ∧ feedback.afterDrilling.isSome) := by
  cases s with
  | tbm1 =>
      show ((if _ then Command.continue else Command.finish) = _ ↔ _ ∨ _) ↔ _
      cases feedback.assemblyAidTrayId <;> cases feedback.containerId <;> simp
  | tbm2 =>
      show (Command.finish = _ ↔ _ ∨ _) ↔ _
      cases feedback.afterReceiving <;> cases feedback.afterDrilling <;> simp
  | tbm3 => simp [handle, handlers, BenchmarkScenario.handleFeedback, Ends]
  | _ => cases h

/-- A message is judged as the task asks for iff it is not one for the RunningState of TBM3, nor one with
both fields for that of TBM2. -/
theorem judged_step_iff (clock : Clock) (rand : ℕ → ℕ) (r : Refbox) (i : TaskInput) :
    Judged ⟨r, i, r.step clock rand i.toInput⟩ ↔ ¬ Misjudged r i := by
  cases i with
  | benchmarkFeedback clientType host feedback =>
      by_cases harrives : Arrives r clientType host feedback
      · have hstep := @step_of_arrives clock rand _ _ _ _ harrives
        have hiff := @handle_finish_iff feedback _ harrives.2.2
        unfold Judged Misjudged
        simp only [TaskInput.toInput, harrives, true_and, forall_const]
        dsimp only at hstep
        by_cases hrunning : r.benchmark.current = .runningState
        · simp only [hrunning, true_and] at hstep
          simp only [hrunning, ne_eq, not_true_eq_false, IsEmpty.forall_iff, and_true, forall_const,
            true_and]
          rw [← hiff]
          by_cases hfinish : handle r.benchmark.currentScenario feedback = .finish
          · rw [if_pos hfinish] at hstep
            simp [hstep, hfinish]
          · rw [if_neg hfinish] at hstep
            simp [hstep, hrunning, hfinish]
        · simp only [hrunning, false_and, if_false] at hstep
          simp [hrunning, hstep]
      · exact iff_of_true (fun h => absurd h harrives) (fun h => harrives h.1)
  | _ => exact iff_of_true trivial not_false

variable {tr : List (Step Refbox TaskInput)}

/-- **Feedback is judged as the tasks ask for** in a run iff no message arrives in the RunningState of
TBM3, nor one with both fields in that of TBM2. -/
theorem judged_run_iff (h : TaskRun clock rand tr r) :
    (∀ t ∈ tr, Judged t) ↔ ∀ t ∈ tr, ¬ Misjudged t.pre t.label := by
  have hstep : ∀ t ∈ tr, Judged t ↔ ¬ Misjudged t.pre t.label := by
    intro t ht
    rw [← judged_step_iff clock rand, (Run.mem_run h ht).1]
  constructor
  · intro hjudged t ht
    exact (hstep t ht).mp (hjudged t ht)
  · intro hnone t ht
    exact (hstep t ht).mpr (hnone t ht)

/-- The robot that sends feedback. -/
def youBot : Robot := { team := "b-it-bots", name := "youBot", host := "192.168.1.20", port := 4445 }

/-- A task benchmark is set up and started, and the robot sends a message. -/
def oneMessage (typeId : ℕ) (feedback : TaskFeedback) : List TaskInput :=
  [.beacon youBot, .setBenchmarkScenario .tbm typeId, .setBenchmarkTransitionEvent .reset,
    .setBenchmarkTransitionEvent .start, .benchmarkFeedback .peer "192.168.1.20" feedback]

/-- The steps of a run. -/
def steps (inputs : List TaskInput) : List (Step Refbox TaskInput) :=
  record (fun r i => r.step everySecond id i.toInput) .start inputs

/-- TBM1 goes on with both fields, and TBM2 ends without one of them. -/
theorem judged_of_oneMessage :
    (∀ t ∈ steps (oneMessage 1
      { phaseToTerminate := .execution, assemblyAidTrayId := some "EM-01-01"
        containerId := some "EM-01-01" }), Judged t) ∧
    ∀ t ∈ steps (oneMessage 2
      { phaseToTerminate := .execution, afterReceiving := some .faulty }), Judged t := by
  constructor
  · refine (judged_run_iff (run_record _ _ _)).mpr ?_
    decide +kernel
  · refine (judged_run_iff (run_record _ _ _)).mpr ?_
    decide +kernel

/-- TBM3 goes on. -/
theorem not_judged_in_tbm3 :
    ¬ ∀ t ∈ steps (oneMessage 3 { phaseToTerminate := .execution }), Judged t := by
  intro h
  have hlast := h _ (List.mem_cons_self ..)
  refine (judged_step_iff everySecond id _ _).mp hlast ?_
  decide +kernel

end

end TaskFeedback

end FactoryHub.Rockin
