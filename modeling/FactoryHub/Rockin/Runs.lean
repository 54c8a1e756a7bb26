import FactoryHub.Lib.Run
import FactoryHub.Rockin.Benchmark

/-!
# The runs of the functionality benchmarks

A functionality benchmark is over when its check-runs state has counted enough runs. The check-runs
state has phase EXECUTION, and so a robot that keeps on sending feedback for the run it has ended
also ends the benchmark, if its message arrives before the next tick
(`finishedAfterMaxRuns_iff`).
-/

namespace FactoryHub.Rockin

open Clips Lib

/-! ## The states of a functionality benchmark -/

namespace Scenario

/-- The running state of the execution. -/
def runningState : Scenario → StateName
  | .fbm1 => .runningState
  | _ => .executionRunningState

/-- The check-runs state. -/
def checkRunsState : Scenario → StateName
  | .fbm1 => .checkRunsState
  | _ => .executionCheckRunsState

/-- The final finished state. -/
def finishedState : Scenario → StateName
  | .fbm1 => .finishedState
  | _ => .executionFinishedState

variable {s : Scenario} {m n : StateName} {e : Event}

theorem fbm_cases (h : s.type = .fbm) : s = .fbm1 ∨ s = .fbm2 ∨ s = .fbm3 := by
  cases s <;> simp_all [type]

/-- The final state is entered from the check-runs state, with FINISH. -/
theorem to_finished (hfbm : s.type = .fbm) (h : (e, s.finishedState) ∈ (s.states m).transitions) :
    m = s.checkRunsState ∧ e = .finish := by
  rcases fbm_cases hfbm with rfl | rfl | rfl
  · cases m <;> simp_all [states, FunctionalityBenchmark1.states, finishedState, checkRunsState]
  · cases m <;> simp_all [states, FunctionalityBenchmark2.states, finishedState, checkRunsState]
  · cases m <;> simp_all [states, FunctionalityBenchmark3.states, finishedState, checkRunsState]

/-- The check-runs state is entered from the running state of the execution. -/
theorem to_checkRuns (hfbm : s.type = .fbm)
    (h : (e, s.checkRunsState) ∈ (s.states m).transitions) : m = s.runningState := by
  rcases fbm_cases hfbm with rfl | rfl | rfl
  · cases m <;> simp_all [states, FunctionalityBenchmark1.states, runningState, checkRunsState]
  · cases m <;> simp_all [states, FunctionalityBenchmark2.states, runningState, checkRunsState]
  · cases m <;> simp_all [states, FunctionalityBenchmark3.states, runningState, checkRunsState]

/-- Only the check-runs state is a CheckRunsState. -/
theorem cls_eq_checkRuns_iff (hfbm : s.type = .fbm) :
    (s.states n).cls = .checkRuns ↔ n = s.checkRunsState := by
  rcases fbm_cases hfbm with rfl | rfl | rfl
  · cases n <;> simp [states, FunctionalityBenchmark1.states, checkRunsState]
  · cases n <;> simp [states, FunctionalityBenchmark2.states, checkRunsState]
  · cases n <;> simp [states, FunctionalityBenchmark3.states, checkRunsState]

theorem checkRuns_phase (hfbm : s.type = .fbm) :
    (s.states s.checkRunsState).phase = .execution := by
  rcases fbm_cases hfbm with rfl | rfl | rfl <;> rfl

/-- FINISH leads from the check-runs state to the final state. -/
theorem next_checkRuns (hfbm : s.type = .fbm) (clock : Clock) (rand : ℕ → ℕ) :
    (Rockin.machine clock rand s.states).next s.checkRunsState .finish = some s.finishedState := by
  rcases fbm_cases hfbm with rfl | rfl | rfl <;> rfl

theorem handleFeedback_fbm (hfbm : s.type = .fbm) (feedback : BenchmarkFeedback) :
    s.handleFeedback feedback = .finish := by
  rcases fbm_cases hfbm with rfl | rfl | rfl <;> rfl

theorem runningState_ne_checkRunsState (s : Scenario) : s.runningState ≠ s.checkRunsState := by
  cases s <;> decide

theorem checkRunsState_ne_finishedState (s : Scenario) : s.checkRunsState ≠ s.finishedState := by
  cases s <;> decide

end Scenario

/-! ## The run counter -/

section

variable {clock : Clock} {rand : ℕ → ℕ} {states : StateName → StateInstance}

theorem onExit_run (n next : StateName) (m : Memory) :
    ((machine clock rand states).onExit n next m).watch.run = m.watch.run := by
  unfold machine
  dsimp only
  split
  · rfl
  · rfl
  · unfold State.onExit
    split <;> rfl

/-- Only entering a CheckRunsState counts a run. -/
theorem onEnter_run (n prev : StateName) (m : Memory) :
    ((machine clock rand states).onEnter n prev m).watch.run =
      if (states n).cls = .checkRuns then Function.update m.watch.run n (m.watch.run n + 1)
      else m.watch.run := by
  unfold machine
  dsimp only
  split
  · next _ hcls =>
      rw [hcls]
      rfl
  · next _ hcls =>
      rw [hcls]
      rfl
  · unfold State.onEnter
    split <;> simp_all [RunningState.onEnter, CheckRunsState.onEnter, TimeoutState.onEnter,
      Watch.now, Watch.restart]

theorem onUpdate_run (n : StateName) (m : Memory) :
    ((machine clock rand states).onUpdate n m).1.watch.run = m.watch.run := by
  show ((states n).onUpdate clock n m.watch).1.run = m.watch.run
  unfold State.onUpdate
  split <;> rfl

/-- Only a CheckRunsState with enough runs raises FINISH. -/
theorem onUpdate_finish {n : StateName} {m : Memory}
    (h : ((machine clock rand states).onUpdate n m).2 = some .finish) :
    (states n).cls = .checkRuns ∧ (states n).maxRuns ≤ m.watch.run n := by
  have hraised : ((states n).onUpdate clock n m.watch).2 = some .finish := h
  unfold State.onUpdate at hraised
  split at hraised
  · -- a RunningState raises TIMEOUT
    simp [RunningState.onUpdate, Watch.now] at hraised
  · next hcls =>
      refine ⟨hcls, ?_⟩
      by_contra hmore
      simp [CheckRunsState.onUpdate, hmore] at hraised
  · simp [TimeoutState.onUpdate] at hraised
  · cases hraised

end

namespace Benchmark

/-- `run` of the check-runs state. -/
def run (b : Benchmark) : Int := b.stateMachine.data.watch.run b.currentScenario.checkRunsState

/-- `max-runs` of the check-runs state. -/
def maxRuns (b : Benchmark) : Int :=
  (b.currentScenario.states b.currentScenario.checkRunsState).maxRuns

end Benchmark

/-! ## What an input does -/

/-- A BenchmarkFeedback that ends the execution finds the check-runs state with runs left. -/
def EndsEarly (r : Refbox) : Input → Prop
  | .benchmarkFeedback clientType host feedback =>
      r.Matches clientType host ∧ feedback.phaseToTerminate = .execution ∧
        r.benchmark.current = r.benchmark.currentScenario.checkRunsState ∧
        r.benchmark.run < r.benchmark.maxRuns
  | _ => False

/-- The state machine stays in its state and counts no run, or takes a transition. FINISH in the
check-runs state comes from early feedback or after enough runs. -/
inductive Moves (r : Refbox) (i : Input) (r' : Refbox) : Prop
  | stay (hscenario : r'.benchmark.currentScenario = r.benchmark.currentScenario)
      (hcurrent : r'.benchmark.current = r.benchmark.current)
      (hrun : r'.benchmark.stateMachine.data.watch.run = r.benchmark.stateMachine.data.watch.run)
  | move (hscenario : r'.benchmark.currentScenario = r.benchmark.currentScenario)
      (e : Event) (n : StateName) (hmem : (e, n) ∈ r.benchmark.state.transitions)
      (hcurrent : r'.benchmark.current = n)
      (hrun : r'.benchmark.stateMachine.data.watch.run =
        if (r.benchmark.currentScenario.states n).cls = .checkRuns then
          Function.update r.benchmark.stateMachine.data.watch.run n
            (r.benchmark.stateMachine.data.watch.run n + 1)
        else r.benchmark.stateMachine.data.watch.run)
      (hfinish : e = .finish → r.benchmark.current = r.benchmark.currentScenario.checkRunsState →
        EndsEarly r i ∨ r.benchmark.maxRuns ≤ r.benchmark.run)

section

variable {clock : Clock} {rand : ℕ → ℕ} {r r' : Refbox} {i : Input}

theorem setState_run (states : StateName → StateInstance) (n : StateName)
    (c : Config StateName Memory) :
    ((machine clock rand states).setState n c).data.watch.run =
      if (states n).cls = .checkRuns then
        Function.update c.data.watch.run n (c.data.watch.run n + 1)
      else c.data.watch.run := by
  show ((machine clock rand states).onEnter n c.current _).watch.run = _
  rw [onEnter_run, onExit_run]

theorem moves_processEvent {e : Event} (hr : r'.benchmark = r.benchmark.processEvent clock rand e)
    (hfinish : e = .finish → r.benchmark.current = r.benchmark.currentScenario.checkRunsState →
      EndsEarly r i ∨ r.benchmark.maxRuns ≤ r.benchmark.run) : Moves r i r' := by
  have hscenario : r'.benchmark.currentScenario = r.benchmark.currentScenario := by
    rw [hr]
    rfl
  have hmachine : r'.benchmark.stateMachine =
      (r.benchmark.machine clock rand).processEvent e r.benchmark.stateMachine := by
    rw [hr]
    rfl
  rcases StateMachine.processEvent_cases (m := r.benchmark.machine clock rand) e
    r.benchmark.stateMachine with hignored | ⟨n, hmem, hset⟩
  · rw [hignored] at hmachine
    exact .stay hscenario (congrArg Config.current hmachine) (by rw [hmachine])
  · rw [hset] at hmachine
    refine .move hscenario e n hmem (congrArg Config.current hmachine) ?_ hfinish
    rw [hmachine]
    exact setState_run ..

theorem moves_update (hr : r'.benchmark = r.benchmark.update clock rand) : Moves r i r' := by
  have hscenario : r'.benchmark.currentScenario = r.benchmark.currentScenario := by
    rw [hr]
    rfl
  have hmachine : r'.benchmark.stateMachine =
      (r.benchmark.machine clock rand).update r.benchmark.stateMachine := by
    rw [hr]
    rfl
  have hkept := @onUpdate_run clock rand r.benchmark.currentScenario.states
    r.benchmark.stateMachine.current r.benchmark.stateMachine.data
  rcases StateMachine.update_cases (m := r.benchmark.machine clock rand)
    r.benchmark.stateMachine with hquiet | ⟨e, n, hraised, hmem, hset⟩
  · rw [hquiet] at hmachine
    refine .stay hscenario ?_ ?_
    · rw [Benchmark.current, hmachine]
      rfl
    · rw [hmachine]
      exact hkept
  · -- the check-runs state, or the time of a running state is over
    rw [hset] at hmachine
    refine .move hscenario e n hmem (congrArg Config.current hmachine) ?_ ?_
    · rw [hmachine, ← hkept]
      exact setState_run ..
    · intro hfinish hcurrent
      rw [hfinish] at hraised
      obtain ⟨_, henough⟩ := onUpdate_finish hraised
      right
      rw [Benchmark.maxRuns, Benchmark.run, ← hcurrent]
      exact henough

theorem moves_kept (hscenario : r'.benchmark.currentScenario = r.benchmark.currentScenario)
    (hmachine : r'.benchmark.stateMachine = r.benchmark.stateMachine) : Moves r i r' :=
  .stay hscenario (congrArg Config.current hmachine) (by rw [hmachine])

/-- A request waits for the next RESET. -/
theorem requestScenario_kept (b : Benchmark) (type : BenchmarkType) (typeId : ℕ) :
    (b.requestScenario type typeId).currentScenario = b.currentScenario ∧
      (b.requestScenario type typeId).stateMachine = b.stateMachine := by
  unfold Benchmark.requestScenario
  split <;> exact ⟨rfl, rfl⟩

theorem moves_benchmarkFeedback (hfbm : r.benchmark.currentScenario.type = .fbm)
    (clientType : Comm.ClientType) (host : String) (feedback : BenchmarkFeedback) :
    Moves r (.benchmarkFeedback clientType host feedback)
      (r.benchmarkFeedback clock rand clientType host feedback) := by
  unfold Refbox.benchmarkFeedback
  split
  · next hmatches =>
      by_cases hphase : feedback.phaseToTerminate = r.benchmark.state.phase
      · apply @moves_processEvent clock rand _ _ _ .finish
        · show r.benchmark.receiveFeedback clock rand feedback = _
          rw [Benchmark.receiveFeedback, if_neg (not_not_intro hphase),
            Scenario.handleFeedback_fbm hfbm]
        · intro _ hcurrent
          -- the phase filter lets EXECUTION pass in the check-runs state
          rw [Benchmark.state, hcurrent, Scenario.checkRuns_phase hfbm] at hphase
          rcases lt_or_ge r.benchmark.run r.benchmark.maxRuns with hmore | henough
          · exact Or.inl ⟨hmatches, hphase, hcurrent, hmore⟩
          · exact Or.inr henough
      · have hignored : r.benchmark.receiveFeedback clock rand feedback = r.benchmark := by
          rw [Benchmark.receiveFeedback, if_pos hphase]
        rw [hignored]
        exact moves_kept rfl rfl
  · exact moves_kept rfl rfl

theorem step_moves (hfbm : r.benchmark.currentScenario.type = .fbm)
    (hreset : i ≠ .setBenchmarkTransitionEvent .reset) : Moves r i (r.step clock rand i) := by
  cases i with
  | setBenchmarkScenario type typeId =>
      obtain ⟨hscenario, hmachine⟩ := requestScenario_kept r.benchmark type typeId
      exact moves_kept hscenario hmachine
  | setBenchmarkTransitionEvent event =>
      cases event with
      | reset => exact absurd rfl hreset
      | start => exact moves_processEvent rfl (by intro h; cases h)
      | stop => exact moves_processEvent rfl (by intro h; cases h)
      | pause => exact moves_processEvent rfl (by intro h; cases h)
  | benchmarkFeedback clientType host feedback =>
      exact moves_benchmarkFeedback hfbm clientType host feedback
  | beacon robot =>
      show Moves r _ (r.beacon robot)
      unfold Refbox.beacon
      split <;> exact moves_kept rfl rfl
  | robotRemove robot => exact moves_kept rfl rfl
  | tick => exact moves_update rfl

end

/-! ## Along a run -/

/-- The final state is entered. -/
def EntersFinished (t : Step Refbox Input) : Prop :=
  t.pre.benchmark.current ≠ t.pre.benchmark.currentScenario.finishedState ∧
    t.post.benchmark.current = t.pre.benchmark.currentScenario.finishedState

/-- A run of the execution is over. -/
def EndsRun (t : Step Refbox Input) : Prop :=
  t.pre.benchmark.current = t.pre.benchmark.currentScenario.runningState ∧
    t.post.benchmark.current = t.pre.benchmark.currentScenario.checkRunsState

instance (t : Step Refbox Input) : Decidable (EntersFinished t) := by
  unfold EntersFinished
  infer_instance

instance (t : Step Refbox Input) : Decidable (EndsRun t) := by
  unfold EndsRun
  infer_instance

instance (r : Refbox) (i : Input) : Decidable (EndsEarly r i) := by
  unfold EndsEarly
  split <;> infer_instance

/-- How many runs of the execution are over. -/
def runsEnded (tr : List (Step Refbox Input)) : Int := tr.countP (fun t => EndsRun t)

/-- The final state is entered only when the run counter has reached its maximum, and as many runs
of the execution are over. -/
def FinishedAfterMaxRuns (t : Step Refbox Input) (earlier : List (Step Refbox Input)) : Prop :=
  EntersFinished t →
    t.pre.benchmark.maxRuns ≤ t.pre.benchmark.run ∧ t.pre.benchmark.maxRuns ≤ runsEnded earlier

instance (t : Step Refbox Input) (earlier : List (Step Refbox Input)) :
    Decidable (FinishedAfterMaxRuns t earlier) := by
  unfold FinishedAfterMaxRuns
  infer_instance

/-- The run counter of the scenario `s` counts the runs that are over. -/
def Counts (s : Scenario) (tr : List (Step Refbox Input)) (r : Refbox) : Prop :=
  r.benchmark.currentScenario = s ∧ r.benchmark.run = runsEnded tr

section

variable {r r' : Refbox} {i : Input} {s : Scenario}

theorem runsEnded_of_endsRun {t : Step Refbox Input} {tr : List (Step Refbox Input)}
    (h : EndsRun t) : runsEnded (t :: tr) = runsEnded tr + 1 := by
  simp [runsEnded, h]

theorem runsEnded_of_not_endsRun {t : Step Refbox Input} {tr : List (Step Refbox Input)}
    (h : ¬ EndsRun t) : runsEnded (t :: tr) = runsEnded tr := by
  simp [runsEnded, h]

theorem moves_counts {tr : List (Step Refbox Input)} (hfbm : s.type = .fbm)
    (hcounts : Counts s tr r) (h : Moves r i r') : Counts s (⟨r, i, r'⟩ :: tr) r' := by
  obtain ⟨rfl, hrun⟩ := hcounts
  cases h with
  | stay hscenario hcurrent hkept =>
      refine ⟨hscenario, ?_⟩
      have hends : ¬ EndsRun ⟨r, i, r'⟩ := by
        rintro ⟨hrunning, hcheck⟩
        rw [hcurrent, hrunning] at hcheck
        exact Scenario.runningState_ne_checkRunsState _ hcheck
      rw [runsEnded_of_not_endsRun hends, ← hrun, Benchmark.run, hscenario, hkept]
      rfl
  | move hscenario e n hmem hcurrent hkept _ =>
      refine ⟨hscenario, ?_⟩
      by_cases hn : n = r.benchmark.currentScenario.checkRunsState
      · -- a run is over
        subst hn
        have hends : EndsRun ⟨r, i, r'⟩ := ⟨Scenario.to_checkRuns hfbm hmem, hcurrent⟩
        rw [if_pos ((Scenario.cls_eq_checkRuns_iff hfbm).mpr rfl)] at hkept
        rw [runsEnded_of_endsRun hends, ← hrun, Benchmark.run, hscenario, hkept,
          Function.update_self]
        rfl
      · have hends : ¬ EndsRun ⟨r, i, r'⟩ := fun hends => hn (hcurrent.symm.trans hends.2)
        rw [if_neg (fun hcls => hn ((Scenario.cls_eq_checkRuns_iff hfbm).mp hcls))] at hkept
        rw [runsEnded_of_not_endsRun hends, ← hrun, Benchmark.run, hscenario, hkept]
        rfl

/-- The final state is entered from the check-runs state, early or after enough runs. -/
theorem moves_finished (hfbm : r.benchmark.currentScenario.type = .fbm) (h : Moves r i r')
    (henters : EntersFinished ⟨r, i, r'⟩) :
    EndsEarly r i ∨ r.benchmark.maxRuns ≤ r.benchmark.run := by
  obtain ⟨hne, hfinished⟩ := henters
  cases h with
  | stay hscenario hcurrent _ => exact absurd (hcurrent.symm.trans hfinished) hne
  | move hscenario e n hmem hcurrent _ hfinish =>
      obtain rfl := hcurrent.symm.trans hfinished
      obtain ⟨hcheck, rfl⟩ := Scenario.to_finished hfbm hmem
      exact hfinish rfl hcheck

/-- Early feedback enters the final state. -/
theorem entersFinished_of_early {clock : Clock} {rand : ℕ → ℕ}
    (hfbm : r.benchmark.currentScenario.type = .fbm) (h : EndsEarly r i) :
    EntersFinished ⟨r, i, r.step clock rand i⟩ := by
  cases i with
  | benchmarkFeedback clientType host feedback =>
      obtain ⟨hmatches, hphase, hcurrent, _⟩ := h
      have hstate : feedback.phaseToTerminate = r.benchmark.state.phase := by
        rw [hphase, Benchmark.state, hcurrent, Scenario.checkRuns_phase hfbm]
      have hnext : (r.benchmark.machine clock rand).next r.benchmark.stateMachine.current .finish =
          some r.benchmark.currentScenario.finishedState := by
        rw [show r.benchmark.stateMachine.current = _ from hcurrent]
        exact Scenario.next_checkRuns hfbm clock rand
      refine ⟨?_, ?_⟩
      · rw [hcurrent]
        exact Scenario.checkRunsState_ne_finishedState _
      · show (r.benchmarkFeedback clock rand clientType host feedback).benchmark.current = _
        rw [Refbox.benchmarkFeedback, if_pos hmatches, Benchmark.receiveFeedback,
          if_neg (not_not_intro hstate), Scenario.handleFeedback_fbm hfbm]
        show ((r.benchmark.machine clock rand).processEvent .finish
          r.benchmark.stateMachine).current = _
        rw [StateMachine.processEvent_of_next hnext, StateMachine.setState_current]
  | setBenchmarkScenario | setBenchmarkTransitionEvent | beacon | robotRemove | tick => cases h

end

section

variable (clock : Clock) (rand : ℕ → ℕ)

/-- The scenario requested last is set up. -/
def setUp (r : Refbox) : Refbox := r.step clock rand (.setBenchmarkTransitionEvent .reset)

/-- The steps on a sequence of inputs after the set-up. -/
def steps (r : Refbox) (inputs : List Input) : List (Step Refbox Input) :=
  record (Refbox.step clock rand) (setUp clock rand r) inputs

variable {clock rand} {r : Refbox} (hfbm : r.benchmark.requestedScenario.type = .fbm)
include hfbm

/-- A new check-runs state has counted no runs. -/
theorem counts_setUp : Counts r.benchmark.requestedScenario [] (setUp clock rand r) := by
  refine ⟨rfl, ?_⟩
  have hinitial : (r.benchmark.requestedScenario.states
      r.benchmark.requestedScenario.initialState).cls ≠ .checkRuns := by
    rcases Scenario.fbm_cases hfbm with hs | hs | hs
    all_goals
      rw [hs]
      decide
  show ((machine clock rand r.benchmark.requestedScenario.states).onEnter _ _ _).watch.run _ = 0
  rw [onEnter_run, if_neg hinitial]

/-- The run counter keeps count along every run without RESET. -/
theorem counts_run {tr : List (Step Refbox Input)} {r' : Refbox}
    (h : Run (fun r i r' => r.step clock rand i = r') (setUp clock rand r) tr r')
    (hreset : ∀ t ∈ tr, t.label ≠ .setBenchmarkTransitionEvent .reset) :
    Counts r.benchmark.requestedScenario tr r' := by
  refine @Run.history_invariant_of _ _ _ _ _ _ (fun _ i => i ≠ .setBenchmarkTransitionEvent .reset)
    (Counts r.benchmark.requestedScenario) (counts_setUp hfbm) ?_ h hreset
  rintro tr r' i _ hcounts hi rfl
  apply moves_counts hfbm hcounts
  apply step_moves _ hi
  rw [hcounts.1]
  exact hfbm

/-- What holds where a step was taken. -/
theorem counts_split {tr later earlier : List (Step Refbox Input)} {t : Step Refbox Input}
    {r' : Refbox} (h : Run (fun r i r' => r.step clock rand i = r') (setUp clock rand r) tr r')
    (hreset : ∀ t ∈ tr, t.label ≠ .setBenchmarkTransitionEvent .reset)
    (heq : tr = later ++ t :: earlier) :
    t.pre.benchmark.currentScenario.type = .fbm ∧ t.pre.benchmark.run = runsEnded earlier ∧
      t.post = t.pre.step clock rand t.label ∧ Moves t.pre t.label t.post := by
  subst heq
  obtain ⟨hearlier, hstep⟩ := h.split
  have hcounts := counts_run hfbm hearlier (by
    intro u hu
    exact hreset u (by simp [hu]))
  have htype : t.pre.benchmark.currentScenario.type = .fbm := by
    rw [hcounts.1]
    exact hfbm
  refine ⟨htype, hcounts.2, hstep.symm, ?_⟩
  rw [← hstep]
  exact step_moves htype (hreset t (by simp))

variable (clock rand r) in
/-- A functionality benchmark enters its final state only after its maximum of runs if and only if
no feedback ends it early. -/
theorem finishedAfterMaxRuns_iff (inputs : List Input)
    (hreset : .setBenchmarkTransitionEvent .reset ∉ inputs) :
    AllSteps FinishedAfterMaxRuns (steps clock rand r inputs) ↔
      ∀ t ∈ steps clock rand r inputs, ¬ EndsEarly t.pre t.label := by
  have hrun := run_record (Refbox.step clock rand) (setUp clock rand r) inputs
  have hlabels : ∀ t ∈ steps clock rand r inputs,
      t.label ≠ .setBenchmarkTransitionEvent .reset := by
    intro t ht heq
    exact hreset (heq ▸ label_mem_of_record ht)
  rw [allSteps_iff]
  constructor
  · intro hall t ht hearly
    obtain ⟨later, earlier, heq⟩ := List.append_of_mem ht
    obtain ⟨htype, _, hpost, _⟩ := counts_split hfbm hrun hlabels heq
    have henters : EntersFinished t := by
      have h := @entersFinished_of_early _ _ clock rand htype hearly
      rw [← hpost] at h
      exact h
    obtain ⟨henough, _⟩ := hall later t earlier heq henters
    cases hlabel : t.label with
    | benchmarkFeedback clientType host feedback =>
        rw [hlabel] at hearly
        exact absurd hearly.2.2.2 (not_lt.mpr henough)
    | setBenchmarkScenario | setBenchmarkTransitionEvent | beacon | robotRemove | tick =>
        rw [hlabel] at hearly
        cases hearly
  · intro hnone later t earlier heq henters
    obtain ⟨htype, hcounter, _, hmoves⟩ := counts_split hfbm hrun hlabels heq
    have henough : t.pre.benchmark.maxRuns ≤ t.pre.benchmark.run := by
      rcases moves_finished htype hmoves henters with hearly | henough
      · exact absurd hearly (hnone t (by simp [heq]))
      · exact henough
    exact ⟨henough, hcounter ▸ henough⟩

end

/-! ## A robot that repeats its feedback -/

/-- FBM1 is requested, and a robot is known. -/
def fbm1Requested : Refbox :=
  { robots := [⟨"RoCKIn", "youbot", "192.168.1.20", 4445⟩]
    benchmark := Benchmark.start.requestScenario .fbm 1 }

/-- The robot ends the execution. -/
def robotFinishes : Input := .benchmarkFeedback .peer "192.168.1.20" { phaseToTerminate := .execution }

/-- Ten runs with one feedback message each. -/
def tenRuns : List Input :=
  (List.replicate 10
    [.setBenchmarkTransitionEvent .start, .tick, robotFinishes, .tick]).flatten

/-- After ten runs FBM1 is finished, and not before. -/
theorem finishedAfterMaxRuns_of_tenRuns :
    AllSteps FinishedAfterMaxRuns (steps everySecond id fbm1Requested tenRuns) ∧
      (∃ t ∈ steps everySecond id fbm1Requested tenRuns, EntersFinished t) := by
  refine ⟨(finishedAfterMaxRuns_iff _ _ fbm1Requested rfl tenRuns (by decide)).mpr ?_, ?_⟩
  · decide +kernel
  · decide +kernel

/-- The feedback for the first run is received twice, and FBM1 is finished. -/
theorem not_finishedAfterMaxRuns_of_repeated :
    ¬ ∀ (clock : Clock) (rand : ℕ → ℕ) (r : Refbox),
      r.benchmark.requestedScenario.type = .fbm → ∀ inputs : List Input,
        .setBenchmarkTransitionEvent .reset ∉ inputs →
          AllSteps FinishedAfterMaxRuns (steps clock rand r inputs) := by
  intro h
  have hrun := h everySecond id fbm1Requested rfl
    [.setBenchmarkTransitionEvent .start, robotFinishes, robotFinishes] (by decide)
  revert hrun
  decide +kernel

end FactoryHub.Rockin
