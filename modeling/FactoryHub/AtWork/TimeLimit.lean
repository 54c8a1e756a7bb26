import FactoryHub.AtWork.Clock

/-!
# The time limit of a benchmark

A RunningState tests its time on the timer as it was before the tick, so that a tick may leave it
running past its time: exactly the ticks that do are those that overrun (`withinLimit_iff`).
-/

namespace FactoryHub.AtWork

open Clips Lib

namespace Benchmark

/-- The timer of a running state is below its time. -/
def WithinLimit (b : Benchmark) : Prop := b.Running → b.timer < b.state.maxTime

instance (b : Benchmark) : Decidable b.WithinLimit := by
  unfold WithinLimit
  infer_instance

/-- A tick at `now` finds a running state with time left, but the FLOAT sum of its timer and of the
time since its last tick is not below its time. -/
def Overruns (float : ℚ → ℚ) (now : Time) (b : Benchmark) : Prop :=
  b.Running ∧ b.timer < b.state.maxTime ∧
    b.state.maxTime ≤
      float (b.timer + now.floatDiffSec float (b.stateMachine.data.lastTime b.current))

variable (float : ℚ → ℚ) (m : TimedSend) {b : Benchmark}

theorem ticked_timer : (b.ticked (m.clock float b)).data.time.timer =
    float (b.timer + (m.now 0).floatDiffSec float (b.stateMachine.data.lastTime b.current)) := by
  have htimer :=
    runningState_onUpdate_timer (m.clock float b) b.current b.stateMachine.data b.state.maxTime
  rw [TimedSend.clock_now] at htimer
  exact htimer

/-- A state whose time is up starts the next one with a new timer. -/
theorem withinLimit_of_timeout (clock : Clock) (htimeout : b.state.cls = .timeout)
    (htimer : b.timer = 0) : (b.update clock).WithinLimit := by
  intro hrunning
  rw [update_of_timeout clock htimeout] at hrunning ⊢
  rcases b.processEvent_cases clock .start with hignored | ⟨n, _, hset⟩
  · rw [hignored, Running, htimeout] at hrunning
    cases hrunning
  · rw [hset] at hrunning ⊢
    have hn : (b.currentScenario.states n).cls = .running := hrunning
    have hne : (b.currentScenario.states b.stateMachine.current).cls ≠ .stopped := by
      rw [show (b.currentScenario.states b.stateMachine.current).cls = .timeout from htimeout]
      decide
    show ((b.machine clock).setState n b.stateMachine).data.time.timer < _
    rw [show b.machine clock = Clips.machine clock b.currentScenario.states from rfl,
      setState_data, onEnter_of_running hn, runningState_onEnter_timer, onExit_of_ne_stopped hne,
      show b.stateMachine.data.time.timer = 0 from htimer]
    exact Scenario.maxTime_pos hn

/-- Since the limit is tested before the timer is set, only an overrun breaks it. -/
theorem update_withinLimit_iff (htimeup : b.state.cls = .timeout → b.timer = 0) :
    (b.update (m.clock float b)).WithinLimit ↔ ¬ b.Overruns float (m.now 0) := by
  by_cases hrunning : b.Running
  · by_cases hover : b.state.maxTime ≤ b.timer
    · obtain ⟨n, hset, hn, _⟩ := update_of_over (m.clock float b) hrunning hover
      rw [hset]
      constructor
      · intro _ hoverruns
        exact absurd hoverruns.2.1 (not_lt.mpr hover)
      · intro _ hrunning'
        exact absurd hrunning' hn
    · rw [update_of_within (m.clock float b) hrunning hover]
      constructor
      · intro hwithin hoverruns
        have hlt : (b.ticked (m.clock float b)).data.time.timer < b.state.maxTime :=
          hwithin hrunning
        rw [ticked_timer] at hlt
        exact absurd hoverruns.2.2 (not_le.mpr hlt)
      · intro hoverruns _
        show (b.ticked (m.clock float b)).data.time.timer < b.state.maxTime
        rw [ticked_timer]
        by_contra hle
        exact hoverruns ⟨hrunning, not_le.mp hover, not_lt.mp hle⟩
  · have hnever : ¬ b.Overruns float (m.now 0) := fun hoverruns => hrunning hoverruns.1
    refine ⟨fun _ => hnever, fun _ => ?_⟩
    by_cases htimeout : b.state.cls = .timeout
    · exact withinLimit_of_timeout (m.clock float b) htimeout (htimeup htimeout)
    · rw [update_of_other (m.clock float b) hrunning htimeout]
      intro hrunning'
      exact absurd hrunning' hrunning

end Benchmark

/-- No tick of a run leaves a state running past its time if and only if no tick of the run
overruns. -/
theorem withinLimit_iff (float : ℚ → ℚ) (rand : ℕ → ℕ) (inputs : List TimedInput) :
    (∀ t ∈ steps float rand inputs, t.label.send = .update → t.post.WithinLimit) ↔
      ∀ t ∈ steps float rand inputs, t.label.send = .update →
        ¬ t.pre.Overruns float (t.label.now 0) := by
  have htick : ∀ t ∈ steps float rand inputs, t.label.send = .update →
      (t.post.WithinLimit ↔ ¬ t.pre.Overruns float (t.label.now 0)) := by
    intro t ht hsend
    obtain ⟨hstep, tr, hrun, _⟩ := (run_steps float rand inputs).mem_run ht
    rw [Benchmark.stepAt, hsend] at hstep
    rw [← hstep]
    exact Benchmark.update_withinLimit_iff float t.label (counts_run float rand hrun).timeup
  constructor
  · intro h t ht hsend
    exact (htick t ht hsend).mp (h t ht hsend)
  · intro h t ht hsend
    exact (htick t ht hsend).mpr (h t ht hsend)

/-- A tick finds 200 s on the timer of a preparation of 300 s, and leaves it running with 400 s. -/
theorem not_withinLimit_of_overrun :
    ¬ ∀ (rand : ℕ → ℕ) (inputs : List TimedInput), InOrder inputs →
      ∀ t ∈ steps double rand inputs, t.label.send = .update → t.post.WithinLimit := by
  intro h
  have hrun := h id
    (List.map atTime
      [(.setBenchmarkScenario .btt 1, ⟨0, 0⟩), (.setBenchmarkTransitionEvent .reset, ⟨0, 0⟩),
        (.setBenchmarkTransitionEvent .start, ⟨0, 0⟩), (.tick, ⟨200, 0⟩), (.tick, ⟨400, 0⟩)])
    (inOrder_atTime (by decide +kernel) (by decide +kernel))
  revert hrun
  decide +kernel

end FactoryHub.AtWork
