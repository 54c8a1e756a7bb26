import FactoryHub.AtWork.Benchmark
import FactoryHub.Clips.Intervals
import FactoryHub.Lib.Run

/-!
# The benchmark clock

The timer of the benchmark counts the running time: it is set to 0 on the way into a running state,
unless the state is resumed from its own paused state, and grows with the ticks in between, by the
FLOAT of the time since the tick before (`timer_near_runningTime`).

A run is a sequence of inputs that carry their times, what `(now)` returns while they are handled.
-/

namespace FactoryHub.AtWork

open Clips Lib

/-! ## Which states lead where -/

/-- The paused state of a running state. -/
def pausedState : StateName → StateName
  | .prepRunningState => .prepPausedState
  | _ => .execPausedState

namespace Scenario

/-- Scenario NONE has its initial state only, and the others have the states of a test. -/
theorem states_cases (s : Scenario) :
    s.states = (fun _ => { cls := .init }) ∨
      ∃ p x, 0 < p ∧ 0 < x ∧ s.states = testStates p x := by
  cases s
  case none => exact Or.inl rfl
  all_goals exact Or.inr ⟨_, _, by norm_num [type, BenchmarkType.preparationTime],
    by norm_num [type, BenchmarkType.executionTime], rfl⟩

variable {s : Scenario} {m n : StateName} {e : Event}

/-- A running state is entered from a state that has set the timer to 0, from one that sets it on
its exit, or from its own paused state. -/
theorem to_running (h : (e, n) ∈ (s.states m).transitions) (hn : (s.states n).cls = .running) :
    (s.states m).cls = .stopped ∨ (s.states m).cls = .timeout ∨
      (m = pausedState n ∧ (s.states m).cls = .paused) := by
  rcases s.states_cases with hs | ⟨p, x, _, _, hs⟩
  · rw [hs] at hn
    cases hn
  · rw [hs] at h hn ⊢
    cases m <;> cases n <;> simp_all [testStates, pausedState]

theorem to_paused (h : (e, n) ∈ (s.states m).transitions) (hn : (s.states n).cls = .paused) :
    (s.states m).cls = .running := by
  rcases s.states_cases with hs | ⟨p, x, _, _, hs⟩
  · rw [hs] at hn
    cases hn
  · rw [hs] at h hn ⊢
    cases m <;> cases n <;> simp_all [testStates]

/-- A transition leads to another state. -/
theorem ne_of_transition (h : (e, n) ∈ (s.states m).transitions) : m ≠ n := by
  rcases s.states_cases with hs | ⟨p, x, _, _, hs⟩
  · rw [hs] at h
    cases h
  · rw [hs] at h
    intro heq
    subst heq
    cases m <;> simp_all [testStates]

/-- A stopped state, and one whose time is up, is not the paused state of any state. -/
theorem ne_pausedState (h : (s.states m).cls = .stopped ∨ (s.states m).cls = .timeout) :
    m ≠ pausedState n := by
  rcases s.states_cases with hs | ⟨p, x, _, _, hs⟩
  · rw [hs] at h
    simp at h
  · rw [hs] at h
    intro heq
    subst heq
    cases n <;> simp_all [testStates, pausedState]

theorem cls_ne_checkRuns (s : Scenario) (n : StateName) : (s.states n).cls ≠ .checkRuns := by
  rcases s.states_cases with hs | ⟨p, x, _, _, hs⟩
  · rw [hs]
    simp
  · rw [hs]
    cases n <;> simp [testStates]

/-- A running state whose time is over is left, and neither for a running nor a paused state. -/
theorem timeout_next (hm : (s.states m).cls = .running) (clock : Clock) :
    ∃ n, (Clips.machine clock s.states).next m .timeout = some n ∧
      (s.states n).cls ≠ .running ∧ (s.states n).cls ≠ .paused := by
  rcases s.states_cases with hs | ⟨p, x, _, _, hs⟩
  · rw [hs] at hm
    cases hm
  · rw [hs] at hm ⊢
    cases m <;> simp_all [testStates, StateMachine.next, Clips.machine]

theorem maxTime_pos (hn : (s.states n).cls = .running) : 0 < (s.states n).maxTime := by
  rcases s.states_cases with hs | ⟨p, x, hp, hx, hs⟩
  · rw [hs] at hn
    cases hn
  · rw [hs] at hn ⊢
    cases n <;> simp_all [testStates]

theorem initialState_cls (s : Scenario) :
    (s.states s.initialState).cls = .init ∨ (s.states s.initialState).cls = .stopped := by
  cases s
  case none => exact Or.inl rfl
  all_goals exact Or.inr rfl

end Scenario

/-! ## What the state machine does to the timer -/

section

variable (clock : Clock) (s : Scenario)

/-- The data after a transition. -/
theorem setState_data (n : StateName) (c : Config StateName (Watch StateName)) :
    ((Clips.machine clock s.states).setState n c).data =
      (s.states n).onEnter clock n ((s.states c.current).onExit clock c.data) := rfl

variable {clock s} {n : StateName} {w : Watch StateName}

theorem onExit_of_ne_stopped (h : (s.states n).cls ≠ .stopped) :
    (s.states n).onExit clock w = w := by
  unfold State.onExit
  split
  · next hcls => exact absurd hcls h
  · rfl

theorem onExit_of_stopped (h : (s.states n).cls = .stopped) :
    (s.states n).onExit clock w = w.restart clock := by
  unfold State.onExit
  rw [h]
  rfl

theorem onEnter_of_running (h : (s.states n).cls = .running) :
    (s.states n).onEnter clock n w = RunningState.onEnter clock n w := by
  unfold State.onEnter
  rw [h]

theorem onEnter_of_paused (h : (s.states n).cls = .paused) :
    (s.states n).onEnter clock n w = w := by
  unfold State.onEnter
  rw [h]

theorem onEnter_of_timeout (h : (s.states n).cls = .timeout) :
    (s.states n).onEnter clock n w = w.restart clock := by
  unfold State.onEnter
  rw [h]
  rfl

end

/-! ## What a tick does -/

namespace Benchmark

def current (b : Benchmark) : StateName := b.stateMachine.current

def timer (b : Benchmark) : ℚ := b.stateMachine.data.time.timer

/-- The instance of the current state. -/
def state (b : Benchmark) : State StateName := b.currentScenario.states b.current

/-- The current state is a RunningState. -/
def Running (b : Benchmark) : Prop := b.state.cls = .running

instance (b : Benchmark) : Decidable b.Running := by
  unfold Running
  infer_instance

/-- The state machine after the update of the current state, without what it raises. -/
def ticked (clock : Clock) (b : Benchmark) : Config StateName (Watch StateName) :=
  { b.stateMachine with
    data := (RunningState.onUpdate clock b.current b.state.maxTime b.stateMachine.data).1 }

variable (clock : Clock) {b : Benchmark}

/-- An event is ignored, or the state machine takes a transition. -/
theorem processEvent_cases (e : Event) (b : Benchmark) :
    b.processEvent clock e = b ∨
      ∃ n, (e, n) ∈ (b.currentScenario.states b.current).transitions ∧
        b.processEvent clock e =
          { b with stateMachine := (b.machine clock).setState n b.stateMachine } := by
  unfold processEvent
  rcases StateMachine.processEvent_cases (m := b.machine clock) e b.stateMachine with
    hignored | ⟨n, hmem, hset⟩
  · left
    rw [hignored]
  · right
    exact ⟨n, hmem, by rw [hset]⟩

/-- A tick that finds the time over leaves the running state. -/
theorem update_of_over (hrunning : b.Running) (hover : b.state.maxTime ≤ b.timer) :
    ∃ n, b.update clock =
        { b with stateMachine := (b.machine clock).setState n (b.ticked clock) } ∧
      (b.currentScenario.states n).cls ≠ .running ∧
      (b.currentScenario.states n).cls ≠ .paused := by
  obtain ⟨n, hnext, hn, hpaused⟩ := Scenario.timeout_next hrunning clock
  have hraised : (b.machine clock).onUpdate b.stateMachine.current b.stateMachine.data =
      ((b.ticked clock).data, some .timeout) := by
    show b.state.onUpdate clock b.current b.stateMachine.data = _
    rw [State.onUpdate, hrunning]
    show (_, if b.timer ≥ b.state.maxTime then some Event.timeout else none) = _
    rw [if_pos hover]
    rfl
  refine ⟨n, ?_, hn, hpaused⟩
  show { b with stateMachine := (b.machine clock).update b.stateMachine } = _
  rw [StateMachine.update_of_raised hraised]
  exact congrArg (fun c => { b with stateMachine := c })
    (StateMachine.processEvent_of_next (c := b.ticked clock) hnext)

/-- Any other tick of a running state only moves the timer. -/
theorem update_of_within (hrunning : b.Running) (hover : ¬ b.state.maxTime ≤ b.timer) :
    b.update clock = { b with stateMachine := b.ticked clock } := by
  have hraised : (b.machine clock).onUpdate b.stateMachine.current b.stateMachine.data =
      ((b.ticked clock).data, none) := by
    show b.state.onUpdate clock b.current b.stateMachine.data = _
    rw [State.onUpdate, hrunning]
    show (_, if b.timer ≥ b.state.maxTime then some Event.timeout else none) = _
    rw [if_neg hover]
    rfl
  show { b with stateMachine := (b.machine clock).update b.stateMachine } = _
  rw [StateMachine.update_of_none hraised]
  rfl

/-- A state whose time is up starts the next one. -/
theorem update_of_timeout (htimeout : b.state.cls = .timeout) :
    b.update clock = b.processEvent clock .start := by
  have hraised : (b.machine clock).onUpdate b.stateMachine.current b.stateMachine.data =
      (b.stateMachine.data, some .start) := by
    show b.state.onUpdate clock b.current b.stateMachine.data = _
    rw [State.onUpdate, htimeout]
    rfl
  show { b with stateMachine := (b.machine clock).update b.stateMachine } = _
  rw [StateMachine.update_of_raised hraised]
  rfl

/-- The other states do not react to ticks. -/
theorem update_of_other (hrunning : ¬ b.Running) (htimeout : b.state.cls ≠ .timeout) :
    b.update clock = b := by
  have hraised : (b.machine clock).onUpdate b.stateMachine.current b.stateMachine.data =
      (b.stateMachine.data, none) := by
    show b.state.onUpdate clock b.current b.stateMachine.data = _
    unfold State.onUpdate
    split
    · next hcls => exact absurd hcls hrunning
    · next hcls => exact absurd hcls (Scenario.cls_ne_checkRuns _ _)
    · next hcls => exact absurd hcls htimeout
    · rfl
  show { b with stateMachine := (b.machine clock).update b.stateMachine } = _
  rw [StateMachine.update_of_none hraised]

end Benchmark

/-! ## Inputs with their times -/

/-- A message, with what `(now)` returns while it is handled, first reading first. -/
structure TimedSend where
  send : Send
  now : ℕ → Time

/-- An input, with what `(now)` returns while each of its messages is handled. -/
structure TimedInput where
  input : Input
  now : Send → ℕ → Time

def TimedInput.sends (i : TimedInput) : List TimedSend :=
  i.input.sends.map fun send => ⟨send, i.now send⟩

/-- The clock of a message that is sent to `b`. -/
def TimedSend.clock (float : ℚ → ℚ) (m : TimedSend) (b : Benchmark) : Clock :=
  ⟨fun i => m.now (i - b.stateMachine.data.reads), float⟩

/-- The benchmark after a message. -/
def Benchmark.stepAt (float : ℚ → ℚ) (rand : ℕ → ℕ) (b : Benchmark) (m : TimedSend) : Benchmark :=
  b.step (m.clock float b) rand m.send

/-- The benchmark after an input. -/
def Benchmark.receiveAt (float : ℚ → ℚ) (rand : ℕ → ℕ) (b : Benchmark) (i : TimedInput) :
    Benchmark :=
  i.sends.foldl (Benchmark.stepAt float rand) b

section

variable (float : ℚ → ℚ) (m : TimedSend) (b : Benchmark)

@[simp] theorem TimedSend.clock_float : (m.clock float b).float = float := rfl

/-- The first reading. -/
@[simp] theorem TimedSend.clock_now :
    (m.clock float b).now b.stateMachine.data.reads = m.now 0 := by
  show m.now (b.stateMachine.data.reads - b.stateMachine.data.reads) = _
  rw [Nat.sub_self]

/-- The second reading. -/
@[simp] theorem TimedSend.clock_now_succ :
    (m.clock float b).now (b.stateMachine.data.reads + 1) = m.now 1 := by
  show m.now (b.stateMachine.data.reads + 1 - b.stateMachine.data.reads) = _
  rw [Nat.add_sub_cancel_left]

end

/-! ## Running time -/

/-- The running state `n` is entered from `m`: its own paused state resumes the intervals. -/
def enter (now : Time) (m n : StateName) (intervals : List Interval) : List Interval :=
  if m = pausedState n then ⟨now, []⟩ :: intervals else [⟨now, []⟩]

/-- The time at which a message enters a running state. The exit of a stopped state has read the
clock for its start time. -/
def entryTime (t : Step Benchmark TimedSend) : Time :=
  if t.pre.state.cls = .stopped then t.label.now 1 else t.label.now 0

/-- The running intervals since the current running state, or the one last left, was entered from
a state other than its own paused state, newest first. -/
def runningIntervals : List (Step Benchmark TimedSend) → List Interval
  | [] => []
  | t :: earlier =>
      if ¬ t.post.Running then runningIntervals earlier
      else if t.pre.current ≠ t.post.current then
        enter (entryTime t) t.pre.current t.post.current (runningIntervals earlier)
      else
        match t.label.send, runningIntervals earlier with
        | .update, i :: rest => i.extend (t.label.now 0) :: rest
        | _, intervals => intervals

/-- The running time of a run: the time from the entry to the last tick, summed over the running
intervals. -/
def runningTime (tr : List (Step Benchmark TimedSend)) : ℚ := total (runningIntervals tr)

/-- The timer counts the intervals while a state runs or is paused, the last interval ends where the
running state was updated last, and a state whose time is up has a new timer. -/
structure Counts (float : ℚ → ℚ) (s : Scenario) (c : Config StateName (Watch StateName))
    (intervals : List Interval) : Prop where
  running : (s.states c.current).cls = .running →
    (∃ i rest, intervals = i :: rest ∧ c.data.lastTime c.current = i.last) ∧
      c.data.time.timer = counted float intervals
  paused : (s.states c.current).cls = .paused → c.data.time.timer = counted float intervals
  timeup : (s.states c.current).cls = .timeout → c.data.time.timer = 0

namespace Counts

variable {clock : Clock} {s : Scenario} {c : Config StateName (Watch StateName)}
  {intervals : List Interval} {n : StateName} {e : Event}

/-- The time that the entry of a running state reads: the second reading after the exit of a stopped
state. -/
theorem lastTime_setState (hn : (s.states n).cls = .running) :
    ((Clips.machine clock s.states).setState n c).data.lastTime n =
      if (s.states c.current).cls = .stopped then clock.now (c.data.reads + 1)
      else clock.now c.data.reads := by
  rw [setState_data, onEnter_of_running hn, runningState_onEnter_lastTime]
  split
  · next hstopped =>
      rw [onExit_of_stopped hstopped]
      rfl
  · next hstopped => rw [onExit_of_ne_stopped hstopped]

/-- Entering a running state adds an interval, or starts anew from 0. -/
theorem enter_running (h : Counts clock.float s c intervals)
    (hmem : (e, n) ∈ (s.states c.current).transitions) (hn : (s.states n).cls = .running) :
    Counts clock.float s ((Clips.machine clock s.states).setState n c)
      (enter (((Clips.machine clock s.states).setState n c).data.lastTime n) c.current n
        intervals) := by
  have hdata := setState_data clock s n c
  rw [onEnter_of_running hn] at hdata
  refine ⟨fun _ => ⟨?_, ?_⟩, fun hcls => ?_, fun hcls => ?_⟩
  · unfold enter
    rw [StateMachine.setState_current]
    split
    · exact ⟨_, intervals, rfl, rfl⟩
    · exact ⟨_, [], rfl, rfl⟩
  · rw [hdata, runningState_onEnter_timer]
    rcases Scenario.to_running hmem hn with hstopped | htimeout | ⟨hpaused, hcls⟩
    · -- the exit of the stopped state resets the timer
      rw [onExit_of_stopped hstopped, Watch.restart_timer, enter,
        if_neg (Scenario.ne_pausedState (Or.inl hstopped))]
      rfl
    · rw [onExit_of_ne_stopped (by rw [htimeout]; decide), h.timeup htimeout, enter,
        if_neg (Scenario.ne_pausedState (Or.inr htimeout))]
      rfl
    · -- resumed
      rw [onExit_of_ne_stopped (by rw [hcls]; decide), h.paused hcls, enter, if_pos hpaused]
      rfl
  · rw [StateMachine.setState_current, hn] at hcls
    cases hcls
  · rw [StateMachine.setState_current, hn] at hcls
    cases hcls

/-- Entering a state that is not running keeps the intervals. -/
theorem enter_other (h : Counts clock.float s c intervals)
    (hmem : (e, n) ∈ (s.states c.current).transitions) (hn : (s.states n).cls ≠ .running) :
    Counts clock.float s ((Clips.machine clock s.states).setState n c) intervals := by
  refine ⟨fun hcls => absurd hcls hn, fun (hcls : (s.states n).cls = .paused) => ?_,
    fun (hcls : (s.states n).cls = .timeout) => ?_⟩
  · have hrunning := Scenario.to_paused hmem hcls
    rw [setState_data, onEnter_of_paused hcls, onExit_of_ne_stopped (by rw [hrunning]; decide)]
    exact (h.running hrunning).2
  · rw [setState_data, onEnter_of_timeout hcls, Watch.restart_timer]

/-- A state that is neither running nor paused has no claim on the intervals. -/
theorem leave (hrunning : (s.states n).cls ≠ .running) (hpaused : (s.states n).cls ≠ .paused) :
    Counts clock.float s ((Clips.machine clock s.states).setState n c) intervals := by
  refine ⟨fun hcls => absurd hcls hrunning, fun hcls => absurd hcls hpaused,
    fun (hcls : (s.states n).cls = .timeout) => ?_⟩
  rw [setState_data, onEnter_of_timeout hcls, Watch.restart_timer]

/-- A tick of a running state extends its last interval. -/
theorem tick {i : Interval} {rest : List Interval} (h : Counts clock.float s c (i :: rest))
    (hrunning : (s.states c.current).cls = .running) (maxTime : ℚ) :
    Counts clock.float s
      { c with data := (RunningState.onUpdate clock c.current maxTime c.data).1 }
      (i.extend (clock.now c.data.reads) :: rest) := by
  obtain ⟨⟨i', rest', heq, hlast⟩, htimer⟩ := h.running hrunning
  rw [List.cons.injEq] at heq
  obtain ⟨rfl, rfl⟩ := heq
  refine ⟨fun _ => ⟨⟨_, _, rfl, ?_⟩, ?_⟩, fun hcls => ?_, fun hcls => ?_⟩
  · rw [runningState_onUpdate_lastTime]
    rfl
  · rw [runningState_onUpdate_timer, htimer, counted_extend, hlast]
  · rw [hrunning] at hcls
    cases hcls
  · rw [hrunning] at hcls
    cases hcls

end Counts

/-! ## Along a run -/

section

variable {b b' : Benchmark} {earlier : List (Step Benchmark TimedSend)} {m : TimedSend}

theorem runningIntervals_of_not_running (h : ¬ b'.Running) :
    runningIntervals (⟨b, m, b'⟩ :: earlier) = runningIntervals earlier := by
  simp [runningIntervals, h]

theorem runningIntervals_of_entered (h : b'.Running) (hne : b.current ≠ b'.current) :
    runningIntervals (⟨b, m, b'⟩ :: earlier) =
      enter (entryTime ⟨b, m, b'⟩) b.current b'.current (runningIntervals earlier) := by
  simp [runningIntervals, h, hne]

theorem runningIntervals_of_ticked (h : b'.Running) (heq : b.current = b'.current)
    (hsend : m.send = .update) {i : Interval} {rest : List Interval}
    (hintervals : runningIntervals earlier = i :: rest) :
    runningIntervals (⟨b, m, b'⟩ :: earlier) = i.extend (m.now 0) :: rest := by
  simp [runningIntervals, h, heq, hsend, hintervals]

/-- A message that does not reach the state machine keeps the intervals, and so does a tick of a
state that is not running. -/
theorem runningIntervals_of_kept (heq : b.current = b'.current)
    (hsend : m.send = .update → ¬ b'.Running) :
    runningIntervals (⟨b, m, b'⟩ :: earlier) = runningIntervals earlier := by
  by_cases hrunning : b'.Running
  · rw [runningIntervals, if_neg (not_not_intro hrunning), if_neg (not_not_intro heq)]
    split
    · next hupdate _ => exact absurd hrunning (hsend hupdate)
    · rfl
  · exact runningIntervals_of_not_running hrunning

end

section

variable (float : ℚ → ℚ) {b : Benchmark} {earlier : List (Step Benchmark TimedSend)}
  {m : TimedSend}

/-- The timer counts the running intervals of the run so far. -/
abbrev CountsRun (float : ℚ → ℚ) (tr : List (Step Benchmark TimedSend)) (b : Benchmark) : Prop :=
  Counts float b.currentScenario b.stateMachine (runningIntervals tr)

/-- The state machine takes a transition in a state of the same readings. -/
theorem counts_setState {c : Config StateName (Watch StateName)} {n : StateName} {e : Event}
    (hcurrent : b.current = c.current) (hreads : c.data.reads = b.stateMachine.data.reads)
    (h : Counts float b.currentScenario c (runningIntervals earlier))
    (hmem : (e, n) ∈ (b.currentScenario.states c.current).transitions) :
    let b' := { b with stateMachine := (b.machine (m.clock float b)).setState n c }
    CountsRun float (⟨b, m, b'⟩ :: earlier) b' := by
  intro b'
  by_cases hn : (b.currentScenario.states n).cls = .running
  · have hne : b.current ≠ n := by
      rw [hcurrent]
      exact Scenario.ne_of_transition hmem
    have hentry : entryTime ⟨b, m, b'⟩ =
        ((Clips.machine (m.clock float b) b.currentScenario.states).setState n c).data.lastTime n := by
      rw [Counts.lastTime_setState hn, hreads, TimedSend.clock_now, TimedSend.clock_now_succ,
        ← hcurrent]
      rfl
    rw [CountsRun, runningIntervals_of_entered (show b'.Running from hn) hne, hentry]
    show Counts _ _ _ (enter _ b.current n _)
    rw [hcurrent]
    exact @Counts.enter_running (m.clock float b) _ _ _ _ _ h hmem hn
  · rw [CountsRun, runningIntervals_of_not_running (show ¬ b'.Running from hn)]
    exact @Counts.enter_other (m.clock float b) _ _ _ _ _ h hmem hn

/-- An event of a client, or one that a tick raises in a state that is not running. -/
theorem counts_processEvent (e : Event) (hsend : m.send = .update → ¬ b.Running)
    (h : CountsRun float earlier b) :
    let b' := b.processEvent (m.clock float b) e
    CountsRun float (⟨b, m, b'⟩ :: earlier) b' := by
  intro b'
  rcases b.processEvent_cases (m.clock float b) e with hignored | ⟨n, hmem, hset⟩
  · rw [show b' = b from hignored, CountsRun, runningIntervals_of_kept rfl hsend]
    exact h
  · rw [show b' = _ from hset]
    exact counts_setState float rfl rfl h hmem

theorem counts_update (hsend : m.send = .update) (h : CountsRun float earlier b) :
    let b' := b.update (m.clock float b)
    CountsRun float (⟨b, m, b'⟩ :: earlier) b' := by
  intro b'
  by_cases hrunning : b.Running
  · -- a tick of a running state
    obtain ⟨⟨i, rest, hintervals, _⟩, _⟩ := h.running hrunning
    rw [CountsRun, hintervals] at h
    have htick := @Counts.tick (m.clock float b) _ _ _ _ h hrunning b.state.maxTime
    rw [TimedSend.clock_now] at htick
    by_cases hover : b.state.maxTime ≤ b.timer
    · -- its time was over before the tick
      obtain ⟨n, hset, hn, hpaused⟩ := Benchmark.update_of_over (m.clock float b) hrunning hover
      rw [show b' = _ from hset]
      exact @Counts.leave (m.clock float b) _ _ _ _ hn hpaused
    · have hset := Benchmark.update_of_within (m.clock float b) hrunning hover
      have hticked : Benchmark.Running
          { b with stateMachine := b.ticked (m.clock float b) } := hrunning
      rw [show b' = _ from hset, CountsRun,
        @runningIntervals_of_ticked b _ _ _ hticked rfl hsend _ _ hintervals]
      exact htick
  · by_cases htimeout : b.state.cls = .timeout
    · -- the preparation was over, and the execution starts
      rw [show b' = _ from Benchmark.update_of_timeout (m.clock float b) htimeout]
      exact counts_processEvent float .start (fun _ => hrunning) h
    · rw [show b' = b from Benchmark.update_of_other (m.clock float b) hrunning htimeout,
        CountsRun, runningIntervals_of_not_running hrunning]
      exact h

/-- The messages about the scenario and its content do not reach the state machine. -/
theorem counts_kept {b' : Benchmark} (hscenario : b'.currentScenario = b.currentScenario)
    (hmachine : b'.stateMachine = b.stateMachine) (hsend : m.send ≠ .update)
    (h : CountsRun float earlier b) : CountsRun float (⟨b, m, b'⟩ :: earlier) b' := by
  have hcurrent : b.current = b'.current := by
    rw [Benchmark.current, Benchmark.current, hmachine]
  rw [CountsRun, runningIntervals_of_kept hcurrent (fun heq => absurd heq hsend), hscenario,
    hmachine]
  exact h

/-- A request waits for the next RESET. -/
theorem requestScenario_kept (b : Benchmark) (type : BenchmarkType) (typeId : ℕ) :
    (b.requestScenario type typeId).currentScenario = b.currentScenario ∧
      (b.requestScenario type typeId).stateMachine = b.stateMachine := by
  unfold Benchmark.requestScenario
  split <;> exact ⟨rfl, rfl⟩

variable (rand : ℕ → ℕ)

/-- A scenario starts in its initial state. -/
theorem switchScenario_current (b : Benchmark) :
    (b.switchScenario rand).current = (b.switchScenario rand).currentScenario.initialState := by
  unfold Benchmark.switchScenario
  split <;> rfl

theorem counts_switchScenario (b : Benchmark) (intervals : List Interval) :
    let b' := b.switchScenario rand
    Counts float b'.currentScenario b'.stateMachine intervals := by
  intro b'
  have hcls : b'.state.cls = .init ∨ b'.state.cls = .stopped := by
    rw [Benchmark.state, switchScenario_current]
    exact Scenario.initialState_cls _
  refine ⟨fun h => ?_, fun h => ?_, fun h => ?_⟩
  all_goals
    rw [show (b'.currentScenario.states b'.stateMachine.current).cls = b'.state.cls from rfl] at h
    rcases hcls with hcls | hcls
    all_goals
      rw [hcls] at h
      cases h

theorem counts_step (m : TimedSend) (h : CountsRun float earlier b) :
    let b' := b.stepAt float rand m
    CountsRun float (⟨b, m, b'⟩ :: earlier) b' := by
  obtain ⟨send, now⟩ := m
  intro b'
  cases send with
  | requestScenario type typeId =>
      obtain ⟨hscenario, hmachine⟩ := requestScenario_kept b type typeId
      exact counts_kept float hscenario hmachine (by simp) h
  | switchScenario => exact counts_switchScenario float rand b _
  | cleanup => exact counts_kept float rfl rfl (by simp) h
  | generate => exact counts_kept float rfl rfl (by simp) h
  | processEvent e => exact counts_processEvent float e (by simp) h
  | update => exact counts_update float rfl h

/-- The timer keeps count along every run. -/
theorem counts_run {tr : List (Step Benchmark TimedSend)} {b : Benchmark}
    (h : Run (fun b m b' => b.stepAt float rand m = b') .start tr b) : CountsRun float tr b := by
  induction h with
  | init =>
      refine ⟨fun h => ?_, fun h => ?_, fun h => ?_⟩
      all_goals cases h
  | step _ hstep ih =>
      subst hstep
      exact counts_step float rand _ ih

/-- The steps taken on a sequence of client events and ticks. -/
def steps (inputs : List TimedInput) : List (Step Benchmark TimedSend) :=
  record (Benchmark.stepAt float rand) .start (inputs.flatMap TimedInput.sends)

/-- The benchmark after a sequence of client events and ticks. -/
def receiveAll (inputs : List TimedInput) : Benchmark :=
  inputs.foldl (Benchmark.receiveAt float rand) .start

theorem run_steps (inputs : List TimedInput) :
    Run (fun b m b' => b.stepAt float rand m = b') .start (steps float rand inputs)
      (receiveAll float rand inputs) := by
  have hrun := run_record (Benchmark.stepAt float rand) .start (inputs.flatMap TimedInput.sends)
  rw [List.foldl_flatMap] at hrun
  exact hrun

/-! ## A clock that does not go back -/

/-- The times of the inputs are those of a clock that does not go back. -/
structure InOrder (inputs : List TimedInput) : Prop where
  normalised : ∀ m ∈ inputs.flatMap TimedInput.sends, ∀ j, (m.now j).Normalised
  between : (inputs.flatMap TimedInput.sends).Pairwise
    fun m m' => ∀ j j', (m.now j).toSec ≤ (m'.now j').toSec

/-- The intervals are ordered, and all their times are readings of the run. -/
structure Readings (tr : List (Step Benchmark TimedSend)) (i : Interval) : Prop where
  ordered : i.Ordered
  mem : ∀ t ∈ i.ticks ++ [i.entry], ∃ u ∈ tr, ∃ j, t = u.label.now j

theorem Readings.cons {tr : List (Step Benchmark TimedSend)} {i : Interval} (h : Readings tr i)
    (t : Step Benchmark TimedSend) : Readings (t :: tr) i := by
  refine ⟨h.ordered, fun now hnow => ?_⟩
  obtain ⟨u, hu, j, heq⟩ := h.mem now hnow
  exact ⟨u, List.mem_cons_of_mem _ hu, j, heq⟩

/-- An interval that is just entered. -/
theorem readings_entered {t : Step Benchmark TimedSend}
    (h : ∀ j, (t.label.now j).Normalised) : Readings (t :: earlier) ⟨entryTime t, []⟩ := by
  obtain ⟨j, hj⟩ : ∃ j, entryTime t = t.label.now j := by
    unfold entryTime
    split
    · exact ⟨1, rfl⟩
    · exact ⟨0, rfl⟩
  refine ⟨⟨?_, List.pairwise_singleton ..⟩, ?_⟩
  · intro now hnow
    rw [List.mem_singleton.mp hnow, hj]
    exact h j
  · intro now hnow
    rw [List.mem_singleton.mp hnow]
    exact ⟨t, List.mem_cons_self .., j, hj⟩

/-- A tick is not before the times of the interval, which have been read before. -/
theorem Readings.extend {t : Step Benchmark TimedSend} {i : Interval} (h : Readings earlier i)
    (hnormalised : ∀ j, (t.label.now j).Normalised)
    (hlater : ∀ u ∈ earlier, ∀ j j', (u.label.now j).toSec ≤ (t.label.now j').toSec) :
    Readings (t :: earlier) (i.extend (t.label.now 0)) := by
  refine ⟨⟨?_, List.pairwise_cons.mpr ⟨?_, h.ordered.sorted⟩⟩, ?_⟩
  · intro now hnow
    rcases List.mem_cons.mp hnow with rfl | hnow
    · exact hnormalised 0
    · exact h.ordered.normalised now hnow
  · intro now hnow
    obtain ⟨u, hu, j, rfl⟩ := h.mem now hnow
    exact hlater u hu j 0
  · intro now hnow
    rcases List.mem_cons.mp hnow with rfl | hnow
    · exact ⟨t, List.mem_cons_self .., 0, rfl⟩
    · exact (h.cons t).mem now hnow

theorem readings_runningIntervals : ∀ {tr : List (Step Benchmark TimedSend)},
    (∀ t ∈ tr, ∀ j, (t.label.now j).Normalised) →
      tr.Pairwise (fun later earlier =>
        ∀ j j', (earlier.label.now j).toSec ≤ (later.label.now j').toSec) →
      ∀ i ∈ runningIntervals tr, Readings tr i
  | [], _, _, i, hi => by cases hi
  | t :: earlier, hnormalised, hsorted, i, hi => by
      rw [List.forall_mem_cons] at hnormalised
      rw [List.pairwise_cons] at hsorted
      have ih := readings_runningIntervals hnormalised.2 hsorted.2
      rw [runningIntervals] at hi
      split at hi
      · exact (ih i hi).cons t
      · split at hi
        · -- a running state is entered
          unfold enter at hi
          split at hi
          · rcases List.mem_cons.mp hi with rfl | hi
            · exact readings_entered hnormalised.1
            · exact (ih i hi).cons t
          · rw [List.mem_singleton.mp hi]
            exact readings_entered hnormalised.1
        · split at hi
          · next i' rest _ hintervals =>
              rw [hintervals] at ih
              rcases List.mem_cons.mp hi with rfl | hi
              · exact (ih i' (List.mem_cons_self ..)).extend hnormalised.1 hsorted.1
              · exact (ih i (List.mem_cons_of_mem _ hi)).cons t
          · exact (ih i hi).cons t

theorem InOrder.ordered {inputs : List TimedInput} (h : InOrder inputs) :
    ∀ i ∈ runningIntervals (steps float rand inputs), i.Ordered := by
  have hlabels : (steps float rand inputs).map Step.label =
      (inputs.flatMap TimedInput.sends).reverse := labels_of_record _ _ _
  have hpairwise : ((steps float rand inputs).map Step.label).Pairwise
      fun later earlier => ∀ j j', (earlier.now j).toSec ≤ (later.now j').toSec := by
    rw [hlabels, List.pairwise_reverse]
    exact h.between
  intro i hi
  refine (readings_runningIntervals ?_ (List.pairwise_map.mp hpairwise) i hi).ordered
  intro t ht
  exact h.normalised _ (label_mem_of_record ht)

/-- The timer of a running state counts the time it has been running since it was entered other than
from its own paused state, tick by tick; for a clock that does not go back, it differs from that
time by the rounding of its FLOATs only. -/
theorem timer_near_runningTime (inputs : List TimedInput)
    (hrunning : (receiveAll float rand inputs).Running) :
    let tr := steps float rand inputs
    (receiveAll float rand inputs).timer = counted float (runningIntervals tr) ∧
      ∀ u, Rounds float u → InOrder inputs →
        |(receiveAll float rand inputs).timer - runningTime tr| ≤
          ((1 + u) ^ (ticks (runningIntervals tr) + 3) - 1) * runningTime tr := by
  intro tr
  have htimer : (receiveAll float rand inputs).timer = counted float (runningIntervals tr) :=
    ((counts_run float rand (run_steps float rand inputs)).running hrunning).2
  refine ⟨htimer, fun u hfloat horder => ?_⟩
  rw [htimer]
  exact (near_counted hfloat (horder.ordered float rand)).error

end

/-! ## At points in time -/

/-- An input that is handled at one point in time. -/
def atTime (i : Input × Time) : TimedInput := ⟨i.1, fun _ _ => i.2⟩

theorem now_of_atTime {i : Input × Time} {m : TimedSend} (h : m ∈ (atTime i).sends) (j : ℕ) :
    m.now j = i.2 := by
  obtain ⟨send, _, rfl⟩ := List.mem_map.mp h
  rfl

theorem inOrder_atTime {inputs : List (Input × Time)} (hnormalised : ∀ i ∈ inputs, i.2.Normalised)
    (hsorted : inputs.Pairwise fun i i' => i.2.toSec ≤ i'.2.toSec) :
    InOrder (inputs.map atTime) := by
  constructor
  · intro m hm j
    rw [List.flatMap_map] at hm
    obtain ⟨i, hi, hm⟩ := List.mem_flatMap.mp hm
    rw [now_of_atTime hm j]
    exact hnormalised i hi
  · rw [List.flatMap_map, List.pairwise_flatMap]
    refine ⟨fun i _ => ?_, hsorted.imp fun hle m hm m' hm' j j' => ?_⟩
    · exact List.pairwise_of_forall_mem_list fun m hm m' hm' j j' => by
        rw [now_of_atTime hm j, now_of_atTime hm' j']
    · rw [now_of_atTime hm j, now_of_atTime hm' j']
      exact hle

/-- A test that is started, paused and resumed, with two ticks before and after the pause. -/
theorem timer_near_runningTime_of_paused :
    let inputs := List.map atTime
      [(.setBenchmarkScenario .btt 1, ⟨0, 0⟩), (.setBenchmarkTransitionEvent .reset, ⟨1, 0⟩),
        (.setBenchmarkTransitionEvent .start, ⟨2, 0⟩), (.tick, ⟨2, 100000⟩), (.tick, ⟨2, 200000⟩),
        (.setBenchmarkTransitionEvent .pause, ⟨3, 0⟩), (.tick, ⟨4, 0⟩),
        (.setBenchmarkTransitionEvent .start, ⟨5, 0⟩), (.tick, ⟨5, 100000⟩), (.tick, ⟨5, 300000⟩)]
    let tr := steps double id inputs
    (receiveAll double id inputs).timer = counted double (runningIntervals tr) ∧
      |(receiveAll double id inputs).timer - runningTime tr| ≤
        ((1 + 2 ^ (-((53 : ℕ) : ℤ))) ^ (ticks (runningIntervals tr) + 3) - 1) * runningTime tr := by
  intro inputs tr
  have hcounts := timer_near_runningTime double id inputs (by decide +kernel)
  exact ⟨hcounts.1, hcounts.2 _ (rounds_toNearest 53) (inOrder_atTime (by decide +kernel) (by decide +kernel))⟩

/-- After three ticks a tenth of a second apart the timer is neither the running time nor the FLOAT
of it. -/
theorem timer_ne_runningTime :
    ¬ ∀ (rand : ℕ → ℕ) (inputs : List TimedInput), InOrder inputs →
      (receiveAll double rand inputs).Running →
        (receiveAll double rand inputs).timer = runningTime (steps double rand inputs) ∨
          (receiveAll double rand inputs).timer =
            double (runningTime (steps double rand inputs)) := by
  intro h
  have hrun := h id
    (List.map atTime
      [(.setBenchmarkScenario .btt 1, ⟨0, 0⟩), (.setBenchmarkTransitionEvent .reset, ⟨0, 0⟩),
        (.setBenchmarkTransitionEvent .start, ⟨0, 0⟩), (.tick, ⟨0, 100000⟩),
        (.tick, ⟨0, 200000⟩), (.tick, ⟨0, 300000⟩)])
    (inOrder_atTime (by decide +kernel) (by decide +kernel)) (by decide +kernel)
  revert hrun
  decide +kernel

end FactoryHub.AtWork
