import FactoryHub.Clips.Time
import FactoryHub.Lib.StateMachine

/-!
# The states of a benchmark

`state-machine.clp` and `benchmark-time.clp`, of which the RoCKIn and the @Work refbox have their
own copies; only that of @Work has a `TimeoutState`. The instances of the state classes are given
by a table, and their slots that change, with the shared `BenchmarkTime`, by a `Watch`. Printouts
and attention messages are left out.

`(now)` returns the readings of a clock one after the other: reading number `i` is `clock.now i`, and
a `Watch` counts the readings made. The timer is a FLOAT: the sums of `on-update` are rounded.
-/

namespace FactoryHub.Clips

open Lib

/-- The inputs of the state machines. -/
inductive Event where
  | start | pause | stop | finish | timeout | repeatRun
  deriving DecidableEq, Repr

inductive Phase where
  | execution | calibration | preparation
  deriving DecidableEq, Repr

/-- What a robot is told about the current state. -/
inductive RobotState where
  | running | paused | finished | stopped
  deriving DecidableEq, Repr

/-- The concrete subclasses of `State`. -/
inductive StateClass where
  | init | stopped | running | paused | checkRuns | timeout | finished
  deriving DecidableEq, Repr

/-- An instance of `State`, without the slots that change. The transition that was added last comes
first. -/
structure State (N : Type) where
  cls : StateClass
  phase : Phase := .execution
  maxTime : ℚ := 0
  maxRuns : Int := 1
  transitions : List (Event × N) := []

/-- `BenchmarkTime`. -/
structure BenchmarkTime where
  timer : ℚ := 0
  startTime : Time := ⟨0, 0⟩
  endTime : Time := ⟨0, 0⟩
  deriving DecidableEq, Repr

/-- What the handlers get from the machine they run on: the readings of `(now)`, and the FLOAT of the
exact result of an operation. -/
structure Clock where
  now : ℕ → Time
  float : ℚ → ℚ

/-- A clock that is a second later at every reading. -/
def everySecond : Clock := ⟨fun i => ⟨i, 0⟩, double⟩

/-- The slots that change: the time shared by the states, `last-time` of the running states, `run`
of the check-runs states, and the number of clock readings made. -/
structure Watch (N : Type) where
  time : BenchmarkTime := {}
  lastTime : N → Time := fun _ => ⟨0, 0⟩
  run : N → Int := fun _ => 0
  reads : ℕ := 0

variable {N : Type}

namespace Watch

/-- `(now)`. -/
def now (clock : Clock) (w : Watch N) : Time × Watch N :=
  (clock.now w.reads, { w with reads := w.reads + 1 })

/-- `put-start-time (now)` and `put-timer 0.0`. -/
def restart (clock : Clock) (w : Watch N) : Watch N :=
  let (now, w) := w.now clock
  { w with time := { w.time with startTime := now, timer := 0 } }

end Watch

@[simp] theorem Watch.restart_timer (clock : Clock) (w : Watch N) :
    (w.restart clock).time.timer = 0 := rfl

/-! ## Message handlers -/

variable [DecidableEq N]

/-- `on-exit` of StoppedState. -/
def StoppedState.onExit (clock : Clock) (w : Watch N) : Watch N := w.restart clock

/-- `on-enter` of RunningState. -/
def RunningState.onEnter (clock : Clock) (n : N) (w : Watch N) : Watch N :=
  let (now, w) := w.now clock
  { w with lastTime := Function.update w.lastTime n now }

/-- `on-update` of RunningState. The time that is tested is the one before the update. -/
def RunningState.onUpdate (clock : Clock) (n : N) (maxTime : ℚ) (w : Watch N) :
    Watch N × Option Event :=
  let (now, w) := w.now clock
  let timediff := now.floatDiffSec clock.float (w.lastTime n)
  let time := w.time.timer
  ({ w with
      time := { w.time with timer := clock.float (time + timediff) }
      lastTime := Function.update w.lastTime n now },
    if time ≥ maxTime then some .timeout else none)

/-- `on-enter` of CheckRunsState. -/
def CheckRunsState.onEnter (clock : Clock) (n : N) (w : Watch N) : Watch N :=
  let (now, w) := w.now clock
  { w with
    time := { w.time with endTime := now, timer := 0 }
    run := Function.update w.run n (w.run n + 1) }

/-- `on-update` of CheckRunsState. -/
def CheckRunsState.onUpdate (n : N) (maxRuns : Int) (w : Watch N) : Watch N × Option Event :=
  (w, some (if w.run n ≥ maxRuns then .finish else .repeatRun))

/-- `on-enter` of TimeoutState. -/
def TimeoutState.onEnter (clock : Clock) (w : Watch N) : Watch N := w.restart clock

/-- `on-update` of TimeoutState. -/
def TimeoutState.onUpdate (w : Watch N) : Watch N × Option Event := (w, some .start)

namespace State

/-- `on-enter`. -/
def onEnter (clock : Clock) (state : State N) (n : N) (w : Watch N) : Watch N :=
  match state.cls with
  | .running => RunningState.onEnter clock n w
  | .checkRuns => CheckRunsState.onEnter clock n w
  | .timeout => TimeoutState.onEnter clock w
  | _ => w

/-- `on-exit`. -/
def onExit (clock : Clock) (state : State N) (w : Watch N) : Watch N :=
  match state.cls with
  | .stopped => StoppedState.onExit clock w
  | _ => w

/-- `on-update`. -/
def onUpdate (clock : Clock) (state : State N) (n : N) (w : Watch N) :
    Watch N × Option Event :=
  match state.cls with
  | .running => RunningState.onUpdate clock n state.maxTime w
  | .checkRuns => CheckRunsState.onUpdate n state.maxRuns w
  | .timeout => TimeoutState.onUpdate w
  | _ => (w, none)

/-- `to-robot-state`. -/
def toRobotState (state : State N) : RobotState :=
  match state.cls with
  | .init | .stopped | .checkRuns | .timeout => .stopped
  | .running => .running
  | .paused => .paused
  | .finished => .finished

end State

/-- The state machine over a table of states. -/
def machine (clock : Clock) (states : N → State N) : StateMachine N Event (Watch N) where
  transitions n := (states n).transitions
  onExit n _ w := (states n).onExit clock w
  onEnter n _ w := (states n).onEnter clock n w
  onUpdate n w := (states n).onUpdate clock n w

/-! ## What the handlers do to the timer -/

section

variable (clock : Clock) (n : N) (w : Watch N)

@[simp] theorem runningState_onEnter_timer :
    (RunningState.onEnter clock n w).time.timer = w.time.timer := rfl

@[simp] theorem runningState_onEnter_reads :
    (RunningState.onEnter clock n w).reads = w.reads + 1 := rfl

@[simp] theorem runningState_onEnter_lastTime :
    (RunningState.onEnter clock n w).lastTime n = clock.now w.reads :=
  Function.update_self ..

@[simp] theorem runningState_onUpdate_timer (maxTime : ℚ) :
    (RunningState.onUpdate clock n maxTime w).1.time.timer =
      clock.float (w.time.timer + (clock.now w.reads).floatDiffSec clock.float (w.lastTime n)) := rfl

@[simp] theorem runningState_onUpdate_reads (maxTime : ℚ) :
    (RunningState.onUpdate clock n maxTime w).1.reads = w.reads + 1 := rfl

@[simp] theorem runningState_onUpdate_lastTime (maxTime : ℚ) :
    (RunningState.onUpdate clock n maxTime w).1.lastTime n = clock.now w.reads :=
  Function.update_self ..

end

end FactoryHub.Clips
