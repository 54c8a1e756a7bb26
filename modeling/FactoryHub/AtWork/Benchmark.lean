import FactoryHub.AtWork.Generate
import FactoryHub.Clips.StateMachine

/-!
# The @Work benchmark

`benchmark.clp` and the `setup` handlers of the @Work scenarios. All tests set up the same states and
transitions; only their times differ. What a client's message or a tick does is the sequence of
messages (`Send`) its rule in `net.clp` or `benchmark.clp` sends to the instances.
-/

namespace FactoryHub.AtWork

open Clips Lib

/-! ## Scenarios -/

inductive BenchmarkType where
  | none | bnt | bmt | btt | ppt | cbt | awf | irl
  deriving DecidableEq, Repr

/-- The `…-PREPARATION-TIME` of a type of scenario. -/
def BenchmarkType.preparationTime : BenchmarkType → ℚ
  | .none => 0
  | .bnt | .bmt | .btt | .ppt | .cbt | .awf | .irl => 300

/-- The `…-EXECUTION-TIME` of a type of scenario. -/
def BenchmarkType.executionTime : BenchmarkType → ℚ
  | .none => 0
  | .bnt | .bmt | .btt | .ppt | .cbt | .irl => 300
  | .awf => 600

/-- The registered scenarios. -/
inductive Scenario where
  | none | bnt1 | bmt1 | btt1 | btt2 | btt3 | ppt1 | cbt1 | cbt2 | awf1
  deriving DecidableEq, Repr

namespace Scenario

def all : List Scenario := [.none, .bnt1, .bmt1, .btt1, .btt2, .btt3, .ppt1, .cbt1, .cbt2, .awf1]

def type : Scenario → BenchmarkType
  | .none => .none
  | .bnt1 => .bnt
  | .bmt1 => .bmt
  | .btt1 | .btt2 | .btt3 => .btt
  | .ppt1 => .ppt
  | .cbt1 | .cbt2 => .cbt
  | .awf1 => .awf

def typeId : Scenario → ℕ
  | .none => 0
  | .bnt1 | .bmt1 | .btt1 | .ppt1 | .cbt1 | .awf1 => 1
  | .btt2 | .cbt2 => 2
  | .btt3 => 3

/-- `generate`. -/
def generate (rand : ℕ → ℕ) : Scenario → Generate Unit
  | .none => pure ()
  | .bnt1 => BasicNavigationTest1.generate rand
  | .bmt1 => BasicManipulationTest1.generate rand
  | .btt1 => BasicTransportationTest1.generate rand
  | .btt2 => BasicTransportationTest2.generate rand
  | .btt3 => BasicTransportationTest3.generate rand
  | .ppt1 => PrecisionPlacementTest1.generate rand
  | .cbt1 => ConveyorBeltTest1.generate rand
  | .cbt2 => ConveyorBeltTest2.generate rand
  | .awf1 => AtWorkFinal2016.generate rand

end Scenario

/-! ## States -/

inductive StateName where
  | initState
  | prepTimeupState | prepStoppedState | prepRunningState | prepPausedState
  | execStoppedState | execRunningState | execPausedState | execFinishedState
  deriving DecidableEq, Repr

/-- The states and transitions that `setup` of a test makes. -/
def testStates (preparationTime executionTime : ℚ) : StateName → State StateName
  | .initState => { cls := .init }
  | .prepTimeupState =>
      { cls := .timeout, phase := .preparation, transitions := [(.start, .execRunningState)] }
  | .prepStoppedState =>
      { cls := .stopped, phase := .preparation, transitions := [(.start, .prepRunningState)] }
  | .prepRunningState =>
      { cls := .running, phase := .preparation, maxTime := preparationTime
        transitions :=
          [(.finish, .prepTimeupState), (.timeout, .prepTimeupState), (.stop, .execStoppedState),
            (.pause, .prepPausedState)] }
  | .prepPausedState =>
      { cls := .paused, phase := .preparation
        transitions := [(.stop, .execStoppedState), (.start, .prepRunningState)] }
  | .execStoppedState =>
      { cls := .stopped, phase := .execution, transitions := [(.start, .execRunningState)] }
  | .execRunningState =>
      { cls := .running, phase := .execution, maxTime := executionTime
        transitions :=
          [(.finish, .execFinishedState), (.timeout, .execFinishedState),
            (.stop, .execFinishedState), (.pause, .execPausedState)] }
  | .execPausedState =>
      { cls := .paused, phase := .execution
        transitions := [(.stop, .execStoppedState), (.start, .execRunningState)] }
  | .execFinishedState => { cls := .finished, phase := .execution }

namespace Scenario

/-- The states of the last `setup` of a scenario. -/
def states : Scenario → StateName → State StateName
  | .none => fun _ => { cls := .init }
  | scenario => testStates scenario.type.preparationTime scenario.type.executionTime

/-- The state a scenario starts in. -/
def initialState : Scenario → StateName
  | .none => .initState
  | _ => .prepStoppedState

end Scenario

/-! ## Benchmark -/

/-- `Benchmark`, with its state machine, its time and what the scenario generated. -/
structure Benchmark where
  currentScenario : Scenario
  requestedScenario : Scenario
  stateMachine : Config StateName (Watch StateName)
  content : Content

/-- The messages the rules send. -/
inductive Send where
  | requestScenario (type : BenchmarkType) (typeId : ℕ)
  | switchScenario
  | cleanup
  | generate
  | processEvent (e : Event)
  | update
  deriving DecidableEq, Repr

namespace Benchmark

/-- The benchmark after the `init` rules: scenario NONE is set up and the dummy task has id 0. -/
def start : Benchmark where
  currentScenario := .none
  requestedScenario := .none
  stateMachine := { current := .initState, previous := none, data := {} }
  content := { nextId := 1 }

variable (clock : Clock) (rand : ℕ → ℕ)

/-- `request-scenario`. -/
def requestScenario (type : BenchmarkType) (typeId : ℕ) (b : Benchmark) : Benchmark :=
  match Scenario.all.find? (fun s => s.type = type ∧ s.typeId = typeId) with
  | some scenario => { b with requestedScenario := scenario }
  | none => b

/-- `cleanup`. -/
def cleanup (b : Benchmark) : Benchmark :=
  { b with content := { b.content with items := [], tasks := [] } }

/-- `generate` of the current scenario. -/
def generate (b : Benchmark) : Benchmark :=
  { b with content := ((b.currentScenario.generate rand).run b.content).2 }

/-- `setup` of the current scenario, which makes new instances of its states and of the machine. -/
def setup (b : Benchmark) : Benchmark :=
  { b with
    stateMachine :=
      { current := b.currentScenario.initialState
        previous := none
        -- the time is shared by all scenarios and not made anew
        data := { b.stateMachine.data with lastTime := fun _ => ⟨0, 0⟩ } } }

/-- `switch-scenario`. -/
def switchScenario (b : Benchmark) : Benchmark :=
  if b.currentScenario ≠ b.requestedScenario then
    (generate rand (cleanup { b with currentScenario := b.requestedScenario })).setup
  else
    -- the items and tasks stay
    b.setup

/-- The state machine the benchmark runs. -/
def machine (b : Benchmark) : StateMachine StateName Event (Watch StateName) :=
  Clips.machine clock b.currentScenario.states

/-- `process-event`. -/
def processEvent (e : Event) (b : Benchmark) : Benchmark :=
  { b with stateMachine := (b.machine clock).processEvent e b.stateMachine }

/-- `update`. -/
def update (b : Benchmark) : Benchmark :=
  { b with stateMachine := (b.machine clock).update b.stateMachine }

/-- The benchmark after a message. -/
def step (b : Benchmark) : Send → Benchmark
  | .requestScenario type typeId => b.requestScenario type typeId
  | .switchScenario => b.switchScenario rand
  | .cleanup => b.cleanup
  | .generate => b.generate rand
  | .processEvent e => b.processEvent clock e
  | .update => b.update clock

end Benchmark

/-! ## Client events and ticks -/

/-- The events of SetBenchmarkTransitionEvent. -/
inductive TransitionEvent where
  | reset | start | stop | pause | skip | shuffle
  deriving DecidableEq, Repr

/-- What the benchmark reacts to: SetBenchmarkScenario and SetBenchmarkTransitionEvent of a client,
and the ticks of the timer. -/
inductive Input where
  | setBenchmarkScenario (type : BenchmarkType) (typeId : ℕ)
  | setBenchmarkTransitionEvent (event : TransitionEvent)
  | tick
  deriving DecidableEq, Repr

/-- The messages that `net-recv-SetBenchmarkTransitionEvent` sends. -/
def TransitionEvent.sends : TransitionEvent → List Send
  | .reset => [.switchScenario]
  | .shuffle => [.cleanup, .generate]
  -- START finds the state that STOP has led to
  | .skip => [.processEvent .stop, .processEvent .start]
  | .start => [.processEvent .start]
  | .stop => [.processEvent .stop]
  | .pause => [.processEvent .pause]

/-- The messages that `net-recv-SetBenchmarkScenario`, `net-recv-SetBenchmarkTransitionEvent` and
`benchmark-update` send. -/
def Input.sends : Input → List Send
  | .setBenchmarkScenario type typeId => [.requestScenario type typeId]
  | .setBenchmarkTransitionEvent event => event.sends
  | .tick => [.update]

/-- The benchmark after an input. -/
def Benchmark.receive (clock : Clock) (rand : ℕ → ℕ) (b : Benchmark) (input : Input) :
    Benchmark :=
  input.sends.foldl (Benchmark.step clock rand) b

end FactoryHub.AtWork
