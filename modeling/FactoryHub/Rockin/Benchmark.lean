import FactoryHub.Clips.Random
import FactoryHub.Clips.StateMachine
import FactoryHub.Comm.Communicator

/-!
# The RoCKIn benchmark

`benchmark.clp`, the states and feedback handlers of `functionality-benchmarks.clp` and
`task-benchmarks.clp`, and the rules of `net.clp` that reach them. The items and orders that a
scenario sets up are left out.
-/

namespace FactoryHub.Rockin

open Clips Lib

/-! ## Globals -/

def tbmTime : ℚ := 600
def fbm1Time : ℚ := 120
def fbm2PreparationTime : ℚ := 30
def fbm2ExecutionTime : ℚ := 210
def fbm3CalibrationTime : ℚ := 60
def fbm3PreparationTime : ℚ := 60
def fbm3ExecutionTime : ℚ := 120

def fbm1Count : Int := 10
def fbm2Count : Int := 5
def fbm3Count : Int := 5

/-- The descriptions of the objects an FbmStoppedState selects from. -/
def objects : List String := ["AX-01", "AX-02", "AX-03", "AX-09", "AX-16", "EM-01", "EM-02"]

/-! ## States -/

inductive StateName where
  | initState
  | stoppedState | runningState | pausedState | checkRunsState | finishedState
  | calibrationStoppedState | calibrationRunningState | calibrationPausedState
  | calibrationFinishedState
  | preparationStoppedState | preparationRunningState | preparationPausedState
  | executionStoppedState | executionRunningState | executionPausedState
  | executionCheckRunsState | executionFinishedState
  deriving DecidableEq, Repr

/-- An instance of a state: `fbm` tells the classes FbmStoppedState and FbmRunningState from
StoppedState and RunningState. -/
structure StateInstance extends State StateName where
  fbm : Bool := false

/-- The slots that change, the facts `benchmark-info`, and the number of random draws made. -/
structure Memory where
  watch : Watch StateName := {}
  selectedObject : StateName → String := fun _ => ""
  benchmarkInfo : List String := []
  draws : ℕ := 0

/-- `(assert (benchmark-info (object selected)))`. A fact that exists is not asserted again. -/
def Memory.assertInfo (selected : String) (m : Memory) : Memory :=
  { m with benchmarkInfo := m.benchmarkInfo.insert selected }

/-- All facts `benchmark-info` are retracted. -/
def Memory.retractInfos (m : Memory) : Memory := { m with benchmarkInfo := [] }

/-- `on-enter` of FbmStoppedState. -/
def FbmStoppedState.onEnter (rand : ℕ → ℕ) (n : StateName) (m : Memory) : Memory :=
  let (selected, draws) := pickRandom rand objects m.draws
  { m with draws, selectedObject := Function.update m.selectedObject n selected }.assertInfo selected

/-- `on-exit` of FbmStoppedState. -/
def FbmStoppedState.onExit (clock : Clock) (m : Memory) : Memory :=
  { m with watch := StoppedState.onExit clock m.watch }.retractInfos

/-- `on-enter` of FbmRunningState. `fromStopped` says that the previous state is an
FbmStoppedState. -/
def FbmRunningState.onEnter (clock : Clock) (fromStopped : Bool) (n prev : StateName)
    (m : Memory) : Memory :=
  let selectedObject :=
    if fromStopped then Function.update m.selectedObject n (m.selectedObject prev)
    else m.selectedObject
  { m with watch := RunningState.onEnter clock n m.watch, selectedObject }.assertInfo
    (selectedObject n)

/-- `on-exit` of FbmRunningState. -/
def FbmRunningState.onExit (m : Memory) : Memory := m.retractInfos

/-- The state machine over a table of states. -/
def machine (clock : Clock) (rand : ℕ → ℕ) (states : StateName → StateInstance) :
    StateMachine StateName Event Memory where
  transitions n := (states n).transitions
  onEnter n prev m :=
    match (states n).fbm, (states n).cls with
    | true, .stopped => FbmStoppedState.onEnter rand n m
    | true, .running =>
        let fromStopped := (states prev).fbm ∧ (states prev).cls = .stopped
        FbmRunningState.onEnter clock fromStopped n prev m
    | _, _ => { m with watch := (states n).onEnter clock n m.watch }
  onExit n _ m :=
    match (states n).fbm, (states n).cls with
    | true, .stopped => FbmStoppedState.onExit clock m
    | true, .running => FbmRunningState.onExit m
    | _, _ => { m with watch := (states n).onExit clock m.watch }
  onUpdate n m :=
    let (watch, raised) := (states n).onUpdate clock n m.watch
    ({ m with watch }, raised)

/-! ## Scenarios -/

inductive BenchmarkType where
  | none | tbm | fbm
  deriving DecidableEq, Repr

/-- The registered scenarios. -/
inductive Scenario where
  | none | tbm1 | tbm2 | tbm3 | fbm1 | fbm2 | fbm3
  deriving DecidableEq, Repr

namespace TaskBenchmark

/-- The states of the `setup` of each task benchmark. -/
def states : StateName → StateInstance
  | .stoppedState => { cls := .stopped, transitions := [(.start, .runningState)] }
  | .runningState =>
      { cls := .running, maxTime := tbmTime
        transitions :=
          [(.finish, .finishedState), (.timeout, .finishedState), (.pause, .pausedState),
            (.stop, .stoppedState)] }
  | .pausedState =>
      { cls := .paused, transitions := [(.stop, .stoppedState), (.start, .runningState)] }
  | .finishedState => { cls := .finished }
  | _ => { cls := .init }

end TaskBenchmark

namespace FunctionalityBenchmark1

/-- The states of `setup`. -/
def states : StateName → StateInstance
  | .stoppedState => { cls := .stopped, fbm := true, transitions := [(.start, .runningState)] }
  | .runningState =>
      { cls := .running, fbm := true, maxTime := fbm1Time
        transitions :=
          [(.finish, .checkRunsState), (.timeout, .checkRunsState), (.pause, .pausedState),
            (.stop, .checkRunsState)] }
  | .pausedState =>
      { cls := .paused, transitions := [(.stop, .stoppedState), (.start, .runningState)] }
  | .checkRunsState =>
      { cls := .checkRuns, maxRuns := fbm1Count
        transitions := [(.finish, .finishedState), (.repeatRun, .stoppedState)] }
  | .finishedState => { cls := .finished }
  | _ => { cls := .init }

end FunctionalityBenchmark1

namespace FunctionalityBenchmark2

/-- The states of `setup`. -/
def states : StateName → StateInstance
  | .preparationStoppedState =>
      { cls := .stopped, phase := .preparation, transitions := [(.start, .preparationRunningState)] }
  | .preparationRunningState =>
      { cls := .running, phase := .preparation, maxTime := fbm2PreparationTime
        transitions :=
          [(.finish, .executionStoppedState), (.timeout, .executionStoppedState),
            (.stop, .executionStoppedState), (.pause, .preparationPausedState)] }
  | .preparationPausedState =>
      { cls := .paused, phase := .preparation
        transitions := [(.stop, .executionStoppedState), (.start, .preparationRunningState)] }
  | .executionStoppedState =>
      { cls := .stopped, fbm := true, transitions := [(.start, .executionRunningState)] }
  | .executionRunningState =>
      { cls := .running, fbm := true, maxTime := fbm2ExecutionTime
        transitions :=
          [(.finish, .executionCheckRunsState), (.timeout, .executionCheckRunsState),
            (.pause, .executionPausedState), (.stop, .executionCheckRunsState)] }
  | .executionPausedState =>
      { cls := .paused
        transitions := [(.stop, .executionStoppedState), (.start, .executionRunningState)] }
  | .executionCheckRunsState =>
      { cls := .checkRuns, maxRuns := fbm2Count
        transitions := [(.finish, .executionFinishedState), (.repeatRun, .preparationRunningState)] }
  | .executionFinishedState => { cls := .finished }
  | _ => { cls := .init }

end FunctionalityBenchmark2

namespace FunctionalityBenchmark3

/-- The states of `setup`. -/
def states : StateName → StateInstance
  | .calibrationStoppedState =>
      { cls := .stopped, phase := .calibration, transitions := [(.start, .calibrationRunningState)] }
  | .calibrationRunningState =>
      { cls := .running, phase := .calibration, maxTime := fbm3CalibrationTime
        transitions :=
          [(.finish, .calibrationFinishedState), (.timeout, .calibrationFinishedState),
            (.stop, .calibrationFinishedState), (.pause, .calibrationPausedState)] }
  | .calibrationPausedState =>
      { cls := .paused, phase := .calibration
        transitions := [(.stop, .calibrationFinishedState), (.start, .calibrationRunningState)] }
  | .calibrationFinishedState =>
      { cls := .finished, phase := .calibration
        transitions := [(.start, .preparationStoppedState)] }
  | .preparationStoppedState =>
      { cls := .stopped, phase := .preparation, transitions := [(.start, .preparationRunningState)] }
  | .preparationRunningState =>
      { cls := .running, phase := .preparation, maxTime := fbm3PreparationTime
        transitions :=
          [(.finish, .executionStoppedState), (.timeout, .executionStoppedState),
            (.stop, .executionStoppedState), (.pause, .preparationPausedState)] }
  | .preparationPausedState =>
      { cls := .paused, phase := .preparation
        transitions := [(.stop, .executionStoppedState), (.start, .preparationRunningState)] }
  | .executionStoppedState => { cls := .stopped, transitions := [(.start, .executionRunningState)] }
  | .executionRunningState =>
      { cls := .running, maxTime := fbm3ExecutionTime
        transitions :=
          [(.finish, .executionCheckRunsState), (.timeout, .executionCheckRunsState),
            (.pause, .executionPausedState), (.stop, .executionCheckRunsState)] }
  | .executionPausedState =>
      { cls := .paused
        transitions := [(.stop, .executionStoppedState), (.start, .executionRunningState)] }
  | .executionCheckRunsState =>
      { cls := .checkRuns, maxRuns := fbm3Count
        transitions := [(.finish, .executionFinishedState), (.repeatRun, .calibrationStoppedState)] }
  | .executionFinishedState => { cls := .finished }
  | _ => { cls := .init }

end FunctionalityBenchmark3

/-- What the feedback handlers read of a BenchmarkFeedback. -/
structure BenchmarkFeedback where
  phaseToTerminate : Phase
  assemblyAidTrayId : Option String := none
  containerId : Option String := none
  deriving DecidableEq, Repr

inductive Command where
  | continue | finish
  deriving DecidableEq, Repr

namespace Scenario

def all : List Scenario := [.none, .tbm1, .tbm2, .tbm3, .fbm1, .fbm2, .fbm3]

def type : Scenario → BenchmarkType
  | .none => .none
  | .tbm1 | .tbm2 | .tbm3 => .tbm
  | .fbm1 | .fbm2 | .fbm3 => .fbm

def typeId : Scenario → ℕ
  | .none => 0
  | .tbm1 | .fbm1 => 1
  | .tbm2 | .fbm2 => 2
  | .tbm3 | .fbm3 => 3

/-- The states of the last `setup` of a scenario. -/
def states : Scenario → StateName → StateInstance
  | .none => fun _ => { cls := .init }
  | .tbm1 | .tbm2 | .tbm3 => TaskBenchmark.states
  | .fbm1 => FunctionalityBenchmark1.states
  | .fbm2 => FunctionalityBenchmark2.states
  | .fbm3 => FunctionalityBenchmark3.states

/-- The state a scenario starts in. -/
def initialState : Scenario → StateName
  | .none => .initState
  | .tbm1 | .tbm2 | .tbm3 | .fbm1 => .stoppedState
  | .fbm2 => .preparationStoppedState
  | .fbm3 => .calibrationStoppedState

/-- `handle-feedback`. The handler of TBM2 is defined twice, and the last definition counts; TBM3
has none of its own. -/
def handleFeedback (feedback : BenchmarkFeedback) : Scenario → Command
  | .none | .tbm3 => .continue
  | .tbm1 =>
      if feedback.assemblyAidTrayId.isSome ∧ feedback.containerId.isSome then .continue
      else .finish
  | .tbm2 | .fbm1 | .fbm2 | .fbm3 => .finish

end Scenario

/-! ## Benchmark -/

/-- `Benchmark`, with its state machine and its time. -/
structure Benchmark where
  currentScenario : Scenario
  requestedScenario : Scenario
  stateMachine : Config StateName Memory

namespace Benchmark

/-- The benchmark after the `init` rules. -/
def start : Benchmark where
  currentScenario := .none
  requestedScenario := .none
  stateMachine := { current := .initState, previous := none, data := {} }

/-- `request-scenario`. -/
def requestScenario (type : BenchmarkType) (typeId : ℕ) (b : Benchmark) : Benchmark :=
  match Scenario.all.find? (fun s => s.type = type ∧ s.typeId = typeId) with
  | some scenario => { b with requestedScenario := scenario }
  | none => b

variable (clock : Clock) (rand : ℕ → ℕ)

/-- The state machine the benchmark runs. -/
def machine (b : Benchmark) : StateMachine StateName Event Memory :=
  Rockin.machine clock rand b.currentScenario.states

/-- `setup` of the current scenario, which makes new instances of its states and of the machine, and
`init` of the machine. -/
def setup (b : Benchmark) : Benchmark :=
  let memory := b.stateMachine.data
  let made : Memory :=
    { memory with
      watch := { memory.watch with lastTime := fun _ => ⟨0, 0⟩, run := fun _ => 0 }
      selectedObject := fun _ => "" }
  let initial := b.currentScenario.initialState
  -- facts of the scenario before stay
  { b with
    stateMachine :=
      { current := initial
        previous := none
        data := (b.machine clock rand).onEnter initial initial made } }

/-- `switch-scenario`. -/
def switchScenario (b : Benchmark) : Benchmark :=
  { b with currentScenario := b.requestedScenario }.setup clock rand

/-- `process-event`. -/
def processEvent (e : Event) (b : Benchmark) : Benchmark :=
  { b with stateMachine := (b.machine clock rand).processEvent e b.stateMachine }

/-- `update`. -/
def update (b : Benchmark) : Benchmark :=
  { b with stateMachine := (b.machine clock rand).update b.stateMachine }

def current (b : Benchmark) : StateName := b.stateMachine.current

/-- The instance of the current state. -/
def state (b : Benchmark) : StateInstance := b.currentScenario.states b.current

/-- What is done for a BenchmarkFeedback of a known robot. -/
def receiveFeedback (feedback : BenchmarkFeedback) (b : Benchmark) : Benchmark :=
  if feedback.phaseToTerminate ≠ b.state.phase then b
  else
    -- the class of the current state is not asked for
    match b.currentScenario.handleFeedback feedback with
    | .continue => b
    | .finish => b.processEvent clock rand .finish

end Benchmark

/-! ## Rules -/

/-- The facts `robot`. -/
structure Robot where
  team : String
  name : String
  host : String
  port : ℕ
  deriving DecidableEq, Repr

/-- What the refbox has in memory. -/
structure Refbox where
  robots : List Robot
  benchmark : Benchmark

/-- The refbox after the `init` rules. -/
def Refbox.start : Refbox where
  robots := []
  benchmark := .start

/-- The events of SetBenchmarkTransitionEvent. -/
inductive TransitionEvent where
  | reset | start | stop | pause
  deriving DecidableEq, Repr

/-- What the benchmark and the registry of robots react to. -/
inductive Input where
  | setBenchmarkScenario (type : BenchmarkType) (typeId : ℕ)
  | setBenchmarkTransitionEvent (event : TransitionEvent)
  | benchmarkFeedback (clientType : Comm.ClientType) (host : String) (feedback : BenchmarkFeedback)
  | beacon (robot : Robot)
  | robotRemove (robot : Robot)
  | tick
  deriving DecidableEq, Repr

namespace Refbox

variable (clock : Clock) (rand : ℕ → ℕ)

/-- `net-recv-SetBenchmarkTransitionEvent`. -/
def setBenchmarkTransitionEvent (event : TransitionEvent) (r : Refbox) : Refbox :=
  { r with
    benchmark :=
      match event with
      | .reset => r.benchmark.switchScenario clock rand
      | .start => r.benchmark.processEvent clock rand .start
      | .stop => r.benchmark.processEvent clock rand .stop
      | .pause => r.benchmark.processEvent clock rand .pause }

/-- What `net-recv-BenchmarkFeedback` matches: the message of a peer on the host of a robot. -/
def Matches (r : Refbox) (clientType : Comm.ClientType) (host : String) : Prop :=
  clientType = .peer ∧ ∃ robot ∈ r.robots, robot.host = host

instance (r : Refbox) (clientType : Comm.ClientType) (host : String) :
    Decidable (r.Matches clientType host) := by
  unfold Matches
  infer_instance

/-- `net-recv-BenchmarkFeedback`. -/
def benchmarkFeedback (clientType : Comm.ClientType) (host : String) (feedback : BenchmarkFeedback)
    (r : Refbox) : Refbox :=
  if r.Matches clientType host then
    { r with benchmark := r.benchmark.receiveFeedback clock rand feedback }
  else r

/-- `net-recv-beacon-unknown`. -/
def beacon (robot : Robot) (r : Refbox) : Refbox :=
  if ∃ other ∈ r.robots, other.host = robot.host ∧ other.port = robot.port then r
  else { r with robots := robot :: r.robots }

/-- `robot-remove`. -/
def robotRemove (robot : Robot) (r : Refbox) : Refbox := { r with robots := r.robots.erase robot }

/-- The refbox after an input. -/
def step (r : Refbox) : Input → Refbox
  | .setBenchmarkScenario type typeId =>
      { r with benchmark := r.benchmark.requestScenario type typeId }
  | .setBenchmarkTransitionEvent event => r.setBenchmarkTransitionEvent clock rand event
  | .benchmarkFeedback clientType host feedback =>
      r.benchmarkFeedback clock rand clientType host feedback
  | .beacon robot => r.beacon robot
  | .robotRemove robot => r.robotRemove robot
  | .tick => { r with benchmark := r.benchmark.update clock rand }

end Refbox

end FactoryHub.Rockin
