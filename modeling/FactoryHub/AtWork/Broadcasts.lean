import FactoryHub.AtWork.Clock
import FactoryHub.Lib.Scheduler

/-!
# What the @Work refbox broadcasts

The rules of `net.clp`, `robots.clp` and `benchmark.clp` that broadcast on the PUBLIC peer, or change
what these read. The inputs of a run are the ticks of the timer and the messages received; which rule
fires next is up to the conflict resolution of the inference engine, a scheduler. Attention messages
and what is sent to clients alone are left out.

* `PublicRefbox.step_agree` — an event does the same besides the items and tasks, whatever was
  generated, unless a tick finds the benchmark running in execution.
* `PublicRefbox.broadcasts_untilExecution_eq` — so that what is broadcast until then does not depend on
  the random draws.
-/

namespace FactoryHub.AtWork

open Clips Lib

/-! ## Globals -/

/-- `BEACON-PERIOD`. -/
def beaconPeriod : ℚ := 1

/-- `BENCHMARKSTATE-PERIOD`. -/
def benchmarkStatePeriod : ℚ := 1 / 10

/-- `BC-INVENTORY-PERIOD`. -/
def bcInventoryPeriod : ℚ := 1

/-- `BC-INVENTORY-BURST-PERIOD`. -/
def bcInventoryBurstPeriod : ℚ := 1 / 2

/-- `BC-INVENTORY-BURST-COUNT`. -/
def bcInventoryBurstCount : ℕ := 10

/-- `BC-TASKINFO-PERIOD`. -/
def bcTaskInfoPeriod : ℚ := 2

/-- `BC-TASKINFO-BURST-PERIOD`. -/
def bcTaskInfoBurstPeriod : ℚ := 1 / 2

/-- `BC-TASKINFO-BURST-COUNT`. -/
def bcTaskInfoBurstCount : ℕ := 10

/-- `BC-VERSIONINFO-PERIOD`. -/
def bcVersionInfoPeriod : ℚ := 1 / 2

/-- `BC-VERSIONINFO-COUNT`. -/
def bcVersionInfoCount : ℕ := 10

/-- `PEER-LOST-TIMEOUT`. -/
def peerLostTimeout : ℚ := 5

/-- `PEER-REMOVE-TIMEOUT`. -/
def peerRemoveTimeout : ℚ := 1080

/-! ## Messages -/

/-- The message `Time`. -/
structure TimeMsg where
  sec : Int
  nsec : Int
  deriving DecidableEq, Repr

/-- The fields of a `Time` message for a time of a refbox. -/
def TimeMsg.ofTime (t : Time) : TimeMsg := { sec := t.sec, nsec := integer (t.usec * 1000) }

/-- The message `BenchmarkScenario`. -/
structure ScenarioMsg where
  type : BenchmarkType
  typeId : ℕ
  description : String
  deriving DecidableEq, Repr

namespace Scenario

def description : Scenario → String
  | .none => "No benchmark running"
  | .bnt1 => "Basic Navigation Test 1"
  | .bmt1 => "Basic Manipulation Test 1"
  | .btt1 => "Basic Transportation Test 1"
  | .btt2 => "Basic Transportation Test 2"
  | .btt3 => "Basic Transportation Test 3"
  | .ppt1 => "Precision Placement Test 1"
  | .cbt1 => "Conveyor Belt Test 1"
  | .cbt2 => "Conveyor Belt Test 2"
  | .awf1 => "At Work Final 2016"

/-- `create-msg`. -/
def createMsg (s : Scenario) : ScenarioMsg :=
  { type := s.type, typeId := s.typeId, description := s.description }

end Scenario

/-- The globals with the version of the refbox. -/
structure Version where
  major : ℕ
  minor : ℕ
  micro : ℕ
  deriving DecidableEq, Repr

/-- The `version_string`. -/
def Version.string (v : Version) : String :=
  toString v.major ++ "." ++ toString v.minor ++ "." ++ toString v.micro

/-- The messages that are broadcast on the PUBLIC peer. The items and tasks of an inventory and a
task info stand for their messages. -/
inductive PublicMsg where
  | beaconSignal (time : TimeMsg) (seq : ℕ) (teamName peerName : String)
  | benchmarkState (benchmarkTime : TimeMsg) (scenario : ScenarioMsg) (knownTeams : List String)
      (state : RobotState) (phase : Phase)
  | inventory (items : List Item)
  | taskInfo (tasks : List Task)
  | versionInfo (version : Version) (versionString : String)
  deriving DecidableEq, Repr

/-! ## Facts -/

/-- `signal`. -/
structure Signal where
  time : Time := ⟨0, 0⟩
  seq : ℕ := 1
  count : ℕ := 1
  deriving DecidableEq, Repr

/-- `modify` of a signal that was sent. -/
def Signal.sent (now : Time) (s : Signal) : Signal := { s with time := now, seq := s.seq + 1 }

/-- The same for a signal that counts what is sent. -/
def Signal.counted (now : Time) (s : Signal) : Signal := { s.sent now with count := s.count + 1 }

/-- `robot`. -/
structure Robot where
  team : String
  name : String
  host : String
  port : ℕ
  lastSeen : Time
  warningSent : Bool := false
  deriving DecidableEq, Repr

/-- A received BeaconSignal. -/
structure Beacon where
  fromHost : String
  fromPort : ℕ
  rcvdAt : Time
  teamName : String
  peerName : String
  deriving DecidableEq, Repr

/-- The beacon is from the robot. -/
def Beacon.isFrom (beacon : Beacon) (robot : Robot) : Prop :=
  robot.host = beacon.fromHost ∧ robot.port = beacon.fromPort

instance (beacon : Beacon) (robot : Robot) : Decidable (beacon.isFrom robot) := by
  unfold Beacon.isFrom
  infer_instance

/-- A message received: from a client by STREAM, or a beacon. -/
inductive ReceivedMsg where
  | setBenchmarkScenario (type : BenchmarkType) (typeId : ℕ)
  | setBenchmarkTransitionEvent (event : TransitionEvent)
  | beaconSignal (beacon : Beacon)
  deriving DecidableEq, Repr

/-- What the configuration gives: the version, the facts `known-team` and the id of the PUBLIC
peer, if there is one. -/
structure PublicConfig where
  version : Version
  knownTeams : List String
  publicPeer : Option ℕ

/-- The facts and instances the broadcasts depend on, and what was broadcast by which peer, newest
first. -/
structure PublicRefbox where
  time : Option Time := none
  beacon : Signal := {}
  benchmarkState : Signal := {}
  versionInfo : Signal := {}
  inventory : Signal := {}
  taskInfo : Signal := {}
  messages : List ReceivedMsg := []
  robots : List Robot := []
  benchmark : Benchmark
  sent : List (ℕ × PublicMsg) := []

/-- The ticks of the timer, the messages received, and the rules that fire. -/
inductive PublicEvent where
  | tick (now : Time)
  | receive (msg : ReceivedMsg)
  | retractTime
  | protobufCleanupMessage (msg : ReceivedMsg)
  | netRecvSetBenchmarkScenario (type : BenchmarkType) (typeId : ℕ)
  | netRecvSetBenchmarkTransitionEvent (event : TransitionEvent)
  | netRecvBeaconKnown (beacon : Beacon)
  | netRecvBeaconUnknown (beacon : Beacon)
  | robotLost (robot : Robot)
  | robotRemove (robot : Robot)
  | benchmarkUpdate
  | netSendBeacon
  | netSendBenchmarkState
  | netSendInventoryPeer
  | netSendTaskInfoPeer
  | netSendVersionInfo
  deriving DecidableEq, Repr

/-- A tick or a message. -/
def PublicEvent.isInput : PublicEvent → Bool
  | .tick _ | .receive _ => true
  | _ => false

namespace PublicRefbox

/-- The refbox after the `init` rules. -/
def start : PublicRefbox := { benchmark := .start }

/-! ## Rules -/

section

variable (clock : Clock) (rand : ℕ → ℕ) (cfg : PublicConfig)

/-- The benchmark is sent what an input sends. -/
def control (input : Input) (r : PublicRefbox) : PublicRefbox :=
  { r with benchmark := r.benchmark.receive clock rand input }

/-- `retract-time`. -/
def retractTime (_ : Time) (r : PublicRefbox) : Option PublicRefbox := some { r with time := none }

/-- `benchmark-update`. -/
def benchmarkUpdate (_ : Time) (r : PublicRefbox) : Option PublicRefbox :=
  some (r.control clock rand .tick)

/-- `protobuf-cleanup-message`. -/
def protobufCleanupMessage (r : PublicRefbox) : Option PublicRefbox := some r

/-- `net-recv-SetBenchmarkScenario`. -/
def netRecvSetBenchmarkScenario (type : BenchmarkType) (typeId : ℕ) (r : PublicRefbox) :
    Option PublicRefbox :=
  some (r.control clock rand (.setBenchmarkScenario type typeId))

/-- `net-recv-SetBenchmarkTransitionEvent`. -/
def netRecvSetBenchmarkTransitionEvent (event : TransitionEvent) (r : PublicRefbox) :
    Option PublicRefbox :=
  some (r.control clock rand (.setBenchmarkTransitionEvent event))

/-- The sender of the beacon is known. -/
def Known (beacon : Beacon) (r : PublicRefbox) : Prop := ∃ robot ∈ r.robots, beacon.isFrom robot

instance (beacon : Beacon) (r : PublicRefbox) : Decidable (r.Known beacon) := by
  unfold Known
  infer_instance

/-- `net-recv-beacon-known`. -/
def netRecvBeaconKnown (beacon : Beacon) (r : PublicRefbox) : Option PublicRefbox :=
  if r.Known beacon then
    some { r with
      robots := r.robots.map fun robot =>
        if beacon.isFrom robot then
          { robot with lastSeen := beacon.rcvdAt, warningSent := false }
        else robot }
  else none

/-- `net-recv-beacon-unknown`. -/
def netRecvBeaconUnknown (beacon : Beacon) (r : PublicRefbox) : Option PublicRefbox :=
  if ¬ r.Known beacon then
    some { r with
      versionInfo := { r.versionInfo with count := 0, time := ⟨0, 0⟩ }
      robots :=
        { team := beacon.teamName, name := beacon.peerName, host := beacon.fromHost
          port := beacon.fromPort, lastSeen := beacon.rcvdAt } :: r.robots }
  else none

/-- `pb-broadcast`. -/
def pbBroadcast (peer : ℕ) (msg : PublicMsg) (r : PublicRefbox) : PublicRefbox :=
  { r with sent := (peer, msg) :: r.sent }

/-- The test of the rules for what was generated. -/
def RunningExecution (r : PublicRefbox) : Prop :=
  r.benchmark.state.toRobotState = .running ∧ r.benchmark.state.phase = .execution

instance (r : PublicRefbox) : Decidable r.RunningExecution := by
  unfold RunningExecution
  infer_instance

/-- `robot-lost`. -/
def robotLost (robot : Robot) (now : Time) (r : PublicRefbox) : Option PublicRefbox :=
  if robot ∈ r.robots ∧ robot.warningSent = false ∧ now.timeout robot.lastSeen peerLostTimeout then
    some { r with
      robots := r.robots.map fun rf => if rf = robot then { rf with warningSent := true } else rf }
  else none

/-- `robot-remove`. -/
def robotRemove (robot : Robot) (now : Time) (r : PublicRefbox) : Option PublicRefbox :=
  if robot ∈ r.robots ∧ now.timeout robot.lastSeen peerRemoveTimeout then
    some { r with robots := r.robots.erase robot }
  else none

/-- `net-send-beacon`. -/
def netSendBeacon (now : Time) (peer : ℕ) (r : PublicRefbox) : Option PublicRefbox :=
  if now.timeout r.beacon.time beaconPeriod then
    let beacon := .beaconSignal (.ofTime now) r.beacon.seq "RoCKIn" "RefBox"
    some (pbBroadcast peer beacon { r with beacon := r.beacon.sent now })
  else none

/-- `net-create-BenchmarkState`. -/
def netCreateBenchmarkState (b : Benchmark) : PublicMsg :=
  .benchmarkState (.ofTime (Time.fromSec b.timer)) b.currentScenario.createMsg cfg.knownTeams
    b.state.toRobotState b.state.phase

/-- `net-send-BenchmarkState`. -/
def netSendBenchmarkState (now : Time) (peer : ℕ) (r : PublicRefbox) : Option PublicRefbox :=
  if now.timeout r.benchmarkState.time benchmarkStatePeriod then
    some (pbBroadcast peer (netCreateBenchmarkState cfg r.benchmark)
      { r with benchmarkState := r.benchmarkState.sent now })
  else none

/-- `net-send-Inventory-peer`. -/
def netSendInventoryPeer (now : Time) (peer : ℕ) (r : PublicRefbox) : Option PublicRefbox :=
  if now.timeout r.inventory.time
      (if r.inventory.count > bcInventoryBurstCount then bcInventoryPeriod
      else bcInventoryBurstPeriod) then
    -- too many items
    if r.benchmark.content.items.length ≥ 23 then some r
    else if r.RunningExecution then
      some (pbBroadcast peer (.inventory r.benchmark.content.items)
        { r with inventory := r.inventory.counted now })
    else some r
  else none

/-- `net-send-TaskInfo-peer`. -/
def netSendTaskInfoPeer (now : Time) (peer : ℕ) (r : PublicRefbox) : Option PublicRefbox :=
  if now.timeout r.taskInfo.time
      (if r.taskInfo.count > bcTaskInfoBurstCount then bcTaskInfoPeriod
      else bcTaskInfoBurstPeriod) then
    if r.RunningExecution then
      some (pbBroadcast peer (.taskInfo r.benchmark.content.tasks)
        { r with taskInfo := r.taskInfo.counted now })
    else some r
  else none

/-- `net-create-VersionInfo`. -/
def netCreateVersionInfo : PublicMsg := .versionInfo cfg.version cfg.version.string

/-- `net-send-VersionInfo`. -/
def netSendVersionInfo (now : Time) (peer : ℕ) (r : PublicRefbox) : Option PublicRefbox :=
  if r.versionInfo.count < bcVersionInfoCount ∧
      now.timeout r.versionInfo.time bcVersionInfoPeriod then
    some (pbBroadcast peer (netCreateVersionInfo cfg)
      { r with versionInfo := r.versionInfo.counted now })
  else none

/-- A rule that matches a message, and retracts it. -/
def onMessage (msg : ReceivedMsg) (rule : PublicRefbox → Option PublicRefbox) (r : PublicRefbox) :
    Option PublicRefbox :=
  if msg ∈ r.messages then rule { r with messages := r.messages.erase msg } else none

/-- A rule that matches the fact `time`. -/
def atTick (rule : Time → PublicRefbox → Option PublicRefbox) (r : PublicRefbox) :
    Option PublicRefbox :=
  r.time.bind fun now => rule now r

/-- A rule that matches the PUBLIC peer as well. -/
def sendAtTick (rule : Time → ℕ → PublicRefbox → Option PublicRefbox) (r : PublicRefbox) :
    Option PublicRefbox :=
  cfg.publicPeer.bind fun peer => r.atTick fun now => rule now peer

/-- The refbox after an event, if it can happen. -/
def step (r : PublicRefbox) : PublicEvent → Option PublicRefbox
  | .tick now => if r.time = none then some { r with time := some now } else none
  | .receive msg => some { r with messages := msg :: r.messages }
  | .retractTime => r.atTick retractTime
  | .protobufCleanupMessage msg => r.onMessage msg protobufCleanupMessage
  | .netRecvSetBenchmarkScenario type typeId =>
      r.onMessage (.setBenchmarkScenario type typeId)
        (netRecvSetBenchmarkScenario clock rand type typeId)
  | .netRecvSetBenchmarkTransitionEvent event =>
      r.onMessage (.setBenchmarkTransitionEvent event)
        (netRecvSetBenchmarkTransitionEvent clock rand event)
  | .netRecvBeaconKnown beacon => r.onMessage (.beaconSignal beacon) (netRecvBeaconKnown beacon)
  | .netRecvBeaconUnknown beacon => r.onMessage (.beaconSignal beacon) (netRecvBeaconUnknown beacon)
  | .robotLost robot => r.atTick (robotLost robot)
  | .robotRemove robot => r.atTick (robotRemove robot)
  | .benchmarkUpdate => r.atTick (benchmarkUpdate clock rand)
  | .netSendBeacon => r.sendAtTick cfg netSendBeacon
  | .netSendBenchmarkState => r.sendAtTick cfg (netSendBenchmarkState cfg)
  | .netSendInventoryPeer => r.sendAtTick cfg netSendInventoryPeer
  | .netSendTaskInfoPeer => r.sendAtTick cfg netSendTaskInfoPeer
  | .netSendVersionInfo => r.sendAtTick cfg (netSendVersionInfo cfg)

end

end PublicRefbox

/-- A tick finds the benchmark running in execution. -/
def PublicRefbox.Executing (r : PublicRefbox) : Prop := r.time.isSome ∧ r.RunningExecution

instance (r : PublicRefbox) : Decidable r.Executing := by
  unfold PublicRefbox.Executing
  infer_instance

/-- The runs of the refbox under a conflict resolution. -/
abbrev PublicRun (clock : Clock) (rand : ℕ → ℕ) (cfg : PublicConfig)
    (next : Scheduler PublicEvent) : List (Step PublicRefbox PublicEvent) → PublicRefbox → Prop :=
  ScheduledRun (fun r e r' => r.step clock rand cfg e = some r') PublicEvent.isInput next .start

/-- The part of a run before a tick finds the benchmark running in execution. -/
def untilExecution (tr : List (Step PublicRefbox PublicEvent)) :
    List (Step PublicRefbox PublicEvent) :=
  asLongAs (fun r => ¬ r.Executing) tr

/-- What is broadcast in a run, newest first. -/
def broadcasts : List (Step PublicRefbox PublicEvent) → List (ℕ × PublicMsg)
  | [] => []
  | t :: _ => t.post.sent

/-! ## What was generated does not show -/

/-- The benchmark with other items and tasks. -/
def Benchmark.withContent (c : Content) (b : Benchmark) : Benchmark := { b with content := c }

/-- The refbox with other items and tasks. -/
def PublicRefbox.withContent (c : Content) (r : PublicRefbox) : PublicRefbox :=
  { r with benchmark := r.benchmark.withContent c }

section

variable (clock : Clock) (rand₁ rand₂ : ℕ → ℕ) {cfg : PublicConfig}

namespace Benchmark

@[simp] theorem withContent_currentScenario (c : Content) (b : Benchmark) :
    (b.withContent c).currentScenario = b.currentScenario := rfl

@[simp] theorem withContent_requestedScenario (c : Content) (b : Benchmark) :
    (b.withContent c).requestedScenario = b.requestedScenario := rfl

/-- A message changes the same besides the items and tasks, whatever these and the draws are. -/
theorem step_withContent (send : Send) (b : Benchmark) (c : Content) :
    ∃ c', (b.withContent c).step clock rand₂ send = (b.step clock rand₁ send).withContent c' := by
  cases send with
  | requestScenario type typeId =>
      refine ⟨c, ?_⟩
      show (b.withContent c).requestScenario type typeId =
        (b.requestScenario type typeId).withContent c
      unfold requestScenario
      split
      · rfl
      · rfl
  | switchScenario =>
      show ∃ c', (b.withContent c).switchScenario rand₂ = (b.switchScenario rand₁).withContent c'
      unfold switchScenario
      rw [withContent_currentScenario, withContent_requestedScenario]
      split
      · exact ⟨_, rfl⟩
      · exact ⟨c, rfl⟩
  | cleanup => exact ⟨_, rfl⟩
  | generate => exact ⟨_, rfl⟩
  | processEvent e => exact ⟨c, rfl⟩
  | update => exact ⟨c, rfl⟩

theorem receive_withContent (input : Input) (b : Benchmark) (c : Content) :
    ∃ c', (b.withContent c).receive clock rand₂ input =
      (b.receive clock rand₁ input).withContent c' := by
  unfold receive
  induction input.sends generalizing b c with
  | nil => exact ⟨c, rfl⟩
  | cons send sends ih =>
      obtain ⟨c', hc'⟩ := step_withContent clock rand₁ rand₂ send b c
      rw [List.foldl_cons, List.foldl_cons, hc']
      exact ih _ c'

end Benchmark

namespace PublicRefbox

/-- From other items and tasks, the second rule does what the first one does besides these. -/
def Agree (rule₁ rule₂ : PublicRefbox → Option PublicRefbox) (r : PublicRefbox) : Prop :=
  ∀ c r', rule₁ r = some r' → ∃ c', rule₂ (r.withContent c) = some (r'.withContent c')

variable {r : PublicRefbox}

namespace Agree

variable {rule₁ rule₂ : PublicRefbox → Option PublicRefbox}

theorem of_map (h : ∀ c, rule₂ (r.withContent c) = (rule₁ r).map (withContent c)) :
    Agree rule₁ rule₂ r := by
  intro c r' hr'
  rw [h c, hr']
  exact ⟨c, rfl⟩

theorem control (input : Input) :
    Agree (fun r => some (r.control clock rand₁ input)) (fun r => some (r.control clock rand₂ input))
      r := by
  intro c r' hr'
  obtain rfl := Option.some.inj hr'
  obtain ⟨c', hc'⟩ := Benchmark.receive_withContent clock rand₁ rand₂ input r.benchmark c
  refine ⟨c', ?_⟩
  show some { r.withContent c with
    benchmark := (r.benchmark.withContent c).receive clock rand₂ input } = _
  rw [hc']
  rfl

theorem onMessage {msg : ReceivedMsg} (h : ∀ r, Agree rule₁ rule₂ r) :
    Agree (PublicRefbox.onMessage msg rule₁) (PublicRefbox.onMessage msg rule₂) r := by
  intro c r' hr'
  unfold PublicRefbox.onMessage at hr' ⊢
  rw [Option.ite_none_right_eq_some] at hr'
  obtain ⟨hmem, hr'⟩ := hr'
  rw [if_pos (show msg ∈ (r.withContent c).messages from hmem)]
  exact h _ c r' hr'

theorem atTick {rule₁ rule₂ : Time → PublicRefbox → Option PublicRefbox}
    (h : ∀ now, r.time = some now → Agree (rule₁ now) (rule₂ now) r) :
    Agree (PublicRefbox.atTick rule₁) (PublicRefbox.atTick rule₂) r := by
  intro c r' hr'
  obtain ⟨now, htime, hr'⟩ := Option.bind_eq_some_iff.mp hr'
  obtain ⟨c', hc'⟩ := h now htime c r' hr'
  exact ⟨c', Option.bind_eq_some_iff.mpr ⟨now, htime, hc'⟩⟩

theorem sendAtTick {rule : Time → ℕ → PublicRefbox → Option PublicRefbox}
    (h : ∀ now peer, r.time = some now → Agree (rule now peer) (rule now peer) r) :
    Agree (PublicRefbox.sendAtTick cfg rule) (PublicRefbox.sendAtTick cfg rule) r := by
  intro c r' hr'
  obtain ⟨peer, hpeer, hr'⟩ := Option.bind_eq_some_iff.mp hr'
  obtain ⟨c', hc'⟩ := atTick (fun now htime => h now peer htime) c r' hr'
  exact ⟨c', Option.bind_eq_some_iff.mpr ⟨peer, hpeer, hc'⟩⟩

end Agree

/-! ### The rules -/

theorem netRecvBeaconKnown_agree (beacon : Beacon) :
    Agree (netRecvBeaconKnown beacon) (netRecvBeaconKnown beacon) r := by
  refine .of_map fun c => ?_
  unfold netRecvBeaconKnown
  rw [Option.map_if]
  rfl

theorem netRecvBeaconUnknown_agree (beacon : Beacon) :
    Agree (netRecvBeaconUnknown beacon) (netRecvBeaconUnknown beacon) r := by
  refine .of_map fun c => ?_
  unfold netRecvBeaconUnknown
  rw [Option.map_if]
  rfl

theorem robotLost_agree (robot : Robot) (now : Time) :
    Agree (robotLost robot now) (robotLost robot now) r := by
  refine .of_map fun c => ?_
  unfold robotLost
  rw [Option.map_if]
  rfl

theorem robotRemove_agree (robot : Robot) (now : Time) :
    Agree (robotRemove robot now) (robotRemove robot now) r := by
  refine .of_map fun c => ?_
  unfold robotRemove
  rw [Option.map_if]
  rfl

theorem netSendBeacon_agree (now : Time) (peer : ℕ) :
    Agree (netSendBeacon now peer) (netSendBeacon now peer) r := by
  refine .of_map fun c => ?_
  unfold netSendBeacon
  rw [Option.map_if]
  rfl

theorem netSendBenchmarkState_agree (now : Time) (peer : ℕ) :
    Agree (netSendBenchmarkState cfg now peer) (netSendBenchmarkState cfg now peer) r := by
  refine .of_map fun c => ?_
  unfold netSendBenchmarkState
  rw [Option.map_if]
  rfl

theorem netSendVersionInfo_agree (now : Time) (peer : ℕ) :
    Agree (netSendVersionInfo cfg now peer) (netSendVersionInfo cfg now peer) r := by
  refine .of_map fun c => ?_
  unfold netSendVersionInfo
  rw [Option.map_if]
  rfl

/-- Outside execution the inventory is not sent, nor is its signal modified, so that how many items
there are does not matter. -/
theorem netSendInventoryPeer_agree (hr : ¬ r.RunningExecution) (now : Time) (peer : ℕ) :
    Agree (netSendInventoryPeer now peer) (netSendInventoryPeer now peer) r := by
  refine .of_map fun c => ?_
  have hr' : ¬ (r.withContent c).RunningExecution := hr
  unfold netSendInventoryPeer
  rw [if_neg hr, if_neg hr', ite_self, ite_self, Option.map_if]
  rfl

theorem netSendTaskInfoPeer_agree (hr : ¬ r.RunningExecution) (now : Time) (peer : ℕ) :
    Agree (netSendTaskInfoPeer now peer) (netSendTaskInfoPeer now peer) r := by
  refine .of_map fun c => ?_
  have hr' : ¬ (r.withContent c).RunningExecution := hr
  unfold netSendTaskInfoPeer
  rw [if_neg hr, if_neg hr', Option.map_if]
  rfl

/-- Whatever was and is generated, an event can happen or not and changes the same besides the items
and tasks, unless a tick finds the benchmark running in execution. -/
theorem step_agree (hr : ¬ r.Executing) (e : PublicEvent) :
    Agree (fun r => step clock rand₁ cfg r e) (fun r => step clock rand₂ cfg r e) r := by
  have hrunning : ∀ now, r.time = some now → ¬ r.RunningExecution := by
    intro now htime hexecution
    exact hr ⟨by rw [htime]; rfl, hexecution⟩
  cases e with
  | tick now =>
      refine .of_map fun c => ?_
      unfold step
      rw [Option.map_if]
      rfl
  | receive msg => exact .of_map fun _ => rfl
  | retractTime => exact .atTick fun _ _ => .of_map fun _ => rfl
  | protobufCleanupMessage msg => exact .onMessage fun _ => .of_map fun _ => rfl
  | netRecvSetBenchmarkScenario type typeId =>
      exact .onMessage fun _ => .control clock rand₁ rand₂ _
  | netRecvSetBenchmarkTransitionEvent event =>
      exact .onMessage fun _ => .control clock rand₁ rand₂ _
  | netRecvBeaconKnown beacon => exact .onMessage fun _ => netRecvBeaconKnown_agree beacon
  | netRecvBeaconUnknown beacon => exact .onMessage fun _ => netRecvBeaconUnknown_agree beacon
  | robotLost robot => exact .atTick fun now _ => robotLost_agree robot now
  | robotRemove robot => exact .atTick fun now _ => robotRemove_agree robot now
  | benchmarkUpdate => exact .atTick fun _ _ => .control clock rand₁ rand₂ _
  | netSendBeacon => exact .sendAtTick fun now peer _ => netSendBeacon_agree now peer
  | netSendBenchmarkState =>
      exact .sendAtTick fun now peer _ => netSendBenchmarkState_agree now peer
  | netSendInventoryPeer =>
      exact .sendAtTick fun now peer htime =>
        netSendInventoryPeer_agree (hrunning now htime) now peer
  | netSendTaskInfoPeer =>
      exact .sendAtTick fun now peer htime =>
        netSendTaskInfoPeer_agree (hrunning now htime) now peer
  | netSendVersionInfo => exact .sendAtTick fun now peer _ => netSendVersionInfo_agree now peer

end PublicRefbox

/-! ## Along two runs -/

namespace PublicRefbox

/-- The refboxes differ in the items and tasks only. -/
def SameBesidesContent (r₁ r₂ : PublicRefbox) : Prop := ∃ c, r₂ = r₁.withContent c

/-- With different draws, the refbox goes the same way until a tick finds the benchmark running in
execution. -/
theorem lockstep :
    Lockstep SameBesidesContent (fun r => ¬ r.Executing)
      (fun r e r' => step clock rand₁ cfg r e = some r')
      (fun r e r' => step clock rand₂ cfg r e = some r') where
  enabled := by
    rintro r _ e ⟨c, rfl⟩ hr
    constructor
    · rintro ⟨r', hr'⟩
      obtain ⟨c', hc'⟩ := step_agree clock rand₁ rand₂ hr e c r' hr'
      exact ⟨_, hc'⟩
    · rintro ⟨r', hr'⟩
      -- and back to the items and tasks there were
      obtain ⟨c', hc'⟩ := step_agree clock rand₂ rand₁ (r := r.withContent c) hr e
        r.benchmark.content r' hr'
      exact ⟨_, hc'⟩
  related := by
    rintro r _ e r₁ r₂ ⟨c, rfl⟩ hr hr₁ hr₂
    obtain ⟨c', hc'⟩ := step_agree clock rand₁ rand₂ hr e c r₁ hr₁
    exact ⟨c', Option.some.inj (hr₂.symm.trans hc')⟩

variable {clock rand₁ rand₂} {next : Scheduler PublicEvent}
  {tr₁ tr₂ : List (Step PublicRefbox PublicEvent)} {r₁ r₂ : PublicRefbox}

theorem broadcasts_eq {step : PublicRefbox → PublicEvent → PublicRefbox → Prop}
    (h : Run step start tr₁ r₁) : broadcasts tr₁ = r₁.sent := by
  cases h with
  | init => rfl
  | step hrun hstep => rfl

/-- The tasks are secret until execution: runs on the same ticks and messages that differ in the random
draws broadcast the same until a tick finds the benchmark running in execution. -/
theorem broadcasts_untilExecution_eq (h₁ : PublicRun clock rand₁ cfg next tr₁ r₁)
    (h₂ : PublicRun clock rand₂ cfg next tr₂ r₂)
    (hinputs : inputs PublicEvent.isInput tr₁ = inputs PublicEvent.isInput tr₂) :
    broadcasts (untilExecution tr₁) = broadcasts (untilExecution tr₂) := by
  have hinit : SameBesidesContent .start .start := ⟨PublicRefbox.start.benchmark.content, rfl⟩
  have hsame : ∀ r₁ r₂, SameBesidesContent r₁ r₂ → (¬ r₁.Executing ↔ ¬ r₂.Executing) := by
    rintro r _ ⟨c, rfl⟩
    exact Iff.rfl
  obtain ⟨r₁', r₂', hrun₁, hrun₂, c, rfl⟩ :=
    ScheduledRun.related_asLongAs (lockstep clock rand₁ rand₂) hinit h₁ h₂ hinputs hsame
  have hsent₁ := broadcasts_eq hrun₁
  have hsent₂ := broadcasts_eq hrun₂
  unfold untilExecution
  rw [hsent₁, hsent₂]
  rfl

/-- A client sets up BTT1 and shuffles it between two ticks, skips the preparation and starts the
execution. -/
def shuffledTest : List PublicEvent :=
  [.receive (.setBenchmarkScenario .btt 1), .receive (.setBenchmarkTransitionEvent .reset),
    .tick ⟨2, 0⟩, .netSendInventoryPeer, .netSendTaskInfoPeer, .netSendBenchmarkState,
    .netSendBeacon, .netSendVersionInfo, .benchmarkUpdate,
    .netRecvSetBenchmarkScenario .btt 1, .netRecvSetBenchmarkTransitionEvent .reset, .retractTime,
    .receive (.setBenchmarkTransitionEvent .shuffle), .receive (.setBenchmarkTransitionEvent .start),
    .receive (.setBenchmarkTransitionEvent .skip),
    .tick ⟨4, 0⟩, .netRecvSetBenchmarkTransitionEvent .shuffle,
    .netRecvSetBenchmarkTransitionEvent .start, .netRecvSetBenchmarkTransitionEvent .skip,
    .netSendInventoryPeer, .netSendTaskInfoPeer, .retractTime]

/-- A conflict resolution that follows a list of events. -/
def following (events : List PublicEvent) : Scheduler PublicEvent :=
  fun earlier _ => events[earlier.length]?.filter fun e => !e.isInput

/-- The steps of a run follow a list of events to its end. -/
def Follows (events : List PublicEvent) (tr : List (Step PublicRefbox PublicEvent)) : Prop :=
  AllSteps (fun t earlier => following events (earlier.map Step.label) ∅ =
    if t.label.isInput then none else some t.label) tr ∧
  following events (tr.map Step.label) ∅ = none

instance (events : List PublicEvent) (tr : List (Step PublicRefbox PublicEvent)) :
    Decidable (Follows events tr) := by
  unfold Follows
  infer_instance

theorem publicRun_of_follows {rand : ℕ → ℕ} {events : List PublicEvent}
    (h : Run (fun r e r' => step clock rand cfg r e = some r') start tr₁ r₁)
    (hfollows : Follows events tr₁) : PublicRun clock rand cfg (following events) tr₁ r₁ :=
  ⟨h, hfollows.1, hfollows.2⟩

/-- The configuration with one team. -/
def oneTeam : PublicConfig :=
  { version := { major := 0, minor := 9, micro := 0 }, knownTeams := ["b-it-bots"]
    publicPeer := some 1 }

/-- Three messages are the same with either draws, and two that are sent in execution differ. -/
theorem broadcasts_untilExecution_eq_of_shuffledTest :
    ∃ tr₁ r₁ tr₂ r₂,
      PublicRun everySecond id oneTeam (following shuffledTest) tr₁ r₁ ∧
      PublicRun everySecond (fun i => i + 1) oneTeam (following shuffledTest) tr₂ r₂ ∧
      (broadcasts tr₁).take 2 ≠ (broadcasts tr₂).take 2 ∧
      (broadcasts (untilExecution tr₁)).length = 3 ∧
      broadcasts (untilExecution tr₁) = broadcasts (untilExecution tr₂) := by
  have hrun : (trace (step everySecond id oneTeam) start shuffledTest).any (fun p₁ =>
      (trace (step everySecond (fun i => i + 1) oneTeam) start shuffledTest).any (fun p₂ =>
        decide (Follows shuffledTest p₁.1 ∧ Follows shuffledTest p₂.1 ∧
          (broadcasts p₁.1).take 2 ≠ (broadcasts p₂.1).take 2 ∧
          (broadcasts (untilExecution p₁.1)).length = 3 ∧
          inputs PublicEvent.isInput p₁.1 = inputs PublicEvent.isInput p₂.1))) = true := by
    decide +kernel
  obtain ⟨⟨tr₁, r₁⟩, htrace₁, hrun⟩ := (Option.any_eq_true _ _).mp hrun
  obtain ⟨⟨tr₂, r₂⟩, htrace₂, hrun⟩ := (Option.any_eq_true _ _).mp hrun
  obtain ⟨hfollows₁, hfollows₂, hne, huntil, hinputs⟩ := of_decide_eq_true hrun
  have h₁ := publicRun_of_follows (run_of_trace htrace₁) hfollows₁
  have h₂ := publicRun_of_follows (run_of_trace htrace₂) hfollows₂
  exact ⟨tr₁, r₁, tr₂, r₂, h₁, h₂, hne, huntil, broadcasts_untilExecution_eq h₁ h₂ hinputs⟩

end PublicRefbox

end

end FactoryHub.AtWork
