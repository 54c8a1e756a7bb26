import FactoryHub.Llsf.MachineTable
import FactoryHub.Llsf.LoadUpdates
import FactoryHub.Llsf.OrderAccounts
import FactoryHub.Lib.Views

/-!
# What the LLSF refbox broadcasts

The rules of `net.clp` and `exploration.clp` that broadcast on the PUBLIC peer and on the peers of the
teams, over the game with the light codes of the machine types, and the OrderInfo for the clients.
Machines and orders are listed in the order of the model's lists; their poses, the RobotInfo, which tells
of robots only, and what else is sent to clients are left out.

* `NetGame.types_secret` — until production starts, what is broadcast shows nothing of the types and the
  orders that `game-parameterize` draws, except for the points in the game states.
* `NetGame.orders_told` — a team is told of its own orders only, in production, and once they have been
  activated.
-/

namespace FactoryHub.Llsf

open Clips Lib

/-! ## Globals -/

/-- `BEACON-PERIOD`. -/
def beaconPeriod : ℚ := 1
/-- `GAMESTATE-PERIOD`. -/
def gamestatePeriod : ℚ := 1
/-- `BC-EXPLORATION-INFO-PERIOD`. -/
def bcExplorationInfoPeriod : ℚ := 1
/-- `BC-MACHINE-REPORT-INFO-PERIOD`. -/
def bcMachineReportInfoPeriod : ℚ := 1
/-- `BC-MACHINE-INFO-PERIOD`. -/
def bcMachineInfoPeriod : ℚ := 2
/-- `BC-MACHINE-INFO-BURST-PERIOD`. -/
def bcMachineInfoBurstPeriod : ℚ := 1 / 2
/-- `BC-MACHINE-INFO-BURST-COUNT`. -/
def bcMachineInfoBurstCount : Int := 30
/-- `BC-ORDERINFO-PERIOD`. -/
def bcOrderInfoPeriod : ℚ := 2
/-- `BC-ORDERINFO-BURST-PERIOD`. -/
def bcOrderInfoBurstPeriod : ℚ := 1 / 2
/-- `BC-ORDERINFO-BURST-COUNT`. -/
def bcOrderInfoBurstCount : Int := 10
/-- `BC-VERSIONINFO-PERIOD`. -/
def bcVersionInfoPeriod : ℚ := 1 / 2
/-- `BC-VERSIONINFO-COUNT`. -/
def bcVersionInfoCount : Int := 10

/-! ## Messages -/

/-- Where a message goes: to the group of a network peer, or to each client that is no slave. -/
inductive Group where
  | everyone
  | team (team : Team)
  | clients
  deriving DecidableEq, Repr

/-- The message `Time`. -/
structure TimeMsg where
  sec : Int
  nsec : Int
  deriving DecidableEq, Repr

/-- The fields of a `Time` message. -/
def TimeMsg.ofTime (t : Time) : TimeMsg := { sec := t.sec, nsec := integer (t.usec * 1000) }

/-- The message `Machine` of a MachineInfo that is broadcast. -/
structure MachineMsg where
  name : MachineName
  type : MType
  teamColor : Team
  inputs : List PuckState
  output : Option PuckState
  deriving DecidableEq, Repr

/-- The message `Order`. -/
structure OrderMsg where
  id : Int
  teamColor : Team
  product : PuckState
  quantityRequested : Int
  quantityDelivered : Int
  deliveryGate : Gate
  deliveryPeriodBegin : Int
  deliveryPeriodEnd : Int
  deriving DecidableEq, Repr

/-- The message `ExplorationSignal`: red, yellow and green light of a type. -/
structure ExplorationSignal where
  type : MType
  red : Bool
  yellow : Bool
  green : Bool
  deriving DecidableEq, Repr

inductive NetMsg where
  | beaconSignal (time : TimeMsg) (seq : Int)
  | versionInfo
  | gameState (gameTime : TimeMsg) (state : GameStateName) (phase : Phase)
      (pointsCyan pointsMagenta : Int) (teamCyan teamMagenta : String)
  | explorationInfo (signals : List ExplorationSignal) (machines : List (MachineName × Team))
  | machineReportInfo (team : Team) (reportedMachines : List MachineName)
  | machineInfo (team : Team) (machines : List MachineMsg)
  | orderInfo (teamColor : Option Team) (orders : List OrderMsg)
  deriving DecidableEq, Repr

/-- A message without the points. -/
def NetMsg.hidePoints : NetMsg → NetMsg
  | .gameState gameTime state phase _ _ teamCyan teamMagenta =>
      .gameState gameTime state phase 0 0 teamCyan teamMagenta
  | msg => msg

/-! ## State -/

/-- The types of the `signal` facts. -/
inductive SignalType where
  | beacon | gamestate | robotInfo | bcRobotInfo | machineInfo | machineInfoBc | puckInfo
  | orderInfo | machineReportInfo | versionInfo | explorationInfo | setupLightToggle
  deriving DecidableEq, Repr

/-- `signal`. -/
structure Signal where
  time : Time := ⟨0, 0⟩
  seq : Int := 1
  count : Int := 1
  deriving DecidableEq, Repr

abbrev Signals := SignalType → Signal

/-- The slots `light-code` of the specifications, zero for the types that have none. -/
abbrev LightCodes := MType → ℕ

/-- The light codes of the `machine-specs` deffacts. -/
def startupLightCodes : LightCodes
  | .t1 => 1
  | .t2 => 2
  | .t3 => 4
  | .t4 => 5
  | .t5 => 6
  | .deliver | .recycle => 0

/-- The game with the light codes and the signals. -/
structure NetGame where
  game : Game
  lightCodes : LightCodes := startupLightCodes
  signals : Signals := fun _ => {}

def NetGame.startup : NetGame := { game := Game.startup }

inductive NetGameEvent where
  /-- An event of the game, and the light codes if it is `game-parameterize`, which may draw them. -/
  | game (e : Event) (lightCodes : LightCodes)
  | netClientConnected
  /-- The first beacon of a robot. -/
  | netRecvBeaconUnknown
  | netSendBeacon
  | netSendVersionInfo
  | netSendGameState
  | explorationSendExplorationInfo
  | explorationSendMachineReportInfo
  | netBroadcastMachineInfo
  | netSendOrderInfo

namespace Signals

variable (signals : Signals)

/-- `modify` of a signal. -/
def set (type : SignalType) (signal : Signal) : Signals :=
  fun t => if t = type then signal else signals t

/-- `(modify ?sf (time ?now) (seq (+ ?seq 1)))`. -/
def sent (type : SignalType) (now : Time) : Signals :=
  signals.set type { signals type with time := now, seq := (signals type).seq + 1 }

/-- The same, and `(count (+ ?count 1))`. -/
def sentCounted (type : SignalType) (now : Time) : Signals :=
  signals.set type
    { time := now, seq := (signals type).seq + 1, count := (signals type).count + 1 }

/-- What the rule `net-client-connected` makes due. -/
def clientConnected : Signals :=
  fun type =>
    if type ∈ [.gamestate, .robotInfo, .machineInfo, .machineInfoBc, .puckInfo, .orderInfo] then
      { signals type with time := ⟨0, 0⟩ }
    else signals type

/-- The rule `activate-order` makes the next OrderInfo due, and `(reset)` asserts the deffacts. -/
def afterGame : Event → Signals
  | .production (.activateOrder _) =>
      signals.set .orderInfo { signals .orderInfo with count := 1, time := ⟨0, 0⟩ }
  | .resetGame => fun _ => {}
  | _ => signals

end Signals

/-- The light codes after an event of the game. -/
def LightCodes.afterGame (lightCodes : LightCodes) (e : Event) (drawn : LightCodes) : LightCodes :=
  match e with
  | .gameParameterize _ _ _ => drawn
  | .resetGame => startupLightCodes
  | _ => lightCodes

namespace NetGame

variable (n : NetGame)

/-- The signal is due at the time of the `time` fact. -/
def due (type : SignalType) (period : ℚ) : Option Time :=
  n.game.time.filter fun now => now.timeout (n.signals type).time period

/-- The period of a signal that comes faster at first. -/
def burst (type : SignalType) (count : Int) (period burstPeriod : ℚ) : ℚ :=
  if (n.signals type).count > count then period else burstPeriod

/-! ## Rules -/

/-- A rule that sends, when its signal is due. -/
def send (type : SignalType) (period : ℚ) : Option NetGame :=
  (n.due type period).map fun now => { n with signals := n.signals.sent type now }

/-- The same for a signal that is counted. -/
def sendCounted (type : SignalType) (period : ℚ) : Option NetGame :=
  (n.due type period).map fun now => { n with signals := n.signals.sentCounted type now }

/-- An event of the game. -/
def gameEvent (e : Event) (lightCodes : LightCodes) : Option NetGame :=
  (n.game.step e).map fun game =>
    { game, lightCodes := n.lightCodes.afterGame e lightCodes, signals := n.signals.afterGame e }

/-- Rule `net-client-connected`. -/
def netClientConnected : NetGame := { n with signals := n.signals.clientConnected }

/-- Rule `net-recv-beacon-unknown`. -/
def netRecvBeaconUnknown : NetGame :=
  { n with
    signals := n.signals.set .versionInfo
      { n.signals .versionInfo with count := 0, time := ⟨0, 0⟩ } }

def netSendBeacon : Option NetGame := n.send .beacon beaconPeriod

def netSendVersionInfo : Option NetGame :=
  if (n.signals .versionInfo).count < bcVersionInfoCount then
    n.sendCounted .versionInfo bcVersionInfoPeriod
  else none

def netSendGameState : Option NetGame := n.send .gamestate gamestatePeriod

def explorationSendExplorationInfo : Option NetGame :=
  if n.game.gamestate.phase = .exploration then n.send .explorationInfo bcExplorationInfoPeriod
  else none

def explorationSendMachineReportInfo : Option NetGame :=
  if n.game.gamestate.phase = .exploration then
    n.send .machineReportInfo bcMachineReportInfoPeriod
  else none

def netBroadcastMachineInfo : Option NetGame :=
  let period := n.burst .machineInfoBc bcMachineInfoBurstCount bcMachineInfoPeriod
    bcMachineInfoBurstPeriod
  if n.game.gamestate.phase = .production then n.sendCounted .machineInfoBc period else none

def netSendOrderInfo : Option NetGame :=
  let period := n.burst .orderInfo bcOrderInfoBurstCount bcOrderInfoPeriod bcOrderInfoBurstPeriod
  if n.game.gamestate.phase = .production then n.sendCounted .orderInfo period else none

def step : NetGameEvent → Option NetGame
  | .game e lightCodes => n.gameEvent e lightCodes
  | .netClientConnected => some n.netClientConnected
  | .netRecvBeaconUnknown => some n.netRecvBeaconUnknown
  | .netSendBeacon => n.netSendBeacon
  | .netSendVersionInfo => n.netSendVersionInfo
  | .netSendGameState => n.netSendGameState
  | .explorationSendExplorationInfo => n.explorationSendExplorationInfo
  | .explorationSendMachineReportInfo => n.explorationSendMachineReportInfo
  | .netBroadcastMachineInfo => n.netBroadcastMachineInfo
  | .netSendOrderInfo => n.netSendOrderInfo

end NetGame

/-! ## What the rules broadcast -/

/-- The `machine-light-code` with an id: red, yellow and green. -/
def machineLightCode : ℕ → Option (Bool × Bool × Bool)
  | 1 => some (false, false, true)
  | 2 => some (false, true, false)
  | 3 => some (false, true, true)
  | 4 => some (true, false, false)
  | 5 => some (true, false, true)
  | 6 => some (true, true, false)
  | 7 => some (true, true, true)
  | _ => none

/-- The signals of an ExplorationInfo. -/
def LightCodes.explorationSignals (lightCodes : LightCodes) : List ExplorationSignal :=
  ([.t1, .t2, .t3, .t4, .t5].filter (lightCodes · ≠ 0)).filterMap fun type =>
    (machineLightCode (lightCodes type)).map fun (red, yellow, green) =>
      { type, red, yellow, green }

namespace Game

variable (g : Game)

/-- All machine facts. -/
def machineFacts : List (MachineName × Machine) :=
  (MachineName.all.map fun name => (name, g.machines name)) ++ g.otherMachines

/-- `net-create-GameState`. -/
def netCreateGameState : NetMsg :=
  let gs := g.gamestate
  .gameState (.ofTime (.fromSec gs.gameTime)) gs.state gs.phase gs.points.1 gs.points.2
    gs.teams.1 gs.teams.2

/-- The machines of an ExplorationInfo: those of a type with a light code. -/
def explorationMachines (lightCodes : LightCodes) : List (MachineName × Team) :=
  (g.machineFacts.filter fun (_, mf) => lightCodes mf.mtype ≠ 0).map fun (name, mf) =>
    (name, mf.team)

/-- The MachineReportInfo for a team. -/
def machineReportInfo (team : Team) : NetMsg :=
  .machineReportInfo team ((g.explorationReports.filter (·.team = team)).map (·.name))

/-- The message of a machine. -/
def machineMsg (name : MachineName) (mf : Machine) : MachineMsg :=
  let mspec := machineSpec g.procTime mf.mtype
  { name, type := mf.mtype, teamColor := mf.team
    inputs := (mspec.map MachineSpec.inputs).getD []
    output := if mf.mtype = .recycle then some .s0 else mspec.map MachineSpec.output }

/-- `net-create-broadcast-MachineInfo`. -/
def netCreateBroadcastMachineInfo (teamColor : Team) : NetMsg :=
  .machineInfo teamColor
    ((g.machineFacts.filter fun (_, mf) => mf.team = teamColor).map fun (name, mf) =>
      g.machineMsg name mf)

/-- `net-create-Order`. -/
def netCreateOrder (o : Order) : OrderMsg where
  id := o.id
  teamColor := o.team
  product := o.product
  quantityRequested := o.quantityRequested
  quantityDelivered := o.quantityDelivered
  deliveryGate := o.deliveryGate
  deliveryPeriodBegin := o.deliveryPeriod.1
  deliveryPeriodEnd := o.deliveryPeriod.2

/-- `net-create-OrderInfo`, of the orders of a team or of all. -/
def netCreateOrderInfo (teamColor : Option Team) : NetMsg :=
  let orders : List Order :=
    match teamColor with
    | some team => g.orders.filter fun o => o.active = true ∧ o.team = team
    | none => g.orders.filter fun o => o.active = true
  .orderInfo teamColor (orders.map netCreateOrder)

/-- What goes to the peer of each team. -/
def toTeams (msg : Team → NetMsg) : List (Group × NetMsg) :=
  [(.team .cyan, msg .cyan), (.team .magenta, msg .magenta)]

end Game

/-- What an event broadcasts, and the OrderInfo for the clients. -/
def NetGame.broadcasts (n : NetGame) : NetGameEvent → List (Group × NetMsg)
  | .netSendBeacon =>
      let now := n.game.time.getD ⟨0, 0⟩
      [(.everyone, .beaconSignal (.ofTime now) (n.signals .beacon).seq)]
  | .netSendVersionInfo => [(.everyone, .versionInfo)]
  | .netSendGameState => [(.everyone, n.game.netCreateGameState)]
  | .explorationSendExplorationInfo =>
      [(.everyone, .explorationInfo n.lightCodes.explorationSignals
        (n.game.explorationMachines n.lightCodes))]
  | .explorationSendMachineReportInfo => Game.toTeams n.game.machineReportInfo
  | .netBroadcastMachineInfo => Game.toTeams n.game.netCreateBroadcastMachineInfo
  | .netSendOrderInfo =>
      (.clients, n.game.netCreateOrderInfo none) ::
        Game.toTeams fun team => n.game.netCreateOrderInfo (some team)
  | .game _ _ | .netClientConnected | .netRecvBeaconUnknown => []

/-- A run of the game with what it broadcasts. -/
abbrev NetGameRun := Run fun (n : NetGame) e n' => n.step e = some n'

/-! ## What everyone can tell of a game -/

/-- The gamestate without its points, the clocks, and which machines have been reported. -/
structure GameView where
  gamestate : GameState
  time : Option Time
  simTime : Option SimTime
  reports : List (MachineName × Team)

def Game.view (g : Game) : GameView where
  gamestate := { g.gamestate with points := (0, 0) }
  time := g.time
  simTime := g.simTime
  reports := g.explorationReports.map fun r => (r.name, r.team)

/-- An event without what is drawn at random, but for the teams of the machines. -/
def Event.hideDraws : Event → Event
  | .gameParameterize machines _ _ =>
      .gameParameterize
        (fun name => { Llsf.startup.machines name with team := (machines name).team }) [] []
  | .techalWamNext _ => .techalWamNext .m1
  | e => e

namespace GameView

variable (v : GameView)

def setGamestate (gamestate : GameState) : GameView := { v with gamestate }

/-- A report is noted once for each team. -/
def report (team : Team) (reports : List (MachineName × Team)) (report : MachineName × String) :
    List (MachineName × Team) :=
  if report.1 ∈ ExplorationReport.names ∧ (report.1, team) ∉ reports then
    reports ++ [(report.1, team)]
  else reports

/-- The phase changes. -/
def toPhase (phase : Phase) : GameView :=
  v.setGamestate { v.gamestate with
    phase, prevPhase := some v.gamestate.phase, gameTime := 0 }

def toPostGame (now : Time) : GameView :=
  v.setGamestate { v.gamestate with
    phase := .postGame, prevPhase := some v.gamestate.phase, state := .paused, endTime := now }

/-- The view after an event. -/
def after : Event → GameView
  | .time now => { v with time := some now }
  | .retractTime => { v with time := none }
  | .simInit enabled estimate => { v with simTime := some { enabled, estimate } }
  | .simTimeSync sec nsec realTimeFactor =>
      match v.simTime, v.time with
      | some st, some now =>
          let newSimTime : Time := ⟨sec, nsec / 1000⟩
          let newSimTime := if st.estimate then newSimTime.max (getTime st now) else newSimTime
          { v with
            simTime := some { st with now := newSimTime, lastRecvTime := now, realTimeFactor } }
      | _, _ => v
  | .setGameState state =>
      v.setGamestate { v.gamestate with state, prevState := v.gamestate.state }
  | .setGamePhase phase =>
      v.setGamestate { v.gamestate with phase, prevPhase := some v.gamestate.phase }
  | .setTeamName team name =>
      v.setGamestate { v.gamestate with
        teams := match team with
          | .cyan => (name, v.gamestate.teams.2)
          | .magenta => (v.gamestate.teams.1, name) }
  | .explorationHandleReport team machines =>
      { v with reports := machines.foldl (report team) v.reports }
  | .gameUpdateGametimePoints =>
      match v.time, v.simTime with
      | some now, some st =>
          let now := getTime st now
          let timediff := now.diffSec v.gamestate.lastTime
          v.setGamestate { v.gamestate with
            gameTime := v.gamestate.gameTime + timediff
            contTime := v.gamestate.contTime + timediff
            lastTime := now }
      | _, _ => v
  | .gameUpdateLastTime =>
      match v.time, v.simTime with
      | some now, some st => v.setGamestate { v.gamestate with lastTime := getTime st now }
      | _, _ => v
  | .gameSwitchToPreGame =>
      v.setGamestate { v.gamestate with
        prevPhase := some .preGame, gameTime := 0, state := .waitStart }
  | .gameStartTraining now =>
      (v.toPhase .exploration).setGamestate { (v.toPhase .exploration).gamestate with startTime := now }
  | .gameStart now =>
      v.setGamestate { v.gamestate with
        phase := .setup, prevPhase := some .preGame, startTime := now }
  | .gameSwitchToExploration => v.toPhase .exploration
  | .gameSwitchToProduction => v.toPhase .production
  | .gameOver now | .gameOverAfterOvertime now | .techalWamGameOver now
  | .techalNavigationGameOver now => v.toPostGame now
  | .gameEnterOvertime => v.setGamestate { v.gamestate with overTime := true }
  | .gameGotoPostGame => v.setGamestate { v.gamestate with prevPhase := some .postGame }
  | .explorationStart =>
      { v.setGamestate { v.gamestate with prevPhase := some .exploration, gameTime := 0 } with
        reports := [] }
  | .explorationPause => v.setGamestate { v.gamestate with prevState := .paused }
  | .explorationContinue => v.setGamestate { v.gamestate with prevState := .running }
  | .productionStart =>
      v.setGamestate { v.gamestate with prevPhase := some .production, gameTime := 0 }
  | .techalWamNext _ => v.setGamestate { v.gamestate with prevState := .running }
  | .techalWamContinue | .techalWamReached _ =>
      v.setGamestate { v.gamestate with state := .running, prevState := .paused }
  | .initGame now => v.setGamestate { v.gamestate with state := .waitStart, lastTime := now }
  | .resetGame => Game.startup.view
  | .loadPuckInMachine _ _ | .removePuckFromMachine _ _ | .gameParameterize _ _ _ | .production _
  | .turnTo _ _ | .machineUpdateLoadedWith _ _ | .machineUpdateIgnored _ _
  | .techalWamDeactivate _ | .techalWamActivate _ => v

end GameView

namespace Game

variable {g g' : Game} {e : Event}

theorem view_handleReport (team : Team) (g : Game) (report : MachineName × String) :
    (handleReport team g report).view =
      { g.view with reports := GameView.report team g.view.reports report } := by
  obtain ⟨name, type⟩ := report
  have hiff : (∃ r ∈ g.explorationReports, r.name = name ∧ r.team = team) ↔
      (name, team) ∈ g.view.reports := by
    simp [view]
  unfold handleReport GameView.report
  simp only [hiff]
  split
  · simp [view]
  · rfl

theorem view_foldl_handleReport (team : Team) (machines : List (MachineName × String)) (g : Game) :
    (machines.foldl (handleReport team) g).view =
      { g.view with reports := machines.foldl (GameView.report team) g.view.reports } := by
  induction machines generalizing g with
  | nil => rfl
  | cons report machines ih => rw [List.foldl_cons, ih, view_handleReport, List.foldl_cons]

theorem updateLoadedWith_view (g : Game) (m : MachineName) (newLw : List Int) (spec : MachineSpec) :
    (g.updateLoadedWith m newLw spec).view = g.view := by
  unfold updateLoadedWith
  dsimp only
  split
  · rfl
  · split <;> rfl

/-- The view goes on by itself. -/
theorem view_step (h : g.step e = some g') : g'.view = g.view.after e := by
  cases e
  case explorationHandleReport team machines =>
    obtain ⟨-, hs⟩ := Option.ite_none_right_eq_some.mp h
    cases hs
    exact view_foldl_handleReport team machines g
  case production a =>
    obtain ⟨ha, hs⟩ := Option.ite_none_left_eq_some.mp h
    obtain ⟨memory, hstep, rfl⟩ := Option.map_eq_some_iff.mp hs
    rw [Bool.not_eq_true] at ha
    obtain ⟨hgamestate, -⟩ := Memory.step_frame ha hstep
    simp [view, hgamestate, GameView.after]
  case machineUpdateLoadedWith m newLw =>
    simp only [step, machineUpdateLoadedWith] at h
    split at h
    · next spec _ =>
        obtain ⟨-, hs⟩ := Option.ite_none_right_eq_some.mp h
        cases hs
        exact updateLoadedWith_view g m newLw spec
    · cases h
  case setTeamName team name =>
    cases h
    cases team <;> rfl
  all_goals
    simp only [step, simInit, simTimeSync, gameParameterize, loadPuckInMachine,
      removePuckFromMachine, turnTo, machineUpdateIgnored, gameUpdateGametimePoints, gameUpdateLastTime,
      gameSwitchToPreGame, gameStartTraining, gameStart, gameSwitchToExploration,
      gameSwitchToProduction, switchPhase, gameOver, gameEnterOvertime, gameOverAfterOvertime,
      gameGotoPostGame, explorationStart, explorationPause, explorationContinue, explorationSeen,
      productionStart, techalWamNext, techalWamDeactivate, techalWamActivate, techalWamContinue,
      techalWamReached, techalWamGameOver, techalNavigationGameOver, challengeOver, initGame,
      resetGame] at h
    repeat' split at h
    all_goals
      cases h
    all_goals first
      | rfl
      -- the phase that the rule asks for, or the clocks
      | simp_all [view, GameView.after, GameView.setGamestate, GameView.toPhase, Game.setGamestate]

end Game

theorem GameView.after_hideDraws (v : GameView) (e : Event) : v.after e.hideDraws = v.after e := by
  cases e <;> rfl

/-- The view of a game, the light codes and the signals. -/
structure NetView extends GameView where
  lightCodes : LightCodes
  signals : Signals

def NetGame.view (n : NetGame) : NetView :=
  { n.game.view with lightCodes := n.lightCodes, signals := n.signals }

/-- What is not drawn at random, or broadcast. -/
def NetGameEvent.hideDraws : NetGameEvent → NetGameEvent
  | .game e lightCodes => .game e.hideDraws lightCodes
  | e => e

namespace NetView

variable (v : NetView)

/-- After a rule that sends. -/
def send (type : SignalType) : NetView :=
  { v with signals := (v.time.map (v.signals.sent type)).getD v.signals }

def sendCounted (type : SignalType) : NetView :=
  { v with signals := (v.time.map (v.signals.sentCounted type)).getD v.signals }

/-- The view after an event. -/
def after : NetGameEvent → NetView
  | .game e lightCodes =>
      { v.toGameView.after e with
        lightCodes := v.lightCodes.afterGame e lightCodes, signals := v.signals.afterGame e }
  | .netClientConnected => { v with signals := v.signals.clientConnected }
  | .netRecvBeaconUnknown =>
      { v with
        signals := v.signals.set .versionInfo
          { v.signals .versionInfo with count := 0, time := ⟨0, 0⟩ } }
  | .netSendBeacon => v.send .beacon
  | .netSendVersionInfo => v.sendCounted .versionInfo
  | .netSendGameState => v.send .gamestate
  | .explorationSendExplorationInfo => v.send .explorationInfo
  | .explorationSendMachineReportInfo => v.send .machineReportInfo
  | .netBroadcastMachineInfo => v.sendCounted .machineInfoBc
  | .netSendOrderInfo => v.sendCounted .orderInfo

theorem after_hideDraws (e : NetGameEvent) : v.after e.hideDraws = v.after e := by
  cases e with
  | game e lightCodes =>
      have hsignals : v.signals.afterGame e.hideDraws = v.signals.afterGame e := by
        cases e <;> rfl
      have hcodes : v.lightCodes.afterGame e.hideDraws lightCodes =
          v.lightCodes.afterGame e lightCodes := by
        cases e <;> rfl
      simp [after, NetGameEvent.hideDraws, GameView.after_hideDraws, hsignals, hcodes]
  | _ => rfl

end NetView

namespace NetGame

variable {n n' : NetGame} {e : NetGameEvent} {type : SignalType} {period : ℚ}

theorem view_send (h : n.send type period = some n') : n'.view = n.view.send type := by
  obtain ⟨now, hnow, rfl⟩ := Option.map_eq_some_iff.mp h
  have htime : n.game.time = some now := (Option.filter_eq_some_iff.mp hnow).1
  simp [view, NetView.send, Game.view, htime]

theorem view_sendCounted (h : n.sendCounted type period = some n') :
    n'.view = n.view.sendCounted type := by
  obtain ⟨now, hnow, rfl⟩ := Option.map_eq_some_iff.mp h
  have htime : n.game.time = some now := (Option.filter_eq_some_iff.mp hnow).1
  simp [view, NetView.sendCounted, Game.view, htime]

theorem view_step (h : n.step e = some n') : n'.view = n.view.after e := by
  cases e with
  | game e lightCodes =>
      obtain ⟨game, hgame, rfl⟩ := Option.map_eq_some_iff.mp h
      simp [view, NetView.after, Game.view_step hgame]
  | netClientConnected | netRecvBeaconUnknown =>
      cases h
      rfl
  | netSendBeacon | netSendGameState => exact view_send h
  | netSendVersionInfo => exact view_sendCounted (Option.ite_none_right_eq_some.mp h).2
  | explorationSendExplorationInfo | explorationSendMachineReportInfo =>
      exact view_send (Option.ite_none_right_eq_some.mp h).2
  | netBroadcastMachineInfo | netSendOrderInfo =>
      exact view_sendCounted (Option.ite_none_right_eq_some.mp h).2

theorem views : Views (fun (n : NetGame) e n' => n.step e = some n') view NetGameEvent.hideDraws
    NetView.after where
  step h := by rw [view_step h, NetView.after_hideDraws]

end NetGame

/-! ## Until production -/

/-- The machine is one of those with a light code, or it is not, as in the deffacts. -/
def OnField (name : MachineName) (mf : Machine) : Prop :=
  startupLightCodes mf.mtype = 0 ↔ startupLightCodes (startupType name) = 0

instance (name : MachineName) (mf : Machine) : Decidable (OnField name mf) :=
  inferInstanceAs (Decidable (_ ↔ _))

/-- What is drawn for the machines is a field: the types of the machines of the field, and the light
codes of these types. -/
def NetGameEvent.DrawsField : NetGameEvent → Prop
  | .game (.gameParameterize machines _ _) lightCodes =>
      (∀ name, OnField name (machines name)) ∧
        ∀ type, lightCodes type = 0 ↔ startupLightCodes type = 0
  | _ => True

/-- The event gives the machines their teams and types anew. -/
def Event.drawsMachines : Event → Bool
  | .gameParameterize _ _ _ | .resetGame => true
  | _ => false

theorem Memory.Becomes.sameKind {s : Memory} {name : MachineName} {a : Activation} {mf : Machine}
    (h : s.Becomes name a mf) : SameKind (s.machines name) mf := by
  refine ⟨?_, h.mtype_eq⟩
  cases h
  case junk m id =>
    simp only [Memory.reject, Memory.setMachine]
    split
    · next heq => rw [heq]
    · rfl
  all_goals rfl

namespace Game

variable {g g' : Game} {e : Event}

theorem sameKind_setMachine {m : MachineName} {mf : Machine} (hmf : SameKind (g.machines m) mf)
    (name : MachineName) :
    SameKind (g.machines name) ((g.toMemory.setMachine m mf).machines name) := by
  rw [Memory.setMachine_machines]
  split
  · next heq => exact heq ▸ hmf
  · exact ⟨rfl, rfl⟩

/-- Before production the machines keep their teams and types, and there is one fact of each. -/
theorem step_sameKind (h : g.step e = some g') (hothers : g.otherMachines = [])
    (hphase : g.gamestate.phase ≠ .production) (he : e.drawsMachines = false) :
    g'.otherMachines = [] ∧ ∀ name, SameKind (g.machines name) (g'.machines name) := by
  cases e
  case gameParameterize => cases he
  case resetGame => cases he
  case explorationHandleReport team machines =>
    obtain ⟨-, hs⟩ := Option.ite_none_right_eq_some.mp h
    cases hs
    have hkept := loadKept_foldl_handleReport team machines g
    refine ⟨hkept.otherMachines.trans hothers, fun name => ?_⟩
    rw [hkept.machines]
    exact ⟨rfl, rfl⟩
  case production a =>
    obtain ⟨-, hs⟩ := Option.ite_none_left_eq_some.mp h
    obtain ⟨memory, hstep, rfl⟩ := Option.map_eq_some_iff.mp hs
    refine ⟨?_, fun name => (Memory.step_becomes hstep name).sameKind⟩
    cases a <;> simp [othersAfter, hothers]
  case techalWamDeactivate m | techalWamActivate m =>
    obtain ⟨-, hs⟩ := Option.ite_none_right_eq_some.mp h
    cases hs
    exact ⟨hothers, sameKind_setMachine ⟨rfl, rfl⟩⟩
  case turnTo m fact =>
    obtain ⟨hmem, -⟩ := Option.ite_none_right_eq_some.mp h
    rw [hothers] at hmem
    cases hmem
  all_goals
    simp only [step, simInit, simTimeSync, loadPuckInMachine, removePuckFromMachine,
      machineUpdateLoadedWith, machineUpdateIgnored, gameUpdateGametimePoints, gameUpdateLastTime,
      gameSwitchToPreGame, gameStartTraining, gameStart, gameSwitchToExploration,
      gameSwitchToProduction, switchPhase, gameOver, gameEnterOvertime, gameOverAfterOvertime,
      gameGotoPostGame, explorationStart, explorationPause, explorationContinue, explorationSeen,
      productionStart, techalWamNext, techalWamContinue, techalWamReached, techalWamGameOver,
      techalNavigationGameOver, challengeOver, initGame] at h
    repeat' split at h
    all_goals
      cases h
    all_goals first
      | exact ⟨hothers, fun _ => ⟨rfl, rfl⟩⟩
      -- the rules of the production phase
      | simp_all

/-- The names of the reported machines are in the view. -/
theorem machineReportInfo_eq (g : Game) (team : Team) :
    g.machineReportInfo team =
      .machineReportInfo team ((g.view.reports.filter (·.2 = team)).map Prod.fst) := by
  simp [machineReportInfo, view, List.filter_map, Function.comp_def]

theorem hidePoints_netCreateGameState (g : Game) :
    g.netCreateGameState.hidePoints =
      .gameState (.ofTime (.fromSec g.view.gamestate.gameTime)) g.view.gamestate.state
        g.view.gamestate.phase 0 0 g.view.gamestate.teams.1 g.view.gamestate.teams.2 := rfl

end Game

namespace NetGame

/-- What an event broadcasts, without the points. -/
def shown (n : NetGame) (e : NetGameEvent) : List (Group × NetMsg) :=
  (n.broadcasts e).map fun (group, msg) => (group, msg.hidePoints)

/-- The machines and the light codes are those of a field, with one fact of each machine. -/
structure Field (n : NetGame) : Prop where
  machines : ∀ name, OnField name (n.game.machines name)
  otherMachines : n.game.otherMachines = []
  lightCodes : ∀ type, n.lightCodes type = 0 ↔ startupLightCodes type = 0

/-- The machines of an ExplorationInfo are the same on every field of the same teams. -/
theorem explorationMachines_of_field {n : NetGame} (h : n.Field) :
    n.game.explorationMachines n.lightCodes =
      (MachineName.all.filter fun name => startupLightCodes (startupType name) ≠ 0).map fun name =>
        (name, (n.game.machines name).team) := by
  have hlisted : MachineName.all.filter
        (fun name => n.lightCodes (n.game.machines name).mtype ≠ 0) =
      MachineName.all.filter fun name => startupLightCodes (startupType name) ≠ 0 := by
    apply List.filter_congr
    intro name _
    have hiff := (h.lightCodes (n.game.machines name).mtype).trans (h.machines name)
    exact decide_eq_decide.mpr (not_congr hiff)
  rw [Game.explorationMachines, Game.machineFacts, h.otherMachines, List.append_nil, List.filter_map,
    List.map_map]
  exact congrArg _ hlisted

/-- A step before production, from a field. -/
def QuietStep (n : NetGame) (e : NetGameEvent) (n' : NetGame) : Prop :=
  n.step e = some n' ∧ n.Field ∧ n.game.gamestate.phase ≠ .production ∧ e.DrawsField

theorem send_game {type : SignalType} {period : ℚ} {n n' : NetGame}
    (h : n.send type period = some n') : n'.game = n.game ∧ n'.lightCodes = n.lightCodes := by
  obtain ⟨now, -, rfl⟩ := Option.map_eq_some_iff.mp h
  exact ⟨rfl, rfl⟩

theorem sendCounted_game {type : SignalType} {period : ℚ} {n n' : NetGame}
    (h : n.sendCounted type period = some n') :
    n'.game = n.game ∧ n'.lightCodes = n.lightCodes := by
  obtain ⟨now, -, rfl⟩ := Option.map_eq_some_iff.mp h
  exact ⟨rfl, rfl⟩

/-- Only an event of the game changes the game and the light codes. -/
theorem game_of_step {n n' : NetGame} {e : NetGameEvent} (h : n.step e = some n') :
    (∃ a lightCodes, e = .game a lightCodes ∧ n.game.step a = some n'.game ∧
      n'.lightCodes = n.lightCodes.afterGame a lightCodes) ∨
    (∀ a lightCodes, e ≠ .game a lightCodes) ∧ n'.game = n.game ∧ n'.lightCodes = n.lightCodes := by
  cases e with
  | game a lightCodes =>
      obtain ⟨game, hgame, rfl⟩ := Option.map_eq_some_iff.mp h
      exact .inl ⟨a, lightCodes, rfl, hgame, rfl⟩
  | netClientConnected | netRecvBeaconUnknown =>
      cases h
      exact .inr ⟨by simp, rfl, rfl⟩
  | netSendBeacon | netSendGameState => exact .inr ⟨by simp, send_game h⟩
  | netSendVersionInfo =>
      exact .inr ⟨by simp, sendCounted_game (Option.ite_none_right_eq_some.mp h).2⟩
  | explorationSendExplorationInfo | explorationSendMachineReportInfo =>
      exact .inr ⟨by simp, send_game (Option.ite_none_right_eq_some.mp h).2⟩
  | netBroadcastMachineInfo | netSendOrderInfo =>
      exact .inr ⟨by simp, sendCounted_game (Option.ite_none_right_eq_some.mp h).2⟩

theorem field_startup : startup.Field :=
  ⟨fun _ => Iff.rfl, rfl, fun _ => Iff.rfl⟩

/-- The teams of the machines. -/
def teams (n : NetGame) (name : MachineName) : Team := (n.game.machines name).team

/-- The teams after an event. -/
def teamsAfter (teams : MachineName → Team) : NetGameEvent → MachineName → Team
  | .game (.gameParameterize machines _ _) _, name => (machines name).team
  | .game .resetGame _, name => startupTeam name
  | _, name => teams name

/-- What a step before production does to the field and to the teams. -/
theorem quietStep_spec {n n' : NetGame} {e : NetGameEvent} (h : QuietStep n e n') :
    n'.Field ∧ n'.teams = teamsAfter n.teams e := by
  obtain ⟨hs, hfield, hphase, he⟩ := h
  rcases game_of_step hs with ⟨a, lightCodes, rfl, ha, hcodes⟩ | ⟨hne, hgame, hcodes⟩
  · by_cases hdraws : a.drawsMachines = true
    · cases a with
      | gameParameterize machines drawn deliveryPeriods =>
          obtain ⟨-, hs⟩ := Option.ite_none_right_eq_some.mp ha
          obtain ⟨hmachines, hlightCodes⟩ := he
          rw [Option.some.injEq] at hs
          refine ⟨⟨?_, ?_, ?_⟩, ?_⟩
          · rw [← hs]
            exact hmachines
          · rw [← hs]
            exact hfield.otherMachines
          · rw [hcodes]
            exact hlightCodes
          · unfold teams
            rw [← hs]
            rfl
      | resetGame =>
          obtain ⟨-, hs⟩ := Option.ite_none_right_eq_some.mp ha
          rw [Option.some.injEq] at hs
          refine ⟨⟨?_, ?_, ?_⟩, ?_⟩
          · rw [← hs]
            exact field_startup.machines
          · rw [← hs]
            rfl
          · rw [hcodes]
            exact fun _ => Iff.rfl
          · unfold teams
            rw [← hs]
            rfl
      | _ => cases hdraws
    · rw [Bool.not_eq_true] at hdraws
      obtain ⟨hothers, hkind⟩ := Game.step_sameKind ha hfield.otherMachines hphase hdraws
      have hcodes' : n'.lightCodes = n.lightCodes := by
        rw [hcodes]
        cases a <;> first | rfl | cases hdraws
      refine ⟨⟨fun name => ?_, hothers, hcodes' ▸ hfield.lightCodes⟩, funext fun name => ?_⟩
      · rw [OnField, (hkind name).2]
        exact hfield.machines name
      · have hteam : n'.teams name = n.teams name := (hkind name).1
        rw [hteam]
        cases a <;> first | rfl | cases hdraws
  · refine ⟨⟨hgame ▸ hfield.machines, hgame ▸ hfield.otherMachines, hcodes ▸ hfield.lightCodes⟩, ?_⟩
    unfold teams
    rw [hgame]
    cases e with
    | game a lightCodes => exact absurd rfl (hne a lightCodes)
    | _ => rfl

/-- Before production the view goes on by itself, with the teams. -/
theorem quietViews : Views QuietStep (fun n => (n.view, n.teams)) NetGameEvent.hideDraws
    fun v e => (v.1.after e, teamsAfter v.2 e) where
  step {n e n'} h := by
    have hteams : teamsAfter n.teams e.hideDraws = teamsAfter n.teams e := by
      cases e with
      | game a => cases a <;> rfl
      | _ => rfl
    rw [view_step h.1, (quietStep_spec h).2, NetView.after_hideDraws, hteams]

theorem game_or_eq {e f : NetGameEvent} (h : e.hideDraws = f.hideDraws) :
    (∃ a b drawn drawn', e = .game a drawn ∧ f = .game b drawn') ∨ e = f := by
  cases e <;> cases f <;> simp_all [NetGameEvent.hideDraws]

/-- Before production, what is shown is a matter of the view and the teams. -/
theorem shown_eq {n m : NetGame} {e f : NetGameEvent} (hn : ∃ n', QuietStep n e n')
    (hm : ∃ m', QuietStep m f m') (hview : (n.view, n.teams) = (m.view, m.teams))
    (hevent : e.hideDraws = f.hideDraws) : n.shown e = m.shown f := by
  obtain ⟨n', hstep, hfield, hphase, -⟩ := hn
  obtain ⟨m', -, hfield', -⟩ := hm
  obtain ⟨hview, hteams⟩ := Prod.mk.inj hview
  have hgame : n.game.view = m.game.view := congrArg NetView.toGameView hview
  have hcodes : n.lightCodes = m.lightCodes := congrArg NetView.lightCodes hview
  have hsignals : n.signals = m.signals := congrArg NetView.signals hview
  have htime : n.game.time = m.game.time := congrArg GameView.time hgame
  rcases game_or_eq hevent with ⟨a, b, drawn, drawn', rfl, rfl⟩ | rfl
  · rfl
  cases e with
  | netSendBeacon => simp [shown, broadcasts, hsignals, htime]
  | netSendGameState => simp [shown, broadcasts, Game.hidePoints_netCreateGameState, hgame]
  | explorationSendExplorationInfo =>
      have hmachines : n.game.explorationMachines n.lightCodes =
          m.game.explorationMachines m.lightCodes := by
        rw [explorationMachines_of_field hfield, explorationMachines_of_field hfield']
        exact List.map_congr_left fun name _ => Prod.ext rfl (congrFun hteams name)
      simp only [shown, broadcasts, hmachines]
      rw [hcodes]
  | explorationSendMachineReportInfo =>
      simp [shown, broadcasts, Game.toTeams, Game.machineReportInfo_eq, hgame]
  | netBroadcastMachineInfo | netSendOrderInfo =>
      simp [step, netBroadcastMachineInfo, netSendOrderInfo, hphase] at hstep
  | _ => rfl

variable {n m : NetGame} {tr tr' : List (Step NetGame NetGameEvent)}

/-- What the steps of a run show, newest first. -/
def allShown (tr : List (Step NetGame NetGameEvent)) : List (List (Group × NetMsg)) :=
  tr.map fun t => t.pre.shown t.label

/-- What is drawn is a field. -/
def DrawsFields (tr : List (Step NetGame NetGameEvent)) : Prop := ∀ t ∈ tr, t.label.DrawsField

/-- No step of the run starts in production. -/
def NotInProduction (tr : List (Step NetGame NetGameEvent)) : Prop :=
  ∀ t ∈ tr, t.pre.game.gamestate.phase ≠ .production

theorem quiet_run (hrun : NetGameRun startup tr n) (hdraws : DrawsFields tr)
    (hphase : NotInProduction tr) : Run QuietStep startup tr n := by
  have hfield : ∀ n e n', Field n →
      n.game.gamestate.phase ≠ .production ∧ NetGameEvent.DrawsField e → n.step e = some n' →
        Field n' := by
    rintro n e n' hfield ⟨hphase, he⟩ hs
    exact (quietStep_spec ⟨hs, hfield, hphase, he⟩).1
  exact Run.restrict field_startup hfield hrun fun t ht => ⟨hphase t ht, hdraws t ht⟩

/-- The phases are in the view. -/
theorem notInProduction_of_labels (hrun : NetGameRun startup tr n) (hrun' : NetGameRun startup tr' m)
    (hlabels : (tr.map fun t => t.label.hideDraws) = tr'.map fun t => t.label.hideDraws)
    (hphase : NotInProduction tr) : NotInProduction tr' := by
  have hphase_eq : ∀ {n m : NetGame} {e f : NetGameEvent}, True → True → n.view = m.view →
      e.hideDraws = f.hideDraws → n.game.gamestate.phase = m.game.gamestate.phase :=
    fun _ _ hview _ => congrArg (fun v : NetView => v.gamestate.phase) hview
  have hphases := views.outputs_eq (P := fun _ _ => True) hphase_eq rfl hrun hrun' hlabels
    (fun _ _ => trivial) fun _ _ => trivial
  intro t ht
  obtain ⟨u, hu, heq⟩ := List.mem_map.mp (hphases ▸ List.mem_map_of_mem ht)
  rw [← heq]
  exact hphase u hu

/-- The machines of the deffacts, with the types of two places exchanged, and the teams at a third. -/
def drawnMachines (a b : MachineName) (name : MachineName) : Machine :=
  let place := Equiv.swap a b
    (Equiv.swap (machineMagentaForCyanField a) (machineMagentaForCyanField b) name)
  { startup.game.machines name with
    mtype := startupType place, team := startupTeam (Equiv.swap .m5 .m17 name) }

/-- Each type has another light code. -/
def drawnLightCodes : LightCodes
  | .t1 => 7
  | .t2 => 3
  | .t3 => 1
  | .t4 => 6
  | .t5 => 2
  | .deliver | .recycle => 0

/-- A game in which the machines are drawn, up to an ExplorationInfo. -/
def drawnGame (machines : MachineName → Machine) : List NetGameEvent :=
  ([.simInit false false, .initGame ⟨1, 0⟩, .setGameState .running, .gameStart ⟨2, 0⟩,
      .gameParameterize machines [] [], .setGamePhase .exploration, .explorationStart,
      .time ⟨5, 0⟩, .explorationHandleReport .cyan [(.m1, "T1")], .gameUpdateGametimePoints].map
    fun e => .game e drawnLightCodes) ++
  [.explorationSendExplorationInfo, .explorationSendMachineReportInfo, .netSendGameState]

/-- The run of such a game, in which a report scores so many points. -/
theorem run_drawnGame (points : Int) (machines : MachineName → Machine)
    (hfield : ∀ name, OnField name (machines name))
    (hrun : (trace step startup (drawnGame machines)).any (fun r =>
      decide ((∀ t ∈ r.1, t.pre.game.gamestate.phase ≠ .production) ∧
        r.2.game.points.map Points.points = [points])) = true) :
    ∃ tr n, NetGameRun startup tr n ∧ tr.map Step.label = (drawnGame machines).reverse ∧
      DrawsFields tr ∧ NotInProduction tr ∧ n.game.points.map Points.points = [points] := by
  obtain ⟨⟨tr, n⟩, htrace, hr⟩ := (Option.any_eq_true _ _).mp hrun
  obtain ⟨hphase, hpoints⟩ := of_decide_eq_true hr
  have hlabels : tr.map Step.label = (drawnGame machines).reverse := labels_of_trace htrace
  refine ⟨tr, n, run_of_trace htrace, hlabels, ?_, hphase, hpoints⟩
  intro t ht
  have hmem : t.label ∈ (drawnGame machines).reverse := hlabels ▸ List.mem_map_of_mem ht
  have hdrawn : ∀ e ∈ drawnGame machines, e.DrawsField := by
    have hcodes : ∀ type, drawnLightCodes type = 0 ↔ startupLightCodes type = 0 := by
      intro type
      cases type <;> decide
    simp [drawnGame, NetGameEvent.DrawsField, hfield, hcodes]
  exact hdrawn _ (List.mem_reverse.mp hmem)

end NetGame

/-! ## Orders -/

namespace NetGameEvent

/-- The orders are drawn, or those of the deffacts are back. -/
def drawsOrders : NetGameEvent → Bool
  | .game (.gameParameterize _ _ _) _ | .game .resetGame _ => true
  | _ => false

end NetGameEvent

namespace NetGame

variable {n n' : NetGame} {e : NetGameEvent} {tr : List (Step NetGame NetGameEvent)}

/-- The orders are those that `game-parameterize` makes of the orders before, whatever the draws. -/
def ParameterizesOrders (n : NetGame) : NetGameEvent → Prop
  | .game e _ => n.game.ParameterizesOrders e
  | _ => True

/-- The same with these draws. -/
def ParameterizesBy (procTime : MType → Int) (draws : Int → OrderDraw) (n : NetGame) :
    NetGameEvent → Prop
  | .game e _ => Game.ParameterizesBy procTime draws n.game e
  | _ => True

instance (procTime : MType → Int) (draws : Int → OrderDraw) (n : NetGame) (e : NetGameEvent) :
    Decidable (ParameterizesBy procTime draws n e) := by
  unfold ParameterizesBy
  split <;> infer_instance

theorem ParameterizesBy.parameterizesOrders {procTime : MType → Int} {draws : Int → OrderDraw}
    (h : ParameterizesBy procTime draws n e) : n.ParameterizesOrders e := by
  cases e with
  | game a lightCodes => exact ⟨procTime, draws, h⟩
  | _ => trivial

/-- The steps since the orders were last drawn. -/
def sinceDrawn : List (Step NetGame NetGameEvent) → List (Step NetGame NetGameEvent)
  | [] => []
  | t :: tr => if t.label.drawsOrders then [] else t :: sinceDrawn tr

/-- The step activates the order with this id, at its time. -/
def Activates (id : Int) (t : Step NetGame NetGameEvent) : Prop :=
  ∃ o lightCodes, t.label = .game (.production (.activateOrder o)) lightCodes ∧ o.id = id ∧
    o.activateAt ≤ t.pre.game.gamestate.gameTime

/-- The order with this id has been activated. -/
def Activated (tr : List (Step NetGame NetGameEvent)) (id : Int) : Prop :=
  ∃ t ∈ sinceDrawn tr, Activates id t

/-- The active orders are those that have been activated. -/
structure ActiveKnown (tr : List (Step NetGame NetGameEvent)) (n : NetGame) : Prop where
  nodup : (n.game.orders.map Order.id).Nodup
  active_iff : ∀ o ∈ n.game.orders, o.active = true ↔ Activated tr o.id

theorem activated_of_draws {id : Int} (he : e.drawsOrders = true) :
    ¬ Activated (⟨n, e, n'⟩ :: tr) id := by
  simp [Activated, sinceDrawn, he]

theorem activated_cons {id : Int} (he : e.drawsOrders = false) :
    Activated (⟨n, e, n'⟩ :: tr) id ↔ Activates id ⟨n, e, n'⟩ ∨ Activated tr id := by
  simp [Activated, sinceDrawn, he]

/-- The orders are new. -/
theorem ActiveKnown.drawn (he : e.drawsOrders = true)
    (hnodup : (n'.game.orders.map Order.id).Nodup)
    (hinactive : ∀ o ∈ n'.game.orders, o.active = false) :
    ActiveKnown (⟨n, e, n'⟩ :: tr) n' where
  nodup := hnodup
  active_iff o ho := by simp [hinactive o ho, activated_of_draws he]

/-- The orders are as before. -/
theorem ActiveKnown.kept (h : ActiveKnown tr n) (he : e.drawsOrders = false)
    (hother : ∀ id, ¬ Activates id ⟨n, e, n'⟩) (horders : n'.game.orders = n.game.orders) :
    ActiveKnown (⟨n, e, n'⟩ :: tr) n' where
  nodup := horders ▸ h.nodup
  active_iff o ho := by
    rw [activated_cons he, h.active_iff o (horders ▸ ho)]
    simp [hother]

/-- One order is modified, and keeps its id. -/
theorem ActiveKnown.modified {old new : Order} (h : ActiveKnown tr n)
    (he : e.drawsOrders = false) (hold : old ∈ n.game.orders)
    (horders : n'.game.orders = (n.game.toMemory.modifyOrder old new).orders)
    (hid : new.id = old.id)
    (hnew : new.active = true ↔ Activates old.id ⟨n, e, n'⟩ ∨ old.active = true)
    (hother : ∀ id, id ≠ old.id → ¬ Activates id ⟨n, e, n'⟩) :
    ActiveKnown (⟨n, e, n'⟩ :: tr) n' where
  nodup := horders ▸ Memory.nodup_modifyOrder h.nodup hold hid
  active_iff o ho := by
    rw [activated_cons he]
    rcases Memory.mem_modifyOrder.mp (horders ▸ ho) with rfl | ⟨ho, hne⟩
    · rw [hnew, hid, h.active_iff old hold]
    · have hids : o.id ≠ old.id := fun heq => hne (Order.eq_of_id h.nodup ho hold heq)
      rw [h.active_iff o ho]
      simp [hother o.id hids]

theorem startup_inactive : ∀ o ∈ Game.startup.orders, o.active = false := by decide

theorem activeKnown_startup : ActiveKnown [] startup where
  nodup := by decide
  active_iff o ho := by simp [startup_inactive o ho, Activated, sinceDrawn]

theorem ActiveKnown.production {a : Activation} {drawn : LightCodes} (h : ActiveKnown tr n)
    (ha : a.isOrderRule = true) (hs : n.step (.game (.production a) drawn) = some n') :
    ActiveKnown (⟨n, .game (.production a) drawn, n'⟩ :: tr) n' := by
  obtain ⟨g', hgame, rfl⟩ := Option.map_eq_some_iff.mp hs
  obtain ⟨-, hmap⟩ := Option.ite_none_left_eq_some.mp hgame
  obtain ⟨memory, hstep, rfl⟩ := Option.map_eq_some_iff.mp hmap
  cases a with
  | activateOrder o =>
      obtain ⟨ho, horders, -⟩ := Memory.activateOrder_spec hstep
      obtain ⟨⟨-, -, -, htime⟩, -⟩ := Option.ite_none_right_eq_some.mp hstep
      refine h.modified rfl ho horders rfl ?_ ?_
      · exact iff_of_true rfl (.inl ⟨o, drawn, rfl, rfl, htime⟩)
      · rintro id hid ⟨o', lightCodes, hlabel, rfl, -⟩
        cases hlabel
        exact hid rfl
  | orderDeliveredInTime pd o =>
      obtain ⟨-, ho, horders, -, -⟩ := Memory.orderDeliveredInTime_spec hstep
      refine h.modified rfl ho horders rfl ?_ ?_
      · simp [Activates]
      · simp [Activates]
  | orderDeliveredOutOfTime pd =>
      exact h.kept rfl (by simp [Activates]) (Memory.orderDeliveredOutOfTime_spec hstep).2.1
  | deliverProcDone m =>
      exact h.kept rfl (by simp [Activates]) (Memory.deliverProcDone_spec hstep).1
  | _ => cases ha

theorem ActiveKnown.game {a : Event} {drawn : LightCodes} (h : ActiveKnown tr n)
    (hdraws : n.game.ParameterizesOrders a) (hs : n.step (.game a drawn) = some n') :
    ActiveKnown (⟨n, .game a drawn, n'⟩ :: tr) n' := by
  obtain ⟨g', hgame, rfl⟩ := Option.map_eq_some_iff.mp hs
  by_cases horder : a.isOrderEvent = true
  · cases a with
    | production a => exact h.production horder hs
    | gameParameterize machines drawn deliveryPeriods =>
        obtain ⟨-, hgame⟩ := Option.ite_none_right_eq_some.mp hgame
        cases hgame
        exact ActiveKnown.drawn rfl (hdraws.drawsOrders h.nodup).1 hdraws.inactive
    | resetGame =>
        obtain ⟨-, hgame⟩ := Option.ite_none_right_eq_some.mp hgame
        cases hgame
        exact ActiveKnown.drawn rfl activeKnown_startup.nodup startup_inactive
    | _ => cases horder
  · rw [Bool.not_eq_true] at horder
    obtain ⟨horders, -, -⟩ := Game.step_ordersKept horder hgame
    cases a with
    | production a =>
        refine h.kept rfl ?_ horders
        rintro id ⟨o, lightCodes, hlabel, -⟩
        cases hlabel
        cases horder
    | gameParameterize | resetGame => cases horder
    | _ => exact h.kept rfl (by simp [Activates]) horders

theorem ActiveKnown.step (h : ActiveKnown tr n) (hdraws : n.ParameterizesOrders e)
    (hs : n.step e = some n') : ActiveKnown (⟨n, e, n'⟩ :: tr) n' := by
  rcases game_of_step hs with ⟨a, lightCodes, rfl, -⟩ | ⟨hne, hgame, -⟩
  · exact h.game hdraws hs
  · cases e with
    | game a lightCodes => exact absurd rfl (hne a lightCodes)
    | _ => exact h.kept rfl (by simp [Activates]) (by rw [hgame])

/-- Who gets the OrderInfo of a team, or of all teams. -/
def orderInfoGroup : Option Team → Group
  | none => .clients
  | some team => .team team

/-- The orders of an OrderInfo, by the ids. -/
theorem mem_orderInfo_iff {g : Game} {p : Order → Prop} [DecidablePred p] {o : Order}
    (hnodup : (g.orders.map Order.id).Nodup) (ho : o ∈ g.orders) :
    Game.netCreateOrder o ∈ (g.orders.filter p).map Game.netCreateOrder ↔ p o := by
  constructor
  · intro hmem
    obtain ⟨o', ho', heq⟩ := List.mem_map.mp hmem
    obtain ⟨hmem', htold⟩ := List.mem_filter.mp ho'
    rw [← Order.eq_of_id hnodup hmem' ho (congrArg OrderMsg.id heq)]
    exact of_decide_eq_true htold
  · intro htold
    exact List.mem_map_of_mem (List.mem_filter.mpr ⟨ho, decide_eq_true htold⟩)

/-- Where an OrderInfo comes from. -/
theorem of_orderInfo_mem {group : Group} {teamColor : Option Team} {orders : List OrderMsg}
    (h : (group, .orderInfo teamColor orders) ∈ n.broadcasts e) :
    e = .netSendOrderInfo ∧ group = orderInfoGroup teamColor ∧
      n.game.netCreateOrderInfo teamColor = .orderInfo teamColor orders := by
  cases e with
  | netSendOrderInfo =>
      simp only [broadcasts, Game.toTeams, Game.netCreateOrderInfo, List.mem_cons,
        List.not_mem_nil, or_false, Prod.mk.injEq, NetMsg.orderInfo.injEq] at h
      rcases h with ⟨rfl, rfl, rfl⟩ | ⟨rfl, rfl, rfl⟩ | ⟨rfl, rfl, rfl⟩ <;> exact ⟨rfl, rfl, rfl⟩
  | _ =>
      simp [broadcasts, Game.toTeams, Game.netCreateGameState, Game.machineReportInfo,
        Game.netCreateBroadcastMachineInfo] at h

/-- **A team is told of its own orders**, once they have been activated: an OrderInfo is sent in
production. That of a team goes to the team's peer, that of all teams to the clients, and its orders are
those of the team or of all that were activated since they were drawn, as they are. -/
theorem orders_told (hrun : NetGameRun startup tr n)
    (hdraws : ∀ t ∈ tr, t.pre.ParameterizesOrders t.label) :
    AllSteps (fun t earlier => ∀ group teamColor orders,
      (group, .orderInfo teamColor orders) ∈ t.pre.broadcasts t.label →
        t.pre.game.gamestate.phase = .production ∧ group = orderInfoGroup teamColor ∧
        (∀ order ∈ orders, ∃ o ∈ t.pre.game.orders, order = Game.netCreateOrder o) ∧
        ∀ o ∈ t.pre.game.orders, Game.netCreateOrder o ∈ orders ↔
          (∀ team ∈ teamColor, o.team = team) ∧ Activated earlier o.id) tr := by
  rw [allSteps_iff]
  rintro later ⟨pre, label, post⟩ earlier rfl group teamColor orders hmem
  obtain ⟨hearlier, hstep⟩ := hrun.split
  have hknown : ActiveKnown earlier pre := by
    apply Run.history_invariant_of (C := ParameterizesOrders) ?_ ?_
      hearlier (fun t ht => hdraws t (List.mem_append_right _ (List.mem_cons_of_mem _ ht)))
    · exact activeKnown_startup
    · exact fun tr n e n' h hdraws hs => h.step hdraws hs
  obtain ⟨rfl, hgroup, hinfo⟩ := of_orderInfo_mem hmem
  obtain ⟨-, rfl⟩ := NetMsg.orderInfo.inj hinfo
  refine ⟨(Option.ite_none_right_eq_some.mp hstep).1, hgroup, ?_, ?_⟩
  · intro order horder
    obtain ⟨o, ho, rfl⟩ := List.mem_map.mp horder
    refine ⟨o, ?_, rfl⟩
    cases teamColor with
    | some team => exact (List.mem_filter.mp ho).1
    | none => exact (List.mem_filter.mp ho).1
  · intro o ho
    cases teamColor with
    | some team =>
        rw [mem_orderInfo_iff hknown.nodup ho, hknown.active_iff o ho, and_comm]
        simp
    | none =>
        rw [mem_orderInfo_iff hknown.nodup ho, hknown.active_iff o ho]
        simp

/-- The draws of the times: 100 for each id, and 600 for the last order. -/
def drawnTimes (id : Int) : OrderDraw where
  deliverStart := if id = 5 then 600 else 100 * id
  duration := 100
  activationPreTime := 60

/-- The operator starts the production phase, and an order of CYAN is activated. -/
def activatedGame : List Event :=
  [.initGame ⟨100, 0⟩, .simInit false false, .gameSwitchToPreGame, .setGamePhase .production,
    .gameParameterize Llsf.startup.machines Game.drawnOrders [], .productionStart,
    .setGameState .running, .time ⟨390, 0⟩, .gameUpdateGametimePoints,
    .production (.activateOrder { Game.order3 with active := false })]

/-- A run after which the team and the clients are told of the order. -/
theorem orders_told_of_activated :
    ∃ tr n n', NetGameRun startup tr n ∧ n.step .netSendOrderInfo = some n' ∧
      Game.order3 ∈ n.game.orders ∧ Activated tr Game.order3.id := by
  have hrun : (trace step startup (activatedGame.map (.game · startupLightCodes))).any (fun r =>
      decide ((∀ t ∈ r.1, ParameterizesBy Llsf.startup.procTime drawnTimes t.pre t.label) ∧
        Game.order3 ∈ r.2.game.orders ∧ (r.2.step .netSendOrderInfo).isSome = true)) = true := by
    decide +kernel
  obtain ⟨⟨tr, n⟩, htrace, hr⟩ := (Option.any_eq_true _ _).mp hrun
  obtain ⟨hdraws, ho, hsome⟩ := of_decide_eq_true hr
  obtain ⟨n', hstep⟩ := Option.isSome_iff_exists.mp hsome
  have hrun := run_of_trace htrace
  refine ⟨tr, n, n', hrun, hstep, ho, ?_⟩
  have hparameterizes : ∀ t ∈ ⟨n, .netSendOrderInfo, n'⟩ :: tr, t.pre.ParameterizesOrders t.label :=
    List.forall_mem_cons.mpr ⟨trivial, fun t ht => (hdraws t ht).parameterizesOrders⟩
  obtain ⟨htold, -⟩ := orders_told (hrun.step hstep) hparameterizes
  obtain ⟨-, -, -, hmem⟩ := htold .clients none _ List.mem_cons_self
  exact ((hmem _ ho).mp (List.mem_map_of_mem (List.mem_filter.mpr ⟨ho, by decide⟩))).2

end NetGame

end FactoryHub.Llsf
