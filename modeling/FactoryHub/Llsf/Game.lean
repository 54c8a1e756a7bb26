import FactoryHub.Llsf.Production

/-!
# The game

The rules of `llsf/clips/` that change the gamestate or the points facts: `game.clp`, the starts and
pauses of the phases, the technical challenges of `challenges.clp`, the reports of
`exploration.clp`, the operator's load updates and the messages SetGameState, SetGamePhase and
SetTeamName of `net.clp`, with the production phase as a part. As there, any enabled rule may fire
next. Lights, attention messages, signals and printouts are left out.
-/

namespace FactoryHub.Llsf

open Clips Lib

/-- `sim-time`. -/
structure SimTime where
  enabled : Bool := false
  estimate : Bool := false
  now : Time := ⟨0, 0⟩
  lastRecvTime : Time := ⟨0, 0⟩
  realTimeFactor : ℚ := 0
  deriving DecidableEq, Repr

/-- `get-time`. -/
def getTime (st : SimTime) (realTime : Time) : Time :=
  if st.enabled = false then realTime
  else if st.estimate = false then st.now
  else
    let interval := realTime.diffSec st.lastRecvTime
    st.now.add (.fromSec (interval * st.realTimeFactor))

/-! ## Globals -/

/-- `SETUP-TIME`. -/
def setupTime : ℚ := 300
/-- `EXPLORATION-TIME`. -/
def explorationTime : ℚ := 240
/-- `PRODUCTION-TIME`. -/
def productionTime : ℚ := 900
/-- `PRODUCTION-OVERTIME`. -/
def productionOvertime : ℚ := 300
/-- `TECHCHALL-WAM-TIME`. -/
def techchallWamTime : ℚ := 300
/-- `TECHCHALL-NAVIGATION-TIME`. -/
def techchallNavigationTime : ℚ := 60
/-- `EXPLORATION-CORRECT-REPORT-POINTS`. -/
def explorationCorrectReportPoints : Int := 4
/-- `EXPLORATION-WRONG-REPORT-POINTS`. -/
def explorationWrongReportPoints : Int := -3
/-- `EXPLORATION-INVALID-REPORT-POINTS`. -/
def explorationInvalidReportPoints : Int := -3
/-- `TECHCHALL-WAM-MACHINES`. -/
def techchallWamMachines : List MachineName := [.m1, .m2, .m3, .m4, .m5, .m6, .m7, .m8, .m9, .m10]

/-- The symbol of a machine type. -/
def MType.symbol : MType → String
  | .t1 => "T1"
  | .t2 => "T2"
  | .t3 => "T3"
  | .t4 => "T4"
  | .t5 => "T5"
  | .deliver => "DELIVER"
  | .recycle => "RECYCLE"

/-! ## State -/

/-- `exploration-report`. -/
structure ExplorationReport where
  name : MachineName
  team : Team
  type : String
  gameTime : ℚ
  deriving DecidableEq, Repr

/-- The machines an exploration report may name. -/
def ExplorationReport.names : List MachineName :=
  [.m1, .m2, .m3, .m4, .m5, .m6, .m7, .m8, .m9, .m10, .m11, .m12,
    .m13, .m14, .m15, .m16, .m17, .m18, .m19, .m20, .m21, .m22, .m23, .m24]

/-- All facts of a game. There is no `sim-time` fact before `sim-init`, no `time` fact between two
runs of the agenda, and a `whacAMoleLight` of `none` is NONE. `otherMachines` are the machine facts
beside those of `machines`: a load update can leave two of one name. -/
structure Game extends Memory where
  time : Option Time := none
  simTime : Option SimTime := none
  parameterized : Bool := false
  explorationReports : List ExplorationReport := []
  machineUpdates : List (MachineName × List Int) := []
  otherMachines : List (MachineName × Machine) := []
  whacAMoleLight : Option MachineName := none

/-- The facts after `(reset)`. -/
def Game.startup : Game := { Llsf.startup with }

/-! ## Points -/

/-- The allowed values of the slot `phase` of `points`. -/
def PointsPhase.all : List PointsPhase := [.exploration, .production, .whackAMoleChallenge]

/-- `game-calc-phase-points`. -/
def gameCalcPhasePoints (points : List Points) (team : Team) (phase : PointsPhase) : Int :=
  ((points.filter (fun p => p.phase = phase ∧ p.team = team)).map Points.points).sum

/-- `game-calc-points`. -/
def gameCalcPoints (points : List Points) (team : Team) : Int :=
  (PointsPhase.all.map (fun phase => max (gameCalcPhasePoints points team phase) 0)).sum

/-- What happens next: something from outside, or the firing of a rule. A rule that reads the
clock by `(now)` carries the time it reads. -/
inductive Event where
  /-- The timer asserts a time. -/
  | time (now : Time)
  | retractTime
  | simInit (enabled estimate : Bool)
  | simTimeSync (sec nsec : Int) (realTimeFactor : ℚ)
  | setGameState (state : GameStateName)
  | setGamePhase (phase : Phase)
  | setTeamName (team : Team) (name : String)
  /-- A MachineReport, with the machines it names and their types. -/
  | explorationHandleReport (team : Team) (machines : List (MachineName × String))
  | loadPuckInMachine (machine : MachineName) (puckId : Int)
  | removePuckFromMachine (machine : MachineName) (puckId : Int)
  /-- What `game-parameterize` draws at random. -/
  | gameParameterize (machines : MachineName → Machine) (orders : List Order)
      (deliveryPeriods : List DeliveryPeriod)
  | production (a : Activation)
  /-- The rules that follow match another machine fact of this name. -/
  | turnTo (machine : MachineName) (fact : Machine)
  | machineUpdateLoadedWith (machine : MachineName) (newLoadedWith : List Int)
  | machineUpdateIgnored (machine : MachineName) (newLoadedWith : List Int)
  | gameUpdateGametimePoints
  | gameUpdateLastTime
  | gameSwitchToPreGame
  | gameStartTraining (now : Time)
  | gameStart (now : Time)
  | gameSwitchToExploration
  | gameSwitchToProduction
  | gameOver (now : Time)
  | gameEnterOvertime
  | gameOverAfterOvertime (now : Time)
  | gameGotoPostGame
  | explorationStart
  | explorationPause
  | explorationContinue
  | productionStart
  | techalWamNext (newMachine : MachineName)
  | techalWamDeactivate (machine : MachineName)
  | techalWamActivate (machine : MachineName)
  | techalWamContinue
  | techalWamReached (machine : MachineName)
  | techalWamGameOver (now : Time)
  | techalNavigationGameOver (now : Time)
  | initGame (now : Time)
  | resetGame

namespace Game

variable (g : Game)

/-- `modify` of the gamestate. -/
def setGamestate (gamestate : GameState) : Game := { g with gamestate }

/-- `game-calc-points` of both teams. -/
def totals : Int × Int := (gameCalcPoints g.points .cyan, gameCalcPoints g.points .magenta)

/-- The operator's SetTeamName. -/
def setTeamName (team : Team) (name : String) : Game :=
  let teams := g.gamestate.teams
  g.setGamestate { g.gamestate with
    teams := match team with
      | .cyan => (name, teams.2)
      | .magenta => (teams.1, name) }

/-! ## `simulation.clp` -/

/-- Rule `sim-init`. -/
def simInit (enabled estimate : Bool) : Option Game :=
  match g.simTime with
  | none => some { g with simTime := some { enabled, estimate } }
  | some _ => none

/-- Rule `sim-net-recv-SimTimeSync`. -/
def simTimeSync (sec nsec : Int) (realTimeFactor : ℚ) : Option Game :=
  match g.simTime, g.time with
  | some st, some now =>
      if st.enabled then
        let newSimTime : Time := ⟨sec, nsec / 1000⟩
        let newSimTime := if st.estimate then newSimTime.max (getTime st now) else newSimTime
        some { g with
          simTime := some { st with now := newSimTime, lastRecvTime := now, realTimeFactor } }
      else none
  | _, _ => none

/-! ## The clock of the game -/

/-- The phases in which the game time runs. -/
def Timed (phase : Phase) : Prop :=
  phase = .setup ∨ phase = .exploration ∨ phase = .production ∨ phase = .whackAMoleChallenge ∨
    phase = .navigationChallenge

instance (phase : Phase) : Decidable (Timed phase) := by
  unfold Timed
  infer_instance

/-- The gamestate has not seen this time yet, nor that of the simulation. -/
def NewTime (st : SimTime) (now : Time) : Prop :=
  g.gamestate.lastTime ≠ now ∧ (st.enabled = false ∨ g.gamestate.lastTime ≠ st.now)

instance (st : SimTime) (now : Time) : Decidable (g.NewTime st now) := by
  unfold NewTime
  infer_instance

/-- Rule `game-update-gametime-points`. -/
def gameUpdateGametimePoints : Option Game :=
  match g.time, g.simTime with
  | some now, some st =>
      if Timed g.gamestate.phase ∧ g.gamestate.state = .running ∧ g.NewTime st now then
        let now := getTime st now
        let timediff := now.diffSec g.gamestate.lastTime
        some (g.setGamestate { g.gamestate with
          gameTime := g.gamestate.gameTime + timediff
          contTime := g.gamestate.contTime + timediff
          lastTime := now
          -- what is awarded after this rule waits for the next time
          points := g.totals })
      else none
  | _, _ => none

/-- Rule `game-update-last-time`. -/
def gameUpdateLastTime : Option Game :=
  match g.time, g.simTime with
  | some now, some st =>
      if (¬ Timed g.gamestate.phase ∨ g.gamestate.state ≠ .running) ∧ g.NewTime st now then
        some (g.setGamestate { g.gamestate with lastTime := getTime st now })
      else none
  | _, _ => none

/-! ## Phases -/

/-- Rule `game-switch-to-pre-game`. -/
def gameSwitchToPreGame : Option Game :=
  if g.gamestate.phase = .preGame ∧ g.gamestate.prevPhase ≠ some .preGame then
    some (g.setGamestate { g.gamestate with
      prevPhase := some .preGame, gameTime := 0, state := .waitStart })
  else none

/-- Rule `game-start-training`. -/
def gameStartTraining (now : Time) : Option Game :=
  if g.gamestate.teams = ("", "") ∧ g.gamestate.phase = .preGame ∧
      g.gamestate.state = .running then
    some (g.setGamestate { g.gamestate with
      phase := .exploration, prevPhase := some .preGame, gameTime := 0, startTime := now })
  else none

/-- Rule `game-start`. It does not ask for team names. -/
def gameStart (now : Time) : Option Game :=
  if g.gamestate.phase = .preGame ∧ g.gamestate.state = .running then
    some (g.setGamestate { g.gamestate with
      phase := .setup, prevPhase := some .preGame, startTime := now })
  else none

/-- The rules that end a phase whose time is over by the next phase. -/
def switchPhase (phase next : Phase) (phaseTime : ℚ) : Option Game :=
  if g.gamestate.phase = phase ∧ g.gamestate.state = .running ∧
      g.gamestate.gameTime ≥ phaseTime then
    some (g.setGamestate { g.gamestate with
      phase := next, prevPhase := some phase, gameTime := 0 })
  else none

def gameSwitchToExploration : Option Game := g.switchPhase .setup .exploration setupTime

def gameSwitchToProduction : Option Game := g.switchPhase .exploration .production explorationTime

/-- The action of the rules that end the game. -/
def toPostGame (now : Time) : Game :=
  g.setGamestate { g.gamestate with
    phase := .postGame, prevPhase := some g.gamestate.phase, state := .paused, endTime := now }

/-- Rule `game-over`. -/
def gameOver (now : Time) : Option Game :=
  if g.Producing ∧ g.gamestate.overTime = false ∧
      g.gamestate.points.1 ≠ g.gamestate.points.2 ∧ g.gamestate.gameTime ≥ productionTime then
    some (g.toPostGame now)
  else none

/-- Rule `game-enter-overtime`. -/
def gameEnterOvertime : Option Game :=
  if g.Producing ∧ g.gamestate.overTime = false ∧
      g.gamestate.points.1 = g.gamestate.points.2 ∧ g.gamestate.gameTime ≥ productionTime then
    some (g.setGamestate { g.gamestate with overTime := true })
  else none

/-- Rule `game-over-after-overtime`. -/
def gameOverAfterOvertime (now : Time) : Option Game :=
  if g.Producing ∧ g.gamestate.overTime = true ∧
      g.gamestate.gameTime ≥ productionTime + productionOvertime then
    some (g.toPostGame now)
  else none

/-- Rule `game-goto-post-game`. -/
def gameGotoPostGame : Option Game :=
  if g.gamestate.phase = .postGame ∧ g.gamestate.prevPhase ≠ some .postGame then
    some (g.setGamestate { g.gamestate with prevPhase := some .postGame })
  else none

/-- Rule `exploration-start`. -/
def explorationStart : Option Game :=
  if g.gamestate.phase = .exploration ∧ g.gamestate.prevPhase ≠ some .exploration then
    some { g.setGamestate { g.gamestate with prevPhase := some .exploration, gameTime := 0 } with
      explorationReports := [] }
  else none

/-- The rules `exploration-pause` and `exploration-continue`. -/
def explorationSeen (state : GameStateName) : Option Game :=
  if g.gamestate.phase = .exploration ∧ g.gamestate.state = state ∧
      g.gamestate.prevState ≠ state then
    some (g.setGamestate { g.gamestate with prevState := state })
  else none

def explorationPause : Option Game := g.explorationSeen .paused

def explorationContinue : Option Game := g.explorationSeen .running

/-- Rule `production-start`. -/
def productionStart : Option Game :=
  if g.gamestate.phase = .production ∧ g.gamestate.prevPhase ≠ some .production then
    some (g.setGamestate { g.gamestate with prevPhase := some .production, gameTime := 0 })
  else none

/-- Rule `game-parameterize`, whatever it draws. -/
def gameParameterize (machines : MachineName → Machine) (orders : List Order)
    (deliveryPeriods : List DeliveryPeriod) : Option Game :=
  if g.gamestate.phase ∈ [.setup, .exploration, .production] ∧
      g.gamestate.prevPhase = some .preGame ∧ g.parameterized = false then
    some { g with machines, orders, deliveryPeriods, parameterized := true }
  else none

/-- Rule `init-game`. -/
def initGame (now : Time) : Option Game :=
  if g.gamestate.state = .init then
    some (g.setGamestate { g.gamestate with state := .waitStart, lastTime := now })
  else none

/-- Rule `reset-game`. -/
def resetGame : Option Game :=
  if g.gamestate.state = .init ∧ g.gamestate.prevState ≠ .init then
    some startup
  else none

/-! ## Exploration reports -/

/-- The points, the reason and the type noted for a report. -/
def reportPoints (team : Team) (name : MachineName) (type : String) : Int × Reason × String :=
  let machine := g.machines name
  if machine.team ≠ team then
    (explorationInvalidReportPoints, .reportForOtherTeam name type, "WRONG")
  else if machine.mtype.symbol = type then
    (explorationCorrectReportPoints, .correctReport name type, type)
  else (explorationWrongReportPoints, .wrongReport name type, "WRONG")

/-- The loop body of `exploration-handle-report`. A machine counts once for each team. -/
def handleReport (team : Team) (g : Game) (report : MachineName × String) : Game :=
  let (name, type) := report
  if name ∈ ExplorationReport.names ∧
      ¬ ∃ r ∈ g.explorationReports, r.name = name ∧ r.team = team then
    let (points, reason, noted) := g.reportPoints team name type
    let gameTime := g.gamestate.gameTime
    { g with
      points := assertFact { points, phase := .exploration, team, gameTime, reason } g.points
      explorationReports := g.explorationReports ++ [⟨name, team, noted, gameTime⟩] }
  else g

/-- Rule `exploration-handle-report`. -/
def explorationHandleReport (team : Team) (machines : List (MachineName × String)) :
    Option Game :=
  if g.gamestate.phase = .exploration then some (machines.foldl (handleReport team) g) else none

/-! ## Load updates of the operator -/

/-- Rule `prod-net-recv-LoadPuckInMachine`. -/
def loadPuckInMachine (m : MachineName) (id : Int) : Option Game :=
  let mf := g.machines m
  if g.gamestate.phase = .production then
    if id ∉ mf.loadedWith then
      some { g with machineUpdates := assertFact (m, mf.loadedWith ++ [id]) g.machineUpdates }
    else some g
  else none

/-- Rule `prod-net-recv-RemovePuckFromMachine`. -/
def removePuckFromMachine (m : MachineName) (id : Int) : Option Game :=
  let mf := g.machines m
  if g.gamestate.phase = .production then
    if mf.puckId = id then
      -- the puck is under the reader
      some { g with
        rfidInputs := assertFact ⟨m, false, 0⟩ (g.rfidInputs.filter (fun input => input.id ≠ id)) }
    else if id ∈ mf.loadedWith then
      -- the update of the machine follows by `machine-update-loaded-with`
      some { g with
        toMemory := g.setPuckStates [id] .consumed
        machineUpdates := assertFact (m, mf.loadedWith.filter (· ≠ id)) g.machineUpdates }
    else some g
  else none

/-- The actions of `machine-update-loaded-with` on a machine of this specification. -/
def updateLoadedWith (m : MachineName) (newLw : List Int) (spec : MachineSpec) : Game :=
  let mf := g.machines m
  if newLw.length = spec.inputs.length then
    -- production at this machine is complete; the points go to the default team
    let s := g.setMachine m
      { mf with state := .idle, loadedWith := [], productions := mf.productions + 1 }
    let s := s.award
      { points := spec.points, gameTime := g.gamestate.gameTime, phase := .production
        reason := .productionStep m mf.mtype }
    let s := s.setPuckStates (newLw.filter (· ∈ mf.loadedWith)) .consumed
    { g with
      toMemory := s.setPuckStates (newLw.filter (· ∉ mf.loadedWith)) spec.output
      -- the `modify` to WAITING is not in an else branch: it retracts nothing, the fact it is
      -- given being retracted, and asserts a second fact with the slots of the old one
      otherMachines :=
        assertFact (m, { mf with state := .waiting, loadedWith := newLw }) g.otherMachines }
  else if newLw = [] then
    { g with toMemory := g.setMachine m { mf with state := .idle, loadedWith := [] } }
  else
    { g with toMemory := g.setMachine m { mf with state := .waiting, loadedWith := newLw } }

/-- Rule `machine-update-loaded-with`. -/
def machineUpdateLoadedWith (m : MachineName) (newLw : List Int) : Option Game :=
  match machineSpec g.procTime (g.machines m).mtype with
  | some spec =>
      if g.gamestate.phase = .production ∧ (m, newLw) ∈ g.machineUpdates ∧
          spec.inputs.length > 0 then
        some { g.updateLoadedWith m newLw spec with
          machineUpdates := g.machineUpdates.filter (· ≠ (m, newLw)) }
      else none
  | none => none

/-- The rules `machine-update-loaded-with-no-inputs`, `-full` and `-puck`. -/
def machineUpdateIgnored (m : MachineName) (newLw : List Int) : Option Game :=
  let mf := g.machines m
  match machineSpec g.procTime mf.mtype with
  | some spec =>
      if (m, newLw) ∈ g.machineUpdates ∧
          (spec.inputs.length = 0 ∨ spec.inputs.length < newLw.length ∨
            (mf.puckId ≠ 0 ∧ spec.inputs.length = newLw.length)) then
        some { g with machineUpdates := g.machineUpdates.filter (· ≠ (m, newLw)) }
      else none
  | none => none

/-! ## Two machine facts of one name -/

/-- A rule may match any machine fact of a name. A `not` pattern sees the facts of `machines` only,
so some rules fire here that another fact would block. -/
def turnTo (m : MachineName) (fact : Machine) : Option Game :=
  if (m, fact) ∈ g.otherMachines then
    some { g with
      toMemory := g.setMachine m fact
      otherMachines := assertFact (m, g.machines m) (g.otherMachines.filter (· ≠ (m, fact))) }
  else none

/-- What a rule of the production phase does to the other machine facts:
`machine-invalid-input-junk` takes the puck out of every machine. -/
def othersAfter (a : Activation) : List (MachineName × Machine) :=
  match a with
  | .machineInvalidInputJunk _ id =>
      g.otherMachines.map (fun (m, mf) =>
        (m, { mf with loadedWith := mf.loadedWith.filter (· ≠ id) }))
  | _ => g.otherMachines

/-! ## Technical challenges -/

/-- The whack-a-mole challenge is RUNNING. -/
def Whacking : Prop :=
  g.gamestate.phase = .whackAMoleChallenge ∧ g.gamestate.state = .running

instance : Decidable g.Whacking := by
  unfold Whacking
  infer_instance

/-- Rule `techal-wam-next`, whichever machine it draws. -/
def techalWamNext (newMachine : MachineName) : Option Game :=
  if g.Whacking ∧ g.gamestate.prevState ≠ .running ∧
      newMachine ∈ techchallWamMachines ∧ g.whacAMoleLight ≠ some newMachine then
    some { g.setGamestate { g.gamestate with prevState := .running } with
      whacAMoleLight := some newMachine }
  else none

/-- Rule `techal-wam-deactivate`. -/
def techalWamDeactivate (m : MachineName) : Option Game :=
  let mf := g.machines m
  if g.Whacking ∧ g.whacAMoleLight ≠ some m ∧ mf.state ≠ .down then
    some { g with toMemory := g.setMachine m { mf with state := .down } }
  else none

/-- Rule `techal-wam-activate`. -/
def techalWamActivate (m : MachineName) : Option Game :=
  let mf := g.machines m
  if g.Whacking ∧ g.whacAMoleLight = some m ∧ mf.state ≠ .idle then
    some { g with toMemory := g.setMachine m { mf with state := .idle } }
  else none

/-- The point for a reached machine, which goes to the default team; the next machine is due. -/
def reached (reason : Reason) : Game :=
  { g with
    points := assertFact
      { points := 1, gameTime := g.gamestate.gameTime, phase := .whackAMoleChallenge, reason }
      g.points
    gamestate := { g.gamestate with state := .running, prevState := .paused } }

/-- Rule `techal-wam-continue`. -/
def techalWamContinue : Option Game :=
  if g.gamestate.phase = .whackAMoleChallenge ∧ g.gamestate.state = .paused ∧
      g.gamestate.prevState = .running then
    some (g.reached (.reachedByReferee g.whacAMoleLight))
  else none

/-- Rule `techal-wam-reached`. Where the robots are is not modelled. -/
def techalWamReached (m : MachineName) : Option Game :=
  if g.Whacking ∧ g.whacAMoleLight = some m then some (g.reached (.reachedByVision m)) else none

/-- The rules that end a challenge whose time is over. -/
def challengeOver (phase : Phase) (challengeTime : ℚ) (now : Time) : Option Game :=
  if g.gamestate.phase = phase ∧ g.gamestate.state = .running ∧
      g.gamestate.gameTime ≥ challengeTime then
    some (g.toPostGame now)
  else none

def techalWamGameOver (now : Time) : Option Game :=
  g.challengeOver .whackAMoleChallenge techchallWamTime now

def techalNavigationGameOver (now : Time) : Option Game :=
  g.challengeOver .navigationChallenge techchallNavigationTime now

/-! ## One step -/

/-- The game after an event, if it can happen. -/
def step (g : Game) : Event → Option Game
  | .time now => if g.time = none then some { g with time := some now } else none
  | .retractTime => if g.time ≠ none then some { g with time := none } else none
  | .simInit enabled estimate => g.simInit enabled estimate
  | .simTimeSync sec nsec realTimeFactor => g.simTimeSync sec nsec realTimeFactor
  | .setGameState state =>
      some (g.setGamestate { g.gamestate with state, prevState := g.gamestate.state })
  | .setGamePhase phase =>
      some (g.setGamestate { g.gamestate with phase, prevPhase := some g.gamestate.phase })
  | .setTeamName team name => some (g.setTeamName team name)
  | .explorationHandleReport team machines => g.explorationHandleReport team machines
  | .loadPuckInMachine m id => g.loadPuckInMachine m id
  | .removePuckFromMachine m id => g.removePuckFromMachine m id
  | .gameParameterize machines orders deliveryPeriods =>
      g.gameParameterize machines orders deliveryPeriods
  | .production a =>
      if a.isGamestate then none
      else
        (g.toMemory.step a).map (fun memory =>
          { g with toMemory := memory, otherMachines := g.othersAfter a })
  | .turnTo m fact => g.turnTo m fact
  | .machineUpdateLoadedWith m newLw => g.machineUpdateLoadedWith m newLw
  | .machineUpdateIgnored m newLw => g.machineUpdateIgnored m newLw
  | .gameUpdateGametimePoints => g.gameUpdateGametimePoints
  | .gameUpdateLastTime => g.gameUpdateLastTime
  | .gameSwitchToPreGame => g.gameSwitchToPreGame
  | .gameStartTraining now => g.gameStartTraining now
  | .gameStart now => g.gameStart now
  | .gameSwitchToExploration => g.gameSwitchToExploration
  | .gameSwitchToProduction => g.gameSwitchToProduction
  | .gameOver now => g.gameOver now
  | .gameEnterOvertime => g.gameEnterOvertime
  | .gameOverAfterOvertime now => g.gameOverAfterOvertime now
  | .gameGotoPostGame => g.gameGotoPostGame
  | .explorationStart => g.explorationStart
  | .explorationPause => g.explorationPause
  | .explorationContinue => g.explorationContinue
  | .productionStart => g.productionStart
  | .techalWamNext newMachine => g.techalWamNext newMachine
  | .techalWamDeactivate m => g.techalWamDeactivate m
  | .techalWamActivate m => g.techalWamActivate m
  | .techalWamContinue => g.techalWamContinue
  | .techalWamReached m => g.techalWamReached m
  | .techalWamGameOver now => g.techalWamGameOver now
  | .techalNavigationGameOver now => g.techalNavigationGameOver now
  | .initGame now => g.initGame now
  | .resetGame => g.resetGame

end Game

/-- A run of the game. -/
abbrev GameRun := Run (fun g e g' => Game.step g e = some g')

end FactoryHub.Llsf
