import FactoryHub.Clips.Draws
import FactoryHub.Lib.While
import FactoryHub.Llsf.Facts

/-!
# The initialisation of the machines

`machine-init-randomize` of `machines.clp` over a source `rand` of random numbers. The facts of a
template are in the order of their indices, in which the queries go through them; `modify` retracts
a fact and asserts the new one as the last. Lights, poses and printouts are left out.
-/

namespace FactoryHub.Llsf

open Clips Lib

instance : Inhabited MType := ⟨.t1⟩

instance : Inhabited MachineName := ⟨.m1⟩

instance : Inhabited Machine := ⟨{ team := .cyan, mtype := .t1 }⟩

/-! ## Globals -/

/-- The `TOURNAMENT-PHASES`, and any other symbol. -/
inductive TournamentPhase where
  | roundRobin | playOffs | finals | other
  deriving DecidableEq, Repr

/-- The globals that `machine-init-randomize` reads. -/
structure Globals where
  randomizeGame : Bool := true
  tournamentPhase : TournamentPhase := .roundRobin
  machineDistribution : List MType := [.t1, .t1, .t1, .t1, .t2, .t2, .t2, .t3, .t3, .t4, .t4, .t5]
  deliveryGateMinTime : ℕ := 60
  deliveryGateMaxTime : ℕ := 180
  productionTime : ℕ := 900
  productionOvertime : ℕ := 300
  downNumMin : ℕ := 6
  downNumMax : ℕ := 8
  downTimeMin : ℕ := 30
  downTimeMax : ℕ := 120
  recycleDownTimeMin : ℕ := 20
  recycleDownTimeMax : ℕ := 30
  machineSwapRoundRobin : List MType := [.t3, .t4, .t5]
  machineSwapPlayOffsNum : ℕ := 6
  machineSwapPlayOffsTypes : List MType := [.t1, .t2, .t3, .t4, .t5]
  machineSwapFinalsTypes : List MType := [.t1, .t2, .t3, .t4, .t5]

/-- `PROD-END-TIME`. -/
def Globals.prodEndTime (g : Globals) : ℕ := g.productionTime + g.productionOvertime

/-! ## Facts -/

/-- `machine`, with its name. -/
abbrev MachineFact := MachineName × Machine

/-- `machine-spec`, the slots that are set here and those they are drawn by. -/
structure SpecFact where
  mtype : MType
  procTimeMin : ℕ
  procTimeMax : ℕ
  procTime : ℕ := 0
  lightCode : ℕ := 0
  deriving DecidableEq, Repr

/-- `delivery-period`, whose second gate may be ANY. -/
structure GatePeriod where
  deliveryGates : MachineName × Gate
  period : ℕ × ℕ
  deriving DecidableEq, Repr

/-- The facts of the machines, and the number of random draws made. `lightCodes` are the ids of the
machine-light-code facts. -/
structure Field where
  machines : List MachineFact
  specs : List SpecFact
  lightCodes : List ℕ
  deliveryPeriods : List GatePeriod := []
  pucks : List (Int × Puck) := []
  plcDisabled : Bool := false
  initialized : Bool := false
  draws : ℕ := 0
  deriving DecidableEq, Repr

/-- `machine-magenta-for-cyan-gate`. -/
def machineMagentaForCyanGate : MachineName → Gate
  | .d1 => .only .d4
  | .d2 => .only .d5
  | .d3 => .only .d6
  | _ => .any

/-- `machine-magenta-for-cyan-field`. -/
def machineMagentaForCyanField : MachineName → MachineName
  | .m1 => .m13
  | .m2 => .m14
  | .m3 => .m15
  | .m4 => .m16
  | .m5 => .m17
  | .m6 => .m18
  | .m7 => .m19
  | .m8 => .m20
  | .m9 => .m21
  | .m10 => .m22
  | .m11 => .m23
  | .m12 => .m24
  | _ => .m13

/-- The symbols that `(sym-cat M i)` gives, from 1 on. -/
def mNames : List MachineName :=
  [.m1, .m2, .m3, .m4, .m5, .m6, .m7, .m8, .m9, .m10, .m11, .m12, .m13, .m14, .m15, .m16, .m17,
    .m18, .m19, .m20, .m21, .m22, .m23, .m24]

/-! ## Parts of the function -/

/-- A part of `machine-init-randomize`. -/
abbrev Init := StateM Field

namespace Init

/-- Random draws. -/
def draw {α : Type} (x : StateM ℕ α) : Init α := fun f =>
  let (a, draws) := x f.draws
  (a, { f with draws })

/-- `foreach`, and the queries of actions that have found their facts. -/
def forEach {α : Type} (l : List α) (body : α → Init Unit) : Init Unit :=
  l.foldlM (fun _ a => body a) ()

/-- `modify` of a machine fact that is found. -/
def modifyMachine (old : MachineFact) (new : Machine) : Init Unit := modify fun f =>
  if f.machines.contains old then
    { f with machines := f.machines.erase old ++ [(old.1, new)] }
  else f

/-- `delayed-do-for-all-facts` over the machines. -/
def forAllMachines (p : MachineFact → Prop) [DecidablePred p] (body : MachineFact → Init Unit) :
    Init Unit := do
  let f ← get
  forEach (f.machines.filter p) body

/-- What a draw keeps, whatever number it is. -/
theorem draw_spec {α : Type} {x : StateM ℕ α} {p : α → Prop} {P : Field → Prop}
    (hx : ∀ n, p (x n).1) (hP : ∀ f n, P f → P { f with draws := n }) :
    Triple P (draw x) fun a f => p a ∧ P f := by
  intro f hf
  exact ⟨hx f.draws, hP f _ hf⟩

/-- What has no part in draws. -/
theorem draw_frame {α : Type} {x : StateM ℕ α} {P : Field → Prop}
    (hP : ∀ f n, P f → P { f with draws := n }) : Triple P (draw x) fun _ => P := by
  intro f hf
  exact hP f _ hf

theorem draw_random_spec {rand : ℕ → ℕ} {a b : ℕ} {P : Field → Prop} (h : a ≤ b)
    (hP : ∀ f n, P f → P { f with draws := n }) :
    Triple P (draw (random rand a b)) fun r f => (a ≤ r ∧ r ≤ b) ∧ P f :=
  draw_spec (p := fun r => a ≤ r ∧ r ≤ b) (fun n => random_mem rand n h) hP

end Init

open Init

variable (g : Globals) (rand : ℕ → ℕ)

/-- Assign random light codes. -/
def initLightCodes : Init Unit := do
  let f ← get
  let lightCodes ← draw (randomize rand f.lightCodes)
  let assign := fun (s : List SpecFact × List ℕ) (mspec : SpecFact) =>
    (s.1 ++ [{ mspec with lightCode := nth 1 s.2 }], s.2.drop 1)
  modify fun f => { f with specs := (f.specs.foldl assign ([], lightCodes)).1 }

/-- Reset machines. -/
def resetMachines : Init Unit :=
  forAllMachines (fun _ => True) fun m =>
    modifyMachine m
      { m.2 with loadedWith := [], productions := 0, state := .idle, procStart := 0, puckId := 0 }

/-- The body of the query that assigns the types, with `machine-assignment`. -/
def assignType (assignment : List MType) (m : MachineFact) : Init (List MType) :=
  match assignment with
  -- no machine assignment is available
  | [] => return []
  | mtype :: rest => do
      modifyMachine m { m.2 with mtype }
      return rest

/-- The types in the order in which they are assigned. -/
def machineAssignment : Init (List MType) :=
  if g.randomizeGame then draw (randomize rand g.machineDistribution)
  else return g.machineDistribution

/-- Assign random machine types out of the start distribution. -/
def assignTypes : Init Unit := do
  let assignment ← machineAssignment g rand
  let f ← get
  let machines := f.machines.filter (fun m =>
    (∃ mspec ∈ f.specs, mspec.mtype = m.2.mtype) ∧ m.2.team = .cyan)
  let _ ← machines.foldlM assignType assignment

/-- The loop that assigns random active delivery gate times, with `deliver-period-end-time` and
`last-delivery-gate`; NONE is no gate. -/
def deliveryRound (deliveryGates : List MachineName) (vars : ℕ × Option MachineName) :
    Init (ℕ × Option MachineName) := do
  let (startTime, lastDeliveryGate) := vars
  let duration ← draw (random rand g.deliveryGateMinTime g.deliveryGateMaxTime)
  let endTime := min (startTime + duration) g.prodEndTime
  -- expand this delivery gates' time
  let endTime := if endTime ≥ g.prodEndTime - g.deliveryGateMinTime then g.prodEndTime else endTime
  let candidates := lastDeliveryGate.elim deliveryGates (deleteMember deliveryGates)
  let i ← draw (random rand 1 candidates.length)
  let deliveryGate := nth i candidates
  modify fun f => { f with
    deliveryPeriods := assertFact
      ⟨(deliveryGate, machineMagentaForCyanGate deliveryGate), (startTime, endTime)⟩
      f.deliveryPeriods }
  return (endTime, some deliveryGate)

/-- The delivery gates of CYAN. -/
def Field.deliveryGates (f : Field) : List MachineName :=
  (f.machines.filter (fun m => m.2.mtype = .deliver ∧ m.2.team = .cyan)).map Prod.fst

/-- Erase all delivery periods and draw new ones. False if the loop has not ended after `fuel`
rounds. -/
def initDeliveryPeriods (fuel : ℕ) : Init Bool := do
  modify fun f => { f with deliveryPeriods := [] }
  let f ← get
  let ended ← whileLoop (fun vars => vars.1 < g.prodEndTime)
    (deliveryRound g rand f.deliveryGates) fuel (0, none)
  return ended.isSome

/-- A random down time of a machine. -/
def initDownTime (m : MachineFact) : Init Unit := do
  let duration ← draw (random rand g.downTimeMin g.downTimeMax)
  let startTime ← draw (random rand 1 (g.productionTime - duration))
  modifyMachine m { m.2 with downPeriod := (startTime, startTime + duration) }

/-- Assign random down times. -/
def initDownTimes : Init Unit := do
  let numDownTimes ← draw (random rand g.downNumMin g.downNumMax)
  let f ← get
  let candidates := f.machines.filter (fun m =>
    m.2.mtype ≠ .deliver ∧ m.2.mtype ≠ .recycle ∧ m.2.team = .cyan)
  let candidates ← draw (randomize rand candidates)
  forEach (candidates.take numDownTimes) (initDownTime g rand)
  -- assign down-time to recycling machine
  let recyclingDownTime ← draw (random rand g.recycleDownTimeMin g.recycleDownTimeMax)
  let recyclingDownStart ← draw (random rand 1 (g.productionTime - recyclingDownTime))
  forAllMachines (fun m => m.2.mtype = .recycle) fun m =>
    modifyMachine m
      { m.2 with downPeriod := (recyclingDownStart, recyclingDownStart + recyclingDownTime) }

def initProcTime (mspec : SpecFact) : Init SpecFact := do
  let procTime ← draw (random rand mspec.procTimeMin mspec.procTimeMax)
  return { mspec with procTime }

/-- Assign processing times. -/
def initProcTimes : Init Unit := do
  let f ← get
  let specs ← f.specs.mapM (initProcTime rand)
  modify fun f => { f with specs }

def copyMachine (i : ℕ) : Init Unit := do
  let f ← get
  match f.machines.find? (·.1 = nth i mNames), f.machines.find? (·.1 = nth (i + 12) mNames) with
  | some mCyan, some mMagenta =>
      modifyMachine mMagenta
        { mMagenta.2 with mtype := mCyan.2.mtype, downPeriod := mCyan.2.downPeriod }
  | _, _ => pure ()

/-- Copy randomization from CYAN to MAGENTA. -/
def copyRandomization : Init Unit := forEach (List.range' 1 12) copyMachine

/-- The pairs of a CYAN machine that is to be swapped and the MAGENTA one at its place. -/
def swapPairs (f : Field) (swap : MachineFact → Prop) [DecidablePred swap] :
    List (MachineFact × MachineFact) :=
  (f.machines ×ˢ f.machines).filter (fun pair =>
    pair.1.2.team = .cyan ∧ pair.2.2.team = .magenta ∧ swap pair.1 ∧
      pair.2.1 = machineMagentaForCyanField pair.1.1)

def swapTeams (pair : MachineFact × MachineFact) : Init Unit := do
  modifyMachine pair.1 { pair.1.2 with team := .magenta }
  modifyMachine pair.2 { pair.2.2 with team := .cyan }

/-- In the FINALS, a pair is swapped or not. -/
def swapTeamsAtRandom (pair : MachineFact × MachineFact) : Init Unit := do
  let r ← draw (random rand 0 1)
  if r = 1 then swapTeams pair

/-- Swap some machines. -/
def swapMachines : Init Unit :=
  match g.tournamentPhase with
  | .roundRobin => do
      let mtypeToSwap ← draw (pickRandom rand g.machineSwapRoundRobin)
      let f ← get
      forEach (swapPairs f (fun mCyan => mCyan.2.mtype = mtypeToSwap)) swapTeams
  | .playOffs => do
      let f ← get
      let candidates := (f.machines.filter (fun m =>
        m.2.team = .cyan ∧ m.2.mtype ∈ g.machineSwapPlayOffsTypes)).map Prod.fst
      let candidates ← draw (randomize rand candidates)
      let candidates := candidates.take g.machineSwapPlayOffsNum
      let f ← get
      forEach (swapPairs f (fun mCyan => mCyan.1 ∈ candidates)) swapTeams
  | .finals => do
      let f ← get
      forEach (swapPairs f (fun mCyan => mCyan.2.mtype ∈ g.machineSwapFinalsTypes))
        (swapTeamsAtRandom rand)
  | .other => pure ()

/-- New delivery periods, if there are none or the game is random. -/
def initDelivery (fuel : ℕ) : Init Bool := do
  let f ← get
  if f.deliveryPeriods = [] ∨ g.randomizeGame then initDeliveryPeriods g rand fuel
  else return true

/-- What is only done when `RANDOMIZE-GAME` is set. -/
def whenRandomizeGame (x : Init Unit) : Init Unit := if g.randomizeGame then x else pure ()

/-- The parts that follow the delivery periods. -/
def initMachines : Init Unit := do
  whenRandomizeGame g do
    initDownTimes g rand
    initProcTimes rand
  copyRandomization
  swapMachines g rand
  -- if PLC is disabled do not clear, we generated fake pucks
  modify fun f => if f.plcDisabled then f else { f with pucks := [] }
  modify fun f => { f with initialized := true }

/-- `machine-init-randomize`. False if the loop over the delivery periods has not ended after `fuel`
rounds. -/
def machineInitRandomize (fuel : ℕ) : Init Bool := do
  whenRandomizeGame g (initLightCodes rand)
  resetMachines
  assignTypes g rand
  let ended ← initDelivery g rand fuel
  if ended then do
    initMachines g rand
    return true
  else return false

/-! ## Deffacts -/

/-- The machine facts of the `startup` deffacts. -/
def startupMachines : List MachineFact :=
  MachineName.all.map fun name => (name, { team := startupTeam name, mtype := startupType name })

/-- The facts of the `machine-specs` deffacts. -/
def startupSpecs : List SpecFact :=
  [{ mtype := .t1, lightCode := 1, procTimeMin := 3, procTimeMax := 8, procTime := 4 },
    { mtype := .t2, lightCode := 2, procTimeMin := 15, procTimeMax := 25 },
    { mtype := .t3, lightCode := 4, procTimeMin := 40, procTimeMax := 60, procTime := 4 },
    { mtype := .t4, lightCode := 5, procTimeMin := 40, procTimeMax := 60, procTime := 4 },
    { mtype := .t5, lightCode := 6, procTimeMin := 20, procTimeMax := 40, procTime := 4 }]

/-- The facts of the machines after `(reset)`, and `draws` random draws. -/
def startupField (draws : ℕ) : Field where
  machines := startupMachines
  specs := startupSpecs
  lightCodes := [1, 2, 3, 4, 5, 6, 7]
  draws := draws

end FactoryHub.Llsf
