import FactoryHub.Clips.Time

/-!
# The working memory of the LLSF referee box

The deftemplates of `llsf/clips/facts.clp` that the game, order and production rules match and
modify, and one record of all facts (`Memory`). Slots that none of these rules read (lights, poses,
signals) are left out. FLOAT slots are rationals.

Facts that carry a key are functions of it: there is one machine fact for each name (where a load
update leaves a second one, `Game` has it), and one puck fact at most for each id
(`rfid-input-learn-puck` asserts one only where there is none).
-/

namespace FactoryHub.Llsf

open Clips

inductive Team where
  | cyan | magenta
  deriving DecidableEq, Repr

inductive MachineName where
  | m1 | m2 | m3 | m4 | m5 | m6 | m7 | m8 | m9 | m10 | m11 | m12 | d1 | d2 | d3 | r1
  | m13 | m14 | m15 | m16 | m17 | m18 | m19 | m20 | m21 | m22 | m23 | m24 | d4 | d5 | d6 | r2
  deriving DecidableEq, Repr

/-- The names of the machine facts, in the order of the `startup` deffacts. -/
def MachineName.all : List MachineName :=
  [.m1, .m2, .m3, .m4, .m5, .m6, .m7, .m8, .m9, .m10, .m11, .m12, .d1, .d2, .d3, .r1,
    .m13, .m14, .m15, .m16, .m17, .m18, .m19, .m20, .m21, .m22, .m23, .m24, .d4, .d5, .d6, .r2]

theorem MachineName.mem_all (name : MachineName) : name ∈ MachineName.all := by
  cases name <;> decide

instance (p : MachineName → Prop) [DecidablePred p] : Decidable (∃ name, p name) :=
  decidable_of_iff (∃ name ∈ MachineName.all, p name)
    ⟨fun ⟨name, _, h⟩ => ⟨name, h⟩, fun ⟨name, h⟩ => ⟨name, name.mem_all, h⟩⟩

instance (p : MachineName → Prop) [DecidablePred p] : Decidable (∀ name, p name) :=
  decidable_of_iff (∀ name ∈ MachineName.all, p name)
    ⟨fun h name => h name name.mem_all, fun h name _ => h name⟩

inductive MType where
  | t1 | t2 | t3 | t4 | t5 | deliver | recycle
  deriving DecidableEq, Repr

inductive MachineState where
  | idle | processing | waiting | down | invalid
  deriving DecidableEq, Repr

inductive PuckState where
  | s0 | s1 | s2 | p1 | p2 | p3 | consumed | finished
  deriving DecidableEq, Repr

inductive GameStateName where
  | init | waitStart | running | paused
  deriving DecidableEq, Repr

inductive Phase where
  | preGame | setup | exploration | production | postGame
  | openChallenge | navigationChallenge | whackAMoleChallenge
  deriving DecidableEq, Repr

/-! ## Deftemplates -/

/-- `machine`, without its name. `puckId` is 0 when no puck is under the reader. -/
structure Machine where
  team : Team
  mtype : MType
  loadedWith : List Int := []
  productions : Int := 0
  state : MachineState := .idle
  prevState : MachineState := .idle
  procTime : Int := 0
  procStart : ℚ := 0
  downPeriod : ℚ × ℚ := (-1, -1)
  puckId : Int := 0
  deriving DecidableEq, Repr

/-- `machine-spec`. -/
structure MachineSpec where
  inputs : List PuckState
  output : PuckState
  procTime : Int
  points : Int
  deriving DecidableEq, Repr

/-- `puck`, without its id. -/
structure Puck where
  team : Option Team := none
  state : PuckState := .s0
  stateChangeGameTime : ℚ := 0
  deriving DecidableEq, Repr

/-- `rfid-input`. -/
structure RfidInput where
  machine : MachineName
  hasPuck : Bool
  id : Int := 0
  deriving DecidableEq, Repr

/-- The `delivery-gate` of an order. -/
inductive Gate where
  | any
  | only (gate : MachineName)
  deriving DecidableEq, Repr

/-- `order`. -/
structure Order where
  id : Int
  team : Team
  product : PuckState
  quantityRequested : Int := 1
  quantityDelivered : Int := 0
  deliveryPeriod : Int × Int := (0, 900)
  deliveryGate : Gate := .any
  active : Bool := false
  activateAt : Int := 0
  points : Int := 10
  pointsSupernumerous : Int := 1
  deriving DecidableEq, Repr

/-- `delivery-period`. -/
structure DeliveryPeriod where
  deliveryGates : MachineName × MachineName
  period : Int × Int
  deriving DecidableEq, Repr

/-- `product-delivered`. -/
structure ProductDelivered where
  gameTime : ℚ
  productionTime : ℚ
  team : Team
  product : PuckState
  deliveryGate : MachineName
  deriving DecidableEq, Repr

/-- The texts of the `reason` slot, by what they name. A machine of `none` is NONE. -/
inductive Reason where
  | reportForOtherTeam (machine : MachineName) (mtype : String)
  | correctReport (machine : MachineName) (mtype : String)
  | wrongReport (machine : MachineName) (mtype : String)
  | producedInDeliveryTime (product : PuckState) (orderId : Int) (time : ℚ)
  | delivered (product : PuckState) (gate : MachineName)
  | deliveredNoActiveOrder (product : PuckState) (gate : MachineName)
  | productionDone (mtype : MType) (machine : MachineName)
  | recyclingDone (machine : MachineName)
  | wrongTeamPuck (puckTeam : Option Team) (machine : MachineName) (machineTeam : Team)
  | wrongTeamDelivery (puckTeam : Option Team) (machine : MachineName) (machineTeam : Team)
  | wrongTeamRecycling (puckTeam : Option Team) (machine : MachineName) (machineTeam : Team)
  | productionStep (machine : MachineName) (mtype : MType)
  | reachedByReferee (machine : Option MachineName)
  | reachedByVision (machine : MachineName)
  deriving DecidableEq, Repr

/-- The allowed values of the `phase` slot of `points`, in order. -/
inductive PointsPhase where
  | exploration | production | whackAMoleChallenge
  deriving DecidableEq, Repr

/-- `points`. -/
structure Points where
  points : Int
  team : Team := .cyan
  gameTime : ℚ
  phase : PointsPhase := .exploration
  reason : Reason
  deriving DecidableEq, Repr

/-- `gamestate`. `prevPhase` is `none` for NONE; `points` are those of cyan and of magenta. -/
structure GameState where
  state : GameStateName := .init
  prevState : GameStateName := .init
  phase : Phase := .preGame
  prevPhase : Option Phase := none
  gameTime : ℚ := 0
  contTime : ℚ := 0
  startTime : Time := ⟨0, 0⟩
  endTime : Time := ⟨0, 0⟩
  lastTime : Time := ⟨0, 0⟩
  points : Int × Int := (0, 0)
  teams : String × String := ("", "")
  overTime : Bool := false
  deriving DecidableEq, Repr

/-! ## Working memory -/

/-- The facts the rules work on. `procTime` is the processing time of each machine-spec. -/
structure Memory where
  gamestate : GameState
  machines : MachineName → Machine
  procTime : MType → Int
  pucks : Int → Option Puck
  rfidInputs : List RfidInput
  orders : List Order
  deliveryPeriods : List DeliveryPeriod
  productDelivered : List ProductDelivered
  points : List Points

/-- The `machine-specs` deffacts. There is none for gates and recycling machines. -/
def machineSpec (procTime : MType → Int) : MType → Option MachineSpec
  | .t1 => some ⟨[.s0], .s1, procTime .t1, 0⟩
  | .t2 => some ⟨[.s0, .s1], .s2, procTime .t2, 4⟩
  | .t3 => some ⟨[.s0, .s1, .s2], .p1, procTime .t3, 12⟩
  | .t4 => some ⟨[.s0, .s1, .s2], .p2, procTime .t4, 12⟩
  | .t5 => some ⟨[.s0], .p3, procTime .t5, 0⟩
  | .deliver => none
  | .recycle => none

/-- Asserting a fact that is already there changes nothing. -/
def assertFact {α : Type} [DecidableEq α] (fact : α) (facts : List α) : List α :=
  if fact ∈ facts then facts else facts ++ [fact]

theorem mem_assertFact {α : Type} [DecidableEq α] {fact x : α} {facts : List α} :
    x ∈ assertFact fact facts ↔ x = fact ∨ x ∈ facts := by
  unfold assertFact
  split
  · next h => exact ⟨Or.inr, fun hx => hx.elim (fun heq => heq ▸ h) id⟩
  · rw [List.mem_append, List.mem_singleton, or_comm]

namespace Memory

/-- The game is in a RUNNING PRODUCTION phase. -/
def Producing (s : Memory) : Prop :=
  s.gamestate.state = .running ∧ s.gamestate.phase = .production

instance (s : Memory) : Decidable s.Producing := by
  unfold Producing
  infer_instance

/-- `modify` of the machine fact of a name. -/
def setMachine (s : Memory) (name : MachineName) (machine : Machine) : Memory :=
  { s with machines := fun n => if n = name then machine else s.machines n }

/-- `modify` of, or `assert` of a new, puck fact with an id. -/
def setPuck (s : Memory) (id : Int) (puck : Puck) : Memory :=
  { s with pucks := fun i => if i = id then some puck else s.pucks i }

/-- `assert` of a points fact. -/
def award (s : Memory) (points : Points) : Memory :=
  { s with points := assertFact points s.points }

end Memory

/-! ## Deffacts -/

/-- The type a machine has in the `startup` deffacts. -/
def startupType : MachineName → MType
  | .m1 | .m2 | .m13 | .m14 => .t1
  | .m3 | .m4 | .m15 | .m16 => .t2
  | .m5 | .m6 | .m11 | .m17 | .m18 | .m23 => .t3
  | .m7 | .m9 | .m12 | .m19 | .m21 | .m24 => .t4
  | .m8 | .m10 | .m20 | .m22 => .t5
  | .d1 | .d2 | .d3 | .d4 | .d5 | .d6 => .deliver
  | .r1 | .r2 => .recycle

/-- The team a machine has in the `startup` deffacts. -/
def startupTeam : MachineName → Team
  | .m1 | .m2 | .m3 | .m4 | .m5 | .m6 | .m7 | .m8 | .m9 | .m10 | .m11 | .m12 | .d1 | .d2 | .d3
  | .r1 => .cyan
  | _ => .magenta

/-- The facts after `(reset)`. -/
def startup : Memory where
  gamestate := {}
  machines name := { team := startupTeam name, mtype := startupType name }
  procTime
    | .t1 | .t3 | .t4 | .t5 => 4
    | _ => 0
  pucks _ := none
  rfidInputs := []
  orders :=
    [{ id := 1, team := .cyan, product := .p3 },
      { id := 2, team := .cyan, product := .p3 },
      { id := 3, team := .cyan, product := .p3, quantityRequested := 2 },
      { id := 4, team := .cyan, product := .p1 },
      { id := 5, team := .cyan, product := .p2 }]
  deliveryPeriods := []
  productDelivered := []
  points := []

end FactoryHub.Llsf
