import FactoryHub.Llsf.Orders
import FactoryHub.Lib.Run

/-!
# The production phase

The rules of `llsf/clips/production.clp` that work on RFID readings, with the two rules of
`refbox.clp` that learn pucks and clean up, as one function `step` from a memory and an activation
(a rule with the facts it matches) to the memory after its actions. The operator messages
LoadPuckInMachine and RemovePuckFromMachine are not part of it. Salience, refraction and the
agenda only restrict which enabled activation fires next; here any of them may.
-/

namespace FactoryHub.Llsf

open Lib

/-- `INTERMEDIATE-PROC-TIME`. -/
def intermediateProcTime : Int := 2
/-- `DELIVER-PROC-TIME`. -/
def deliverProcTime : Int := 1
/-- `RECYCLE-PROC-TIME`. -/
def recycleProcTime : Int := 2
/-- `DELIVERY-GATE-GRACE-TIME`. -/
def deliveryGateGraceTime : Int := 3
/-- `RECYCLE-POINTS`. -/
def recyclePoints : Int := 5
/-- `PRODUCTION-WRONG-TEAM-MACHINE-POINTS`. -/
def productionWrongTeamMachinePoints : Int := -2

/-- `timeout-sec`. -/
def timeoutSec (now time : ℚ) (timeout : Int) : Prop := (timeout : ℚ) < now - time

instance (now time : ℚ) (timeout : Int) : Decidable (timeoutSec now time timeout) := by
  unfold timeoutSec
  infer_instance

/-- An activation: a rule and what it matches, or a fact that comes from outside. -/
inductive Activation where
  /-- The clock, the operator or a rule of `game.clp` changes the gamestate. -/
  | gamestate (gamestate : GameState)
  /-- The SPS or a PlacePuckUnderMachine message asserts an RFID reading. -/
  | rfidInput (input : RfidInput)
  | placePuckUnderMachine (machine : MachineName) (puckId : Int)
  | rfidInputLearnPuck (machine : MachineName) (id : Int)
  | rfidInputCleanup (input : RfidInput)
  | activateOrder (order : Order)
  | orderDeliveredInTime (product : ProductDelivered) (order : Order)
  | orderDeliveredOutOfTime (product : ProductDelivered)
  | machineDown (machine : MachineName)
  | machineUp (machine : MachineName)
  | machineProcStart (machine : MachineName) (id : Int)
  | machineInvalidInput (machine : MachineName) (id : Int)
  | machineWrongTeamInput (machine : MachineName) (id : Int)
  | machineInvalidInputJunk (machine : MachineName) (id : Int)
  | machineProcWaiting (machine : MachineName)
  | machineProcDone (machine : MachineName)
  | machinePuckRemoval (machine : MachineName)
  | deliveryGateDownPeriod (machine : MachineName) (period : DeliveryPeriod)
  | deliverInvalidInput (machine : MachineName) (id : Int)
  | deliverWrongTeamInput (machine : MachineName) (id : Int)
  | deliverProcStart (machine : MachineName) (id : Int)
  | deliverProcDone (machine : MachineName)
  | deliverDownMachine (machine : MachineName) (id : Int)
  | deliverRemoval (machine : MachineName)
  | recycleProcStart (machine : MachineName) (id : Int)
  | recycleInvalidInput (machine : MachineName) (id : Int)
  | recycleWrongTeamInput (machine : MachineName) (id : Int)
  | recycleProcDone (machine : MachineName)
  | recycleRemoval (machine : MachineName)
  deriving DecidableEq

/-- The gamestate is changed from outside the production phase. -/
def Activation.isGamestate : Activation → Bool
  | .gamestate _ => true
  | _ => false

namespace Memory

variable (s : Memory)

/-! ## Patterns -/

/-- `any-puck-in-state`. -/
def AnyPuckInState (state : PuckState) (ids : List Int) : Prop :=
  ∃ id ∈ ids, (s.pucks id).map Puck.state = some state

instance (state : PuckState) (ids : List Int) : Decidable (s.AnyPuckInState state ids) := by
  unfold AnyPuckInState
  infer_instance

/-- A puck is under the reader of a machine. -/
def Reads (m : MachineName) (id : Int) : Prop :=
  id ≠ 0 ∧ ∃ input ∈ s.rfidInputs, input.machine = m ∧ input.hasPuck = true ∧ input.id = id

instance (m : MachineName) (id : Int) : Decidable (s.Reads m id) := by
  unfold Reads
  infer_instance

/-- No puck is under the reader of a machine. -/
def ReadsNone (m : MachineName) : Prop :=
  ∃ input ∈ s.rfidInputs, input.machine = m ∧ input.hasPuck = false

instance (m : MachineName) : Decidable (s.ReadsNone m) := by
  unfold ReadsNone
  infer_instance

/-- The puck is under the reader of, or loaded into, another machine that satisfies `p`. -/
def Elsewhere (p : Machine → Bool) (m : MachineName) (id : Int) : Prop :=
  ∃ other, other ≠ m ∧ p (s.machines other) ∧
    ((s.machines other).puckId = id ∨ id ∈ (s.machines other).loadedWith)

instance (p : Machine → Bool) (m : MachineName) (id : Int) : Decidable (s.Elsewhere p m id) := by
  unfold Elsewhere
  infer_instance

/-- `~DELIVER&~RECYCLE`. -/
def IsProduction (mtype : MType) : Prop := mtype ≠ .deliver ∧ mtype ≠ .recycle

instance (mtype : MType) : Decidable (IsProduction mtype) := by
  unfold IsProduction
  infer_instance

/-! ## Actions shared by several rules -/

/-- `modify` of the state of the pucks with these ids. -/
def setPuckStates (ids : List Int) (state : PuckState) : Memory :=
  { s with
    pucks := fun i => if i ∈ ids then (s.pucks i).map ({ · with state }) else s.pucks i }

/-- The machine takes the puck and rejects it. -/
def reject (m : MachineName) (id : Int) : Memory :=
  s.setMachine m { s.machines m with puckId := id, state := .invalid }

/-- The points for a puck of the wrong team. -/
def awardWrongTeam (m : MachineName) (reason : Reason) : Memory :=
  s.award
    { points := productionWrongTeamMachinePoints, team := (s.machines m).team
      gameTime := s.gamestate.gameTime, phase := .production, reason }

/-! ## RFID readings and pucks -/

/-- Rule `prod-net-recv-PlacePuckUnderMachine`: the puck is nowhere else. -/
def placePuckUnderMachine (m : MachineName) (id : Int) : Option Memory :=
  if s.Producing then
    some { s with
      rfidInputs := assertFact ⟨m, true, id⟩ (s.rfidInputs.filter (fun input => input.id ≠ id)) }
  else none

/-- Rule `rfid-input-learn-puck`. -/
def rfidInputLearnPuck (m : MachineName) (id : Int) : Option Memory :=
  if s.Reads m id ∧ s.pucks id = none then
    some (s.setPuck id { team := some (s.machines m).team, state := .s0 })
  else none

/-- Rule `rfid-input-cleanup`. -/
def rfidInputCleanup (input : RfidInput) : Option Memory :=
  if input ∈ s.rfidInputs then
    some { s with rfidInputs := s.rfidInputs.filter (· ≠ input) }
  else none

/-! ## Down times -/

/-- Rule `machine-down`. A running production is prolonged. -/
def machineDown (m : MachineName) : Option Memory :=
  let mf := s.machines m
  if s.Producing ∧ mf.state ≠ .down ∧ mf.downPeriod.1 ≤ s.gamestate.gameTime ∧
      s.gamestate.gameTime ≤ mf.downPeriod.2 then
    if mf.state = .processing then
      let downTime := mf.downPeriod.2 - mf.downPeriod.1
      some (s.setMachine m
        { mf with state := .down, prevState := mf.state, procStart := mf.procStart + downTime })
    else some (s.setMachine m { mf with state := .down, prevState := mf.state })
  else none

/-- Rule `machine-up`. -/
def machineUp (m : MachineName) : Option Memory :=
  let mf := s.machines m
  if s.Producing ∧ mf.state = .down ∧ mf.prevState ≠ .down ∧
      mf.downPeriod.2 ≤ s.gamestate.gameTime then
    some (s.setMachine m { mf with state := mf.prevState })
  else none

/-- Rule `delivery-gate-down-period`. -/
def deliveryGateDownPeriod (m : MachineName) (dp : DeliveryPeriod) : Option Memory :=
  let mf := s.machines m
  if s.Producing ∧ dp ∈ s.deliveryPeriods ∧ timeInRange s.gamestate.gameTime dp.period ∧
      mf.mtype = .deliver ∧ (mf.state = .idle ∨ mf.state = .invalid) ∧
      m ≠ dp.deliveryGates.1 ∧ m ≠ dp.deliveryGates.2 then
    some (s.setMachine m { mf with downPeriod := (dp.period.1, dp.period.2) })
  else none

/-! ## Production machines -/

/-- Rule `machine-proc-start`. -/
def machineProcStart (m : MachineName) (id : Int) : Option Memory :=
  let mf := s.machines m
  match machineSpec s.procTime mf.mtype, s.pucks id with
  | some spec, some puck =>
      if s.Producing ∧ s.Reads m id ∧ puck.state ∈ spec.inputs ∧ puck.team = some mf.team ∧
          (mf.state = .idle ∨ mf.state = .waiting) ∧
          ¬ s.AnyPuckInState puck.state mf.loadedWith ∧ ¬ s.Elsewhere (fun _ => true) m id then
        some (s.setMachine m
          { mf with
            puckId := id
            state := .processing
            procStart := s.gamestate.gameTime
            procTime :=
              -- the last puck to add takes the full time
              if mf.loadedWith.length + 1 = spec.inputs.length then spec.procTime
              else intermediateProcTime })
      else none
  | _, _ => none

/-- Rule `machine-invalid-input`: a puck the machine does not take, or takes no second of. -/
def machineInvalidInput (m : MachineName) (id : Int) : Option Memory :=
  let mf := s.machines m
  match machineSpec s.procTime mf.mtype, s.pucks id with
  | some spec, some puck =>
      if s.Producing ∧ s.Reads m id ∧
          ¬ s.Elsewhere (fun other => other.team = mf.team) m id ∧
          puck.team = some mf.team ∧ (mf.state = .idle ∨ mf.state = .waiting) ∧ mf.puckId = 0 ∧
          (puck.state ∉ spec.inputs ∨ s.AnyPuckInState puck.state mf.loadedWith) then
        some (s.reject m id)
      else none
  | _, _ => none

/-- Rule `machine-wrong-team-input`. -/
def machineWrongTeamInput (m : MachineName) (id : Int) : Option Memory :=
  let mf := s.machines m
  match s.pucks id with
  | some puck =>
      if s.Producing ∧ s.Reads m id ∧ mf.state ≠ .invalid ∧ IsProduction mf.mtype ∧
          puck.team ≠ some mf.team then
        some (((s.reject m id).setPuckStates [id] .finished).awardWrongTeam m
          (.wrongTeamPuck puck.team m mf.team))
      else none
  | none => none

/-- Rule `machine-invalid-input-junk`: the puck is at another machine already. It is consumed, and
taken out of every machine it is loaded into. -/
def machineInvalidInputJunk (m : MachineName) (id : Int) : Option Memory :=
  if s.Producing ∧ s.Reads m id ∧ IsProduction (s.machines m).mtype ∧ (s.pucks id).isSome = true ∧
      s.Elsewhere (fun _ => true) m id then
    let s' := (s.reject m id).setPuckStates [id] .consumed
    -- a machine that is processing the puck keeps it as `puck-id`
    some { s' with
      machines := fun n =>
        { s'.machines n with loadedWith := (s'.machines n).loadedWith.filter (· ≠ id) } }
  else none

/-- Rule `machine-proc-waiting`: an intermediate puck is loaded. -/
def machineProcWaiting (m : MachineName) : Option Memory :=
  let mf := s.machines m
  match machineSpec s.procTime mf.mtype, s.pucks mf.puckId with
  | some spec, some puck =>
      if s.Producing ∧ mf.state = .processing ∧ mf.loadedWith.length + 1 < spec.inputs.length ∧
          timeoutSec s.gamestate.gameTime mf.procStart mf.procTime ∧ puck.team = some mf.team then
        some (s.setMachine m
          { mf with state := .waiting, loadedWith := mf.loadedWith ++ [mf.puckId] })
      else none
  | _, _ => none

/-- Rule `machine-proc-done`: the puck under the reader becomes the output, the loaded ones are
consumed. -/
def machineProcDone (m : MachineName) : Option Memory :=
  let mf := s.machines m
  match machineSpec s.procTime mf.mtype, s.pucks mf.puckId with
  | some spec, some puck =>
      if s.Producing ∧ mf.state = .processing ∧ mf.loadedWith.length + 1 = spec.inputs.length ∧
          timeoutSec s.gamestate.gameTime mf.procStart mf.procTime ∧ puck.team = some mf.team then
        let s' := s.setMachine m
          { mf with state := .idle, loadedWith := [], productions := mf.productions + 1 }
        let s' := s'.award
          { points := spec.points, team := mf.team, gameTime := s.gamestate.gameTime
            phase := .production, reason := .productionDone mf.mtype m }
        let s' := s'.setPuck mf.puckId
          { puck with state := spec.output, stateChangeGameTime := s.gamestate.gameTime }
        some (s'.setPuckStates mf.loadedWith .consumed)
      else none
  | _, _ => none

/-- Rule `machine-puck-removal`. -/
def machinePuckRemoval (m : MachineName) : Option Memory :=
  let mf := s.machines m
  if s.Producing ∧ s.ReadsNone m ∧ IsProduction mf.mtype ∧ mf.puckId ≠ 0 then
    let state : MachineState := if mf.loadedWith = [] then .idle else .waiting
    if mf.state = .down then
      -- it returns to this state when the down time is over
      some (s.setMachine m { mf with prevState := state, puckId := 0 })
    else some (s.setMachine m { mf with state, puckId := 0 })
  else none

/-! ## Delivery gates -/

/-- Rule `deliver-invalid-input`. -/
def deliverInvalidInput (m : MachineName) (id : Int) : Option Memory :=
  let mf := s.machines m
  match s.pucks id with
  | some puck =>
      if s.Producing ∧ s.Reads m id ∧ mf.mtype = .deliver ∧
          (mf.state = .idle ∨ mf.state = .down) ∧ mf.puckId = 0 ∧
          puck.state ∉ [PuckState.p1, .p2, .p3] ∧ puck.team = some mf.team then
        some ((s.reject m id).setPuckStates [id] .finished)
      else none
  | none => none

/-- Rule `deliver-wrong-team-input`. -/
def deliverWrongTeamInput (m : MachineName) (id : Int) : Option Memory :=
  let mf := s.machines m
  match s.pucks id with
  | some puck =>
      if s.Producing ∧ s.Reads m id ∧ mf.mtype = .deliver ∧
          (mf.state = .idle ∨ mf.state = .down) ∧ mf.puckId = 0 ∧ puck.team ≠ some mf.team then
        some (((s.reject m id).setPuckStates [id] .finished).awardWrongTeam m
          (.wrongTeamDelivery puck.team m mf.team))
      else none
  | none => none

/-- Rule `deliver-proc-start`. In the grace time the down period is moved behind the delivery. -/
def deliverProcStart (m : MachineName) (id : Int) : Option Memory :=
  let mf := s.machines m
  let gtime := s.gamestate.gameTime
  match s.pucks id with
  | some puck =>
      if s.Producing ∧ s.Reads m id ∧ mf.mtype = .deliver ∧
          (mf.state = .idle ∨
            (mf.state = .down ∧ gtime - mf.downPeriod.1 ≤ (deliveryGateGraceTime : ℚ))) ∧
          puck.state ≠ .finished ∧ puck.team = some mf.team then
        some (s.setMachine m
          { mf with
            puckId := id
            state := .processing
            prevState := mf.state
            procStart := gtime
            downPeriod :=
              -- the gate is closed again after this delivery
              if mf.state = .down then
                (gtime + deliverProcTime + deliveryGateGraceTime, mf.downPeriod.2)
              else mf.downPeriod
            procTime := deliverProcTime })
      else none
  | none => none

/-- Rule `deliver-proc-done`. -/
def deliverProcDone (m : MachineName) : Option Memory :=
  let mf := s.machines m
  match s.pucks mf.puckId with
  | some puck =>
      if s.Producing ∧ mf.mtype = .deliver ∧ mf.state = .processing ∧
          timeoutSec s.gamestate.gameTime mf.procStart mf.procTime ∧ puck.state ≠ .finished ∧
          puck.team = some mf.team then
        let s' := s.setMachine m
          { mf with state := mf.prevState, productions := mf.productions + 1 }
        let s' := s'.setPuckStates [mf.puckId] .finished
        some { s' with
          productDelivered := assertFact
            ⟨s.gamestate.gameTime, puck.stateChangeGameTime, mf.team, puck.state, m⟩
            s'.productDelivered }
      else none
  | none => none

/-- Rule `deliver-down-machine`. -/
def deliverDownMachine (m : MachineName) (id : Int) : Option Memory :=
  let mf := s.machines m
  match s.pucks id with
  | some puck =>
      if s.Producing ∧ s.Reads m id ∧ mf.mtype = .deliver ∧ mf.state = .down ∧ mf.puckId = 0 ∧
          puck.state ∈ [PuckState.p1, .p2, .p3] ∧ puck.team = some mf.team then
        some ((s.reject m id).setPuckStates [id] .finished)
      else none
  | none => none

/-- The rules `deliver-removal` and `recycle-removal`. -/
def removal (mtype : MType) (m : MachineName) : Option Memory :=
  let mf := s.machines m
  if s.Producing ∧ s.ReadsNone m ∧ mf.mtype = mtype ∧ mf.puckId ≠ 0 then
    some (s.setMachine m { mf with puckId := 0, state := .idle })
  else none

def deliverRemoval (m : MachineName) : Option Memory := s.removal .deliver m

/-! ## Recycling machines -/

/-- Rule `recycle-proc-start`. -/
def recycleProcStart (m : MachineName) (id : Int) : Option Memory :=
  let mf := s.machines m
  match s.pucks id with
  | some puck =>
      if s.Producing ∧ s.Reads m id ∧ mf.mtype = .recycle ∧ mf.state = .idle ∧
          puck.state = .consumed ∧ puck.team = some mf.team then
        some (s.setMachine m
          { mf with
            puckId := id
            state := .processing
            procStart := s.gamestate.gameTime
            procTime := recycleProcTime })
      else none
  | none => none

/-- Rule `recycle-invalid-input`. -/
def recycleInvalidInput (m : MachineName) (id : Int) : Option Memory :=
  let mf := s.machines m
  match s.pucks id with
  | some puck =>
      if s.Producing ∧ s.Reads m id ∧ mf.mtype = .recycle ∧ mf.state = .idle ∧ mf.puckId = 0 ∧
          puck.state ≠ .consumed ∧ puck.team = some mf.team then
        some (s.reject m id)
      else none
  | none => none

/-- Rule `recycle-wrong-team-input`. -/
def recycleWrongTeamInput (m : MachineName) (id : Int) : Option Memory :=
  let mf := s.machines m
  match s.pucks id with
  | some puck =>
      if s.Producing ∧ s.Reads m id ∧ mf.mtype = .recycle ∧ mf.state = .idle ∧ mf.puckId = 0 ∧
          puck.team ≠ some mf.team then
        some (((s.reject m id).setPuckStates [id] .finished).awardWrongTeam m
          (.wrongTeamRecycling puck.team m mf.team))
      else none
  | none => none

/-- Rule `recycle-proc-done`. -/
def recycleProcDone (m : MachineName) : Option Memory :=
  let mf := s.machines m
  match s.pucks mf.puckId with
  | some puck =>
      if s.Producing ∧ mf.mtype = .recycle ∧ mf.state = .processing ∧
          timeoutSec s.gamestate.gameTime mf.procStart mf.procTime ∧ puck.state = .consumed ∧
          puck.team = some mf.team then
        let s' := s.setMachine m { mf with state := .idle, productions := mf.productions + 1 }
        let s' := s'.setPuckStates [mf.puckId] .s0
        some (s'.award
          { points := recyclePoints, team := mf.team, gameTime := s.gamestate.gameTime
            phase := .production, reason := .recyclingDone m })
      else none
  | none => none

def recycleRemoval (m : MachineName) : Option Memory := s.removal .recycle m

/-! ## One step -/

/-- The memory after an activation, if it is enabled. -/
def step (s : Memory) : Activation → Option Memory
  | .gamestate gamestate => some { s with gamestate }
  | .rfidInput input => some { s with rfidInputs := assertFact input s.rfidInputs }
  | .placePuckUnderMachine m id => s.placePuckUnderMachine m id
  | .rfidInputLearnPuck m id => s.rfidInputLearnPuck m id
  | .rfidInputCleanup input => s.rfidInputCleanup input
  | .activateOrder order => s.activateOrder order
  | .orderDeliveredInTime pd order => s.orderDeliveredInTime pd order
  | .orderDeliveredOutOfTime pd => s.orderDeliveredOutOfTime pd
  | .machineDown m => s.machineDown m
  | .machineUp m => s.machineUp m
  | .machineProcStart m id => s.machineProcStart m id
  | .machineInvalidInput m id => s.machineInvalidInput m id
  | .machineWrongTeamInput m id => s.machineWrongTeamInput m id
  | .machineInvalidInputJunk m id => s.machineInvalidInputJunk m id
  | .machineProcWaiting m => s.machineProcWaiting m
  | .machineProcDone m => s.machineProcDone m
  | .machinePuckRemoval m => s.machinePuckRemoval m
  | .deliveryGateDownPeriod m dp => s.deliveryGateDownPeriod m dp
  | .deliverInvalidInput m id => s.deliverInvalidInput m id
  | .deliverWrongTeamInput m id => s.deliverWrongTeamInput m id
  | .deliverProcStart m id => s.deliverProcStart m id
  | .deliverProcDone m => s.deliverProcDone m
  | .deliverDownMachine m id => s.deliverDownMachine m id
  | .deliverRemoval m => s.deliverRemoval m
  | .recycleProcStart m id => s.recycleProcStart m id
  | .recycleInvalidInput m id => s.recycleInvalidInput m id
  | .recycleWrongTeamInput m id => s.recycleWrongTeamInput m id
  | .recycleProcDone m => s.recycleProcDone m
  | .recycleRemoval m => s.recycleRemoval m

/-- The rules leave the gamestate alone, and none awards points outside RUNNING PRODUCTION. -/
theorem step_frame {s s' : Memory} {a : Activation} (ha : a.isGamestate = false)
    (h : s.step a = some s') :
    s'.gamestate = s.gamestate ∧ (s'.points = s.points ∨ s.Producing) := by
  cases a
  case gamestate gamestate => cases ha
  case rfidInput input =>
    cases h
    exact ⟨rfl, Or.inl rfl⟩
  case rfidInputLearnPuck m id =>
    obtain ⟨_, hs⟩ := Option.ite_none_right_eq_some.mp h
    cases hs
    exact ⟨rfl, Or.inl rfl⟩
  case rfidInputCleanup input =>
    obtain ⟨_, hs⟩ := Option.ite_none_right_eq_some.mp h
    cases hs
    exact ⟨rfl, Or.inl rfl⟩
  case placePuckUnderMachine m id =>
    obtain ⟨hproducing, hs⟩ := Option.ite_none_right_eq_some.mp h
    cases hs
    exact ⟨rfl, Or.inr hproducing⟩
  -- the other rules match a RUNNING PRODUCTION gamestate
  all_goals
    simp only [step, activateOrder, orderDeliveredInTime, orderDeliveredOutOfTime, machineDown,
      machineUp, machineProcStart, machineInvalidInput, machineWrongTeamInput,
      machineInvalidInputJunk, machineProcWaiting, machineProcDone, machinePuckRemoval,
      deliveryGateDownPeriod, deliverInvalidInput, deliverWrongTeamInput, deliverProcStart,
      deliverProcDone, deliverDownMachine, deliverRemoval, recycleProcStart, recycleInvalidInput,
      recycleWrongTeamInput, recycleProcDone, recycleRemoval, removal] at h
    repeat' split at h
    all_goals first
      | cases h
        exact ⟨rfl, Or.inr (by tauto)⟩
      | cases h

end Memory

/-- A run of the production phase. -/
abbrev ProductionRun := Run (fun s i s' => Memory.step s i = some s')

end FactoryHub.Llsf
