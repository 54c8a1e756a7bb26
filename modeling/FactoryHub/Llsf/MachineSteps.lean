import FactoryHub.Llsf.ProductionSound

/-!
# What a rule does to a machine

One relation, `Becomes`, lists all that the rules of the production phase do to a machine fact, with
what they have checked; `step_becomes` is the inversion of `step` into it. What holds of every
machine along a run is shown by cases on this list.
-/

namespace FactoryHub.Llsf

open Lib

namespace Machine

/-- The machine after `machine-down`. -/
def down (mf : Machine) : Machine :=
  { mf with
    state := .down
    prevState := mf.state
    procStart :=
      if mf.state = .processing then mf.procStart + (mf.downPeriod.2 - mf.downPeriod.1)
      else mf.procStart }

/-- The machine after `machine-up`. -/
def up (mf : Machine) : Machine := { mf with state := mf.prevState }

/-- What `machine-down` asks of a machine at a game time. -/
def IsDue (mf : Machine) (gtime : ℚ) : Prop :=
  mf.state ≠ .down ∧ mf.downPeriod.1 ≤ gtime ∧ gtime ≤ mf.downPeriod.2

/-- What `machine-up` asks of a machine at a game time. -/
def IsBack (mf : Machine) (gtime : ℚ) : Prop :=
  mf.state = .down ∧ mf.prevState ≠ .down ∧ mf.downPeriod.2 ≤ gtime

instance (mf : Machine) (gtime : ℚ) : Decidable (mf.IsDue gtime) := by
  unfold IsDue
  infer_instance

instance (mf : Machine) (gtime : ℚ) : Decidable (mf.IsBack gtime) := by
  unfold IsBack
  infer_instance

end Machine

namespace Memory

variable {s s' : Memory} {m : MachineName}

@[simp] theorem setMachine_machines (s : Memory) (m n : MachineName) (mf : Machine) :
    (s.setMachine m mf).machines n = if n = m then mf else s.machines n := rfl

theorem machineDown_eq_some_iff : s.machineDown m = some s' ↔
    s.Producing ∧ (s.machines m).IsDue s.gamestate.gameTime ∧
      s' = s.setMachine m (s.machines m).down := by
  unfold machineDown Machine.IsDue Machine.down
  dsimp only
  rw [Option.ite_none_right_eq_some, and_assoc]
  refine and_congr_right fun _ => and_congr_right fun _ => ?_
  split
  · rw [Option.some.injEq, eq_comm]
  · rw [Option.some.injEq, eq_comm]

theorem machineUp_eq_some_iff : s.machineUp m = some s' ↔
    s.Producing ∧ (s.machines m).IsBack s.gamestate.gameTime ∧
      s' = s.setMachine m (s.machines m).up := by
  unfold machineUp Machine.IsBack Machine.up
  dsimp only
  rw [Option.ite_none_right_eq_some, and_assoc, Option.some.injEq, @eq_comm _ s']

/-- What the machine of a name becomes by the firing of a rule. -/
inductive Becomes (s : Memory) (n : MachineName) : Activation → Machine → Prop where
  | same (a : Activation) : Becomes s n a (s.machines n)
  | machineDown (hdue : (s.machines n).IsDue s.gamestate.gameTime) :
      Becomes s n (.machineDown n) (s.machines n).down
  | machineUp (hback : (s.machines n).IsBack s.gamestate.gameTime) :
      Becomes s n (.machineUp n) (s.machines n).up
  | deliveryGateDownPeriod (dp : DeliveryPeriod) (period : ℚ × ℚ)
      (hmtype : (s.machines n).mtype = .deliver) :
      Becomes s n (.deliveryGateDownPeriod n dp) { s.machines n with downPeriod := period }
  | machineProcStart {id : Int} {puck : Puck} (procTime : Int) (hpuck : s.pucks id = some puck)
      (hfree : ¬ s.AnyPuckInState puck.state (s.machines n).loadedWith) :
      Becomes s n (.machineProcStart n id)
        { s.machines n with
          puckId := id, state := .processing, procStart := s.gamestate.gameTime, procTime }
  | deliverProcStart {id : Int} (downPeriod : ℚ × ℚ) (hmtype : (s.machines n).mtype = .deliver) :
      Becomes s n (.deliverProcStart n id)
        { s.machines n with
          puckId := id, state := .processing, prevState := (s.machines n).state
          procStart := s.gamestate.gameTime, downPeriod, procTime := deliverProcTime }
  | recycleProcStart {id : Int} (hmtype : (s.machines n).mtype = .recycle) :
      Becomes s n (.recycleProcStart n id)
        { s.machines n with
          puckId := id, state := .processing, procStart := s.gamestate.gameTime
          procTime := recycleProcTime }
  | reject (a : Activation) (id : Int) :
      Becomes s n a { s.machines n with puckId := id, state := .invalid }
  /-- The junk puck is taken out, of the machine that rejects it or of another one. -/
  | junk (m : MachineName) (id : Int) :
      Becomes s n (.machineInvalidInputJunk m id)
        { ((s.reject m id).machines n) with
          loadedWith := ((s.reject m id).machines n).loadedWith.filter (· ≠ id) }
  | machineProcWaiting {spec : MachineSpec} (hproc : (s.machines n).state = .processing)
      (hspec : machineSpec s.procTime (s.machines n).mtype = some spec)
      (hroom : (s.machines n).loadedWith.length + 1 < spec.inputs.length) :
      Becomes s n (.machineProcWaiting n)
        { s.machines n with
          state := .waiting, loadedWith := (s.machines n).loadedWith ++ [(s.machines n).puckId] }
  | machineProcDone :
      Becomes s n (.machineProcDone n)
        { s.machines n with
          state := .idle, loadedWith := [], productions := (s.machines n).productions + 1 }
  | puckRemoval (state : MachineState) (hstate : state = .idle ∨ state = .waiting) :
      Becomes s n (.machinePuckRemoval n) { s.machines n with state, puckId := 0 }
  | puckRemovalDown (state : MachineState) (hstate : state = .idle ∨ state = .waiting)
      (hdown : (s.machines n).state = .down) :
      Becomes s n (.machinePuckRemoval n) { s.machines n with prevState := state, puckId := 0 }
  | deliverProcDone (hmtype : (s.machines n).mtype = .deliver)
      (hproc : (s.machines n).state = .processing) :
      Becomes s n (.deliverProcDone n)
        { s.machines n with
          state := (s.machines n).prevState, productions := (s.machines n).productions + 1 }
  | recycleProcDone (hmtype : (s.machines n).mtype = .recycle) :
      Becomes s n (.recycleProcDone n)
        { s.machines n with
          state := .idle, productions := (s.machines n).productions + 1 }
  | removal (a : Activation) : Becomes s n a { s.machines n with puckId := 0, state := .idle }

/-- A rule that modifies one machine. -/
theorem Becomes.of_setMachine {a : Activation} {mf : Machine} (h : s.Becomes m a mf)
    (hmachines : s'.machines = (s.setMachine m mf).machines) (n : MachineName) :
    s.Becomes n a (s'.machines n) := by
  rw [hmachines, setMachine_machines]
  split
  · next heq => exact heq ▸ h
  · exact .same a

/-- A rule that modifies no machine. -/
theorem Becomes.of_machines {a : Activation} (hmachines : s'.machines = s.machines)
    (n : MachineName) : s.Becomes n a (s'.machines n) := by
  rw [hmachines]
  exact .same a

/-- The rules that reject a puck. -/
theorem machines_of_rejecting {id : Int}
    (h : s.machineInvalidInput m id = some s' ∨ s.machineWrongTeamInput m id = some s' ∨
      s.deliverInvalidInput m id = some s' ∨ s.deliverWrongTeamInput m id = some s' ∨
      s.deliverDownMachine m id = some s' ∨ s.recycleInvalidInput m id = some s' ∨
      s.recycleWrongTeamInput m id = some s') : s'.machines = (s.reject m id).machines := by
  simp only [machineInvalidInput, machineWrongTeamInput, deliverInvalidInput,
    deliverWrongTeamInput, deliverDownMachine, recycleInvalidInput, recycleWrongTeamInput] at h
  rcases h with h | h | h | h | h | h | h
  all_goals
    split at h
    · obtain ⟨-, hs⟩ := Option.ite_none_right_eq_some.mp h
      cases hs
      rfl
    · cases h

theorem becomes_of_rejecting {a : Activation} {id : Int}
    (h : s.machineInvalidInput m id = some s' ∨ s.machineWrongTeamInput m id = some s' ∨
      s.deliverInvalidInput m id = some s' ∨ s.deliverWrongTeamInput m id = some s' ∨
      s.deliverDownMachine m id = some s' ∨ s.recycleInvalidInput m id = some s' ∨
      s.recycleWrongTeamInput m id = some s') (n : MachineName) :
    s.Becomes n a (s'.machines n) :=
  (Becomes.reject a id).of_setMachine (machines_of_rejecting h) n

theorem becomes_of_removal {a : Activation} {mtype : MType} (h : s.removal mtype m = some s')
    (n : MachineName) : s.Becomes n a (s'.machines n) := by
  obtain ⟨-, hs⟩ := Option.ite_none_right_eq_some.mp h
  cases hs
  exact (Becomes.removal a).of_setMachine rfl n

theorem becomes_machineProcStart {id : Int} (h : s.machineProcStart m id = some s')
    (n : MachineName) : s.Becomes n (.machineProcStart m id) (s'.machines n) := by
  unfold machineProcStart at h
  dsimp only at h
  split at h
  · next spec puck _ hpuck =>
      obtain ⟨⟨-, -, -, -, -, hfree, -⟩, hs⟩ := Option.ite_none_right_eq_some.mp h
      cases hs
      exact (Becomes.machineProcStart _ hpuck hfree).of_setMachine rfl n
  · cases h

theorem becomes_deliverProcStart {id : Int} (h : s.deliverProcStart m id = some s')
    (n : MachineName) : s.Becomes n (.deliverProcStart m id) (s'.machines n) := by
  unfold deliverProcStart at h
  dsimp only at h
  split at h
  · obtain ⟨⟨-, -, hmtype, -⟩, hs⟩ := Option.ite_none_right_eq_some.mp h
    cases hs
    exact (Becomes.deliverProcStart _ hmtype).of_setMachine rfl n
  · cases h

theorem becomes_recycleProcStart {id : Int} (h : s.recycleProcStart m id = some s')
    (n : MachineName) : s.Becomes n (.recycleProcStart m id) (s'.machines n) := by
  unfold recycleProcStart at h
  dsimp only at h
  split at h
  · obtain ⟨⟨-, -, hmtype, -⟩, hs⟩ := Option.ite_none_right_eq_some.mp h
    cases hs
    exact (Becomes.recycleProcStart hmtype).of_setMachine rfl n
  · cases h

theorem becomes_machineProcWaiting (h : s.machineProcWaiting m = some s') (n : MachineName) :
    s.Becomes n (.machineProcWaiting m) (s'.machines n) := by
  unfold machineProcWaiting at h
  dsimp only at h
  split at h
  · next spec puck hspec _ =>
      obtain ⟨⟨-, hproc, hroom, -⟩, hs⟩ := Option.ite_none_right_eq_some.mp h
      cases hs
      exact (Becomes.machineProcWaiting hproc hspec hroom).of_setMachine rfl n
  · cases h

theorem becomes_machineProcDone (h : s.machineProcDone m = some s') (n : MachineName) :
    s.Becomes n (.machineProcDone m) (s'.machines n) := by
  unfold machineProcDone at h
  dsimp only at h
  split at h
  · obtain ⟨-, hs⟩ := Option.ite_none_right_eq_some.mp h
    cases hs
    exact Becomes.machineProcDone.of_setMachine rfl n
  · cases h

theorem becomes_machinePuckRemoval (h : s.machinePuckRemoval m = some s') (n : MachineName) :
    s.Becomes n (.machinePuckRemoval m) (s'.machines n) := by
  obtain ⟨-, hs⟩ := Option.ite_none_right_eq_some.mp h
  have hrest : ∀ load : List Int,
      (if load = [] then MachineState.idle else .waiting) = .idle ∨
        (if load = [] then MachineState.idle else .waiting) = .waiting := by
    intro load
    split
    · exact Or.inl rfl
    · exact Or.inr rfl
  split at hs
  · next hdown =>
      cases hs
      exact (Becomes.puckRemovalDown _ (hrest _) hdown).of_setMachine rfl n
  · cases hs
    exact (Becomes.puckRemoval _ (hrest _)).of_setMachine rfl n

theorem becomes_deliverProcDone (h : s.deliverProcDone m = some s') (n : MachineName) :
    s.Becomes n (.deliverProcDone m) (s'.machines n) := by
  unfold deliverProcDone at h
  dsimp only at h
  split at h
  · obtain ⟨⟨-, hmtype, hproc, -⟩, hs⟩ := Option.ite_none_right_eq_some.mp h
    cases hs
    exact (Becomes.deliverProcDone hmtype hproc).of_setMachine rfl n
  · cases h

theorem becomes_recycleProcDone (h : s.recycleProcDone m = some s') (n : MachineName) :
    s.Becomes n (.recycleProcDone m) (s'.machines n) := by
  unfold recycleProcDone at h
  dsimp only at h
  split at h
  · obtain ⟨⟨-, hmtype, -⟩, hs⟩ := Option.ite_none_right_eq_some.mp h
    cases hs
    exact (Becomes.recycleProcDone hmtype).of_setMachine rfl n
  · cases h

/-- **What one step does to a machine.** -/
theorem step_becomes {a : Activation} (h : s.step a = some s') (n : MachineName) :
    s.Becomes n a (s'.machines n) := by
  cases a with
  | gamestate gamestate =>
      cases h
      exact .same _
  | rfidInput input =>
      cases h
      exact .same _
  | placePuckUnderMachine m id =>
      obtain ⟨-, hs⟩ := Option.ite_none_right_eq_some.mp h
      cases hs
      exact .same _
  | rfidInputLearnPuck m id =>
      obtain ⟨-, hs⟩ := Option.ite_none_right_eq_some.mp h
      cases hs
      exact .same _
  | rfidInputCleanup input =>
      obtain ⟨-, hs⟩ := Option.ite_none_right_eq_some.mp h
      cases hs
      exact .same _
  | activateOrder order =>
      obtain ⟨-, hs⟩ := Option.ite_none_right_eq_some.mp h
      cases hs
      exact .same _
  | orderDeliveredInTime pd order =>
      obtain ⟨-, hs⟩ := Option.ite_none_right_eq_some.mp h
      refine .of_machines ?_ n
      dsimp only at hs
      split at hs <;> cases hs
      · split <;> rfl
      · rfl
  | orderDeliveredOutOfTime pd =>
      obtain ⟨-, hs⟩ := Option.ite_none_right_eq_some.mp h
      cases hs
      exact .same _
  | machineDown m =>
      obtain ⟨-, hdue, rfl⟩ := machineDown_eq_some_iff.mp h
      exact (Becomes.machineDown hdue).of_setMachine rfl n
  | machineUp m =>
      obtain ⟨-, hback, rfl⟩ := machineUp_eq_some_iff.mp h
      exact (Becomes.machineUp hback).of_setMachine rfl n
  | deliveryGateDownPeriod m dp =>
      obtain ⟨⟨-, -, -, hmtype, -⟩, hs⟩ := Option.ite_none_right_eq_some.mp h
      cases hs
      exact (Becomes.deliveryGateDownPeriod dp _ hmtype).of_setMachine rfl n
  | machineInvalidInputJunk m id =>
      obtain ⟨-, hs⟩ := Option.ite_none_right_eq_some.mp h
      cases hs
      exact .junk m id
  | machineProcStart m id => exact becomes_machineProcStart h n
  | deliverProcStart m id => exact becomes_deliverProcStart h n
  | recycleProcStart m id => exact becomes_recycleProcStart h n
  | machineInvalidInput m id => exact becomes_of_rejecting (Or.inl h) n
  | machineWrongTeamInput m id => exact becomes_of_rejecting (Or.inr (Or.inl h)) n
  | deliverInvalidInput m id => exact becomes_of_rejecting (Or.inr (Or.inr (Or.inl h))) n
  | deliverWrongTeamInput m id => exact becomes_of_rejecting (Or.inr (Or.inr (Or.inr (Or.inl h)))) n
  | deliverDownMachine m id =>
      exact becomes_of_rejecting (Or.inr (Or.inr (Or.inr (Or.inr (Or.inl h))))) n
  | recycleInvalidInput m id =>
      exact becomes_of_rejecting (Or.inr (Or.inr (Or.inr (Or.inr (Or.inr (Or.inl h)))))) n
  | recycleWrongTeamInput m id =>
      exact becomes_of_rejecting (Or.inr (Or.inr (Or.inr (Or.inr (Or.inr (Or.inr h)))))) n
  | machineProcWaiting m => exact becomes_machineProcWaiting h n
  | machineProcDone m => exact becomes_machineProcDone h n
  | machinePuckRemoval m => exact becomes_machinePuckRemoval h n
  | deliverProcDone m => exact becomes_deliverProcDone h n
  | recycleProcDone m => exact becomes_recycleProcDone h n
  | deliverRemoval m => exact becomes_of_removal h n
  | recycleRemoval m => exact becomes_of_removal h n

end Memory

end FactoryHub.Llsf
