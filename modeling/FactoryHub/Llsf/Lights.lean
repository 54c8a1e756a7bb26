import FactoryHub.Llsf.LoadUpdates
import FactoryHub.Llsf.SpsComm

/-!
# What the lights show

The lights of the machines in the production phase: the `desired-lights` that the rules of
`production.clp` set beside the state of a machine, the rule `machine-lights` of `machines.clp`, and
the signals that it sends to the PLCs by `sps-set-signal`.

* `lights_show_state` — along a run of the production phase, the desired lights of a machine that is
  no delivery gate tell its state.
* `plcs_show_lights` — whatever sets the desired lights, the registers of the PLCs show them as soon
  as `machine-lights` has nothing left to do.
-/

namespace FactoryHub.Llsf

open Lib SpsComm

/-! ## Lights -/

inductive LightColor where
  | red | yellow | green
  deriving DecidableEq, Repr

/-- The allowed values of `desired-lights` and `actual-lights`. -/
inductive LightSymbol where
  | redOn | redBlink | yellowOn | yellowBlink | greenOn | greenBlink
  deriving DecidableEq, Repr

/-- `(sym-cat ?color "-ON")`. -/
def LightColor.on : LightColor → LightSymbol
  | .red => .redOn
  | .yellow => .yellowOn
  | .green => .greenOn

/-- `(sym-cat ?color "-BLINK")`. -/
def LightColor.blink : LightColor → LightSymbol
  | .red => .redBlink
  | .yellow => .yellowBlink
  | .green => .greenBlink

/-- `to_light`. -/
def LightColor.toLight : LightColor → Light
  | .red => .red
  | .yellow => .yellow
  | .green => .green

/-- The signal that `machine-lights` sets for a color. -/
def signalOf (lights : List LightSymbol) (color : LightColor) : SignalState :=
  if color.on ∈ lights then .on else if color.blink ∈ lights then .blink else .off

/-- The machine facts with their lights, and the requests made to the PLCs. -/
structure LitMemory extends Memory where
  desiredLights : MachineName → List LightSymbol := fun _ => [.greenOn, .yellowOn, .redOn]
  actualLights : MachineName → List LightSymbol := fun _ => []
  log : Log := {}

/-! ## The numbers of the machines -/

inductive MachineAssignment where
  | assignment2013 | assignment2014
  deriving DecidableEq, Repr

/-- `to_machine`, which throws where this has no number. -/
def toMachine : MachineAssignment → MachineName → Option UInt32
  | .assignment2013, m => match m with
      | .m1 => some 0 | .m2 => some 1 | .m3 => some 2 | .m4 => some 3 | .m5 => some 4
      | .m6 => some 5 | .m7 => some 6 | .m8 => some 7 | .m9 => some 8 | .m10 => some 9
      | .d1 => some 10 | .d2 => some 11 | .d3 => some 12 | .r1 => some 14 | .r2 => some 15
      | _ => none
  | .assignment2014, m => match m with
      | .m1 => some 0 | .m2 => some 1 | .m3 => some 2 | .m4 => some 3 | .m5 => some 4
      | .m6 => some 5 | .m7 => some 6 | .m8 => some 7 | .m9 => some 8 | .m10 => some 9
      | .m11 => some 10 | .m12 => some 11 | .d1 => some 12 | .d2 => some 13 | .d3 => some 14
      | .r1 => some 15 | .m13 => some 16 | .m14 => some 17 | .m15 => some 18 | .m16 => some 19
      | .m17 => some 20 | .m18 => some 21 | .m19 => some 22 | .m20 => some 23 | .m21 => some 24
      | .m22 => some 25 | .m23 => some 26 | .m24 => some 27 | .d4 => some 28 | .d5 => some 29
      | .d6 => some 30 | .r2 => some 31

/-! ## Rules -/

/-- The machine whose `desired-lights` a rule sets, and the lights. -/
def Memory.lightsSet (s : Memory) : Activation → Option (MachineName × List LightSymbol)
  | .machineDown m =>
      let mf := s.machines m
      if mf.state = .processing then some (m, [.redOn])
      else if mf.puckId ≠ 0 ∧ mf.mtype = .deliver then some (m, [.redOn, .yellowBlink])
      else some (m, [.redOn])
  | .machineUp m =>
      match (s.machines m).prevState with
      | .processing => some (m, [.greenOn, .yellowOn])
      | .waiting => some (m, [.yellowOn])
      | .invalid => some (m, [.yellowBlink])
      | .idle => some (m, [.greenOn])
      | .down => none
  | .machineProcStart m _ | .deliverProcStart m _ | .recycleProcStart m _ =>
      some (m, [.greenOn, .yellowOn])
  | .machineInvalidInput m _ | .machineInvalidInputJunk m _ | .recycleInvalidInput m _ =>
      some (m, [.yellowBlink])
  | .machineWrongTeamInput m _ | .deliverWrongTeamInput m _ | .recycleWrongTeamInput m _ =>
      some (m, [.redBlink, .yellowBlink])
  | .machineProcWaiting m => some (m, [.yellowOn])
  | .machineProcDone m | .recycleProcDone m | .deliverRemoval m | .recycleRemoval m =>
      some (m, [.greenOn])
  | .machinePuckRemoval m =>
      let mf := s.machines m
      if mf.state = .down then none
      else if mf.loadedWith = [] then some (m, [.greenOn])
      else some (m, [.yellowOn])
  | .deliverInvalidInput m _ =>
      if (s.machines m).state = .down then some (m, [.redOn, .yellowBlink])
      else some (m, [.yellowBlink])
  | .deliverProcDone m => some (m, [.greenOn, .yellowOn, .redOn])
  | .deliverDownMachine m _ => some (m, [.redOn, .yellowBlink])
  | _ => none

/-- What happens to the lights. -/
inductive LightEvent where
  | production (a : Activation)
  /-- A rule of another phase sets lights. -/
  | setLights (lights : MachineName → List LightSymbol)
  | machineLights (machine : MachineName)

def LightEvent.isSetLights : LightEvent → Bool
  | .setLights _ => true
  | _ => false

namespace LitMemory

variable (plcs : Plcs) (assignment : MachineAssignment) (s : LitMemory)

/-- A rule of the production phase, with the lights it sets. -/
def production (a : Activation) : Option LitMemory :=
  (s.toMemory.step a).map fun memory =>
    { s with
      toMemory := memory
      desiredLights := fun n =>
        match s.lightsSet a with
        | some (m, lights) => if n = m then lights else s.desiredLights n
        | none => s.desiredLights n }

/-- `clips_sps_set_signal`, which logs the exceptions that `to_machine` and `set_light` throw. -/
def spsSetSignal (m : MachineName) (color : LightColor) (state : SignalState) (log : Log) : Log :=
  match toMachine assignment m with
  | some i => (exec (setLight plcs i color.toLight state) log).2
  | none => log

/-- Rule `machine-lights`. -/
def machineLights (m : MachineName) : Option LitMemory :=
  if s.actualLights m ≠ s.desiredLights m then
    some { s with
      actualLights := fun n => if n = m then s.desiredLights m else s.actualLights n
      log := [LightColor.red, .yellow, .green].foldl (fun log color =>
        spsSetSignal plcs assignment m color (signalOf (s.desiredLights m) color) log) s.log }
  else none

def step : LightEvent → Option LitMemory
  | .production a => s.production a
  | .setLights lights => some { s with desiredLights := lights }
  | .machineLights m => s.machineLights plcs assignment m

end LitMemory

/-- A run of the lights. -/
abbrev LitRun (plcs : Plcs) (assignment : MachineAssignment) :=
  Run (fun s e s' => LitMemory.step plcs assignment s e = some s')

/-! ## The state that lights show -/

/-- The state of a machine that is no delivery gate, from its lights. -/
def stateOfLights (signal : LightColor → SignalState) : Option MachineState :=
  match signal .red, signal .yellow, signal .green with
  | .off, .off, .on => some .idle
  | .off, .on, .on => some .processing
  | .off, .on, .off => some .waiting
  | .on, .off, .off => some .down
  | _, .blink, .off => some .invalid
  | _, _, _ => none

/-- The lights tell the state. -/
def Shows (lights : List LightSymbol) (state : MachineState) : Prop :=
  stateOfLights (signalOf lights) = some state

instance (lights : List LightSymbol) (state : MachineState) : Decidable (Shows lights state) := by
  unfold Shows
  infer_instance

namespace Memory

variable {s s' : Memory} {m : MachineName}

/-- The lights that a rule sets tell the state that it leaves, and the states of the other machines
are as before. -/
def Told (s s' : Memory) : Option (MachineName × List LightSymbol) → Prop
  | some (m, lights) =>
      ((s.machines m).mtype ≠ .deliver → Shows lights (s'.machines m).state) ∧
        ∀ n ≠ m, (s'.machines n).state = (s.machines n).state
  | none => ∀ n, (s'.machines n).state = (s.machines n).state

/-- A rule that modifies one machine. -/
theorem told_of_setMachine {mf : Machine} {lights : List LightSymbol}
    (hmachines : s'.machines = (s.setMachine m mf).machines)
    (hshows : (s.machines m).mtype ≠ .deliver → Shows lights mf.state) :
    s.Told s' (some (m, lights)) := by
  constructor
  · intro hmtype
    simpa [hmachines] using hshows hmtype
  · intro n hne
    simp [hmachines, hne]

/-- A rule that modifies no machine. -/
theorem told_of_machines (hmachines : s'.machines = s.machines) : s.Told s' none := by
  intro n
  rw [hmachines]

/-- The rules that reject a puck, whatever they blink with. -/
theorem told_of_rejecting {id : Int} {lights : List LightSymbol}
    (h : s.machineInvalidInput m id = some s' ∨ s.machineWrongTeamInput m id = some s' ∨
      s.deliverInvalidInput m id = some s' ∨ s.deliverWrongTeamInput m id = some s' ∨
      s.deliverDownMachine m id = some s' ∨ s.recycleInvalidInput m id = some s' ∨
      s.recycleWrongTeamInput m id = some s') (hshows : Shows lights .invalid) :
    s.Told s' (some (m, lights)) :=
  told_of_setMachine (machines_of_rejecting h) fun _ => hshows

theorem told_machineDown (h : s.machineDown m = some s') :
    s.Told s' (s.lightsSet (.machineDown m)) := by
  obtain ⟨-, -, rfl⟩ := machineDown_eq_some_iff.mp h
  have hshows : Shows [.redOn] (s.machines m).down.state := rfl
  simp only [lightsSet]
  split
  · exact told_of_setMachine rfl fun _ => hshows
  · split
    · -- only a gate shows that a puck is in it
      next hpuck => exact told_of_setMachine rfl fun hmtype => absurd hpuck.2 hmtype
    · exact told_of_setMachine rfl fun _ => hshows

theorem told_machineUp (h : s.machineUp m = some s') : s.Told s' (s.lightsSet (.machineUp m)) := by
  obtain ⟨-, ⟨-, hprev, -⟩, rfl⟩ := machineUp_eq_some_iff.mp h
  simp only [lightsSet]
  split
  case h_5 hdown => exact absurd hdown hprev
  all_goals
    next hprev =>
      apply told_of_setMachine rfl
      intro _
      simp only [Machine.up, hprev]
      decide

theorem told_machineInvalidInputJunk {id : Int} (h : s.machineInvalidInputJunk m id = some s') :
    s.Told s' (s.lightsSet (.machineInvalidInputJunk m id)) := by
  obtain ⟨-, hs⟩ := Option.ite_none_right_eq_some.mp h
  cases hs
  constructor
  · intro _
    simp [reject, setPuckStates, Shows, signalOf, stateOfLights, LightColor.on, LightColor.blink]
  · -- the others may lose the puck, but keep their state
    intro n hne
    simp [reject, setPuckStates, hne]

theorem told_machinePuckRemoval (h : s.machinePuckRemoval m = some s') :
    s.Told s' (s.lightsSet (.machinePuckRemoval m)) := by
  obtain ⟨-, hs⟩ := Option.ite_none_right_eq_some.mp h
  simp only [lightsSet]
  split at hs
  · next hdown =>
      -- it stays down, and its lights as they are
      cases hs
      rw [if_pos hdown]
      intro n
      by_cases hne : n = m <;> simp [hne]
  · next hup =>
      cases hs
      rw [if_neg hup]
      split
      · exact told_of_setMachine rfl fun _ => by simp [*]; decide
      · exact told_of_setMachine rfl fun _ => by simp [*]; decide

/-- The rules that start, continue and end the work of a machine. -/
theorem told_of_working {a : Activation}
    (hm : a ∈ [.machineProcWaiting m, .machineProcDone m, .recycleProcDone m, .deliverProcDone m] ∨
      ∃ id, a ∈ [.machineProcStart m id, .deliverProcStart m id, .recycleProcStart m id])
    (h : s.step a = some s') : s.Told s' (s.lightsSet a) := by
  simp only [List.mem_cons, List.not_mem_nil, or_false] at hm
  rcases hm with (rfl | rfl | rfl | rfl) | ⟨id, rfl | rfl | rfl⟩
  case inl.inr.inr.inr =>
    -- the gate returns to the state before the delivery, with all lights
    simp only [step, deliverProcDone] at h
    split at h
    · obtain ⟨⟨-, hmtype, -⟩, hs⟩ := Option.ite_none_right_eq_some.mp h
      cases hs
      exact told_of_setMachine rfl fun hne => absurd hmtype hne
    · cases h
  all_goals
    simp only [step, machineProcWaiting, machineProcDone, recycleProcDone, machineProcStart,
      deliverProcStart, recycleProcStart] at h
    split at h
    · obtain ⟨-, hs⟩ := Option.ite_none_right_eq_some.mp h
      cases hs
      exact told_of_setMachine rfl fun _ => rfl
    · cases h

theorem told_of_removal {mtype : MType} (h : s.removal mtype m = some s') :
    s.Told s' (some (m, [.greenOn])) := by
  obtain ⟨-, hs⟩ := Option.ite_none_right_eq_some.mp h
  cases hs
  exact told_of_setMachine rfl fun _ => rfl

/-- **What one rule tells.** -/
theorem step_told {a : Activation} (h : s.step a = some s') : s.Told s' (s.lightsSet a) := by
  cases a with
  | machineDown m => exact told_machineDown h
  | machineUp m => exact told_machineUp h
  | machineInvalidInputJunk m id => exact told_machineInvalidInputJunk h
  | machinePuckRemoval m => exact told_machinePuckRemoval h
  | machineInvalidInput m id => exact told_of_rejecting (Or.inl h) (by decide)
  | machineWrongTeamInput m id => exact told_of_rejecting (Or.inr (Or.inl h)) (by decide)
  | deliverInvalidInput m id =>
      simp only [lightsSet]
      split
      · exact told_of_rejecting (Or.inr (Or.inr (Or.inl h))) (by decide)
      · exact told_of_rejecting (Or.inr (Or.inr (Or.inl h))) (by decide)
  | deliverWrongTeamInput m id =>
      exact told_of_rejecting (Or.inr (Or.inr (Or.inr (Or.inl h)))) (by decide)
  | deliverDownMachine m id =>
      exact told_of_rejecting (Or.inr (Or.inr (Or.inr (Or.inr (Or.inl h))))) (by decide)
  | recycleInvalidInput m id =>
      exact told_of_rejecting (Or.inr (Or.inr (Or.inr (Or.inr (Or.inr (Or.inl h)))))) (by decide)
  | recycleWrongTeamInput m id =>
      exact told_of_rejecting (Or.inr (Or.inr (Or.inr (Or.inr (Or.inr (Or.inr h)))))) (by decide)
  | machineProcStart m id => exact told_of_working (m := m) (Or.inr ⟨id, by simp⟩) h
  | deliverProcStart m id => exact told_of_working (m := m) (Or.inr ⟨id, by simp⟩) h
  | recycleProcStart m id => exact told_of_working (m := m) (Or.inr ⟨id, by simp⟩) h
  | machineProcWaiting m => exact told_of_working (m := m) (Or.inl (by simp)) h
  | machineProcDone m => exact told_of_working (m := m) (Or.inl (by simp)) h
  | deliverProcDone m => exact told_of_working (m := m) (Or.inl (by simp)) h
  | recycleProcDone m => exact told_of_working (m := m) (Or.inl (by simp)) h
  | deliverRemoval m => exact told_of_removal h
  | recycleRemoval m => exact told_of_removal h
  | gamestate gamestate =>
      cases h
      exact told_of_machines rfl
  | rfidInput input =>
      cases h
      exact told_of_machines rfl
  | deliveryGateDownPeriod m dp =>
      obtain ⟨-, hs⟩ := Option.ite_none_right_eq_some.mp h
      cases hs
      intro n
      by_cases hne : n = m <;> simp [hne]
  | orderDeliveredInTime pd order =>
      obtain ⟨-, hs⟩ := Option.ite_none_right_eq_some.mp h
      apply told_of_machines
      dsimp only at hs
      split at hs <;> cases hs
      · split <;> rfl
      · rfl
  | placePuckUnderMachine m id | rfidInputLearnPuck m id | rfidInputCleanup input
  | activateOrder order | orderDeliveredOutOfTime pd =>
      obtain ⟨-, hs⟩ := Option.ite_none_right_eq_some.mp h
      cases hs
      exact told_of_machines rfl

end Memory

namespace LitMemory

/-- Every machine that is no gate shows its state. -/
def ShowsStates (s : LitMemory) : Prop :=
  ∀ m, (s.machines m).mtype ≠ .deliver → Shows (s.desiredLights m) (s.machines m).state

variable {plcs : Plcs} {assignment : MachineAssignment} {s s' s₀ : LitMemory} {m : MachineName}

/-- **A rule of the production phase** keeps telling the states. -/
theorem ShowsStates.production {a : Activation} (h : s.ShowsStates)
    (hs : s.production a = some s') : s'.ShowsStates := by
  obtain ⟨memory, hstep, rfl⟩ := Option.map_eq_some_iff.mp hs
  have htold := Memory.step_told hstep
  intro n hmtype
  have hshows := h n
  rw [← (Memory.step_becomes hstep n).mtype_eq] at hshows
  simp only
  cases hset : s.lightsSet a with
  | none =>
      simp only [hset, Memory.Told] at htold
      simpa [htold n] using hshows hmtype
  | some set =>
      obtain ⟨m, lights⟩ := set
      simp only [hset, Memory.Told] at htold
      rw [← (Memory.step_becomes hstep m).mtype_eq] at htold
      by_cases hne : n = m
      · subst hne
        simpa using htold.1 hmtype
      · simpa [hne, htold.2 n hne] using hshows hmtype

theorem ShowsStates.machineLights (h : s.ShowsStates)
    (hs : s.machineLights plcs assignment m = some s') : s'.ShowsStates := by
  obtain ⟨-, hs⟩ := Option.ite_none_right_eq_some.mp hs
  cases hs
  exact h

/-- **The lights tell the state** of every machine that is no delivery gate, as long as no other phase
sets lights. -/
theorem lights_show_state {tr : List (Step LitMemory LightEvent)}
    (hrun : LitRun plcs assignment s₀ tr s)
    (hstart : ∀ m, s₀.desiredLights m = [.greenOn] ∧ (s₀.machines m).state = .idle)
    (hphase : ∀ t ∈ tr, t.label.isSetLights = false) : s.ShowsStates := by
  refine hrun.invariant_of (C := fun _ e => e.isSetLights = false) ?_ ?_ hphase
  · intro m _
    obtain ⟨hlights, hstate⟩ := hstart m
    rw [hlights, hstate]
    rfl
  · intro s e s' h hlights hs
    cases e with
    | production a => exact h.production hs
    | setLights lights => cases hlights
    | machineLights m => exact h.machineLights hs

/-- The start of the production phase, with a down time of M1. -/
def productionStart : LitMemory :=
  { startup with
    gamestate := { state := .running, phase := .production, gameTime := 30 }
    machines := fun n => { startup.machines n with
      downPeriod := if n = .m1 then (20, 50) else (0, 0) }
    desiredLights := fun _ => [.greenOn] }

/-- M1 is DOWN, and its lights tell it. -/
theorem lights_show_state_of_m1 : ∃ tr s, LitRun (connected 2 fun _ _ => 0) .assignment2014
    productionStart tr s ∧ (s.machines .m1).state = .down ∧ s.ShowsStates := by
  have hrun : (trace (LitMemory.step (connected 2 fun _ _ => 0) .assignment2014) productionStart
      [.production (.machineDown .m1), .machineLights .m1]).any (fun r =>
        decide ((∀ t ∈ r.1, t.label.isSetLights = false) ∧ (r.2.machines .m1).state = .down)) =
          true := by
    decide +kernel
  obtain ⟨⟨tr, s⟩, htrace, hr⟩ := (Option.any_eq_true _ _).mp hrun
  obtain ⟨hphase, hdown⟩ := of_decide_eq_true hr
  have hrun := run_of_trace htrace
  exact ⟨tr, s, hrun, hdown, lights_show_state hrun (fun m => ⟨rfl, rfl⟩) hphase⟩

end LitMemory

/-! ## What the PLCs show -/

namespace SpsComm

/-- The value that a write leaves in a register. -/
def Write.value (w : Write) (r : ℕ × ℕ) : Option UInt16 :=
  if r.1 = w.plc ∧ w.addr ≤ r.2 then w.values[r.2 - w.addr]? else none

/-- The value last written to a register. -/
def Log.register (log : Log) (r : ℕ × ℕ) : Option UInt16 :=
  log.writes.foldl (fun old w => (w.value r).or old) none

theorem Log.register_append (log : Log) (n : ℕ) (w : Write) (r : ℕ × ℕ) :
    Log.register ⟨n, log.writes ++ [w]⟩ r = (w.value r).or (log.register r) := by
  simp [Log.register]

/-- A write of one value. -/
theorem Write.value_singleton (plc addr : ℕ) (v : UInt16) (r : ℕ × ℕ) :
    Write.value ⟨plc, addr, [v]⟩ r = if r = (plc, addr) then some v else none := by
  obtain ⟨p, a⟩ := r
  simp only [Write.value, Prod.mk.injEq]
  by_cases hp : p = plc
  · by_cases ha : a = addr
    · simp [hp, ha]
    · by_cases hle : addr ≤ a
      · have hpos : a - addr ≠ 0 := by omega
        simp [hp, ha, hle, hpos]
      · simp [hp, ha, hle]
  · simp [hp]

/-- The value that `set_light` writes. -/
def SignalState.value : SignalState → UInt16
  | .on => 0x100
  | .blink => 0x200
  | .off => 0

end SpsComm

/-- The register of a light, by the number of the machine. -/
def lightRegister (i : UInt32) (color : LightColor) : ℕ × ℕ :=
  (i.toNat / 16, 0x4400 + i.toNat % 16 * 3 + color.toLight.value.toNat)

variable {plcs : Plcs} {i i' : UInt32} {color color' : LightColor} {state : SignalState}
  {log : Log} {assignment : MachineAssignment}

theorem LightColor.toLight_value_lt (color : LightColor) : color.toLight.value.toNat < 3 := by
  cases color <;> decide

theorem LightColor.toLight_inj (h : color.toLight = color'.toLight) : color = color' := by
  cases color <;> cases color' <;> first | rfl | cases h

theorem lightRegister_inj (h : lightRegister i color = lightRegister i' color') :
    i = i' ∧ color = color' := by
  have hcolor := color.toLight_value_lt
  have hcolor' := color'.toLight_value_lt
  simp only [lightRegister, Prod.mk.injEq] at h
  constructor
  · exact eq_of_split h.1 (by omega)
  · exact LightColor.toLight_inj (Light.value_inj (by omega))

theorem not_lightBounds (color : LightColor) :
    ¬ (color.toLight.value < Light.red.value ∨ color.toLight.value > Light.green.value) := by
  cases color <;> decide

/-- `set_light` throws for a machine of a PLC that is not there. -/
theorem exec_setLight_of_le (hplc : plcs.size ≤ i.toNat / 16) :
    (exec (setLight plcs i color.toLight state) log).2 = log := by
  unfold setLight
  simp only [if_neg (not_lightBounds color), plcIndex_of_le hplc]
  rfl

/-- `set_light` of a light, when the request is answered. -/
theorem exec_setLight (hplc : i.toNat / 16 < plcs.size) (hanswers : ∀ k, plcs.answers k = true) :
    (exec (setLight plcs i color.toLight state) log).2 =
      ⟨log.requests + 1,
        log.writes ++ [⟨(i / 16).toNat, lightAddr (localIndex i) color.toLight, [state.value]⟩]⟩ := by
  have hle : ¬ localIndex i > numMachines := by
    rw [gt_iff_lt, UInt32.lt_iff_toNat_lt, toNat_localIndex]
    show ¬ 16 < i.toNat % 16
    omega
  unfold setLight
  simp only [if_neg (not_lightBounds color), plcIndex_of_lt hplc, pure_bind, if_neg hle]
  rw [exec_writeOrThrow (hanswers _)]
  cases state <;> rfl

/-- The register of the light has the signal, and the others are as before. -/
theorem register_setLight (hplc : i.toNat / 16 < plcs.size) (hanswers : ∀ k, plcs.answers k = true) :
    (exec (setLight plcs i color.toLight state) log).2.register (lightRegister i' color') =
      if i = i' ∧ color = color' then some state.value
      else log.register (lightRegister i' color') := by
  have hdiv : (i / 16).toNat = i.toNat / 16 := UInt32.toNat_div i 16
  have hsame : lightRegister i' color' = ((i / 16).toNat, lightAddr (localIndex i) color.toLight) ↔
      i = i' ∧ color = color' := by
    rw [toNat_lightAddr, hdiv]
    constructor
    · intro h
      exact lightRegister_inj (i := i) h.symm
    · rintro ⟨rfl, rfl⟩
      rfl
  rw [exec_setLight hplc hanswers, Log.register_append, Write.value_singleton, if_congr hsame rfl rfl]
  split <;> simp

namespace LitMemory

/-- The registers of a machine that has a number show some lights. -/
def Displays (plcs : Plcs) (assignment : MachineAssignment) (log : Log) (m : MachineName)
    (lights : List LightSymbol) : Prop :=
  ∀ i color, toMachine assignment m = some i → i.toNat / 16 < plcs.size →
    log.register (lightRegister i color) = some (signalOf lights color).value

variable {s s' s₀ : LitMemory} {m n : MachineName}

/-- No two machines have one number. -/
theorem toMachine_inj (hm : toMachine assignment m = some i) (hn : toMachine assignment n = some i) :
    m = n := by
  cases assignment <;> cases m <;> cases hm <;> cases n <;> first | rfl | cases hn

/-- The request for one signal. -/
theorem register_spsSetSignal (hanswers : ∀ k, plcs.answers k = true)
    (hn : toMachine assignment n = some i) (hplc : i.toNat / 16 < plcs.size) :
    (spsSetSignal plcs assignment m color state log).register (lightRegister i color') =
      if m = n ∧ color = color' then some state.value
      else log.register (lightRegister i color') := by
  unfold spsSetSignal
  cases hm : toMachine assignment m with
  | none =>
      have hne : m ≠ n := fun heq => by simp [heq, hn] at hm
      simp [hne]
  | some j =>
      have hiff : j = i ↔ m = n := by
        constructor
        · rintro rfl
          exact toMachine_inj hm hn
        · rintro rfl
          exact Option.some.inj (hm.symm.trans hn)
      simp only
      by_cases hplcj : j.toNat / 16 < plcs.size
      · rw [register_setLight hplcj hanswers, if_congr (and_congr_left' hiff) rfl rfl]
      · have hne : m ≠ n := fun heq => hplcj (hiff.mpr heq ▸ hplc)
        rw [exec_setLight_of_le (by omega)]
        simp [hne]

/-- **What `machine-lights` sends** shows the lights of the machine, and the other machines show what
they did. -/
theorem register_machineLights (hanswers : ∀ k, plcs.answers k = true)
    (hs : s.machineLights plcs assignment m = some s') (hn : toMachine assignment n = some i)
    (hplc : i.toNat / 16 < plcs.size) (color : LightColor) :
    s'.log.register (lightRegister i color) =
      if m = n then some (signalOf (s.desiredLights m) color).value
      else s.log.register (lightRegister i color) := by
  obtain ⟨-, hs⟩ := Option.ite_none_right_eq_some.mp hs
  cases hs
  simp only [List.foldl, register_spsSetSignal hanswers hn hplc]
  by_cases hmn : m = n
  · cases color <;> simp [hmn]
  · simp [hmn]

/-- What the machine shows: the lights last set, if any were. -/
def UpToDate (plcs : Plcs) (assignment : MachineAssignment) (m : MachineName)
    (tr : List (Step LitMemory LightEvent)) (s : LitMemory) : Prop :=
  (s.actualLights m = [] ∧ ∀ t ∈ tr, t.label ≠ .machineLights m) ∨
    Displays plcs assignment s.log m (s.actualLights m)

theorem UpToDate.machineLights {tr : List (Step LitMemory LightEvent)}
    (hanswers : ∀ k, plcs.answers k = true) (h : UpToDate plcs assignment n tr s)
    (hs : s.machineLights plcs assignment m = some s') :
    UpToDate plcs assignment n (⟨s, .machineLights m, s'⟩ :: tr) s' := by
  have hregister := fun i color hn hplc =>
    register_machineLights (n := n) (i := i) hanswers hs hn hplc color
  have hactual : s'.actualLights n = if n = m then s.desiredLights m else s.actualLights n := by
    obtain ⟨-, hs⟩ := Option.ite_none_right_eq_some.mp hs
    cases hs
    rfl
  by_cases hnm : n = m
  · subst hnm
    right
    intro i color hn hplc
    simpa [hactual] using hregister i color hn hplc
  · rcases h with ⟨hnil, hnever⟩ | hdisplays
    · left
      simpa [hactual, hnm, hnil, Ne.symm hnm] using hnever
    · right
      intro i color hn hplc
      simpa [hactual, hnm, Ne.symm hnm, hregister i color hn hplc] using hdisplays i color hn hplc

theorem upToDate_of_run {tr : List (Step LitMemory LightEvent)}
    (hanswers : ∀ k, plcs.answers k = true) (hrun : LitRun plcs assignment s₀ tr s)
    (hstart : s₀.actualLights m = []) : UpToDate plcs assignment m tr s := by
  refine hrun.history_invariant_of (C := fun _ _ => True) ?_ ?_ (fun _ _ => trivial)
  · left
    simpa using hstart
  · intro tr s e s' h _ hs
    cases e with
    | production a =>
        obtain ⟨memory, -, rfl⟩ := Option.map_eq_some_iff.mp hs
        simpa [UpToDate] using h
    | setLights lights =>
        cases hs
        simpa [UpToDate] using h
    | machineLights n => exact h.machineLights hanswers hs

/-- **The PLCs show the desired lights** of a machine once `machine-lights` has nothing to do for it,
whichever rules set them and whatever the registers were at the start. -/
theorem plcs_show_lights {tr : List (Step LitMemory LightEvent)}
    (hanswers : ∀ k, plcs.answers k = true) (hrun : LitRun plcs assignment s₀ tr s)
    (hstart : s₀.actualLights m = []) (hrest : s.machineLights plcs assignment m = none)
    (hset : s.desiredLights m ≠ [] ∨ ∃ t ∈ tr, t.label = .machineLights m) :
    Displays plcs assignment s.log m (s.desiredLights m) := by
  have hactual : s.actualLights m = s.desiredLights m := by
    simpa [LitMemory.machineLights] using hrest
  rw [← hactual] at hset ⊢
  rcases upToDate_of_run hanswers hrun hstart with ⟨hnil, hnever⟩ | hdisplays
  · rcases hset with hne | ⟨t, ht, hlabel⟩
    · exact absurd hnil hne
    · exact absurd hlabel (hnever t ht)
  · exact hdisplays

/-- M1 is DOWN, and its lamps show it. -/
theorem plcs_show_lights_of_m1 : ∃ tr s, LitRun (connected 2 fun _ _ => 0) .assignment2014
    productionStart tr s ∧ s.desiredLights .m1 = [.redOn] ∧
      Displays (connected 2 fun _ _ => 0) .assignment2014 s.log .m1 (s.desiredLights .m1) := by
  have hrun : (trace (LitMemory.step (connected 2 fun _ _ => 0) .assignment2014) productionStart
      [.machineLights .m1, .production (.machineDown .m1), .machineLights .m1]).any (fun r =>
        decide (r.2.desiredLights .m1 = [.redOn] ∧
          (r.2.machineLights (connected 2 fun _ _ => 0) .assignment2014 .m1).isNone = true)) =
          true := by
    decide +kernel
  obtain ⟨⟨tr, s⟩, htrace, hr⟩ := (Option.any_eq_true _ _).mp hrun
  obtain ⟨hlights, hrest⟩ := of_decide_eq_true hr
  have hrun := run_of_trace htrace
  have hset : s.desiredLights .m1 ≠ [] := by
    rw [show s.desiredLights .m1 = _ from hlights]
    simp
  exact ⟨tr, s, hrun, hlights, plcs_show_lights (fun _ => rfl) hrun rfl
    (Option.isNone_iff_eq_none.mp hrest) (Or.inl hset)⟩

end LitMemory

end FactoryHub.Llsf
