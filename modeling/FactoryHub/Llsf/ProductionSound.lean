import FactoryHub.Llsf.Production
import Mathlib.Data.List.Perm.Subperm
import Mathlib.Data.List.Nodup

/-!
# What a machine produces from

A production machine *holds* the pucks it is loaded with and the one it is processing. It accepts
no puck in a state that one of them is in, so a finished production has had each input once — as
long as the held pucks keep the states in which they were accepted.

* `Sound` — the invariant: the held pucks are in the pairwise distinct input states in which they
  were accepted, and no two machines hold the same puck.
* `production_sound` — it holds along every run in which no rule rewrites the state of a puck that
  a production machine holds.
* `production_unsound` — gates do rewrite it: a T2 that finishes with two pucks accepted in S0.
-/

namespace FactoryHub.Llsf

open Lib

/-- The `inputs` of the machine-spec of a type. -/
def MType.inputs : MType → List PuckState
  | .t1 | .t5 => [.s0]
  | .t2 => [.s0, .s1]
  | .t3 | .t4 => [.s0, .s1, .s2]
  | .deliver | .recycle => []

theorem inputs_of_machineSpec {procTime : MType → Int} {mtype : MType} {spec : MachineSpec}
    (h : machineSpec procTime mtype = some spec) :
    spec.inputs = mtype.inputs ∧ Memory.IsProduction mtype := by
  cases mtype <;> cases h <;> exact ⟨rfl, by decide⟩

namespace Machine

/-- The puck that is being processed, also while the machine is down. -/
def reading (mf : Machine) : List Int :=
  if mf.state = .processing ∨ (mf.state = .down ∧ mf.prevState = .processing) then [mf.puckId]
  else []

/-- The pucks a production machine holds. -/
def held (mf : Machine) : List Int :=
  if Memory.IsProduction mf.mtype then mf.loadedWith ++ mf.reading else []

theorem held_of_production {mf : Machine} (h : Memory.IsProduction mf.mtype) :
    mf.held = mf.loadedWith ++ mf.reading := if_pos h

theorem held_of_not_production {mf : Machine} (h : ¬ Memory.IsProduction mf.mtype) :
    mf.held = [] := if_neg h

theorem reading_of_processing {mf : Machine} (h : mf.state = .processing) :
    mf.reading = [mf.puckId] := if_pos (Or.inl h)

theorem reading_of_resting {mf : Machine} (h : mf.state = .idle ∨ mf.state = .waiting) :
    mf.reading = [] := by
  rw [reading, if_neg]
  rcases h with h | h <;> simp [h]

theorem mem_held {mf : Machine} {id : Int} (h : id ∈ mf.held) :
    mf.puckId = id ∨ id ∈ mf.loadedWith := by
  unfold held at h
  split at h
  · rcases List.mem_append.mp h with h | h
    · exact Or.inr h
    · unfold reading at h
      split at h
      · exact Or.inl (List.mem_singleton.mp h).symm
      · cases h
  · cases h

/-- A machine that keeps its load and stops processing holds less. -/
theorem held_sublist {mf mf' : Machine} (hmtype : mf'.mtype = mf.mtype)
    (hloaded : mf'.loadedWith.Sublist mf.loadedWith) (hreading : mf'.reading.Sublist mf.reading) :
    mf'.held.Sublist mf.held := by
  unfold held
  rw [hmtype]
  split
  · exact hloaded.append hreading
  · exact List.Sublist.refl _

end Machine

namespace Memory

def stateOf (s : Memory) (id : Int) : Option PuckState := (s.pucks id).map Puck.state

/-- The state a puck was in when the machine last accepted it. -/
def accepted : List (Step Memory Activation) → MachineName → Int → Option PuckState
  | [], _, _ => none
  | t :: tr, m, id =>
      if t.label = .machineProcStart m id then t.pre.stateOf id else accepted tr m id

/-- The invariant, for the acceptances `acc` so far. -/
structure Sound (acc : MachineName → Int → Option PuckState) (s : Memory) : Prop where
  accepted : ∀ m, ∀ id ∈ (s.machines m).held, ∃ puck, s.pucks id = some puck ∧
    puck.state ∈ (s.machines m).mtype.inputs ∧ acc m id = some puck.state
  distinct : ∀ m, ((s.machines m).held.map s.stateOf).Nodup
  disjoint : ∀ m m', m ≠ m' → ∀ id ∈ (s.machines m).held, id ∉ (s.machines m').held

/-- As after `machine-init-randomize`: no machine is loaded or at work. -/
def Fresh (s : Memory) : Prop :=
  ∀ m, (s.machines m).loadedWith = [] ∧ (s.machines m).state = .idle

theorem Fresh.sound {s : Memory} (h : s.Fresh) (acc : MachineName → Int → Option PuckState) :
    Sound acc s := by
  have hheld : ∀ m, (s.machines m).held = [] := by
    intro m
    by_cases hprod : IsProduction (s.machines m).mtype
    · rw [Machine.held_of_production hprod, (h m).1,
        Machine.reading_of_resting (Or.inl (h m).2), List.append_nil]
    · exact Machine.held_of_not_production hprod
  constructor
  · intro m id hid
    rw [hheld m] at hid
    cases hid
  · intro m
    rw [hheld m]
    exact List.nodup_nil
  · intro m m' _ id hid
    rw [hheld m] at hid
    cases hid

/-! ## What keeps the invariant -/

namespace Sound

variable {acc : MachineName → Int → Option PuckState} {s s' : Memory}

/-- Machines that hold less, and held pucks that are left alone. -/
theorem mono (h : Sound acc s) (hmtype : ∀ m, (s'.machines m).mtype = (s.machines m).mtype)
    (hheld : ∀ m, (s'.machines m).held.Sublist (s.machines m).held)
    (hpucks : ∀ m, ∀ id ∈ (s'.machines m).held, s'.pucks id = s.pucks id) : Sound acc s' := by
  constructor
  · intro m id hid
    obtain ⟨puck, hpuck, hstate, hacc⟩ := h.accepted m id ((hheld m).subset hid)
    refine ⟨puck, ?_, ?_, hacc⟩
    · rw [hpucks m id hid]
      exact hpuck
    · rw [hmtype m]
      exact hstate
  · intro m
    have hmap : (s'.machines m).held.map s'.stateOf = (s'.machines m).held.map s.stateOf := by
      apply List.map_congr_left
      intro id hid
      rw [stateOf, stateOf, hpucks m id hid]
    rw [hmap]
    exact (h.distinct m).sublist ((hheld m).map _)
  · intro m m' hne id hid hid'
    exact h.disjoint m m' hne id ((hheld m).subset hid) ((hheld m').subset hid')

/-- Only facts other than machines and pucks change. -/
theorem congr (h : Sound acc s) (hmachines : s'.machines = s.machines)
    (hpucks : s'.pucks = s.pucks) : Sound acc s' := by
  apply h.mono
  · intro m
    rw [hmachines]
  · intro m
    rw [hmachines]
  · intro m id _
    rw [hpucks]

theorem award (h : Sound acc s) (points : Points) : Sound acc (s.award points) :=
  h.congr rfl rfl

/-- One machine changes, and holds no more than before. -/
theorem setMachine (h : Sound acc s) {m : MachineName} {mf' : Machine}
    (hmtype : mf'.mtype = (s.machines m).mtype) (hheld : mf'.held.Sublist (s.machines m).held) :
    Sound acc (s.setMachine m mf') := by
  apply h.mono
  · intro n
    simp only [Memory.setMachine]
    split
    · next heq => rw [heq, hmtype]
    · rfl
  · intro n
    simp only [Memory.setMachine]
    split
    · next heq => exact heq ▸ hheld
    · exact List.Sublist.refl _
  · intro n id _
    rfl

/-- One machine changes, keeps its load, and is processing no other puck than before. -/
theorem setMachine_of_reading (h : Sound acc s) {m : MachineName} {mf' : Machine}
    (hmtype : mf'.mtype = (s.machines m).mtype) (hloaded : mf'.loadedWith = (s.machines m).loadedWith)
    (hreading : mf'.reading.Sublist (s.machines m).reading) : Sound acc (s.setMachine m mf') := by
  apply h.setMachine hmtype
  apply Machine.held_sublist hmtype
  · rw [hloaded]
  · exact hreading

/-- Pucks that no machine holds change. -/
theorem setPuckStates (h : Sound acc s) (ids : List Int) (state : PuckState)
    (hfree : ∀ id ∈ ids, ∀ m, id ∉ (s.machines m).held) : Sound acc (s.setPuckStates ids state) := by
  apply h.mono
  · exact fun _ => rfl
  · exact fun _ => List.Sublist.refl _
  · intro m id hid
    exact if_neg (fun hmem => hfree id hmem m hid)

theorem setPuckState (h : Sound acc s) {id : Int} (state : PuckState)
    (hfree : ∀ m, id ∉ (s.machines m).held) : Sound acc (s.setPuckStates [id] state) := by
  apply h.setPuckStates
  intro i hi m
  rw [List.mem_singleton] at hi
  subst hi
  exact hfree m

theorem setPuck (h : Sound acc s) {id : Int} {puck : Puck}
    (hfree : ∀ m, id ∉ (s.machines m).held) : Sound acc (s.setPuck id puck) := by
  apply h.mono
  · exact fun _ => rfl
  · exact fun _ => List.Sublist.refl _
  · intro m i hi
    refine if_neg ?_
    rintro rfl
    exact hfree m hi

/-- A machine that takes a puck and rejects it holds no more than its load. -/
theorem reject (h : Sound acc s) (m : MachineName) (id : Int) : Sound acc (s.reject m id) := by
  apply h.setMachine_of_reading
  · rfl
  · rfl
  · exact List.nil_sublist _

theorem not_held_reject {s : Memory} {id : Int} (hfree : ∀ m, id ∉ (s.machines m).held)
    (m : MachineName) (n : MachineName) : id ∉ ((s.reject m id).machines n).held := by
  intro hid
  simp only [Memory.reject, Memory.setMachine] at hid
  split at hid
  · next heq =>
      refine hfree m (List.Sublist.subset (Machine.held_sublist ?_ ?_ ?_) hid)
      · rfl
      · exact List.Sublist.refl _
      · exact List.nil_sublist _
  · exact hfree n hid

/-- Gates and recycling machines hold nothing, whatever they do. -/
theorem setMachine_of_not_production (h : Sound acc s) (m : MachineName) (mf' : Machine)
    (hmtype : mf'.mtype = (s.machines m).mtype) (hnot : ¬ IsProduction (s.machines m).mtype) :
    Sound acc (s.setMachine m mf') := by
  apply h.setMachine hmtype
  rw [Machine.held_of_not_production (hmtype ▸ hnot)]
  exact List.nil_sublist _

/-- A puck in a state that is no machine's input is held by none. -/
theorem not_held (h : Sound acc s) {id : Int} {puck : Puck} (hpuck : s.pucks id = some puck)
    (hstate : ∀ mtype : MType, puck.state ∉ mtype.inputs) (m : MachineName) :
    id ∉ (s.machines m).held := by
  intro hid
  obtain ⟨puck', hpuck', hmem, -⟩ := h.accepted m id hid
  rw [hpuck, Option.some.injEq] at hpuck'
  exact hstate _ (hpuck' ▸ hmem)

/-! ### The rules that take nothing in -/

theorem machineDown (h : Sound acc s) {m : MachineName} (hs : s.machineDown m = some s') :
    Sound acc s' := by
  unfold Memory.machineDown at hs
  rw [Option.ite_none_right_eq_some] at hs
  obtain ⟨⟨-, hdown, -⟩, hs⟩ := hs
  by_cases hproc : (s.machines m).state = .processing
  · rw [if_pos hproc, Option.some.injEq] at hs
    subst hs
    refine h.setMachine_of_reading rfl rfl ?_
    rw [Machine.reading_of_processing hproc]
    simp [Machine.reading, hproc]
  · rw [if_neg hproc, Option.some.injEq] at hs
    subst hs
    refine h.setMachine_of_reading rfl rfl ?_
    simp [Machine.reading, hproc]

theorem machineUp (h : Sound acc s) {m : MachineName} (hs : s.machineUp m = some s') :
    Sound acc s' := by
  unfold Memory.machineUp at hs
  rw [Option.ite_none_right_eq_some, Option.some.injEq] at hs
  obtain ⟨⟨-, hdown, hprev, -⟩, rfl⟩ := hs
  refine h.setMachine_of_reading rfl rfl ?_
  simp [Machine.reading, hdown, hprev]

theorem machinePuckRemoval (h : Sound acc s) {m : MachineName}
    (hs : s.machinePuckRemoval m = some s') : Sound acc s' := by
  unfold Memory.machinePuckRemoval at hs
  rw [Option.ite_none_right_eq_some] at hs
  obtain ⟨-, hs⟩ := hs
  dsimp only at hs
  split at hs <;> cases hs
  · -- down: the state to return to is changed
    refine h.setMachine_of_reading rfl rfl ?_
    rw [Machine.reading, if_neg]
    · exact List.nil_sublist _
    · next hdown => by_cases hload : (s.machines m).loadedWith = [] <;> simp [hload, hdown]
  · refine h.setMachine_of_reading rfl rfl ?_
    rw [Machine.reading_of_resting]
    · exact List.nil_sublist _
    · by_cases hload : (s.machines m).loadedWith = [] <;> simp [hload]

/-- Loading the puck that was processed changes nothing about what is held. -/
theorem machineProcWaiting (h : Sound acc s) {m : MachineName}
    (hs : s.machineProcWaiting m = some s') : Sound acc s' := by
  unfold Memory.machineProcWaiting at hs
  dsimp only at hs
  split at hs
  · next spec puck hspec hpuck =>
      rw [Option.ite_none_right_eq_some, Option.some.injEq] at hs
      obtain ⟨⟨-, hproc, -⟩, rfl⟩ := hs
      have hprod := (inputs_of_machineSpec hspec).2
      refine h.setMachine rfl ?_
      have hheld : (s.machines m).held =
          (s.machines m).loadedWith ++ [(s.machines m).puckId] := by
        rw [Machine.held_of_production hprod, Machine.reading_of_processing hproc]
      have hheld' : Machine.held { s.machines m with
          state := .waiting
          loadedWith := (s.machines m).loadedWith ++ [(s.machines m).puckId] } =
            (s.machines m).loadedWith ++ [(s.machines m).puckId] := by
        refine (Machine.held_of_production ?_).trans ?_
        · exact hprod
        · rw [Machine.reading_of_resting (Or.inr rfl)]
          exact List.append_nil _
      rw [hheld, hheld']
  · cases hs

theorem removal (h : Sound acc s) {mtype : MType} {m : MachineName}
    (hmtype : ¬ IsProduction mtype) (hs : s.removal mtype m = some s') : Sound acc s' := by
  unfold Memory.removal at hs
  rw [Option.ite_none_right_eq_some, Option.some.injEq] at hs
  obtain ⟨⟨-, -, heq, -⟩, rfl⟩ := hs
  exact h.setMachine_of_not_production _ _ rfl (heq ▸ hmtype)

theorem deliveryGateDownPeriod (h : Sound acc s) {m : MachineName} {dp : DeliveryPeriod}
    (hs : s.deliveryGateDownPeriod m dp = some s') : Sound acc s' := by
  unfold Memory.deliveryGateDownPeriod at hs
  rw [Option.ite_none_right_eq_some, Option.some.injEq] at hs
  obtain ⟨⟨-, -, -, hmtype, -⟩, rfl⟩ := hs
  exact h.setMachine_of_not_production _ _ rfl (by rw [hmtype]; decide)

theorem machineInvalidInput (h : Sound acc s) {m : MachineName} {id : Int}
    (hs : s.machineInvalidInput m id = some s') : Sound acc s' := by
  unfold Memory.machineInvalidInput at hs
  dsimp only at hs
  split at hs
  · rw [Option.ite_none_right_eq_some, Option.some.injEq] at hs
    obtain ⟨-, rfl⟩ := hs
    exact h.reject m id
  · cases hs

theorem recycleInvalidInput (h : Sound acc s) {m : MachineName} {id : Int}
    (hs : s.recycleInvalidInput m id = some s') : Sound acc s' := by
  unfold Memory.recycleInvalidInput at hs
  dsimp only at hs
  split at hs
  · rw [Option.ite_none_right_eq_some, Option.some.injEq] at hs
    obtain ⟨-, rfl⟩ := hs
    exact h.reject m id
  · cases hs

theorem deliverProcStart (h : Sound acc s) {m : MachineName} {id : Int}
    (hs : s.deliverProcStart m id = some s') : Sound acc s' := by
  unfold Memory.deliverProcStart at hs
  dsimp only at hs
  split at hs
  · rw [Option.ite_none_right_eq_some, Option.some.injEq] at hs
    obtain ⟨⟨-, -, hmtype, -⟩, rfl⟩ := hs
    exact h.setMachine_of_not_production _ _ rfl (by rw [hmtype]; decide)
  · cases hs

theorem recycleProcStart (h : Sound acc s) {m : MachineName} {id : Int}
    (hs : s.recycleProcStart m id = some s') : Sound acc s' := by
  unfold Memory.recycleProcStart at hs
  dsimp only at hs
  split at hs
  · rw [Option.ite_none_right_eq_some, Option.some.injEq] at hs
    obtain ⟨⟨-, -, hmtype, -⟩, rfl⟩ := hs
    exact h.setMachine_of_not_production _ _ rfl (by rw [hmtype]; decide)
  · cases hs

/-! ### The rules that rewrite a puck -/

theorem rfidInputLearnPuck (h : Sound acc s) {m : MachineName} {id : Int}
    (hs : s.rfidInputLearnPuck m id = some s') : Sound acc s' := by
  unfold Memory.rfidInputLearnPuck at hs
  rw [Option.ite_none_right_eq_some, Option.some.injEq] at hs
  obtain ⟨⟨-, hnone⟩, rfl⟩ := hs
  apply h.setPuck
  intro n hid
  obtain ⟨puck, hpuck, -⟩ := h.accepted n id hid
  rw [hnone] at hpuck
  cases hpuck

/-- Rejecting a puck no machine holds, and rewriting its state. -/
theorem reject_setPuckStates (h : Sound acc s) (m : MachineName) {id : Int} (state : PuckState)
    (hfree : ∀ n, id ∉ (s.machines n).held) :
    Sound acc ((s.reject m id).setPuckStates [id] state) := by
  apply (h.reject m id).setPuckState state
  intro n
  exact not_held_reject hfree m n

theorem machineWrongTeamInput (h : Sound acc s) {m : MachineName} {id : Int}
    (hfree : ∀ n, id ∉ (s.machines n).held) (hs : s.machineWrongTeamInput m id = some s') :
    Sound acc s' := by
  unfold Memory.machineWrongTeamInput at hs
  dsimp only at hs
  split at hs
  · rw [Option.ite_none_right_eq_some, Option.some.injEq] at hs
    obtain ⟨-, rfl⟩ := hs
    exact (h.reject_setPuckStates m .finished hfree).award _
  · cases hs

theorem deliverInvalidInput (h : Sound acc s) {m : MachineName} {id : Int}
    (hfree : ∀ n, id ∉ (s.machines n).held) (hs : s.deliverInvalidInput m id = some s') :
    Sound acc s' := by
  unfold Memory.deliverInvalidInput at hs
  dsimp only at hs
  split at hs
  · rw [Option.ite_none_right_eq_some, Option.some.injEq] at hs
    obtain ⟨-, rfl⟩ := hs
    exact h.reject_setPuckStates m .finished hfree
  · cases hs

theorem deliverWrongTeamInput (h : Sound acc s) {m : MachineName} {id : Int}
    (hfree : ∀ n, id ∉ (s.machines n).held) (hs : s.deliverWrongTeamInput m id = some s') :
    Sound acc s' := by
  unfold Memory.deliverWrongTeamInput at hs
  dsimp only at hs
  split at hs
  · rw [Option.ite_none_right_eq_some, Option.some.injEq] at hs
    obtain ⟨-, rfl⟩ := hs
    exact (h.reject_setPuckStates m .finished hfree).award _
  · cases hs

theorem recycleWrongTeamInput (h : Sound acc s) {m : MachineName} {id : Int}
    (hfree : ∀ n, id ∉ (s.machines n).held) (hs : s.recycleWrongTeamInput m id = some s') :
    Sound acc s' := by
  unfold Memory.recycleWrongTeamInput at hs
  dsimp only at hs
  split at hs
  · rw [Option.ite_none_right_eq_some, Option.some.injEq] at hs
    obtain ⟨-, rfl⟩ := hs
    exact (h.reject_setPuckStates m .finished hfree).award _
  · cases hs

/-- A product is no machine's input. -/
theorem deliverDownMachine (h : Sound acc s) {m : MachineName} {id : Int}
    (hs : s.deliverDownMachine m id = some s') : Sound acc s' := by
  unfold Memory.deliverDownMachine at hs
  dsimp only at hs
  split at hs
  · next puck hpuck =>
      rw [Option.ite_none_right_eq_some, Option.some.injEq] at hs
      obtain ⟨⟨-, -, -, -, -, hstate, -⟩, rfl⟩ := hs
      refine h.reject_setPuckStates m .finished (h.not_held hpuck fun mtype => ?_)
      generalize puck.state = state at hstate
      cases mtype <;> revert state <;> intro state <;> cases state <;> decide
  · cases hs

theorem deliverProcDone (h : Sound acc s) {m : MachineName}
    (hfree : ∀ n, (s.machines m).puckId ∉ (s.machines n).held)
    (hs : s.deliverProcDone m = some s') : Sound acc s' := by
  unfold Memory.deliverProcDone at hs
  dsimp only at hs
  split at hs
  · rw [Option.ite_none_right_eq_some, Option.some.injEq] at hs
    obtain ⟨⟨-, hmtype, -⟩, rfl⟩ := hs
    have hgate : ¬ IsProduction (s.machines m).mtype := by rw [hmtype]; decide
    have hset := h.setPuckState .finished hfree
    exact (hset.setMachine_of_not_production m
      { s.machines m with
        state := (s.machines m).prevState, productions := (s.machines m).productions + 1 }
      rfl hgate).congr rfl rfl
  · cases hs

theorem recycleProcDone (h : Sound acc s) {m : MachineName}
    (hs : s.recycleProcDone m = some s') : Sound acc s' := by
  unfold Memory.recycleProcDone at hs
  dsimp only at hs
  split at hs
  · next puck hpuck =>
      rw [Option.ite_none_right_eq_some, Option.some.injEq] at hs
      obtain ⟨⟨-, hmtype, -, -, hstate, -⟩, rfl⟩ := hs
      have hgate : ¬ IsProduction (s.machines m).mtype := by rw [hmtype]; decide
      have hfree := h.not_held hpuck (fun mtype => by rw [hstate]; cases mtype <;> decide)
      have hset := h.setPuckState .s0 hfree
      exact (hset.setMachine_of_not_production m
        { s.machines m with state := .idle, productions := (s.machines m).productions + 1 }
        rfl hgate).congr rfl rfl
  · cases hs

/-- The machines of a rejecting memory: one rejects, and reads its puck no more. -/
theorem reject_machines (s : Memory) (m n : MachineName) (id : Int) :
    ((s.reject m id).machines n).mtype = (s.machines n).mtype ∧
      ((s.reject m id).machines n).loadedWith = (s.machines n).loadedWith ∧
        ((s.reject m id).machines n).reading = if n = m then [] else (s.machines n).reading := by
  simp only [Memory.reject, Memory.setMachine]
  by_cases hn : n = m
  · subst hn
    rw [if_pos rfl, if_pos rfl]
    exact ⟨rfl, rfl, rfl⟩
  · rw [if_neg hn, if_neg hn]
    exact ⟨rfl, rfl, rfl⟩

/-- A junk puck is taken out of every load before it is consumed; only a machine that is processing
it would still hold it. -/
theorem machineInvalidInputJunk (h : Sound acc s) {m : MachineName} {id : Int}
    (hfree : ∀ n, n ≠ m → id ∉ (s.machines n).reading)
    (hs : s.machineInvalidInputJunk m id = some s') : Sound acc s' := by
  unfold Memory.machineInvalidInputJunk at hs
  rw [Option.ite_none_right_eq_some, Option.some.injEq] at hs
  obtain ⟨-, rfl⟩ := hs
  apply h.mono
  · exact fun n => (reject_machines s m n id).1
  · intro n
    obtain ⟨hmtype, hloaded, hreading⟩ := reject_machines s m n id
    refine Machine.held_sublist hmtype ?_ ?_
    · show (((s.reject m id).machines n).loadedWith.filter _).Sublist _
      rw [hloaded]
      exact List.filter_sublist
    · show ((s.reject m id).machines n).reading.Sublist _
      rw [hreading]
      split
      · exact List.nil_sublist _
      · exact List.Sublist.refl _
  · intro n i hi
    have hne : i ≠ id := by
      rintro rfl
      unfold Machine.held at hi
      split at hi
      · rcases List.mem_append.mp hi with hi | hi
        · -- no load holds the puck any more
          simp at hi
        · change i ∈ ((s.reject m i).machines n).reading at hi
          rw [(reject_machines s m n i).2.2] at hi
          split at hi
          · cases hi
          · next hn => exact hfree n hn hi
      · cases hi
    exact if_neg (by simpa using hne)

/-- A machine that has finished holds nothing, and nobody else holds its pucks. -/
theorem machineProcDone (h : Sound acc s) {m : MachineName}
    (hs : s.machineProcDone m = some s') : Sound acc s' := by
  unfold Memory.machineProcDone at hs
  dsimp only at hs
  split at hs
  · next spec puck hspec hpuck =>
      rw [Option.ite_none_right_eq_some, Option.some.injEq] at hs
      obtain ⟨⟨-, hproc, -⟩, rfl⟩ := hs
      have hprod := (inputs_of_machineSpec hspec).2
      let done : Machine := { s.machines m with
        state := .idle, loadedWith := [], productions := (s.machines m).productions + 1 }
      have hheld : (s.machines m).held =
          (s.machines m).loadedWith ++ [(s.machines m).puckId] := by
        rw [Machine.held_of_production hprod, Machine.reading_of_processing hproc]
      have hdone : done.held = [] := by
        refine (Machine.held_of_production ?_).trans ?_
        · exact hprod
        · rw [Machine.reading_of_resting (Or.inl rfl)]
          exact List.append_nil _
      have hfree : ∀ id ∈ (s.machines m).held, ∀ n, id ∉ ((s.setMachine m done).machines n).held := by
        intro id hid n hid'
        simp only [Memory.setMachine] at hid'
        split at hid'
        · rw [hdone] at hid'
          cases hid'
        · next hne => exact h.disjoint m n (fun heq => hne heq.symm) id hid hid'
      have hset : Sound acc (s.setMachine m done) :=
        h.setMachine rfl (by rw [hdone]; exact List.nil_sublist _)
      refine ((hset.award _).setPuck ?_).setPuckStates _ _ ?_
      · exact hfree _ (by rw [hheld]; simp)
      · intro id hid
        exact hfree id (by rw [hheld]; exact List.mem_append_left _ hid)
  · cases hs

/-- A machine takes in a puck that no other machine holds, in a state that none of its pucks has. -/
theorem hold (h : Sound acc s) {m : MachineName} {busy : Machine} {id : Int} {puck : Puck}
    (hbusy : busy.held = (s.machines m).held ++ [id]) (hmtype : busy.mtype = (s.machines m).mtype)
    (hpuck : s.pucks id = some puck) (hinput : puck.state ∈ busy.mtype.inputs)
    (hfresh : s.stateOf id ∉ (s.machines m).held.map s.stateOf)
    (hothers : ∀ n, n ≠ m → id ∉ (s.machines n).held) :
    Sound (fun n i => if n = m ∧ i = id then s.stateOf id else acc n i) (s.setMachine m busy) := by
  have hstate : s.stateOf id = some puck.state := by rw [stateOf, hpuck]; rfl
  have hnot : id ∉ (s.machines m).held := fun hid => hfresh (List.mem_map_of_mem hid)
  have hmachine : ∀ n, (s.setMachine m busy).machines n =
      if n = m then busy else s.machines n := fun _ => rfl
  constructor
  · intro n i hi
    rw [hmachine] at hi ⊢
    by_cases hn : n = m
    · subst hn
      rw [if_pos rfl, hbusy] at hi
      rw [if_pos rfl]
      rcases List.mem_append.mp hi with hi | hi
      · -- a puck the machine held before
        have hne : i ≠ id := fun heq => hnot (heq ▸ hi)
        obtain ⟨puck', hpuck', hmem, hacc⟩ := h.accepted n i hi
        exact ⟨puck', hpuck', hmtype ▸ hmem, by rw [if_neg (fun hc => hne hc.2)]; exact hacc⟩
      · rw [List.mem_singleton] at hi
        subst hi
        exact ⟨puck, hpuck, hinput, by rw [if_pos ⟨rfl, rfl⟩]; exact hstate⟩
    · rw [if_neg hn] at hi ⊢
      obtain ⟨puck', hpuck', hmem, hacc⟩ := h.accepted n i hi
      exact ⟨puck', hpuck', hmem, by rw [if_neg (fun hc => hn hc.1)]; exact hacc⟩
  · intro n
    rw [hmachine]
    by_cases hn : n = m
    · subst hn
      rw [if_pos rfl, hbusy, List.map_append]
      refine List.Nodup.append (h.distinct n) (List.nodup_singleton _) ?_
      intro state hmem hmem'
      rw [List.map_singleton, List.mem_singleton] at hmem'
      exact hfresh (hmem' ▸ hmem)
    · rw [if_neg hn]
      exact h.distinct n
  · -- only the new puck is to be checked, against the other machines
    have hnew : ∀ n, n ≠ m → ∀ i ∈ busy.held, i ∉ (s.machines n).held := by
      intro n hn i hi
      rw [hbusy] at hi
      rcases List.mem_append.mp hi with hi | hi
      · exact h.disjoint m n (fun heq => hn heq.symm) i hi
      · rw [List.mem_singleton] at hi
        exact hi ▸ hothers n hn
    intro n n' hne i hi hi'
    rw [hmachine] at hi hi'
    by_cases hn : n = m
    · have hn' : n' ≠ m := fun heq => hne (hn.trans heq.symm)
      rw [if_pos hn] at hi
      rw [if_neg hn'] at hi'
      exact hnew n' hn' i hi hi'
    · rw [if_neg hn] at hi
      by_cases hn' : n' = m
      · rw [if_pos hn'] at hi'
        exact hnew n hn i hi' hi
      · rw [if_neg hn'] at hi'
        exact h.disjoint n n' hne i hi hi'

/-- Accepting a puck: it is in no other machine, and no loaded puck is in its state. -/
theorem machineProcStart (h : Sound acc s) {m : MachineName} {id : Int}
    (hs : s.machineProcStart m id = some s') :
    Sound (fun n i => if n = m ∧ i = id then s.stateOf id else acc n i) s' := by
  unfold Memory.machineProcStart at hs
  dsimp only at hs
  split at hs
  · next spec puck hspec hpuck =>
      rw [Option.ite_none_right_eq_some, Option.some.injEq] at hs
      obtain ⟨⟨-, -, hinput, -, hrest, hnew, helse⟩, rfl⟩ := hs
      obtain ⟨hinputs, hprod⟩ := inputs_of_machineSpec hspec
      rw [hinputs] at hinput
      have hheld : (s.machines m).held = (s.machines m).loadedWith := by
        rw [Machine.held_of_production hprod, Machine.reading_of_resting hrest, List.append_nil]
      have hstate : s.stateOf id = some puck.state := by rw [stateOf, hpuck]; rfl
      refine h.hold ?_ ?_ hpuck hinput ?_ ?_
      · rw [hheld]
        exact Machine.held_of_production hprod
      · rfl
      · rw [hheld, hstate, List.mem_map]
        exact hnew
      · intro n hn hid
        exact helse ⟨n, hn, rfl, Machine.mem_held hid⟩
  · cases hs

/-- The order rules touch no machine and no puck. -/
theorem orderDeliveredInTime (h : Sound acc s) {pd : ProductDelivered} {o : Order}
    (hs : s.orderDeliveredInTime pd o = some s') : Sound acc s' := by
  unfold Memory.orderDeliveredInTime at hs
  rw [Option.ite_none_right_eq_some] at hs
  obtain ⟨-, hs⟩ := hs
  dsimp only at hs
  have hmodify : Sound acc ((s.retractDelivered pd).modifyOrder o
      { o with quantityDelivered := o.quantityDelivered + 1 }) := h.congr rfl rfl
  split at hs <;> cases hs
  · split
    · exact (hmodify.award _).award _
    · exact hmodify.award _
  · exact hmodify.award _

end Sound

/-! ## Along a run -/

/-- No rule rewrites the state of a puck that a production machine holds. Most rules do not reach
such a puck; of the others the condition says that they do not. -/
def LeavesHeldPucks (s : Memory) : Activation → Prop
  | .machineWrongTeamInput _ id | .deliverInvalidInput _ id | .deliverWrongTeamInput _ id
  | .recycleWrongTeamInput _ id => ∀ n, id ∉ (s.machines n).held
  | .deliverProcDone m => ∀ n, (s.machines m).puckId ∉ (s.machines n).held
  | .machineInvalidInputJunk m id => ∀ n, n ≠ m → id ∉ (s.machines n).reading
  | _ => True

instance (s : Memory) (i : Activation) : Decidable (s.LeavesHeldPucks i) := by
  apply Activation.casesOn (motive := fun i => Decidable (s.LeavesHeldPucks i)) i <;>
    (intros; dsimp only [LeavesHeldPucks]; infer_instance)

theorem accepted_cons_procStart (tr : List (Step Memory Activation)) (s s' : Memory)
    (m : MachineName) (id : Int) :
    accepted (⟨s, .machineProcStart m id, s'⟩ :: tr) =
      fun n i => if n = m ∧ i = id then s.stateOf id else accepted tr n i := by
  funext n i
  simp only [accepted, Activation.machineProcStart.injEq]
  by_cases h : n = m ∧ i = id
  · rw [if_pos h, if_pos ⟨h.1.symm, h.2.symm⟩, h.2]
  · rw [if_neg h, if_neg (fun heq => h ⟨heq.1.symm, heq.2.symm⟩)]

theorem accepted_cons_of_ne (tr : List (Step Memory Activation)) (s s' : Memory) {i : Activation}
    (h : ∀ m id, i ≠ .machineProcStart m id) : accepted (⟨s, i, s'⟩ :: tr) = accepted tr := by
  funext m id
  rw [accepted, if_neg (h m id)]

/-- **One step keeps the invariant.** -/
theorem Sound.step {tr : List (Step Memory Activation)} {s s' : Memory} {i : Activation}
    (h : Sound (Memory.accepted tr) s) (hleaves : s.LeavesHeldPucks i)
    (hs : Memory.step s i = some s') : Sound (Memory.accepted (⟨s, i, s'⟩ :: tr)) s' := by
  by_cases hstart : ∃ m id, i = .machineProcStart m id
  · obtain ⟨m, id, rfl⟩ := hstart
    rw [accepted_cons_procStart]
    exact h.machineProcStart hs
  rw [accepted_cons_of_ne _ _ _ (fun m id heq => hstart ⟨m, id, heq⟩)]
  cases i with
  | gamestate gamestate =>
      cases hs
      exact h.congr rfl rfl
  | rfidInput input =>
      cases hs
      exact h.congr rfl rfl
  | placePuckUnderMachine m id =>
      simp only [Memory.step, Memory.placePuckUnderMachine, Option.ite_none_right_eq_some,
        Option.some.injEq] at hs
      obtain ⟨-, rfl⟩ := hs
      exact h.congr rfl rfl
  | rfidInputCleanup input =>
      simp only [Memory.step, Memory.rfidInputCleanup, Option.ite_none_right_eq_some,
        Option.some.injEq] at hs
      obtain ⟨-, rfl⟩ := hs
      exact h.congr rfl rfl
  | activateOrder order =>
      simp only [Memory.step, Memory.activateOrder, Option.ite_none_right_eq_some,
        Option.some.injEq] at hs
      obtain ⟨-, rfl⟩ := hs
      exact h.congr rfl rfl
  | orderDeliveredInTime pd order => exact h.orderDeliveredInTime hs
  | orderDeliveredOutOfTime pd =>
      simp only [Memory.step, Memory.orderDeliveredOutOfTime, Option.ite_none_right_eq_some,
        Option.some.injEq] at hs
      obtain ⟨-, rfl⟩ := hs
      exact h.congr rfl rfl
  | rfidInputLearnPuck m id => exact h.rfidInputLearnPuck hs
  | machineDown m => exact h.machineDown hs
  | machineUp m => exact h.machineUp hs
  | machineProcStart m id => exact absurd ⟨m, id, rfl⟩ hstart
  | machineInvalidInput m id => exact h.machineInvalidInput hs
  | machineWrongTeamInput m id => exact h.machineWrongTeamInput hleaves hs
  | machineInvalidInputJunk m id => exact h.machineInvalidInputJunk hleaves hs
  | machineProcWaiting m => exact h.machineProcWaiting hs
  | machineProcDone m => exact h.machineProcDone hs
  | machinePuckRemoval m => exact h.machinePuckRemoval hs
  | deliveryGateDownPeriod m dp => exact h.deliveryGateDownPeriod hs
  | deliverInvalidInput m id => exact h.deliverInvalidInput hleaves hs
  | deliverWrongTeamInput m id => exact h.deliverWrongTeamInput hleaves hs
  | deliverProcStart m id => exact h.deliverProcStart hs
  | deliverProcDone m => exact h.deliverProcDone hleaves hs
  | deliverDownMachine m id => exact h.deliverDownMachine hs
  | deliverRemoval m => exact h.removal (by decide) hs
  | recycleProcStart m id => exact h.recycleProcStart hs
  | recycleInvalidInput m id => exact h.recycleInvalidInput hs
  | recycleWrongTeamInput m id => exact h.recycleWrongTeamInput hleaves hs
  | recycleProcDone m => exact h.recycleProcDone hs
  | recycleRemoval m => exact h.removal (by decide) hs

/-- The pucks a machine produces from were accepted in exactly the states of its machine-spec's
inputs, each once. -/
def ProducesFromInputs (tr : List (Step Memory Activation)) (s : Memory) (m : MachineName) : Prop :=
  (((s.machines m).loadedWith ++ [(s.machines m).puckId]).map (accepted tr m)).Perm
    ((s.machines m).mtype.inputs.map some)

instance (tr : List (Step Memory Activation)) (s : Memory) (m : MachineName) :
    Decidable (ProducesFromInputs tr s m) := by
  unfold ProducesFromInputs
  infer_instance

/-- The invariant gives a finished production its inputs: as many pairwise distinct input states as
there are inputs. -/
theorem Sound.producesFromInputs {tr : List (Step Memory Activation)} {s s' : Memory}
    {m : MachineName} (h : Sound (Memory.accepted tr) s) (hs : s.machineProcDone m = some s') :
    ProducesFromInputs tr s m := by
  unfold Memory.machineProcDone at hs
  dsimp only at hs
  split at hs
  · next spec puck hspec hpuck =>
      rw [Option.ite_none_right_eq_some] at hs
      obtain ⟨⟨-, hproc, hlength, -⟩, -⟩ := hs
      obtain ⟨hinputs, hprod⟩ := inputs_of_machineSpec hspec
      have hheld : (s.machines m).held =
          (s.machines m).loadedWith ++ [(s.machines m).puckId] := by
        rw [Machine.held_of_production hprod, Machine.reading_of_processing hproc]
      rw [ProducesFromInputs, ← hheld]
      have hacc : (s.machines m).held.map (Memory.accepted tr m) =
          (s.machines m).held.map s.stateOf := by
        apply List.map_congr_left
        intro id hid
        obtain ⟨puck', hpuck', -, hstate⟩ := h.accepted m id hid
        rw [hstate, stateOf, hpuck']
        rfl
      rw [hacc]
      have hsub : (s.machines m).held.map s.stateOf ⊆ (s.machines m).mtype.inputs.map some := by
        intro state hstate
        obtain ⟨id, hid, rfl⟩ := List.mem_map.mp hstate
        obtain ⟨puck', hpuck', hmem, -⟩ := h.accepted m id hid
        rw [stateOf, hpuck']
        exact List.mem_map_of_mem hmem
      refine ((h.distinct m).subperm hsub).perm_of_length_le ?_
      rw [List.length_map, List.length_map, hheld, List.length_append, List.length_singleton,
        hlength, hinputs]
  · cases hs

/-- **Production is sound along the runs that leave held pucks alone**: whenever
`machine-proc-done` fires, its machine has had each of its inputs once. -/
theorem production_sound {s₀ s : Memory} {tr : List (Step Memory Activation)}
    (hfresh : s₀.Fresh) (hrun : ProductionRun s₀ tr s)
    (hleaves : ∀ t ∈ tr, t.pre.LeavesHeldPucks t.label) :
    ∀ later earlier t m, tr = later ++ t :: earlier → t.label = .machineProcDone m →
      ProducesFromInputs earlier t.pre m := by
  rintro later earlier t m rfl hlabel
  obtain ⟨hearlier, hstep⟩ := hrun.split
  have hsound : Sound (Memory.accepted earlier) t.pre := by
    refine @Run.history_invariant_of _ _ _ s₀ t.pre earlier LeavesHeldPucks
      (fun tr s => Sound (Memory.accepted tr) s) (hfresh.sound _) ?_ hearlier ?_
    · intro tr s i s' h hC hs
      exact h.step hC hs
    · intro u hu
      exact hleaves u (List.mem_append_right _ (List.mem_cons_of_mem _ hu))
  rw [hlabel] at hstep
  exact hsound.producesFromInputs hstep

/-! ## Two runs of a T2 -/

/-- The start of a production phase with two pucks of CYAN, in S0 and in the given state. -/
def twoPucks (state : PuckState) : Memory :=
  { startup with
    gamestate := { state := .running, phase := .production }
    pucks := fun id =>
      if id = 1 then some { team := some .cyan }
      else if id = 2 then some { team := some .cyan, state }
      else none }

theorem fresh_twoPucks (state : PuckState) : (twoPucks state).Fresh := fun _ => ⟨rfl, rfl⟩

/-- The clock stands at `t`. -/
def clock (t : ℚ) : Activation :=
  .gamestate { state := .running, phase := .production, gameTime := t }

/-- M3 is loaded with puck 1, which is taken away, and processes puck 2. -/
def loadM3 (between : List Activation) : List Activation :=
  [.rfidInput ⟨.m3, true, 1⟩, .machineProcStart .m3 1, clock 3, .machineProcWaiting .m3,
    .rfidInputCleanup ⟨.m3, true, 1⟩, .rfidInput ⟨.m3, false, 0⟩, .machinePuckRemoval .m3,
    .rfidInputCleanup ⟨.m3, false, 0⟩] ++ between ++
  [.rfidInput ⟨.m3, true, 2⟩, .machineProcStart .m3 2, clock 30]

/-- Puck 1 was in S0 and puck 2 in S1 when M3 accepted them. -/
theorem production_sound_run :
    ∃ tr s, ProductionRun (twoPucks .s1) tr s ∧ (s.machines .m3).productions = 1 ∧
      ∀ later earlier t m, tr = later ++ t :: earlier → t.label = .machineProcDone m →
        ProducesFromInputs earlier t.pre m := by
  have hrun : (trace step (twoPucks .s1) (loadM3 [] ++ [.machineProcDone .m3])).any (fun r =>
      decide ((r.2.machines .m3).productions = 1 ∧
        ∀ t ∈ r.1, t.pre.LeavesHeldPucks t.label)) = true := by decide +kernel
  obtain ⟨⟨tr, s⟩, htrace, hr⟩ := (Option.any_eq_true _ _).mp hrun
  obtain ⟨hdone, hleaves⟩ := of_decide_eq_true hr
  have hrun := run_of_trace htrace
  exact ⟨tr, s, hrun, hdone, production_sound (fresh_twoPucks .s1) hrun hleaves⟩

/-- In between, puck 1 is put under a gate, which finishes it; M3 then accepts another S0. -/
theorem production_unsound :
    ∃ tr s s', ProductionRun (twoPucks .s0) tr s ∧ s.machineProcDone .m3 = some s' ∧
      ¬ ProducesFromInputs tr s .m3 := by
  have hrun : (trace step (twoPucks .s0)
      (loadM3 [.rfidInput ⟨.d1, true, 1⟩, .deliverInvalidInput .d1 1])).any (fun r =>
        decide ((r.2.machineProcDone .m3).isSome = true ∧ ¬ ProducesFromInputs r.1 r.2 .m3)) =
          true := by decide +kernel
  obtain ⟨⟨tr, s⟩, htrace, hr⟩ := (Option.any_eq_true _ _).mp hrun
  obtain ⟨hdone, hnot⟩ := of_decide_eq_true hr
  obtain ⟨s', hs'⟩ := Option.isSome_iff_exists.mp hdone
  exact ⟨tr, s, s', run_of_trace htrace, hs', hnot⟩

end Memory

end FactoryHub.Llsf
