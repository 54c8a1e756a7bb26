import FactoryHub.Llsf.DeliveryGates
import FactoryHub.Llsf.ProductionSound

/-!
# Finished pucks

A gate or a machine of the other team makes a puck FINISHED, and it is meant to be taken off the
field. The rules for deliveries and for recycling ask for the state of a puck before they change
it. Two rules of the production machines do not: `machine-invalid-input-junk`, and
`machine-proc-done` for the pucks the machine remembers.

* `step_finishedKept_iff` — the steps that leave every FINISHED puck FINISHED.
* `finished_pucks_stay_iff` — the runs that do; they deliver no puck twice.
* `puck_delivered_twice` — a puck delivered while a machine is still processing it.
-/

namespace FactoryHub.Llsf

open Lib

namespace Memory

/-- Every FINISHED puck is FINISHED still. -/
def FinishedKept (s s' : Memory) : Prop :=
  ∀ id, s.stateOf id = some .finished → s'.stateOf id = some .finished

/-- The rule that fires rewrites no FINISHED puck. -/
def SparesFinished (s : Memory) : Activation → Prop
  | .machineInvalidInputJunk _ id => s.stateOf id ≠ some .finished
  | .machineProcDone m =>
      ∀ id ∈ (s.machines m).puckId :: (s.machines m).loadedWith, s.stateOf id ≠ some .finished
  | _ => True

instance (s : Memory) (a : Activation) : Decidable (s.SparesFinished a) := by
  apply Activation.casesOn (motive := fun a => Decidable (s.SparesFinished a)) a <;>
    (intros; dsimp only [SparesFinished]; infer_instance)

/-! ## Puck states -/

section

variable {s s' : Memory} {m : MachineName} {id : Int} {state : PuckState}

theorem finishedKept_of_pucks (h : s'.pucks = s.pucks) : s.FinishedKept s' := by
  intro id hid
  rw [stateOf, h]
  exact hid

theorem stateOf_setPuckStates (s : Memory) (ids : List Int) (state : PuckState) (id : Int) :
    (s.setPuckStates ids state).stateOf id =
      if id ∈ ids then (s.stateOf id).map (fun _ => state) else s.stateOf id := by
  unfold stateOf setPuckStates
  dsimp only
  split
  · rw [Option.map_map, Option.map_map]
    rfl
  · rfl

theorem stateOf_setPuck (s : Memory) (id i : Int) (puck : Puck) :
    (s.setPuck id puck).stateOf i = if i = id then some puck.state else s.stateOf i := by
  unfold stateOf setPuck
  dsimp only
  split <;> rfl

/-- Making pucks FINISHED, or changing some that are not, keeps those that are. -/
theorem finishedKept_setPuckStates {ids : List Int} (hpucks : s'.pucks = s.pucks)
    (h : state = .finished ∨ ∀ id ∈ ids, s.stateOf id ≠ some .finished) :
    s.FinishedKept (s'.setPuckStates ids state) := by
  intro id hid
  have hsame : s'.stateOf id = some .finished := finishedKept_of_pucks hpucks id hid
  rw [stateOf_setPuckStates, hsame]
  split
  · next hmem =>
      rcases h with rfl | h
      · rfl
      · exact absurd hid (h id hmem)
  · rfl

/-- A puck that becomes something else is not kept. -/
theorem not_finished_of_kept {ids : List Int} (hkept : s.FinishedKept (s'.setPuckStates ids state))
    (hstate : state ≠ .finished) (hmem : id ∈ ids) : s.stateOf id ≠ some .finished := by
  intro hid
  have hafter := hkept id hid
  rw [stateOf_setPuckStates, if_pos hmem, Option.map_eq_some_iff] at hafter
  obtain ⟨_, -, heq⟩ := hafter
  exact hstate heq

/-! ## The rules that rewrite a puck unasked -/

theorem junk_finishedKept_iff (h : s.machineInvalidInputJunk m id = some s') :
    s.FinishedKept s' ↔ s.stateOf id ≠ some .finished := by
  unfold machineInvalidInputJunk at h
  rw [Option.ite_none_right_eq_some, Option.some.injEq] at h
  obtain ⟨-, rfl⟩ := h
  -- which machines the puck is taken out of makes no difference
  have hpucks : s.FinishedKept ((s.reject m id).setPuckStates [id] .consumed) ↔
      s.stateOf id ≠ some .finished := by
    constructor
    · intro hkept
      exact not_finished_of_kept hkept (by decide) (List.mem_singleton_self id)
    · intro hid
      apply finishedKept_setPuckStates
      · rfl
      · right
        intro i hi
        rw [List.mem_singleton.mp hi]
        exact hid
  exact hpucks

theorem output_ne_finished {procTime : MType → Int} {mtype : MType} {spec : MachineSpec}
    (h : machineSpec procTime mtype = some spec) : spec.output ≠ .finished := by
  cases mtype <;> cases h <;> simp

theorem procDone_finishedKept_iff (h : s.machineProcDone m = some s') :
    s.FinishedKept s' ↔
      ∀ id ∈ (s.machines m).puckId :: (s.machines m).loadedWith, s.stateOf id ≠ some .finished := by
  unfold machineProcDone at h
  dsimp only at h
  split at h
  case h_2 => cases h
  next spec puck hspec hpuck =>
    rw [Option.ite_none_right_eq_some, Option.some.injEq] at h
    obtain ⟨-, rfl⟩ := h
    have houtput := output_ne_finished hspec
    constructor
    · intro hkept id hmem
      rcases List.mem_cons.mp hmem with rfl | hload
      · -- the puck under the reader has become the output, or been consumed after that
        intro hid
        have hafter := hkept _ hid
        rw [stateOf_setPuckStates, stateOf_setPuck, if_pos rfl] at hafter
        split at hafter
        · cases hafter
        · exact houtput (Option.some.inj hafter)
      · exact not_finished_of_kept hkept (by decide) hload
    · intro hspared id hid
      rw [stateOf_setPuckStates, stateOf_setPuck, if_neg, if_neg]
      · exact hid
      · intro heq
        exact hspared id (heq ▸ List.mem_cons_self) hid
      · intro hload
        exact hspared id (List.mem_cons_of_mem _ hload) hid

/-! ## One step -/

/-- A puck that is learned was not known before. -/
theorem learnPuck_finishedKept (h : s.rfidInputLearnPuck m id = some s') : s.FinishedKept s' := by
  unfold rfidInputLearnPuck at h
  rw [Option.ite_none_right_eq_some, Option.some.injEq] at h
  obtain ⟨⟨-, hnew⟩, rfl⟩ := h
  intro i hi
  rw [stateOf_setPuck, if_neg]
  · exact hi
  · rintro rfl
    rw [stateOf, hnew] at hi
    cases hi

theorem recycleProcDone_finishedKept (h : s.recycleProcDone m = some s') : s.FinishedKept s' := by
  unfold recycleProcDone at h
  dsimp only at h
  split at h
  · next puck hpuck =>
      rw [Option.ite_none_right_eq_some, Option.some.injEq] at h
      obtain ⟨⟨-, -, -, -, hconsumed, -⟩, rfl⟩ := h
      have hkept : s.FinishedKept ((s.setMachine m { s.machines m with
          state := .idle, productions := (s.machines m).productions + 1 }).setPuckStates
            [(s.machines m).puckId] .s0) := by
        apply finishedKept_setPuckStates
        · rfl
        · right
          intro i hi
          rw [List.mem_singleton.mp hi, stateOf, hpuck, Option.map_some, hconsumed]
          decide
      exact hkept
  · cases h

/-- A step keeps the FINISHED pucks exactly when the rule rewrites none of them. -/
theorem step_finishedKept_iff {a : Activation} (h : s.step a = some s') :
    s.FinishedKept s' ↔ s.SparesFinished a := by
  cases a
  case machineInvalidInputJunk m id => exact junk_finishedKept_iff h
  case machineProcDone m => exact procDone_finishedKept_iff h
  case rfidInputLearnPuck m id => exact iff_of_true (learnPuck_finishedKept h) trivial
  case recycleProcDone m => exact iff_of_true (recycleProcDone_finishedKept h) trivial
  -- the other rules leave the pucks alone, or make one FINISHED
  all_goals
    refine iff_of_true ?_ trivial
    simp only [step, placePuckUnderMachine, rfidInputCleanup, activateOrder, orderDeliveredInTime,
      orderDeliveredOutOfTime, machineDown, machineUp, machineProcStart, machineInvalidInput,
      machineWrongTeamInput, machineProcWaiting, machinePuckRemoval, deliveryGateDownPeriod,
      deliverInvalidInput, deliverWrongTeamInput, deliverProcStart, deliverProcDone,
      deliverDownMachine, deliverRemoval, recycleProcStart, recycleInvalidInput,
      recycleWrongTeamInput, recycleRemoval, removal] at h
    repeat' split at h
    all_goals first
      | cases h
        first
          | exact finishedKept_of_pucks rfl
          | exact fun i hi => finishedKept_setPuckStates rfl (Or.inl rfl) i hi
      | cases h

end

/-! ## Along a run -/

/-- The puck for which a rule asserts a product-delivered fact. -/
def deliveredPuck (s : Memory) : Activation → Option Int
  | .deliverProcDone m => some (s.machines m).puckId
  | _ => none

/-- How many product-delivered facts a puck has given rise to. -/
def deliveries (tr : List (Step Memory Activation)) (id : Int) : ℕ :=
  tr.countP (fun t => t.pre.deliveredPuck t.label = some id)

/-- No rule that fires rewrites a FINISHED puck. -/
def AllSpared (tr : List (Step Memory Activation)) : Prop :=
  ∀ t ∈ tr, t.pre.SparesFinished t.label

section

variable {s₀ s s' : Memory} {tr : List (Step Memory Activation)} {a : Activation} {id : Int}

/-- A puck is delivered once it is FINISHED, and was not before. -/
theorem deliverProcDone_finishes (h : s.step a = some s') (hid : s.deliveredPuck a = some id) :
    s.stateOf id ≠ some .finished ∧ s'.stateOf id = some .finished := by
  unfold deliveredPuck at hid
  split at hid
  · next m =>
      rw [Option.some.injEq] at hid
      subst hid
      have hdone : s.deliverProcDone m = some s' := h
      unfold deliverProcDone at hdone
      dsimp only at hdone
      split at hdone
      · next puck hpuck =>
          rw [Option.ite_none_right_eq_some, Option.some.injEq] at hdone
          obtain ⟨⟨-, -, -, -, hstate, -⟩, rfl⟩ := hdone
          have hbefore : s.stateOf (s.machines m).puckId = some puck.state := by
            rw [stateOf, hpuck]
            rfl
          constructor
          · rw [hbefore]
            intro heq
            exact hstate (Option.some.inj heq)
          · show ((s.setMachine m _).setPuckStates [(s.machines m).puckId] .finished).stateOf
              (s.machines m).puckId = _
            rw [stateOf_setPuckStates, if_pos (List.mem_singleton_self _)]
            show (s.stateOf _).map _ = _
            rw [hbefore]
            rfl
      · cases hdone
  · cases hid

theorem deliveries_cons (s : Memory) (a : Activation) (s' : Memory) :
    deliveries (⟨s, a, s'⟩ :: tr) id =
      deliveries tr id + if s.deliveredPuck a = some id then 1 else 0 := by
  simp only [deliveries, List.countP_cons, decide_eq_true_eq]

/-- A FINISHED puck is FINISHED in every later state. -/
theorem finished_stays (hrun : ProductionRun s₀ tr s) (hspared : AllSpared tr) :
    ∀ t ∈ tr, t.pre.FinishedKept s ∧ t.post.FinishedKept s := by
  induction hrun with
  | init =>
      intro t ht
      cases ht
  | @step tr s s' a hrun hstep ih =>
      have hkept := (step_finishedKept_iff hstep).mpr (hspared _ (List.mem_cons_self ..))
      intro t ht
      rcases List.mem_cons.mp ht with rfl | ht
      · exact ⟨hkept, fun id hid => hid⟩
      · obtain ⟨hpre, hpost⟩ := ih (fun u hu => hspared u (List.mem_cons_of_mem _ hu)) t ht
        exact ⟨fun id hid => hkept id (hpre id hid), fun id hid => hkept id (hpost id hid)⟩

/-- What is delivered is FINISHED, and so is not delivered again. -/
theorem deliveries_le_one (hrun : ProductionRun s₀ tr s) (hspared : AllSpared tr) :
    deliveries tr id = 0 ∨ deliveries tr id = 1 ∧ s.stateOf id = some .finished := by
  apply Run.history_invariant_of (C := SparesFinished) ?_ ?_ hrun hspared
  · exact Or.inl rfl
  intro tr s a s' hinv hspare hstep
  rw [deliveries_cons]
  by_cases hid : s.deliveredPuck a = some id
  · obtain ⟨hbefore, hafter⟩ := deliverProcDone_finishes hstep hid
    rw [if_pos hid]
    rcases hinv with hzero | ⟨-, hfinished⟩
    · exact Or.inr ⟨by omega, hafter⟩
    · exact absurd hfinished hbefore
  · rw [if_neg hid, Nat.add_zero]
    rcases hinv with hzero | ⟨hone, hfinished⟩
    · exact Or.inl hzero
    · exact Or.inr ⟨hone, (step_finishedKept_iff hstep).mpr hspare id hfinished⟩

/-- **Finished pucks stay finished** in a run exactly when no rule that fires rewrites one; then
every state keeps those of the states before it, and no puck is delivered twice. -/
theorem finished_pucks_stay_iff (hrun : ProductionRun s₀ tr s) :
    ((∀ t ∈ tr, t.pre.FinishedKept t.post) ↔ AllSpared tr) ∧
      (AllSpared tr → (∀ t ∈ tr, t.pre.FinishedKept s) ∧ ∀ id, deliveries tr id ≤ 1) := by
  constructor
  · constructor
    · intro hkept t ht
      exact (step_finishedKept_iff (Run.mem_run hrun ht).1).mp (hkept t ht)
    · intro hspared t ht
      exact (step_finishedKept_iff (Run.mem_run hrun ht).1).mpr (hspared t ht)
  · intro hspared
    constructor
    · exact fun t ht => (finished_stays hrun hspared t ht).1
    · intro id
      have hle := @deliveries_le_one s₀ s tr id hrun hspared
      omega

end

/-- The P3 is delivered at D1. -/
theorem finished_pucks_stay_after_delivery :
    ∃ tr s, ProductionRun (onePuck .p3) tr s ∧ (∀ t ∈ tr, t.pre.FinishedKept s) ∧
      deliveries tr 1 = 1 := by
  have hrun : (trace step (onePuck .p3) [.rfidInput ⟨.d1, true, 1⟩, .deliverProcStart .d1 1,
      clock 2, .deliverProcDone .d1, clock 3]).any (fun r =>
        decide (deliveries r.1 1 = 1 ∧ ∀ t ∈ r.1, t.pre.SparesFinished t.label)) = true := by
    decide +kernel
  obtain ⟨⟨tr, s⟩, htrace, hr⟩ := (Option.any_eq_true _ _).mp hrun
  obtain ⟨hone, hspared⟩ := of_decide_eq_true hr
  have hrun := run_of_trace htrace
  exact ⟨tr, s, hrun, ((finished_pucks_stay_iff hrun).2 hspared).1, hone⟩

/-- An S0 is put into the T5 M8, and under the gate D1 before M8 is done. -/
def deliverWhileProcessing : List Activation :=
  [clock 0, .rfidInput ⟨.m8, true, 1⟩, .rfidInputLearnPuck .m8 1, .machineProcStart .m8 1,
    .placePuckUnderMachine .d1 1, .deliverProcStart .d1 1, clock 2, .deliverProcDone .d1,
    clock 5, .machineProcDone .m8, .deliverProcStart .d1 1, clock 7, .deliverProcDone .d1]

/-- The S0 is delivered, becomes a P3 and is delivered again. -/
theorem puck_delivered_twice :
    ∃ tr s, ProductionRun startup tr s ∧ ¬ (∀ t ∈ tr, t.pre.FinishedKept t.post) ∧
      deliveries tr 1 = 2 ∧ s.productDelivered.length = 2 := by
  have hrun : (trace step startup deliverWhileProcessing).any (fun r =>
      decide ((∃ t ∈ r.1, t.pre.stateOf 1 = some .finished ∧ t.post.stateOf 1 ≠ some .finished) ∧
        deliveries r.1 1 = 2 ∧ r.2.productDelivered.length = 2)) = true := by decide +kernel
  obtain ⟨⟨tr, s⟩, htrace, hr⟩ := (Option.any_eq_true _ _).mp hrun
  obtain ⟨⟨t, ht, hbefore, hafter⟩, htwice⟩ := of_decide_eq_true hr
  exact ⟨tr, s, run_of_trace htrace, fun hkept => hafter (hkept t ht 1 hbefore), htwice⟩

end Memory

end FactoryHub.Llsf
