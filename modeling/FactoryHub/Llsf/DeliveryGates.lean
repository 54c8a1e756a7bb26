import FactoryHub.Llsf.Production

/-!
# Delivery gates

Four rules of the same salience match a puck that is put at a delivery gate. Their patterns are
written separately and overlap: `deliver-proc-start` takes every puck of the gate's team that is
not FINISHED, and `deliver-down-machine` does not ask for the grace time.

* `oneOutcome_iff` — when the rules leave no choice, accept only products and honour the grace time.
* `delivery_gate_outcome_iff` — the same in every state of a run, and what a run accepts.
* `delivery_gate_ambiguous` — an S0 at an idle gate, which is destroyed or delivered.
-/

namespace FactoryHub.Llsf

open Lib

/-- P1, P2 or P3. -/
def PuckState.IsProduct (state : PuckState) : Prop := state ∈ [PuckState.p1, .p2, .p3]

instance (state : PuckState) : Decidable state.IsProduct := by
  unfold PuckState.IsProduct
  infer_instance

theorem PuckState.IsProduct.ne_finished {state : PuckState} (h : state.IsProduct) :
    state ≠ .finished := by
  rintro rfl
  revert h
  decide

namespace Memory

/-- A rule with the facts it matches is on the agenda. -/
def Enabled (s : Memory) (a : Activation) : Prop := (s.step a).isSome = true

instance (s : Memory) (a : Activation) : Decidable (s.Enabled a) := by
  unfold Enabled
  infer_instance

/-- The rules for a puck that is put at a gate. -/
def gateRules (m : MachineName) (id : Int) : List Activation :=
  [.deliverInvalidInput m id, .deliverWrongTeamInput m id, .deliverProcStart m id,
    .deliverDownMachine m id]

/-- A puck is put at a delivery gate. -/
def AtGate (s : Memory) (m : MachineName) (id : Int) : Prop :=
  s.Producing ∧ s.Reads m id ∧ (s.machines m).mtype = .deliver

instance (s : Memory) (m : MachineName) (id : Int) : Decidable (s.AtGate m id) := by
  unfold AtGate
  infer_instance

/-- The gate is DOWN since no longer than the grace time. -/
def InGraceTime (s : Memory) (m : MachineName) : Prop :=
  (s.machines m).state = .down ∧
    s.gamestate.gameTime - (s.machines m).downPeriod.1 ≤ (deliveryGateGraceTime : ℚ)

instance (s : Memory) (m : MachineName) : Decidable (s.InGraceTime m) := by
  unfold InGraceTime
  infer_instance

/-- The input has one outcome: the enabled rule is determined, it starts a delivery only for a
product of the gate's team, and it does so for each one that is put there in the grace time. -/
structure OneOutcome (s : Memory) (m : MachineName) (id : Int) : Prop where
  exclusive : ∀ a ∈ gateRules m id, ∀ b ∈ gateRules m id, s.Enabled a → s.Enabled b → a = b
  accepts : s.Enabled (.deliverProcStart m id) → ∃ puck, s.pucks id = some puck ∧
    puck.state.IsProduct ∧ puck.team = some (s.machines m).team
  grace : ∀ puck, s.pucks id = some puck → puck.state.IsProduct →
    puck.team = some (s.machines m).team → s.InGraceTime m →
      ∀ a ∈ gateRules m id, s.Enabled a ↔ a = .deliverProcStart m id

/-- What a gate takes a delivery from is a product, and no empty gate is DOWN then. -/
def Unambiguous (s : Memory) (m : MachineName) (id : Int) : Prop :=
  ∀ puck, s.pucks id = some puck → puck.team = some (s.machines m).team →
    puck.state ≠ .finished → ((s.machines m).state = .idle ∨ s.InGraceTime m) →
      puck.state.IsProduct ∧ ((s.machines m).state = .down → (s.machines m).puckId ≠ 0)

instance (s : Memory) (m : MachineName) (id : Int) : Decidable (s.Unambiguous m id) := by
  unfold Unambiguous
  cases s.pucks id with
  | none => exact .isTrue (fun _ h => nomatch h)
  | some puck =>
      refine decidable_of_iff (puck.team = some (s.machines m).team →
        puck.state ≠ .finished → ((s.machines m).state = .idle ∨ s.InGraceTime m) →
          puck.state.IsProduct ∧ ((s.machines m).state = .down → (s.machines m).puckId ≠ 0)) ?_
      simp only [Option.some.injEq, forall_eq']

/-! ## When each rule is enabled -/

variable {s : Memory} {m : MachineName} {id : Int} {puck : Puck}

theorem enabled_deliverInvalidInput_iff (h : s.AtGate m id) (hpuck : s.pucks id = some puck) :
    s.Enabled (.deliverInvalidInput m id) ↔
      ((s.machines m).state = .idle ∨ (s.machines m).state = .down) ∧ (s.machines m).puckId = 0 ∧
        ¬ puck.state.IsProduct ∧ puck.team = some (s.machines m).team := by
  obtain ⟨hproducing, hreads, hmtype⟩ := h
  simp [Enabled, step, deliverInvalidInput, hpuck, hproducing, hreads, hmtype,
    PuckState.IsProduct]

theorem enabled_deliverWrongTeamInput_iff (h : s.AtGate m id) (hpuck : s.pucks id = some puck) :
    s.Enabled (.deliverWrongTeamInput m id) ↔
      ((s.machines m).state = .idle ∨ (s.machines m).state = .down) ∧ (s.machines m).puckId = 0 ∧
        puck.team ≠ some (s.machines m).team := by
  obtain ⟨hproducing, hreads, hmtype⟩ := h
  simp [Enabled, step, deliverWrongTeamInput, hpuck, hproducing, hreads, hmtype]

theorem enabled_deliverProcStart_iff (h : s.AtGate m id) (hpuck : s.pucks id = some puck) :
    s.Enabled (.deliverProcStart m id) ↔
      ((s.machines m).state = .idle ∨ s.InGraceTime m) ∧ puck.state ≠ .finished ∧
        puck.team = some (s.machines m).team := by
  obtain ⟨hproducing, hreads, hmtype⟩ := h
  simp [Enabled, step, deliverProcStart, hpuck, hproducing, hreads, hmtype, InGraceTime]

theorem enabled_deliverDownMachine_iff (h : s.AtGate m id) (hpuck : s.pucks id = some puck) :
    s.Enabled (.deliverDownMachine m id) ↔
      (s.machines m).state = .down ∧ (s.machines m).puckId = 0 ∧ puck.state.IsProduct ∧
        puck.team = some (s.machines m).team := by
  obtain ⟨hproducing, hreads, hmtype⟩ := h
  simp [Enabled, step, deliverDownMachine, hpuck, hproducing, hreads, hmtype,
    PuckState.IsProduct]

/-- No rule is for a puck that is not known. -/
theorem not_enabled_of_unknown (hpuck : s.pucks id = none) {a : Activation}
    (ha : a ∈ gateRules m id) : ¬ s.Enabled a := by
  simp only [gateRules, List.mem_cons, List.not_mem_nil, or_false] at ha
  rcases ha with rfl | rfl | rfl | rfl <;>
    simp [Enabled, step, deliverInvalidInput, deliverWrongTeamInput, deliverProcStart,
      deliverDownMachine, hpuck]

/-! ## One outcome -/

/-- The rules exclude each other when no puck is ambiguous. -/
theorem enabled_unique (h : s.AtGate m id) (hclear : s.Unambiguous m id)
    (hpuck : s.pucks id = some puck) {a b : Activation} (ha : a ∈ gateRules m id)
    (hb : b ∈ gateRules m id) (hea : s.Enabled a) (heb : s.Enabled b) : a = b := by
  have hproduct := hclear puck hpuck
  have hinvalid := enabled_deliverInvalidInput_iff h hpuck
  have hwrong := enabled_deliverWrongTeamInput_iff h hpuck
  have hstart := enabled_deliverProcStart_iff h hpuck
  have hdown := enabled_deliverDownMachine_iff h hpuck
  simp only [gateRules, List.mem_cons, List.not_mem_nil, or_false] at ha hb
  rcases ha with rfl | rfl | rfl | rfl <;> rcases hb with rfl | rfl | rfl | rfl
  all_goals first
    | rfl
    | exfalso
      grind

/-- **A puck at a gate has one outcome** exactly when it is not ambiguous. -/
theorem oneOutcome_iff (h : s.AtGate m id) : s.OneOutcome m id ↔ s.Unambiguous m id := by
  constructor
  · intro hone puck hpuck hteam hfinished hreceives
    have hstart := (enabled_deliverProcStart_iff h hpuck).mpr ⟨hreceives, hfinished, hteam⟩
    obtain ⟨puck', hpuck', hproduct, -⟩ := hone.accepts hstart
    rw [hpuck, Option.some.injEq] at hpuck'
    subst hpuck'
    refine ⟨hproduct, fun hstate hempty => ?_⟩
    -- the product is destroyed or delivered
    have hdown := (enabled_deliverDownMachine_iff h hpuck).mpr ⟨hstate, hempty, hproduct, hteam⟩
    have heq := hone.exclusive _ (by simp [gateRules]) _ (by simp [gateRules]) hstart hdown
    cases heq
  · intro hclear
    constructor
    · intro a ha b hb hea heb
      cases hpuck : s.pucks id with
      | none => exact absurd hea (not_enabled_of_unknown hpuck ha)
      | some puck => exact enabled_unique h hclear hpuck ha hb hea heb
    · intro hstart
      cases hpuck : s.pucks id with
      | none => exact absurd hstart (not_enabled_of_unknown (m := m) hpuck (by simp [gateRules]))
      | some puck =>
          obtain ⟨hreceives, hfinished, hteam⟩ := (enabled_deliverProcStart_iff h hpuck).mp hstart
          exact ⟨puck, rfl, (hclear puck hpuck hteam hfinished hreceives).1, hteam⟩
    · intro puck hpuck hproduct hteam hgrace a ha
      have hstart := (enabled_deliverProcStart_iff h hpuck).mpr
        ⟨Or.inr hgrace, hproduct.ne_finished, hteam⟩
      constructor
      · intro hea
        exact enabled_unique h hclear hpuck ha (by simp [gateRules]) hea hstart
      · rintro rfl
        exact hstart

/-! ## Along a run -/

/-- A delivery starts for a puck that is not ambiguous. -/
def StartsClear (s : Memory) : Activation → Prop
  | .deliverProcStart m id => s.Unambiguous m id
  | _ => True

instance (s : Memory) (a : Activation) : Decidable (s.StartsClear a) := by
  unfold StartsClear
  split <;> infer_instance

/-- A delivery starts for a product of the gate's team. -/
def StartsWithProduct (s : Memory) : Activation → Prop
  | .deliverProcStart m id => ∃ puck, s.pucks id = some puck ∧ puck.state.IsProduct ∧
      puck.team = some (s.machines m).team
  | _ => True

theorem atGate_of_deliverProcStart {s' : Memory} (h : s.deliverProcStart m id = some s') :
    s.AtGate m id := by
  unfold deliverProcStart at h
  dsimp only at h
  split at h
  · rw [Option.ite_none_right_eq_some] at h
    obtain ⟨⟨hproducing, hreads, hmtype, -⟩, -⟩ := h
    exact ⟨hproducing, hreads, hmtype⟩
  · cases h

theorem startsWithProduct_of_clear {s' : Memory} {a : Activation} (hstep : s.step a = some s')
    (hclear : s.StartsClear a) : s.StartsWithProduct a := by
  unfold StartsWithProduct
  split
  · next m id =>
      have hone := (oneOutcome_iff (atGate_of_deliverProcStart hstep)).mpr hclear
      apply hone.accepts
      rw [Enabled, hstep]
      rfl
  · trivial

/-- **When input at a delivery gate has one outcome**: in every state of a run, for the pucks that
are not ambiguous, and no others; and a run that starts deliveries for no ambiguous puck starts
them for products only. -/
theorem delivery_gate_outcome_iff {s₀ : Memory} {tr : List (Step Memory Activation)}
    (hrun : ProductionRun s₀ tr s) :
    (∀ m id, s.AtGate m id → (s.OneOutcome m id ↔ s.Unambiguous m id)) ∧
      ((∀ t ∈ tr, t.pre.StartsClear t.label) → ∀ t ∈ tr, t.pre.StartsWithProduct t.label) := by
  refine ⟨fun m id h => oneOutcome_iff h, ?_⟩
  intro hclear t ht
  obtain ⟨hstep, -⟩ := Run.mem_run hrun ht
  exact startsWithProduct_of_clear hstep (hclear t ht)

/-- The match has begun, and puck 1 of CYAN is on the field. -/
def onePuck (state : PuckState) : Memory :=
  { startup with
    gamestate := { state := .running, phase := .production }
    pucks := fun id => if id = 1 then some { team := some .cyan, state } else none }

/-- A P3 at the idle gate D1 and then at the idle gate D2. -/
theorem delivery_gate_outcome_of_p3 :
    ∃ tr s, ProductionRun (onePuck .p3) tr s ∧ s.OneOutcome .d2 1 ∧
      ∀ t ∈ tr, t.pre.StartsWithProduct t.label := by
  have hrun : (trace step (onePuck .p3) [.rfidInput ⟨.d1, true, 1⟩, .deliverProcStart .d1 1,
      .rfidInput ⟨.d2, true, 1⟩]).any (fun r =>
        decide ((r.2.AtGate .d2 1 ∧ r.2.Unambiguous .d2 1) ∧
          ∀ t ∈ r.1, t.pre.StartsClear t.label)) = true := by decide +kernel
  obtain ⟨⟨tr, s⟩, htrace, hr⟩ := (Option.any_eq_true _ _).mp hrun
  obtain ⟨⟨hgate, hone⟩, hclear⟩ := of_decide_eq_true hr
  obtain ⟨houtcome, hproducts⟩ := delivery_gate_outcome_iff (run_of_trace htrace)
  exact ⟨tr, s, run_of_trace htrace, (houtcome .d2 1 hgate).mpr hone, hproducts hclear⟩

/-- An S0 that is learned at the idle gate D1 may be destroyed as an invalid input, and it may be
delivered. -/
theorem delivery_gate_ambiguous :
    ∃ tr s, ProductionRun startup tr s ∧ s.AtGate .d1 1 ∧ ¬ s.OneOutcome .d1 1 := by
  have hrun : (trace step startup [.gamestate { state := .running, phase := .production },
      .rfidInput ⟨.d1, true, 1⟩, .rfidInputLearnPuck .d1 1]).any (fun r =>
        decide (r.2.AtGate .d1 1 ∧ r.2.Enabled (.deliverInvalidInput .d1 1) ∧
          r.2.Enabled (.deliverProcStart .d1 1))) = true := by decide +kernel
  obtain ⟨⟨tr, s⟩, htrace, hr⟩ := (Option.any_eq_true _ _).mp hrun
  obtain ⟨hgate, hinvalid, hstart⟩ := of_decide_eq_true hr
  refine ⟨tr, s, run_of_trace htrace, hgate, fun hone => ?_⟩
  have heq := hone.exclusive _ (by simp [gateRules]) _ (by simp [gateRules]) hinvalid hstart
  cases heq

end Memory

end FactoryHub.Llsf
