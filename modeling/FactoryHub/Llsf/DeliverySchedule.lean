import FactoryHub.Llsf.MachineInit
import Mathlib.Data.List.Chain

/-!
# The schedule of the delivery gates

The loop of `machine-init-randomize` over the delivery periods, for any lengths drawn.

* **The loop** (`deliveryRound_spec`, `initDeliveryPeriods_spec`) — a round adds a period at the
  end; there is room for another one of the minimum length as long as the end is not reached.
* **The schedule** (`delivery_gate_schedule`) — the periods divide the time up to the end.
-/

namespace FactoryHub.Llsf

open Clips Lib Init

variable {g : Globals} {rand : ℕ → ℕ}

/-! ## Schedules -/

/-- The gates of successive periods: none is the same for both, ANY aside. -/
def GatePeriod.Changes (p q : GatePeriod) : Prop :=
  p.deliveryGates.1 ≠ q.deliveryGates.1 ∧
    (p.deliveryGates.2 = q.deliveryGates.2 → p.deliveryGates.2 = .any)

/-- Periods that follow each other from 0 on, each of at least `minTime`, at `gates` that change. -/
structure Consecutive (minTime : ℕ) (gates : List MachineName) (periods : List GatePeriod) :
    Prop where
  starts : ∀ p ∈ periods.head?, p.period.1 = 0
  contiguous : periods.IsChain (fun p q => p.period.2 = q.period.1)
  lasts : ∀ p ∈ periods, p.period.1 + minTime ≤ p.period.2
  changes : periods.IsChain GatePeriod.Changes
  gate : ∀ p ∈ periods, p.deliveryGates.1 ∈ gates
  magenta : ∀ p ∈ periods, p.deliveryGates.2 = machineMagentaForCyanGate p.deliveryGates.1

/-- When the last period ends. -/
def endOf (periods : List GatePeriod) : ℕ := (periods.getLast?.map fun p => p.period.2).getD 0

/-- The gate of the last period. -/
def lastGate (periods : List GatePeriod) : Option MachineName :=
  periods.getLast?.map fun p => p.deliveryGates.1

@[simp] theorem endOf_append (periods : List GatePeriod) (p : GatePeriod) :
    endOf (periods ++ [p]) = p.period.2 := by
  simp [endOf]

@[simp] theorem lastGate_append (periods : List GatePeriod) (p : GatePeriod) :
    lastGate (periods ++ [p]) = some p.deliveryGates.1 := by
  simp [lastGate]

namespace Consecutive

variable {minTime : ℕ} {gates : List MachineName} {periods : List GatePeriod} {p : GatePeriod}

theorem nil : Consecutive minTime gates [] where
  starts := by simp
  contiguous := .nil
  lasts := by simp
  changes := .nil
  gate := by simp
  magenta := by simp

theorem append (h : Consecutive minTime gates periods) (hstart : p.period.1 = endOf periods)
    (hlasts : p.period.1 + minTime ≤ p.period.2) (hgate : p.deliveryGates.1 ∈ gates)
    (hmagenta : p.deliveryGates.2 = machineMagentaForCyanGate p.deliveryGates.1)
    (hchange : ∀ q ∈ periods.getLast?, q.Changes p) :
    Consecutive minTime gates (periods ++ [p]) where
  starts := by
    cases periods with
    | nil => simpa [endOf] using hstart
    | cons q periods => simpa using h.starts
  contiguous := by
    apply h.contiguous.append (.singleton p)
    intro q hq r hr
    rw [List.head?_cons, Option.mem_some_iff] at hr
    subst hr
    rw [hstart, endOf, Option.mem_def.mp hq, Option.map_some, Option.getD_some]
  lasts := by
    intro q hq
    rcases List.mem_append.mp hq with hq | hq
    · exact h.lasts q hq
    · rw [List.mem_singleton.mp hq]
      exact hlasts
  changes := by
    apply h.changes.append (.singleton p)
    intro q hq r hr
    rw [List.head?_cons, Option.mem_some_iff] at hr
    subst hr
    exact hchange q hq
  gate := by
    intro q hq
    rcases List.mem_append.mp hq with hq | hq
    · exact h.gate q hq
    · rw [List.mem_singleton.mp hq]
      exact hgate
  magenta := by
    intro q hq
    rcases List.mem_append.mp hq with hq | hq
    · exact h.magenta q hq
    · rw [List.mem_singleton.mp hq]
      exact hmagenta

theorem init (h : Consecutive minTime gates (periods ++ [p])) :
    Consecutive minTime gates periods where
  starts := by
    intro q hq
    apply h.starts
    rw [List.head?_append, Option.mem_def.mp hq]
    rfl
  contiguous := h.contiguous.left_of_append
  lasts q hq := h.lasts q (List.mem_append_left _ hq)
  changes := h.changes.left_of_append
  gate q hq := h.gate q (List.mem_append_left _ hq)
  magenta q hq := h.magenta q (List.mem_append_left _ hq)

/-- The last period ends latest. -/
theorem le_endOf (h : Consecutive minTime gates periods) :
    ∀ p ∈ periods, p.period.2 ≤ endOf periods := by
  induction periods using List.reverseRecOn with
  | nil => simp
  | append_singleton periods p ih =>
      intro q hq
      rw [endOf_append]
      rcases List.mem_append.mp hq with hq | hq
      · have hle := ih h.init q hq
        have hlasts := h.lasts p (by simp)
        have hne : periods ≠ [] := List.ne_nil_of_mem hq
        have hlast := (List.isChain_append.mp h.contiguous).2.2 _
          (List.getLast?_eq_some_getLast hne) p rfl
        rw [endOf, List.getLast?_eq_some_getLast hne, Option.map_some, Option.getD_some] at hle
        omega
      · rw [List.mem_singleton.mp hq]

end Consecutive

/-- The periods divide the time from 0 to `endTime`. -/
structure Partition (minTime endTime : ℕ) (gates : List MachineName)
    (periods : List GatePeriod) : Prop extends Consecutive minTime gates periods where
  ends : (periods.getLast?.map fun p => p.period.2) = some endTime

/-! ## The loop -/

/-- What holds between two rounds. The time left is none, or enough for another period. -/
structure Laid (g : Globals) (gates : List MachineName) (vars : ℕ × Option MachineName)
    (periods : List GatePeriod) : Prop
    extends Consecutive g.deliveryGateMinTime gates periods where
  endTime : vars.1 = endOf periods
  gate_last : vars.2 = lastGate periods
  room : vars.1 = g.prodEndTime ∨ vars.1 + g.deliveryGateMinTime ≤ g.prodEndTime

/-- The end of a period that starts at `startTime` and is drawn to last `duration`. -/
def deliverPeriodEnd (g : Globals) (startTime duration : ℕ) : ℕ :=
  if min (startTime + duration) g.prodEndTime ≥ g.prodEndTime - g.deliveryGateMinTime then
    g.prodEndTime
  else min (startTime + duration) g.prodEndTime

theorem deliverPeriodEnd_room (startTime duration : ℕ) :
    deliverPeriodEnd g startTime duration = g.prodEndTime ∨
      deliverPeriodEnd g startTime duration + g.deliveryGateMinTime ≤ g.prodEndTime := by
  unfold deliverPeriodEnd
  split
  · exact .inl rfl
  · right
    omega

theorem le_deliverPeriodEnd {startTime duration : ℕ} (hduration : g.deliveryGateMinTime ≤ duration)
    (hroom : startTime + g.deliveryGateMinTime ≤ g.prodEndTime) :
    startTime + g.deliveryGateMinTime ≤ deliverPeriodEnd g startTime duration := by
  unfold deliverPeriodEnd
  split
  · exact hroom
  · omega

/-- The gates that may follow `lastDeliveryGate`. -/
def candidateGates (gates : List MachineName) (lastDeliveryGate : Option MachineName) :
    List MachineName :=
  lastDeliveryGate.elim gates (deleteMember gates)

theorem mem_candidateGates {gates : List MachineName} {lastDeliveryGate : Option MachineName}
    {gate : MachineName} :
    gate ∈ candidateGates gates lastDeliveryGate ↔
      gate ∈ gates ∧ lastDeliveryGate ≠ some gate := by
  cases lastDeliveryGate with
  | none => simp [candidateGates]
  | some last =>
      show gate ∈ deleteMember gates last ↔ _
      rw [mem_deleteMember, ne_eq, ne_eq, Option.some_inj, eq_comm (a := last)]

/-- Of two gates, one at least is not the last one. -/
theorem candidateGates_ne_nil {gates : List MachineName} {a b : MachineName} (ha : a ∈ gates)
    (hb : b ∈ gates) (hne : a ≠ b) (lastDeliveryGate : Option MachineName) :
    candidateGates gates lastDeliveryGate ≠ [] := by
  by_cases hlast : lastDeliveryGate = some a
  · apply List.ne_nil_of_mem (a := b)
    rw [mem_candidateGates, hlast]
    exact ⟨hb, fun h => hne (Option.some_inj.mp h)⟩
  · exact List.ne_nil_of_mem (mem_candidateGates.mpr ⟨ha, hlast⟩)

/-- Different gates of CYAN have different gates of MAGENTA at their places, ANY aside. -/
theorem machineMagentaForCyanGate_inj {a b : MachineName}
    (h : machineMagentaForCyanGate a = machineMagentaForCyanGate b) (hne : a ≠ b) :
    machineMagentaForCyanGate a = .any := by
  cases a <;> cases b <;> simp_all [machineMagentaForCyanGate]

/-- The period that a round lays. -/
def roundPeriod (vars : ℕ × Option MachineName) (endTime : ℕ) (gate : MachineName) : GatePeriod :=
  ⟨(gate, machineMagentaForCyanGate gate), (vars.1, endTime)⟩

namespace Laid

variable {gates : List MachineName} {vars : ℕ × Option MachineName} {periods : List GatePeriod}
  {duration : ℕ}

theorem lt_deliverPeriodEnd (h : Laid g gates vars periods) (hcond : vars.1 < g.prodEndTime)
    (hduration : g.deliveryGateMinTime ≤ duration) :
    vars.1 + g.deliveryGateMinTime ≤ deliverPeriodEnd g vars.1 duration := by
  apply le_deliverPeriodEnd hduration
  rcases h.room with hend | hroom
  · omega
  · exact hroom

/-- A round lays the next period. It starts later than the others, so it is a new fact. -/
theorem round (h : Laid g gates vars periods) {gate : MachineName}
    (hpos : 0 < g.deliveryGateMinTime) (hcond : vars.1 < g.prodEndTime)
    (hduration : g.deliveryGateMinTime ≤ duration) (hgate : gate ∈ candidateGates gates vars.2) :
    Laid g gates (deliverPeriodEnd g vars.1 duration, some gate)
      (assertFact (roundPeriod vars (deliverPeriodEnd g vars.1 duration) gate) periods) := by
  have hlt := h.lt_deliverPeriodEnd hcond hduration
  have hnew : roundPeriod vars (deliverPeriodEnd g vars.1 duration) gate ∉ periods := by
    intro hmem
    have hle := h.le_endOf _ hmem
    rw [← h.endTime] at hle
    have hend : deliverPeriodEnd g vars.1 duration ≤ vars.1 := hle
    omega
  rw [assertFact, if_neg hnew]
  obtain ⟨hmem, hlast⟩ := mem_candidateGates.mp hgate
  refine ⟨h.toConsecutive.append h.endTime hlt hmem rfl ?_, ?_, ?_, deliverPeriodEnd_room _ _⟩
  · intro q hq
    have hne : q.deliveryGates.1 ≠ gate := by
      intro heq
      apply hlast
      rw [h.gate_last, lastGate, Option.mem_def.mp hq, Option.map_some, heq]
    refine ⟨hne, fun heq => ?_⟩
    rw [h.magenta q (List.mem_of_getLast? hq)] at heq ⊢
    exact machineMagentaForCyanGate_inj heq hne
  · rw [endOf_append]
    rfl
  · rw [lastGate_append]
    rfl

end Laid

variable {gates : List MachineName} {a b : MachineName} {P : Field → Prop}

variable (rand) in
/-- A round lays one more period. `P` is what the periods and the draws have no part in. -/
theorem deliveryRound_spec (hle : g.deliveryGateMinTime ≤ g.deliveryGateMaxTime)
    (hpos : 0 < g.deliveryGateMinTime) (ha : a ∈ gates) (hb : b ∈ gates) (hne : a ≠ b)
    (hP : ∀ f periods n, P f → P { f with deliveryPeriods := periods, draws := n })
    (vars : ℕ × Option MachineName) (hcond : vars.1 < g.prodEndTime) :
    Triple (fun f => Laid g gates vars f.deliveryPeriods ∧ P f) (deliveryRound g rand gates vars)
      fun vars' f => g.prodEndTime - vars'.1 < g.prodEndTime - vars.1 ∧
        Laid g gates vars' f.deliveryPeriods ∧ P f := by
  have hdraw : ∀ (f : Field) n, (Laid g gates vars f.deliveryPeriods ∧ P f) →
      Laid g gates vars f.deliveryPeriods ∧ P { f with draws := n } :=
    fun f n h => ⟨h.1, hP f f.deliveryPeriods n h.2⟩
  refine Triple.bind_imp (draw_random_spec hle hdraw) ?_
  rintro duration ⟨hduration, -⟩
  have hcand := List.length_pos_of_ne_nil (candidateGates_ne_nil ha hb hne vars.2)
  refine Triple.bind_imp (draw_random_spec hcand hdraw) ?_
  rintro i ⟨hi, hi'⟩
  have hgate : nth i (candidateGates gates vars.2) ∈ candidateGates gates vars.2 := nth_mem hi hi'
  refine Triple.bind (Triple.modify (Q := fun f : Field =>
    g.prodEndTime - deliverPeriodEnd g vars.1 duration < g.prodEndTime - vars.1 ∧
      Laid g gates (deliverPeriodEnd g vars.1 duration, some (nth i (candidateGates gates vars.2)))
        f.deliveryPeriods ∧ P f) ?_) fun _ => Triple.pure fun f hf => hf
  rintro f ⟨hlaid, hf⟩
  have hlt := hlaid.lt_deliverPeriodEnd hcond hduration
  exact ⟨by omega, hlaid.round hpos hcond hduration hgate, hP f _ f.draws hf⟩

/-- No period has been laid. -/
theorem Laid.nil (hend : g.deliveryGateMinTime ≤ g.prodEndTime) :
    Laid g gates (0, none) [] where
  toConsecutive := .nil
  endTime := rfl
  gate_last := rfl
  room := by
    right
    rwa [Nat.zero_add]

/-- When the loop has ended, the periods reach the end. -/
theorem Laid.partition {vars : ℕ × Option MachineName} {periods : List GatePeriod}
    (h : Laid g gates vars periods) (hpos : 0 < g.deliveryGateMinTime)
    (hend : g.deliveryGateMinTime ≤ g.prodEndTime) (hcond : ¬ vars.1 < g.prodEndTime) :
    Partition g.deliveryGateMinTime g.prodEndTime gates periods where
  toConsecutive := h.toConsecutive
  ends := by
    have hstop : vars.1 = g.prodEndTime := by
      rcases h.room with hstop | hroom
      · exact hstop
      · omega
    have hlast : endOf periods = g.prodEndTime := h.endTime.symm.trans hstop
    unfold endOf at hlast
    cases hget : periods.getLast? with
    | none =>
        -- nothing ends at a time that is not 0
        rw [hget] at hlast
        have hzero : 0 = g.prodEndTime := hlast
        omega
    | some p =>
        rw [hget] at hlast
        exact congrArg some hlast

variable (rand) in
/-- The loop ends, and the periods are a schedule. -/
theorem initDeliveryPeriods_spec (hpos : 0 < g.deliveryGateMinTime)
    (hle : g.deliveryGateMinTime ≤ g.deliveryGateMaxTime)
    (hend : g.deliveryGateMinTime ≤ g.prodEndTime) (ha : a ∈ gates) (hb : b ∈ gates) (hne : a ≠ b)
    {fuel : ℕ} (hfuel : g.prodEndTime ≤ fuel)
    (hP : ∀ f periods n, P f → P { f with deliveryPeriods := periods, draws := n }) :
    Triple (fun f => f.deliveryGates = gates ∧ P f) (initDeliveryPeriods g rand fuel)
      fun ended f => ended = true ∧
        Partition g.deliveryGateMinTime g.prodEndTime gates f.deliveryPeriods ∧ P f := by
  refine Triple.bind (Triple.modify (Q := fun f =>
    f.deliveryPeriods = [] ∧ f.deliveryGates = gates ∧ P f) ?_) fun _ => ?_
  · rintro f ⟨hgates, hf⟩
    exact ⟨rfl, hgates, hP f _ f.draws hf⟩
  apply Triple.bind_get
  rintro f ⟨hnil, rfl, hf⟩
  have hloop := Triple.whileLoop (fun vars => g.prodEndTime - vars.1)
    (fun vars hcond => deliveryRound_spec rand hle hpos ha hb hne hP vars hcond)
    (v := (0, none)) hfuel
  refine Triple.bind (hloop.mono ?_ fun _ _ h => h) fun ended => Triple.pure ?_
  · rintro f' rfl
    rw [hnil]
    exact ⟨Laid.nil hend, hf⟩
  · rintro f' ⟨vars, rfl, hcond, hlaid, hf'⟩
    exact ⟨rfl, hlaid.partition hpos hend hcond, hf'⟩

/-! ## The schedule -/

/-- The delivery periods of a game divide the time up to its end. -/
theorem delivery_gate_schedule (g : Globals) (rand : ℕ → ℕ) (f : Field) (fuel : ℕ)
    (hpos : 0 < g.deliveryGateMinTime) (hle : g.deliveryGateMinTime ≤ g.deliveryGateMaxTime)
    (hend : g.deliveryGateMinTime ≤ g.prodEndTime)
    (hgates : ∃ a ∈ f.deliveryGates, ∃ b ∈ f.deliveryGates, a ≠ b)
    (hfuel : g.prodEndTime ≤ fuel) :
    (initDeliveryPeriods g rand fuel f).1 = true ∧
      Partition g.deliveryGateMinTime g.prodEndTime f.deliveryGates
        (initDeliveryPeriods g rand fuel f).2.deliveryPeriods := by
  obtain ⟨a, ha, b, hb, hne⟩ := hgates
  have hspec := initDeliveryPeriods_spec (P := fun _ => True) rand hpos hle hend ha hb
    hne hfuel (fun _ _ _ _ => trivial)
  obtain ⟨hended, hpartition, -⟩ := hspec f ⟨rfl, trivial⟩
  exact ⟨hended, hpartition⟩

/-- The gates of the startup facts, with the times of the globals. -/
theorem delivery_gate_schedule_of_startup :
    (initDeliveryPeriods {} id 1200 (startupField 0)).1 = true ∧
      Partition 60 1200 [.d1, .d2, .d3]
        (initDeliveryPeriods {} id 1200 (startupField 0)).2.deliveryPeriods :=
  delivery_gate_schedule {} id (startupField 0) 1200 (by decide) (by decide) (by decide)
    ⟨.d1, by decide, .d2, by decide, by decide⟩ (by decide)

end FactoryHub.Llsf
