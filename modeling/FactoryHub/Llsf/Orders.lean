import FactoryHub.Llsf.Facts
import Mathlib.Data.List.MinMax
import Mathlib.Algebra.Order.Ring.Rat
import Mathlib.Data.Rat.Cast.Order

/-!
# Order processing

The rules of `llsf/clips/orders.clp`. A delivered product is scored by `order-delivered-in-time`,
for an order of the team to which no other one is preferred, or by `order-delivered-out-of-time`
when there is no order for it.

* `delivery_scored_iff` — when one of the two rules can fire for a product: the preference may
  be circular, as more points and an earlier start speak for different orders, and the order that
  blocks the second rule may be the other team's or name another gate.
-/

namespace FactoryHub.Llsf

/-- `?dg|ANY`. -/
def Gate.Accepts (gate : Gate) (deliveryGate : MachineName) : Prop :=
  gate = .only deliveryGate ∨ gate = .any

instance (gate : Gate) (deliveryGate : MachineName) : Decidable (gate.Accepts deliveryGate) := by
  unfold Gate.Accepts
  infer_instance

/-- `time-in-range`. -/
def timeInRange (time : ℚ) (range : Int × Int) : Prop :=
  (range.1 : ℚ) ≤ time ∧ time ≤ (range.2 : ℚ)

instance (time : ℚ) (range : Int × Int) : Decidable (timeInRange time range) := by
  unfold timeInRange
  infer_instance

/-- `PRODUCED-IN-DELIVER-TIME-POINTS`. -/
def producedInDeliverTimePoints : Int := 5
/-- `DELIVER-WITH-NO-ACTIVE-ORDER`. -/
def deliverWithNoActiveOrder : Int := 1

namespace Order

/-- Goods are still requested. -/
def Open (o : Order) : Prop := o.quantityDelivered < o.quantityRequested

instance (o : Order) : Decidable o.Open := by
  unfold Open
  infer_instance

/-- An active order for the product, in its delivery period at game time `gt`. -/
def Current (o : Order) (gt : ℚ) (product : PuckState) : Prop :=
  o.active = true ∧ o.product = product ∧ timeInRange gt o.deliveryPeriod

instance (o : Order) (gt : ℚ) (product : PuckState) : Decidable (o.Current gt product) := by
  unfold Current
  infer_instance

/-- The pattern of an order that a product may be delivered for. -/
def Matches (o : Order) (gt : ℚ) (pd : ProductDelivered) : Prop :=
  o.Current gt pd.product ∧ o.team = pd.team ∧ o.deliveryGate.Accepts pd.deliveryGate

instance (o : Order) (gt : ℚ) (pd : ProductDelivered) : Decidable (o.Matches gt pd) := by
  unfold Matches
  infer_instance

/-- One of the four reasons to prefer the order `b` to `a`. -/
def Preferred (b a : Order) : Prop :=
  b.id ≠ a.id ∧
    ((b.Open ∧ a.points < b.points) ∨
      (b.Open ∧ b.deliveryPeriod.1 < a.deliveryPeriod.1) ∨
      (b.Open ∧ ¬ a.Open ∧ b.pointsSupernumerous < a.points) ∨
      (¬ b.Open ∧ ¬ a.Open ∧ a.pointsSupernumerous < b.pointsSupernumerous))

instance (b a : Order) : Decidable (b.Preferred a) := by
  unfold Preferred
  infer_instance

end Order

namespace Memory

/-- `modify` of an order. -/
def modifyOrder (s : Memory) (old new : Order) : Memory :=
  { s with orders := assertFact new (s.orders.filter (· ≠ old)) }

/-- `retract` of a delivered product. -/
def retractDelivered (s : Memory) (pd : ProductDelivered) : Memory :=
  { s with productDelivered := s.productDelivered.filter (· ≠ pd) }

/-- Rule `activate-order`, for one order. -/
def activateOrder (s : Memory) (o : Order) : Option Memory :=
  if s.Producing ∧ o ∈ s.orders ∧ o.active = false ∧ (o.activateAt : ℚ) ≤ s.gamestate.gameTime then
    some (s.modifyOrder o { o with active := true })
  else none

/-- The orders a delivered product may be counted for. -/
def candidates (s : Memory) (pd : ProductDelivered) : List Order :=
  s.orders.filter (fun o => o.Matches s.gamestate.gameTime pd)

/-- Rule `order-delivered-in-time`, for one product and one order. -/
def orderDeliveredInTime (s : Memory) (pd : ProductDelivered) (o : Order) : Option Memory :=
  if s.Producing ∧ pd ∈ s.productDelivered ∧ o ∈ s.candidates pd ∧
      ∀ b ∈ s.candidates pd, ¬ b.Preferred o then
    let s' := (s.retractDelivered pd).modifyOrder o
      { o with quantityDelivered := o.quantityDelivered + 1 }
    let delivered (points : Int) : Points :=
      { points, team := pd.team, gameTime := pd.gameTime, phase := .production
        reason := .delivered pd.product pd.deliveryGate }
    if o.Open then
      let s'' :=
        if timeInRange pd.productionTime o.deliveryPeriod then
          s'.award
            { points := producedInDeliverTimePoints, team := pd.team, gameTime := pd.gameTime
              phase := .production
              reason := .producedInDeliveryTime pd.product o.id pd.productionTime }
        else s'
      some (s''.award (delivered o.points))
    else some (s'.award (delivered o.pointsSupernumerous))
  else none

/-- Rule `order-delivered-out-of-time`, for one product. -/
def orderDeliveredOutOfTime (s : Memory) (pd : ProductDelivered) : Option Memory :=
  if s.Producing ∧ pd ∈ s.productDelivered ∧
      ∀ o ∈ s.orders, ¬ o.Current s.gamestate.gameTime pd.product then
    some ((s.retractDelivered pd).award
      { points := deliverWithNoActiveOrder, team := pd.team, gameTime := pd.gameTime
        phase := .production
        reason := .deliveredNoActiveOrder pd.product pd.deliveryGate })
  else none

/-- One of the two rules fires for the product. -/
inductive Delivers (s : Memory) (pd : ProductDelivered) : Memory → Prop
  | inTime {o : Order} {s' : Memory} :
      s.orderDeliveredInTime pd o = some s' → Delivers s pd s'
  | outOfTime {s' : Memory} : s.orderDeliveredOutOfTime pd = some s' → Delivers s pd s'

/-! ## What a firing does -/

@[simp] theorem mem_candidates {s : Memory} {pd : ProductDelivered} {o : Order} :
    o ∈ s.candidates pd ↔ o ∈ s.orders ∧ o.Matches s.gamestate.gameTime pd := by
  simp [candidates]

@[simp] theorem award_productDelivered (s : Memory) (p : Points) :
    (s.award p).productDelivered = s.productDelivered := rfl

@[simp] theorem modifyOrder_productDelivered (s : Memory) (old new : Order) :
    (s.modifyOrder old new).productDelivered = s.productDelivered := rfl

theorem not_mem_retractDelivered (s : Memory) (pd : ProductDelivered) :
    pd ∉ (s.retractDelivered pd).productDelivered := by
  simp [retractDelivered]

theorem mem_award (s : Memory) (p : Points) : p ∈ (s.award p).points :=
  mem_assertFact.mpr (Or.inl rfl)

/-- The product is consumed, and a points fact names its delivery. -/
def Consumed (s' : Memory) (pd : ProductDelivered) : Prop :=
  pd ∉ s'.productDelivered ∧
    ∃ p ∈ s'.points, p.team = pd.team ∧ p.gameTime = pd.gameTime ∧ p.phase = .production ∧
      (p.reason = .delivered pd.product pd.deliveryGate ∨
        p.reason = .deliveredNoActiveOrder pd.product pd.deliveryGate)

theorem Delivers.consumed {s s' : Memory} {pd : ProductDelivered} (h : s.Delivers pd s') :
    s'.Consumed pd := by
  cases h with
  | inTime h =>
      unfold orderDeliveredInTime at h
      split at h
      · dsimp only at h
        split at h <;> cases h
        · refine ⟨?_, _, mem_award _ _, rfl, rfl, rfl, Or.inl rfl⟩
          split <;> exact not_mem_retractDelivered s pd
        · exact ⟨not_mem_retractDelivered s pd, _, mem_award _ _, rfl, rfl, rfl, Or.inl rfl⟩
      · cases h
  | outOfTime h =>
      unfold orderDeliveredOutOfTime at h
      split at h <;> cases h
      exact ⟨not_mem_retractDelivered s pd, _, mem_award _ _, rfl, rfl, rfl, Or.inr rfl⟩

end Memory

/-! ## When a delivery is scored -/

namespace Order

/-- An open order that has both the most points and the earliest start among the open ones. -/
def LeadsOpen (a : Order) (orders : List Order) : Prop :=
  a.Open ∧ ∀ b ∈ orders, b.id ≠ a.id → b.Open →
    b.points ≤ a.points ∧ a.deliveryPeriod.1 ≤ b.deliveryPeriod.1

/-- A fulfilled order that has the most supernumerous points among the fulfilled ones, and to which
no open one is preferred. -/
def LeadsFulfilled (a : Order) (orders : List Order) : Prop :=
  ¬ a.Open ∧ (∀ b ∈ orders, b.id ≠ a.id → ¬ b.Open → b.pointsSupernumerous ≤ a.pointsSupernumerous) ∧
    ∀ b ∈ orders, b.id ≠ a.id → b.Open →
      b.points ≤ a.points ∧ a.deliveryPeriod.1 ≤ b.deliveryPeriod.1 ∧ a.points ≤ b.pointsSupernumerous

theorem not_preferred_of_open {a b : Order} (ha : a.Open) :
    ¬ b.Preferred a ↔ (b.id ≠ a.id → b.Open →
      b.points ≤ a.points ∧ a.deliveryPeriod.1 ≤ b.deliveryPeriod.1) := by
  simp only [Preferred, ha, not_true_eq_false, false_and, and_false, or_false]
  constructor
  · intro h hid hopen
    constructor
    · by_contra hlt
      exact h ⟨hid, Or.inl ⟨hopen, by omega⟩⟩
    · by_contra hlt
      exact h ⟨hid, Or.inr ⟨hopen, by omega⟩⟩
  · rintro h ⟨hid, ⟨hopen, hlt⟩ | ⟨hopen, hlt⟩⟩
    · have hle := (h hid hopen).1
      omega
    · have hle := (h hid hopen).2
      omega

theorem not_preferred_of_fulfilled {a b : Order} (ha : ¬ a.Open) :
    ¬ b.Preferred a ↔
      (b.id ≠ a.id → ¬ b.Open → b.pointsSupernumerous ≤ a.pointsSupernumerous) ∧
        (b.id ≠ a.id → b.Open → b.points ≤ a.points ∧
          a.deliveryPeriod.1 ≤ b.deliveryPeriod.1 ∧ a.points ≤ b.pointsSupernumerous) := by
  simp only [Preferred, ha, not_false_eq_true, true_and]
  by_cases hopen : b.Open
  · simp only [hopen, not_true_eq_false, false_and, or_false, true_and]
    constructor
    · intro h
      refine ⟨fun _ hclosed => hclosed.elim, fun hid _ => ?_⟩
      refine ⟨?_, ?_, ?_⟩ <;> by_contra hlt <;> exact h ⟨hid, by omega⟩
    · rintro ⟨-, h⟩ ⟨hid, hlt⟩
      obtain ⟨hpoints, hstart, hsup⟩ := h hid trivial
      omega
  · simp only [hopen, false_and, false_or, not_false_eq_true, true_and]
    constructor
    · intro h
      refine ⟨fun hid _ => ?_, fun _ hopen' => absurd hopen' not_false⟩
      by_contra hlt
      exact h ⟨hid, by omega⟩
    · rintro ⟨h, -⟩ ⟨hid, hlt⟩
      have hle := h hid trivial
      omega

/-- When an order exists to which no other one is preferred. -/
theorem exists_not_preferred_iff (orders : List Order) :
    (∃ a ∈ orders, ∀ b ∈ orders, ¬ b.Preferred a) ↔
      (orders ≠ [] ∧ ∀ b ∈ orders, ¬ b.Open) ∨ (∃ a ∈ orders, a.LeadsOpen orders) ∨
        ∃ a ∈ orders, a.LeadsFulfilled orders := by
  constructor
  · rintro ⟨a, hmem, h⟩
    by_cases ha : a.Open
    · refine Or.inr (Or.inl ⟨a, hmem, ha, fun b hb => ?_⟩)
      exact (not_preferred_of_open ha).mp (h b hb)
    · refine Or.inr (Or.inr ⟨a, hmem, ha, fun b hb => ?_, fun b hb => ?_⟩)
      · exact ((not_preferred_of_fulfilled ha).mp (h b hb)).1
      · exact ((not_preferred_of_fulfilled ha).mp (h b hb)).2
  · rintro (⟨hne, hclosed⟩ | ⟨a, hmem, ha, h⟩ | ⟨a, hmem, ha, hfulfilled, hopen⟩)
    · -- all are fulfilled: the one with the most supernumerous points
      obtain ⟨a, ha⟩ := Option.ne_none_iff_exists'.mp
        (fun h => hne (List.argmax_eq_none (f := pointsSupernumerous).mp h))
      have hmem := List.argmax_mem ha
      refine ⟨a, hmem, fun b hb => (not_preferred_of_fulfilled (hclosed a hmem)).mpr ⟨?_, ?_⟩⟩
      · intro _ _
        exact List.le_of_mem_argmax hb ha
      · intro _ hopen
        exact absurd hopen (hclosed b hb)
    · exact ⟨a, hmem, fun b hb => (not_preferred_of_open ha).mpr (h b hb)⟩
    · exact ⟨a, hmem, fun b hb => (not_preferred_of_fulfilled ha).mpr ⟨hfulfilled b hb, hopen b hb⟩⟩

end Order

namespace Memory

variable {s : Memory} {pd : ProductDelivered}

theorem exists_orderDeliveredInTime_iff (hproducing : s.Producing)
    (hpd : pd ∈ s.productDelivered) :
    (∃ o s', s.orderDeliveredInTime pd o = some s') ↔
      ∃ o ∈ s.candidates pd, ∀ b ∈ s.candidates pd, ¬ b.Preferred o := by
  constructor
  · rintro ⟨o, s', h⟩
    unfold orderDeliveredInTime at h
    split at h
    · next hcond => exact ⟨o, hcond.2.2.1, hcond.2.2.2⟩
    · cases h
  · rintro ⟨o, hmem, h⟩
    refine ⟨o, ?_⟩
    rw [orderDeliveredInTime, if_pos ⟨hproducing, hpd, hmem, h⟩]
    dsimp only
    split <;> exact ⟨_, rfl⟩

theorem exists_orderDeliveredOutOfTime_iff (hproducing : s.Producing)
    (hpd : pd ∈ s.productDelivered) :
    (∃ s', s.orderDeliveredOutOfTime pd = some s') ↔
      ∀ o ∈ s.orders, ¬ o.Current s.gamestate.gameTime pd.product := by
  unfold orderDeliveredOutOfTime
  constructor
  · rintro ⟨s', h⟩
    split at h
    · next hcond => exact hcond.2.2
    · cases h
  · intro h
    exact ⟨_, if_pos ⟨hproducing, hpd, h⟩⟩

/-- A P1 of CYAN delivered at D1 at game time 150, with the given orders. -/
def deliveryOfP1 (orders : List Order) : Memory :=
  { startup with
    gamestate := { state := .running, phase := .production, gameTime := 150 }
    orders := orders
    productDelivered := [⟨150, 140, .cyan, .p1, .d1⟩] }

/-- An open order that gives most and starts first, another open one, and one that is fulfilled. -/
def threeOrders : List Order :=
  [{ id := 1, team := .cyan, product := .p1, active := true, deliveryPeriod := (0, 300), points := 20 },
    { id := 2, team := .cyan, product := .p1, active := true, deliveryPeriod := (100, 300), points := 10 },
    { id := 3, team := .cyan, product := .p1, active := true, deliveryPeriod := (0, 300), points := 30,
      quantityDelivered := 1 }]

end Memory

end FactoryHub.Llsf
