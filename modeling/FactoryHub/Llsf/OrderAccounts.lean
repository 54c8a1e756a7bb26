import FactoryHub.Llsf.GameScore
import FactoryHub.Llsf.Parameterize
import Mathlib.Data.List.Nodup
import Mathlib.Tactic.Ring

/-!
# The accounts of an order

`order-delivered-in-time` consumes a product-delivered fact, counts it for an order and asserts the
"Delivered ..." points. The three stay in step, except that a points fact that is equal to one
already there is not asserted again: the game time starts anew with each production phase, and the
second of two deliveries at the same time of two phases gives no points.

* `order_accounts_iff` — the accounts of every order in every state of a game.
* `credit_lost` — two P3 delivered for one order, and points for one.
-/

namespace FactoryHub.Llsf

open Clips Lib

namespace Order

/-- The points for all goods delivered so far. -/
def worth (o : Order) : Int :=
  min o.quantityDelivered o.quantityRequested * o.points +
    max 0 (o.quantityDelivered - o.quantityRequested) * o.pointsSupernumerous

/-- The points for the next one. -/
def addp (o : Order) : Int := if o.Open then o.points else o.pointsSupernumerous

theorem worth_delivered (o : Order) :
    worth { o with quantityDelivered := o.quantityDelivered + 1 } = o.worth + o.addp := by
  unfold worth addp
  dsimp only
  by_cases hopen : o.Open
  · have hlt : o.quantityDelivered < o.quantityRequested := hopen
    have hmin : min o.quantityDelivered o.quantityRequested = o.quantityDelivered := by omega
    have hmin' : min (o.quantityDelivered + 1) o.quantityRequested = o.quantityDelivered + 1 := by
      omega
    have hmax : max 0 (o.quantityDelivered - o.quantityRequested) = 0 := by omega
    have hmax' : max 0 (o.quantityDelivered + 1 - o.quantityRequested) = 0 := by omega
    rw [if_pos hopen, hmin, hmin', hmax, hmax']
    ring
  · have hle : o.quantityRequested ≤ o.quantityDelivered := not_lt.mp hopen
    have hmin : min o.quantityDelivered o.quantityRequested = o.quantityRequested := by omega
    have hmin' : min (o.quantityDelivered + 1) o.quantityRequested = o.quantityRequested := by
      omega
    have hmax : max 0 (o.quantityDelivered - o.quantityRequested) =
        o.quantityDelivered - o.quantityRequested := by omega
    have hmax' : max 0 (o.quantityDelivered + 1 - o.quantityRequested) =
        o.quantityDelivered - o.quantityRequested + 1 := by omega
    rw [if_neg hopen, hmin, hmin', hmax, hmax']
    ring

/-- Two orders of a list with unique ids are the same if their ids are. -/
theorem eq_of_id {orders : List Order} (hnodup : (orders.map Order.id).Nodup) {a b : Order}
    (ha : a ∈ orders) (hb : b ∈ orders) (hid : a.id = b.id) : a = b :=
  List.inj_on_of_nodup_map hnodup ha hb hid

end Order

/-- The points fact that `order-delivered-in-time` asserts for a delivery. -/
def deliveredFact (pd : ProductDelivered) (o : Order) : Points :=
  { points := o.addp, team := pd.team, gameTime := pd.gameTime, phase := .production
    reason := .delivered pd.product pd.deliveryGate }

/-- A reason "Delivered ... to ...". -/
def Reason.isDelivered : Reason → Bool
  | .delivered _ _ => true
  | _ => false

/-- The sum of the "Delivered ..." points. -/
def deliveredPoints (points : List Points) : Int :=
  ((points.filter (fun p => p.reason.isDelivered)).map Points.points).sum

theorem deliveredPoints_assertFact_of_other {p : Points} (points : List Points)
    (h : p.reason.isDelivered = false) :
    deliveredPoints (assertFact p points) = deliveredPoints points := by
  unfold assertFact
  split
  · rfl
  · simp [deliveredPoints, List.filter_append, h]

theorem deliveredPoints_assertFact {p : Points} (points : List Points)
    (h : p.reason.isDelivered = true) :
    deliveredPoints (assertFact p points) =
      deliveredPoints points + if p ∈ points then 0 else p.points := by
  unfold assertFact
  split
  · rw [Int.add_zero]
  · simp [deliveredPoints, List.filter_append, h]

/-- The rules that change the orders or the product-delivered facts. -/
def Activation.isOrderRule : Activation → Bool
  | .activateOrder _ | .orderDeliveredInTime _ _ | .orderDeliveredOutOfTime _
  | .deliverProcDone _ => true
  | _ => false

/-- The events that change the orders or the product-delivered facts. -/
def Event.isOrderEvent : Event → Bool
  | .production a => a.isOrderRule
  | .gameParameterize _ _ _ | .resetGame => true
  | _ => false

/-- The product-delivered fact that a rule consumes. -/
def Event.consumed : Event → Option ProductDelivered
  | .production (.orderDeliveredInTime pd _) | .production (.orderDeliveredOutOfTime pd) => some pd
  | _ => none

namespace Memory

/-! ## One firing -/

section

variable {s s' : Memory} {pd : ProductDelivered} {o : Order}

theorem mem_modifyOrder {old new x : Order} :
    x ∈ (s.modifyOrder old new).orders ↔ x = new ∨ x ∈ s.orders ∧ x ≠ old := by
  simp [modifyOrder, mem_assertFact]

/-- A modified order that keeps its id leaves the ids unique. -/
theorem nodup_modifyOrder {old new : Order} (hnodup : (s.orders.map Order.id).Nodup)
    (hold : old ∈ s.orders) (hid : new.id = old.id) :
    ((s.modifyOrder old new).orders.map Order.id).Nodup := by
  have hrest : ((s.orders.filter (· ≠ old)).map Order.id).Nodup :=
    hnodup.sublist (List.filter_sublist.map _)
  unfold modifyOrder assertFact
  dsimp only
  split
  · exact hrest
  · rw [List.map_append, List.map_singleton, List.nodup_append]
    refine ⟨hrest, List.nodup_singleton _, ?_⟩
    intro i hi j hj heq
    obtain ⟨x, hx, rfl⟩ := List.mem_map.mp hi
    rw [List.mem_singleton.mp hj, hid] at heq
    obtain ⟨hmem, hne⟩ := List.mem_filter.mp hx
    exact of_decide_eq_true hne (Order.eq_of_id hnodup hmem hold heq)

/-- What `order-delivered-in-time` does. -/
theorem orderDeliveredInTime_spec (h : s.orderDeliveredInTime pd o = some s') :
    pd ∈ s.productDelivered ∧ o ∈ s.orders ∧
      s'.orders =
        (s.modifyOrder o { o with quantityDelivered := o.quantityDelivered + 1 }).orders ∧
      s'.productDelivered = s.productDelivered.filter (· ≠ pd) ∧
      deliveredPoints s'.points =
        deliveredPoints s.points + if deliveredFact pd o ∈ s.points then 0 else o.addp := by
  unfold orderDeliveredInTime at h
  rw [Option.ite_none_right_eq_some] at h
  obtain ⟨⟨-, hpd, ho, -⟩, h⟩ := h
  refine ⟨hpd, (mem_candidates.mp ho).1, ?_⟩
  dsimp only at h
  by_cases hopen : o.Open
  · have hfact : deliveredFact pd o =
        { points := o.points, team := pd.team, gameTime := pd.gameTime, phase := .production
          reason := .delivered pd.product pd.deliveryGate } := by
      rw [deliveredFact, Order.addp, if_pos hopen]
    rw [if_pos hopen, ← hfact, Option.some.injEq] at h
    subst h
    split
    · -- the points for the production time have another reason
      refine ⟨rfl, rfl, ?_⟩
      show deliveredPoints (assertFact (deliveredFact pd o) (assertFact _ s.points)) = _
      rw [deliveredPoints_assertFact _ rfl, deliveredPoints_assertFact_of_other _ rfl]
      have hne : deliveredFact pd o ≠
          { points := producedInDeliverTimePoints, team := pd.team, gameTime := pd.gameTime
            phase := .production
            reason := .producedInDeliveryTime pd.product o.id pd.productionTime } := by
        intro heq
        cases congrArg Points.reason heq
      simp only [mem_assertFact, hne, false_or]
      rfl
    · exact ⟨rfl, rfl, deliveredPoints_assertFact _ rfl⟩
  · have hfact : deliveredFact pd o =
        { points := o.pointsSupernumerous, team := pd.team, gameTime := pd.gameTime
          phase := .production, reason := .delivered pd.product pd.deliveryGate } := by
      rw [deliveredFact, Order.addp, if_neg hopen]
    rw [if_neg hopen, ← hfact, Option.some.injEq] at h
    subst h
    exact ⟨rfl, rfl, deliveredPoints_assertFact _ rfl⟩

theorem orderDeliveredOutOfTime_spec (h : s.orderDeliveredOutOfTime pd = some s') :
    pd ∈ s.productDelivered ∧ s'.orders = s.orders ∧
      s'.productDelivered = s.productDelivered.filter (· ≠ pd) := by
  unfold orderDeliveredOutOfTime at h
  rw [Option.ite_none_right_eq_some, Option.some.injEq] at h
  obtain ⟨⟨-, hpd, -⟩, rfl⟩ := h
  exact ⟨hpd, rfl, rfl⟩

theorem activateOrder_spec (h : s.activateOrder o = some s') :
    o ∈ s.orders ∧ s'.orders = (s.modifyOrder o { o with active := true }).orders ∧
      s'.productDelivered = s.productDelivered := by
  unfold activateOrder at h
  rw [Option.ite_none_right_eq_some, Option.some.injEq] at h
  obtain ⟨⟨-, ho, -⟩, rfl⟩ := h
  exact ⟨ho, rfl, rfl⟩

/-- `deliver-proc-done` leaves the orders alone and asserts a product-delivered fact. -/
theorem deliverProcDone_spec {m : MachineName} (h : s.deliverProcDone m = some s') :
    s'.orders = s.orders ∧ ∃ pd, s'.productDelivered = assertFact pd s.productDelivered := by
  unfold deliverProcDone at h
  dsimp only at h
  split at h
  · rw [Option.ite_none_right_eq_some, Option.some.injEq] at h
    obtain ⟨-, rfl⟩ := h
    exact ⟨rfl, _, rfl⟩
  · cases h

/-- The other rules leave both alone. -/
theorem step_keepsOrders {a : Activation} (ha : a.isOrderRule = false) (h : s.step a = some s') :
    s'.orders = s.orders ∧ s'.productDelivered = s.productDelivered := by
  cases a
  case activateOrder => cases ha
  case orderDeliveredInTime => cases ha
  case orderDeliveredOutOfTime => cases ha
  case deliverProcDone => cases ha
  all_goals
    simp only [step, placePuckUnderMachine, rfidInputLearnPuck, rfidInputCleanup, machineDown,
      machineUp, machineProcStart, machineInvalidInput, machineWrongTeamInput,
      machineInvalidInputJunk, machineProcWaiting, machineProcDone, machinePuckRemoval,
      deliveryGateDownPeriod, deliverInvalidInput, deliverWrongTeamInput, deliverProcStart,
      deliverDownMachine, deliverRemoval, recycleProcStart, recycleInvalidInput,
      recycleWrongTeamInput, recycleProcDone, recycleRemoval, removal] at h
    repeat' split at h
    all_goals first
      | cases h
        exact ⟨rfl, rfl⟩
      | cases h

end

end Memory

namespace Game

/-! ## What an event does to the orders -/

/-- A game with the same orders and product-delivered facts. -/
def OrdersKept (g g' : Game) : Prop :=
  g'.orders = g.orders ∧ g'.productDelivered = g.productDelivered ∧
    g'.parameterized = g.parameterized

theorem foldl_handleReport_ordersKept (team : Team) (machines : List (MachineName × String))
    (g : Game) : g.OrdersKept (machines.foldl (handleReport team) g) := by
  induction machines generalizing g with
  | nil => exact ⟨rfl, rfl, rfl⟩
  | cons report machines ih =>
      obtain ⟨horders, hdelivered, hparameterized⟩ := ih (handleReport team g report)
      have hreport : g.OrdersKept (handleReport team g report) := by
        unfold handleReport
        dsimp only
        split <;> exact ⟨rfl, rfl, rfl⟩
      rw [List.foldl_cons]
      exact ⟨horders.trans hreport.1, hdelivered.trans hreport.2.1,
        hparameterized.trans hreport.2.2⟩

theorem updateLoadedWith_ordersKept (g : Game) (m : MachineName) (newLw : List Int)
    (spec : MachineSpec) : g.OrdersKept (g.updateLoadedWith m newLw spec) := by
  unfold updateLoadedWith
  dsimp only
  split
  · exact ⟨rfl, rfl, rfl⟩
  · split <;> exact ⟨rfl, rfl, rfl⟩

/-- The other events leave both alone. -/
theorem step_ordersKept {g g' : Game} {e : Event} (he : e.isOrderEvent = false)
    (h : g.step e = some g') : g.OrdersKept g' := by
  cases e
  case production a =>
    obtain ⟨-, hs⟩ := Option.ite_none_left_eq_some.mp h
    obtain ⟨memory, hstep, rfl⟩ := Option.map_eq_some_iff.mp hs
    obtain ⟨horders, hdelivered⟩ := Memory.step_keepsOrders he hstep
    exact ⟨horders, hdelivered, rfl⟩
  case gameParameterize => cases he
  case resetGame => cases he
  case explorationHandleReport team machines =>
    obtain ⟨-, hs⟩ := Option.ite_none_right_eq_some.mp h
    cases hs
    exact foldl_handleReport_ordersKept team machines g
  case machineUpdateLoadedWith m newLw =>
    simp only [step, machineUpdateLoadedWith] at h
    split at h
    · next spec _ =>
        obtain ⟨-, hs⟩ := Option.ite_none_right_eq_some.mp h
        cases hs
        exact updateLoadedWith_ordersKept g m newLw spec
    · cases h
  all_goals
    simp only [step, simInit, simTimeSync, loadPuckInMachine, removePuckFromMachine, turnTo,
      machineUpdateIgnored, gameUpdateGametimePoints, gameUpdateLastTime, gameSwitchToPreGame,
      gameStartTraining, gameStart, gameSwitchToExploration, gameSwitchToProduction, switchPhase,
      gameOver, gameEnterOvertime, gameOverAfterOvertime, gameGotoPostGame, explorationStart,
      explorationPause, explorationContinue, explorationSeen, productionStart, techalWamNext,
      techalWamDeactivate, techalWamActivate, techalWamContinue, techalWamReached,
      techalWamGameOver, techalNavigationGameOver, challengeOver, initGame] at h
    repeat' split at h
    all_goals first
      | cases h
        exact ⟨rfl, rfl, rfl⟩
      | cases h

/-! ## What `game-parameterize` draws -/

end Game

namespace Order

/-- An order of CYAN with its random times. -/
def KeptFrom (o c : Order) : Prop :=
  o = { c with active := o.active, activateAt := o.activateAt, deliveryPeriod := o.deliveryPeriod }

/-- The copy of an order of CYAN for MAGENTA. -/
def CopiedFrom (o c : Order) : Prop :=
  o.team = .magenta ∧ o.product = c.product ∧ o.quantityRequested = c.quantityRequested ∧
    o.quantityDelivered = 0 ∧ o.points = c.points ∧ o.pointsSupernumerous = c.pointsSupernumerous

instance (o c : Order) : Decidable (o.KeptFrom c) := by
  unfold KeptFrom
  infer_instance

instance (o c : Order) : Decidable (o.CopiedFrom c) := by
  unfold CopiedFrom
  infer_instance

end Order

namespace Game

/-- What `game-parameterize` makes of the orders: those of CYAN stay, with new times, and the
copies for MAGENTA have ids above `highest-order-id`. -/
def DrawsOrders (g : Game) : Event → Prop
  | .gameParameterize _ drawn _ =>
      (drawn.map Order.id).Nodup ∧
        (∀ c ∈ g.orders, c.team = .cyan → ∃ o ∈ drawn, o.KeptFrom c) ∧
        ∀ o ∈ drawn, ∃ c ∈ g.orders, c.team = .cyan ∧
          (o.KeptFrom c ∨ o.CopiedFrom c ∧ ∀ b ∈ g.orders, b.team = .cyan → b.id < o.id)
  | _ => True

instance (g : Game) (e : Event) : Decidable (g.DrawsOrders e) := by
  unfold DrawsOrders
  split <;> infer_instance

/-- The orders are those that `game-parameterize` makes of the orders before, with these draws. -/
def ParameterizesBy (procTime : MType → Int) (draws : Int → OrderDraw) (g : Game) : Event → Prop
  | .gameParameterize _ drawn _ => drawn = extendOrders procTime (drawOrders draws g.orders)
  | _ => True

instance (procTime : MType → Int) (draws : Int → OrderDraw) (g : Game) (e : Event) :
    Decidable (ParameterizesBy procTime draws g e) := by
  unfold ParameterizesBy
  split <;> infer_instance

/-- The same with whatever draws. -/
def ParameterizesOrders (g : Game) (e : Event) : Prop :=
  ∃ procTime draws, ParameterizesBy procTime draws g e

theorem ParameterizesOrders.drawsOrders {g : Game} {e : Event} (h : g.ParameterizesOrders e)
    (hnodup : (g.orders.map Order.id).Nodup) : g.DrawsOrders e := by
  cases e with
  | gameParameterize machines drawn deliveryPeriods =>
      obtain ⟨procTime, draws, rfl⟩ := h
      obtain ⟨extend, heq, hextend⟩ := extendOrders_eq_map procTime (drawOrders draws g.orders)
      have hid : ∀ o, (extend o).id = o.id := fun o => by rw [hextend]
      rw [heq]
      refine ⟨?_, fun c hc hcyan => ?_, fun o ho => ?_⟩
      · have hids : Order.id ∘ extend = Order.id := funext hid
        rw [List.map_map, hids]
        exact nodup_drawOrders hnodup
      · refine ⟨_, List.mem_map_of_mem (drawTimes_mem_drawOrders hc hcyan), ?_⟩
        rw [hextend]
        rfl
      · obtain ⟨d, hd, rfl⟩ := List.mem_map.mp ho
        obtain ⟨c, hc, hcyan, rfl | ⟨id, hlt, rfl⟩⟩ := mem_drawOrders hd
        · refine ⟨c, hc, hcyan, .inl ?_⟩
          rw [hextend]
          rfl
        · refine ⟨c, hc, hcyan, .inr ⟨?_, fun b hb hb' => ?_⟩⟩
          · rw [hextend]
            exact ⟨rfl, rfl, rfl, rfl, rfl, rfl⟩
          · rw [hid]
            exact (id_le_highestOrderId hb hb').trans_lt hlt
  | _ => trivial

/-- None of the orders is active. -/
theorem ParameterizesOrders.inactive {g : Game} {machines : MachineName → Machine}
    {drawn : List Order} {deliveryPeriods : List DeliveryPeriod}
    (h : g.ParameterizesOrders (.gameParameterize machines drawn deliveryPeriods)) :
    ∀ o ∈ drawn, o.active = false := by
  obtain ⟨procTime, draws, rfl⟩ := h
  obtain ⟨extend, heq, hextend⟩ := extendOrders_eq_map procTime (drawOrders draws g.orders)
  intro o ho
  obtain ⟨d, hd, rfl⟩ := List.mem_map.mp (heq ▸ ho)
  have hactive : d.active = false := inactive_of_mem_drawOrders hd
  rw [hextend]
  exact hactive

/-! ## The accounts -/

/-- `order-delivered-in-time` fires for the order with this id. -/
def deliversFor (id : Int) (t : Step Game Event) : Bool :=
  match t.label with
  | .production (.orderDeliveredInTime _ o) => o.id = id
  | _ => false

/-- The "Delivered ..." points that a step brings. -/
def credit (t : Step Game Event) : Int :=
  deliveredPoints t.post.points - deliveredPoints t.pre.points

/-- How many product-delivered facts were consumed for an order. -/
def consumedFor (tr : List (Step Game Event)) (id : Int) : ℕ := tr.countP (deliversFor id)

/-- The sum of the "Delivered ..." points for an order. -/
def creditedFor (tr : List (Step Game Event)) (id : Int) : Int :=
  ((tr.filter (deliversFor id)).map credit).sum

/-- The "Delivered ..." points fact is not there yet. -/
def CreditsAnew (g : Game) : Event → Prop
  | .production (.orderDeliveredInTime pd o) => deliveredFact pd o ∉ g.points
  | _ => True

instance (g : Game) (e : Event) : Decidable (g.CreditsAnew e) := by
  unfold CreditsAnew
  split <;> infer_instance

/-- No points for the order were asserted in vain. -/
def AllCredited (tr : List (Step Game Event)) (id : Int) : Prop :=
  ∀ t ∈ tr, deliversFor id t = true → t.pre.CreditsAnew t.label

/-- The counter of the order counts the consumed facts, and the credited points are what its goods
are worth unless some were asserted in vain. -/
structure Balanced (tr : List (Step Game Event)) (o : Order) : Prop where
  quantity : (consumedFor tr o.id : Int) = o.quantityDelivered
  credited_le : creditedFor tr o.id ≤ o.worth
  credited_iff : creditedFor tr o.id = o.worth ↔ AllCredited tr o.id

section

variable {tr : List (Step Game Event)} {g g' : Game} {e : Event} {t : Step Game Event} {id : Int}
  {pd : ProductDelivered} {o : Order}

theorem consumedFor_cons : consumedFor (t :: tr) id =
    consumedFor tr id + if deliversFor id t then 1 else 0 := List.countP_cons ..

theorem creditedFor_cons : creditedFor (t :: tr) id =
    creditedFor tr id + if deliversFor id t then credit t else 0 := by
  unfold creditedFor
  rw [List.filter_cons]
  split
  · rw [List.map_cons, List.sum_cons, Int.add_comm]
  · rw [Int.add_zero]

theorem consumedFor_cons_of_other (hother : deliversFor id t = false) :
    consumedFor (t :: tr) id = consumedFor tr id := by
  rw [consumedFor_cons, hother, if_neg (by decide), Nat.add_zero]

theorem creditedFor_cons_of_other (hother : deliversFor id t = false) :
    creditedFor (t :: tr) id = creditedFor tr id := by
  rw [creditedFor_cons, hother, if_neg (by decide), Int.add_zero]

theorem allCredited_cons : AllCredited (t :: tr) id ↔
    (deliversFor id t = true → t.pre.CreditsAnew t.label) ∧ AllCredited tr id :=
  List.forall_mem_cons ..

/-- A firing for another order is none of this order's business. -/
theorem Balanced.cons_of_other (h : Balanced tr o) (hother : deliversFor o.id t = false) :
    Balanced (t :: tr) o := by
  constructor
  · rw [consumedFor_cons_of_other hother]
    exact h.quantity
  · rw [creditedFor_cons_of_other hother]
    exact h.credited_le
  · rw [creditedFor_cons_of_other hother, allCredited_cons]
    simp only [hother, Bool.false_eq_true, false_implies, true_and]
    exact h.credited_iff

/-- A firing for this order: one more is delivered, and its points are credited or not. -/
theorem Balanced.cons_of_delivered (h : Balanced tr o) (hpositive : 0 < o.addp)
    (hlabel : t.label = .production (.orderDeliveredInTime pd o))
    (hcredit : credit t = if deliveredFact pd o ∈ t.pre.points then 0 else o.addp) :
    Balanced (t :: tr) { o with quantityDelivered := o.quantityDelivered + 1 } := by
  have hdelivers : deliversFor o.id t = true := by
    rw [deliversFor, hlabel]
    exact decide_eq_true rfl
  have hanew : t.pre.CreditsAnew t.label ↔ deliveredFact pd o ∉ t.pre.points := by
    rw [hlabel]
    rfl
  have hle := h.credited_le
  constructor
  · show (consumedFor (t :: tr) o.id : Int) = o.quantityDelivered + 1
    rw [consumedFor_cons, if_pos hdelivers, ← h.quantity]
    rfl
  · show creditedFor (t :: tr) o.id ≤ _
    rw [creditedFor_cons, if_pos hdelivers, Order.worth_delivered, hcredit]
    split <;> omega
  · show creditedFor (t :: tr) o.id = _ ↔ AllCredited (t :: tr) o.id
    rw [creditedFor_cons, if_pos hdelivers, Order.worth_delivered, hcredit, allCredited_cons,
      ← h.credited_iff, hanew]
    split
    · next hthere =>
        simp only [hthere, not_true_eq_false, hdelivers, forall_const, false_and, iff_false]
        omega
    · next hnew =>
        simp only [hnew, not_false_eq_true, implies_true, true_and]
        omega

/-- An order that no firing was for, and none of whose goods are delivered. -/
theorem balanced_of_new (hnone : consumedFor tr o.id = 0) (hquantity : o.quantityDelivered = 0)
    (hrequested : 0 ≤ o.quantityRequested) : Balanced tr o := by
  have hno : ∀ t ∈ tr, deliversFor o.id t = false := by
    intro t ht
    rw [← Bool.not_eq_true]
    exact List.countP_eq_zero.mp hnone t ht
  have hcredited : creditedFor tr o.id = 0 := by
    rw [creditedFor, List.filter_eq_nil_iff.mpr (fun t ht => by simp [hno t ht])]
    rfl
  have hworth : o.worth = 0 := by
    have hmin : min 0 o.quantityRequested = 0 := by omega
    have hmax : max 0 (0 - o.quantityRequested) = 0 := by omega
    rw [Order.worth, hquantity, hmin, hmax, Int.zero_mul, Int.zero_mul]
    rfl
  constructor
  · rw [hnone, hquantity]
    rfl
  · rw [hcredited, hworth]
  · refine iff_of_true (hcredited.trans hworth.symm) ?_
    intro t ht hdelivers
    rw [hno t ht] at hdelivers
    cases hdelivers

end

/-! ## The accounts of a game -/

/-- The points of an order are positive, and it does not request less than nothing. -/
def Regular (o : Order) : Prop :=
  0 ≤ o.quantityRequested ∧ 0 < o.points ∧ 0 < o.pointsSupernumerous

instance (o : Order) : Decidable (Regular o) := by
  unfold Regular
  infer_instance

theorem Regular.addp_pos {o : Order} (h : Regular o) : 0 < o.addp := by
  unfold Order.addp
  split
  · exact h.2.1
  · exact h.2.2

/-- The invariant, for the steps since the game was reset. -/
structure Accounts (tr : List (Step Game Event)) (g : Game) : Prop where
  nodup : (g.orders.map Order.id).Nodup
  regular : ∀ o ∈ g.orders, Regular o
  cyan : g.parameterized = false → ∀ o ∈ g.orders, o.team = .cyan
  known : ∀ id, consumedFor tr id ≠ 0 → ∃ o ∈ g.orders, o.id = id
  balanced : ∀ o ∈ g.orders, Balanced tr o

section

variable {tr : List (Step Game Event)} {g g' : Game} {e : Event} {pd : ProductDelivered}
  {o : Order}

theorem accounts_startup : Accounts [] startup := by
  have hregular : ∀ o ∈ startup.orders, Regular o ∧ o.quantityDelivered = 0 := by decide
  constructor
  · decide
  · exact fun o ho => (hregular o ho).1
  · intro _
    decide
  · intro id hid
    exact absurd rfl hid
  · intro o ho
    obtain ⟨⟨hrequested, -⟩, hquantity⟩ := hregular o ho
    exact balanced_of_new rfl hquantity hrequested

theorem Accounts.kept (h : Accounts tr g) (hother : ∀ id, deliversFor id ⟨g, e, g'⟩ = false)
    (horders : g'.orders = g.orders) (hparameterized : g'.parameterized = g.parameterized) :
    Accounts (⟨g, e, g'⟩ :: tr) g' := by
  constructor
  · rw [horders]
    exact h.nodup
  · rw [horders]
    exact h.regular
  · rw [horders, hparameterized]
    exact h.cyan
  · intro id hid
    rw [consumedFor_cons_of_other (hother id)] at hid
    rw [horders]
    exact h.known id hid
  · rw [horders]
    exact fun o ho => (h.balanced o ho).cons_of_other (hother o.id)

/-- One order is modified: it keeps its id, its team and what is asked for, and balances again. -/
theorem Accounts.modified {old new : Order} (h : Accounts tr g) (hold : old ∈ g.orders)
    (horders : g'.orders = (g.modifyOrder old new).orders)
    (hparameterized : g'.parameterized = g.parameterized)
    (hnew : new.id = old.id ∧ new.team = old.team ∧ Regular new)
    (hother : ∀ id, id ≠ old.id → deliversFor id ⟨g, e, g'⟩ = false)
    (hbalanced : Balanced (⟨g, e, g'⟩ :: tr) new) :
    Accounts (⟨g, e, g'⟩ :: tr) g' := by
  obtain ⟨hid, hteam, hregular⟩ := hnew
  have hmem : ∀ x, x ∈ g'.orders ↔ x = new ∨ x ∈ g.orders ∧ x ≠ old := by
    intro x
    rw [horders]
    exact Memory.mem_modifyOrder
  constructor
  · rw [horders]
    exact Memory.nodup_modifyOrder h.nodup hold hid
  · intro o ho
    rcases (hmem o).mp ho with rfl | ⟨ho, -⟩
    · exact hregular
    · exact h.regular o ho
  · intro hdrawn o ho
    rw [hparameterized] at hdrawn
    rcases (hmem o).mp ho with rfl | ⟨ho, -⟩
    · exact hteam.trans (h.cyan hdrawn old hold)
    · exact h.cyan hdrawn o ho
  · intro id hconsumed
    by_cases heq : id = old.id
    · exact ⟨new, (hmem new).mpr (Or.inl rfl), hid.trans heq.symm⟩
    · rw [consumedFor_cons_of_other (hother id heq)] at hconsumed
      obtain ⟨o, ho, rfl⟩ := h.known id hconsumed
      exact ⟨o, (hmem o).mpr (Or.inr ⟨ho, fun hsame => heq (hsame ▸ rfl)⟩), rfl⟩
  · intro o ho
    rcases (hmem o).mp ho with rfl | ⟨ho, hne⟩
    · exact hbalanced
    · refine (h.balanced o ho).cons_of_other (hother o.id ?_)
      exact fun hsame => hne (Order.eq_of_id h.nodup ho hold hsame)

theorem Accounts.parameterized {machines : MachineName → Machine} {drawn : List Order}
    {deliveryPeriods : List DeliveryPeriod} (h : Accounts tr g)
    (hdraws : g.DrawsOrders (.gameParameterize machines drawn deliveryPeriods))
    (hs : g.gameParameterize machines drawn deliveryPeriods = some g') :
    Accounts (⟨g, .gameParameterize machines drawn deliveryPeriods, g'⟩ :: tr) g' := by
  obtain ⟨hnodup, hkept, hfrom⟩ := hdraws
  unfold gameParameterize at hs
  rw [Option.ite_none_right_eq_some, Option.some.injEq] at hs
  obtain ⟨⟨-, -, hnot⟩, rfl⟩ := hs
  have hcyan := h.cyan hnot
  have hother : ∀ id, deliversFor id ⟨g, .gameParameterize machines drawn deliveryPeriods,
      { g with machines, orders := drawn, deliveryPeriods, parameterized := true }⟩ = false :=
    fun _ => rfl
  constructor
  · exact hnodup
  · intro o ho
    obtain ⟨c, hc, -, hsame | ⟨⟨-, -, hrequested, -, hpoints, hsupernumerous⟩, -⟩⟩ := hfrom o ho
    · rw [hsame]
      exact h.regular c hc
    · rw [Regular, hrequested, hpoints, hsupernumerous]
      exact h.regular c hc
  · intro hno
    cases hno
  · intro id hconsumed
    rw [consumedFor_cons_of_other (hother id)] at hconsumed
    obtain ⟨c, hc, rfl⟩ := h.known id hconsumed
    obtain ⟨o, ho, hsame⟩ := hkept c hc (hcyan c hc)
    refine ⟨o, ho, ?_⟩
    rw [hsame]
  · intro o ho
    obtain ⟨c, hc, -, hsame | ⟨⟨-, -, hrequested, hquantity, -⟩, habove⟩⟩ := hfrom o ho
    · -- what the accounts are about is that of the order before
      have hbefore := (h.balanced c hc).cons_of_other (hother c.id)
      rw [hsame]
      exact ⟨hbefore.quantity, hbefore.credited_le, hbefore.credited_iff⟩
    · apply balanced_of_new
      · rw [consumedFor_cons_of_other (hother o.id)]
        by_contra hconsumed
        obtain ⟨b, hb, hid⟩ := h.known o.id hconsumed
        have hlt := habove b hb (hcyan b hb)
        omega
      · exact hquantity
      · rw [hrequested]
        exact (h.regular c hc).1

/-- The steps since the last `reset-game`. -/
def sinceReset : List (Step Game Event) → List (Step Game Event)
  | [] => []
  | ⟨_, .resetGame, _⟩ :: _ => []
  | t :: tr => t :: sinceReset tr

theorem Accounts.production {a : Activation} (h : Accounts tr g) (ha : a.isOrderRule = true)
    (hs : g.step (.production a) = some g') : Accounts (⟨g, .production a, g'⟩ :: tr) g' := by
  obtain ⟨-, hmap⟩ := Option.ite_none_left_eq_some.mp hs
  obtain ⟨memory, hstep, rfl⟩ := Option.map_eq_some_iff.mp hmap
  cases a with
  | activateOrder o =>
      obtain ⟨ho, horders, -⟩ := Memory.activateOrder_spec hstep
      refine h.modified ho horders rfl ⟨rfl, rfl, h.regular o ho⟩ (fun _ _ => rfl) ?_
      have hbefore := (h.balanced o ho).cons_of_other (t := ⟨g, .production (.activateOrder o),
        { g with toMemory := memory }⟩) rfl
      exact ⟨hbefore.quantity, hbefore.credited_le, hbefore.credited_iff⟩
  | orderDeliveredInTime pd o =>
      obtain ⟨-, ho, horders, -, hpoints⟩ := Memory.orderDeliveredInTime_spec hstep
      have hregular := h.regular o ho
      refine h.modified ho horders rfl ⟨rfl, rfl, hregular⟩ ?_ ?_
      · intro id hid
        exact decide_eq_false (Ne.symm hid)
      · refine (h.balanced o ho).cons_of_delivered hregular.addp_pos rfl ?_
        show deliveredPoints memory.points - deliveredPoints g.points = _
        rw [hpoints]
        exact add_sub_cancel_left _ _
  | orderDeliveredOutOfTime pd =>
      exact h.kept (fun _ => rfl) (Memory.orderDeliveredOutOfTime_spec hstep).2.1 rfl
  | deliverProcDone m =>
      exact h.kept (fun _ => rfl) (Memory.deliverProcDone_spec hstep).1 rfl
  | _ => cases ha

/-- An event that leaves the orders alone is no firing for one, and no `reset-game`. -/
theorem sinceReset_of_other (tr : List (Step Game Event)) (g g' : Game)
    (he : e.isOrderEvent = false) :
    (∀ id, deliversFor id ⟨g, e, g'⟩ = false) ∧
      sinceReset (⟨g, e, g'⟩ :: tr) = ⟨g, e, g'⟩ :: sinceReset tr := by
  cases e with
  | production a =>
      refine ⟨fun id => ?_, rfl⟩
      cases a with
      | orderDeliveredInTime => cases he
      | _ => rfl
  | resetGame => cases he
  | _ => exact ⟨fun _ => rfl, rfl⟩

theorem Accounts.step (h : Accounts (sinceReset tr) g) (hdraws : g.DrawsOrders e)
    (hs : g.step e = some g') : Accounts (sinceReset (⟨g, e, g'⟩ :: tr)) g' := by
  by_cases he : e.isOrderEvent = true
  · cases e with
    | production a => exact h.production he hs
    | gameParameterize machines drawn deliveryPeriods => exact h.parameterized hdraws hs
    | resetGame =>
        obtain ⟨-, hs⟩ := Option.ite_none_right_eq_some.mp hs
        cases hs
        exact accounts_startup
    | _ => cases he
  · rw [Bool.not_eq_true] at he
    obtain ⟨horders, -, hparameterized⟩ := step_ordersKept he hs
    obtain ⟨hother, hsince⟩ := sinceReset_of_other tr g g' he
    rw [hsince]
    exact h.kept hother horders hparameterized

/-! ## The product-delivered facts -/

/-- How many firings consume a product-delivered fact. -/
def firings (tr : List (Step Game Event)) (pd : ProductDelivered) : ℕ :=
  tr.countP (fun t => t.label.consumed = some pd)

/-- How often a product-delivered fact is asserted anew. -/
def assertions (tr : List (Step Game Event)) (pd : ProductDelivered) : ℕ :=
  tr.countP (fun t => pd ∉ t.pre.productDelivered ∧ pd ∈ t.post.productDelivered)

/-- Every fact that was asserted is there still, or was consumed by one firing. -/
def ConsumedOnce (tr : List (Step Game Event)) (g : Game) : Prop :=
  ∀ pd, firings tr pd + (if pd ∈ g.productDelivered then 1 else 0) = assertions tr pd

theorem firings_cons : firings (⟨g, e, g'⟩ :: tr) pd =
    firings tr pd + if e.consumed = some pd then 1 else 0 := by
  simp only [firings, List.countP_cons, decide_eq_true_eq]

theorem assertions_cons : assertions (⟨g, e, g'⟩ :: tr) pd =
    assertions tr pd +
      if pd ∉ g.productDelivered ∧ pd ∈ g'.productDelivered then 1 else 0 := by
  simp only [assertions, List.countP_cons, decide_eq_true_eq]

/-- Facts are only added. -/
theorem ConsumedOnce.grown (h : ConsumedOnce tr g) (he : e.consumed = none)
    (hgrown : ∀ pd ∈ g.productDelivered, pd ∈ g'.productDelivered) :
    ConsumedOnce (⟨g, e, g'⟩ :: tr) g' := by
  intro pd
  have hbefore := h pd
  have hgrown := hgrown pd
  rw [firings_cons, assertions_cons, he, if_neg (by simp), Nat.add_zero]
  by_cases hpre : pd ∈ g.productDelivered <;> by_cases hpost : pd ∈ g'.productDelivered <;>
    simp_all

/-- A firing consumes the fact that it matches. -/
theorem ConsumedOnce.consumed {fact : ProductDelivered} (h : ConsumedOnce tr g)
    (he : e.consumed = some fact) (hthere : fact ∈ g.productDelivered)
    (hafter : g'.productDelivered = g.productDelivered.filter (· ≠ fact)) :
    ConsumedOnce (⟨g, e, g'⟩ :: tr) g' := by
  intro pd
  have hbefore := h pd
  rw [firings_cons, assertions_cons, he, hafter]
  by_cases hfact : fact = pd
  · subst hfact
    simp_all
  · by_cases hpre : pd ∈ g.productDelivered <;> simp_all [Ne.symm hfact]

theorem ConsumedOnce.step (h : ConsumedOnce (sinceReset tr) g) (hs : g.step e = some g') :
    ConsumedOnce (sinceReset (⟨g, e, g'⟩ :: tr)) g' := by
  by_cases he : e.isOrderEvent = true
  · cases e with
    | production a =>
        obtain ⟨-, hmap⟩ := Option.ite_none_left_eq_some.mp hs
        obtain ⟨memory, hstep, rfl⟩ := Option.map_eq_some_iff.mp hmap
        cases a with
        | activateOrder o =>
            obtain ⟨-, -, hsame⟩ := Memory.activateOrder_spec hstep
            exact h.grown rfl (fun pd hpd => hsame ▸ hpd)
        | orderDeliveredInTime fact o =>
            obtain ⟨hthere, -, -, hafter, -⟩ := Memory.orderDeliveredInTime_spec hstep
            exact h.consumed rfl hthere hafter
        | orderDeliveredOutOfTime fact =>
            obtain ⟨hthere, -, hafter⟩ := Memory.orderDeliveredOutOfTime_spec hstep
            exact h.consumed rfl hthere hafter
        | deliverProcDone m =>
            obtain ⟨-, fact, hafter⟩ := Memory.deliverProcDone_spec hstep
            refine h.grown rfl (fun pd hpd => ?_)
            show pd ∈ memory.productDelivered
            rw [hafter]
            exact mem_assertFact.mpr (Or.inr hpd)
        | _ => cases he
    | gameParameterize machines drawn deliveryPeriods =>
        obtain ⟨-, hs⟩ := Option.ite_none_right_eq_some.mp hs
        cases hs
        exact h.grown rfl (fun pd hpd => hpd)
    | resetGame =>
        obtain ⟨-, hs⟩ := Option.ite_none_right_eq_some.mp hs
        cases hs
        exact fun pd => rfl
    | _ => cases he
  · rw [Bool.not_eq_true] at he
    obtain ⟨-, hsame, -⟩ := step_ordersKept he hs
    rw [(sinceReset_of_other tr g g' he).2]
    refine h.grown ?_ (fun pd hpd => hsame ▸ hpd)
    cases e with
    | production a =>
        cases a with
        | orderDeliveredInTime => cases he
        | orderDeliveredOutOfTime => cases he
        | _ => rfl
    | _ => rfl

/-! ## Along a run -/

/-- **The accounts of the orders**, in every state of a game: the counter of an order is the number
of product-delivered facts consumed for it; the "Delivered ..." points for it are what its goods are
worth exactly when no points were asserted in vain; and every product-delivered fact is consumed by
one firing at most. -/
theorem order_accounts_iff (hrun : GameRun startup tr g)
    (hdraws : ∀ t ∈ tr, t.pre.DrawsOrders t.label) :
    (∀ o ∈ g.orders, (consumedFor (sinceReset tr) o.id : Int) = o.quantityDelivered ∧
      (creditedFor (sinceReset tr) o.id = o.worth ↔ AllCredited (sinceReset tr) o.id)) ∧
      ConsumedOnce (sinceReset tr) g := by
  have haccounts : Accounts (sinceReset tr) g := by
    apply Run.history_invariant_of (C := DrawsOrders) ?_ ?_ hrun hdraws
    · exact accounts_startup
    · exact fun tr g e g' h hdraws hs => h.step hdraws hs
  have honce : ConsumedOnce (sinceReset tr) g := by
    apply Run.history_invariant_of (C := fun _ _ => True) ?_ ?_ hrun (fun _ _ => trivial)
    · exact fun pd => rfl
    · exact fun tr g e g' h _ hs => h.step hs
  refine ⟨fun o ho => ?_, honce⟩
  have hbalanced := haccounts.balanced o ho
  exact ⟨hbalanced.quantity, hbalanced.credited_iff⟩

end

/-- Order 3 of CYAN: two P3 from game time 300 to 400. -/
def order3 : Order :=
  { id := 3, team := .cyan, product := .p3, quantityRequested := 2, deliveryPeriod := (300, 400)
    activateAt := 240, active := true }

/-- The orders with their times, and the copies for MAGENTA. -/
def drawnOrders : List Order :=
  let cyan := Llsf.startup.orders.map (fun o =>
    let start := if o.id = 5 then 600 else 100 * o.id
    { o with deliveryPeriod := (start, start + 100), activateAt := max (start - 60) 0 })
  cyan ++ cyan.map (fun o => { o with id := o.id + 5, team := .magenta })

/-- M8 makes a P3 of the puck, which is delivered at D1 303 seconds after the game time began, at
`zero`, and scored for the order. -/
def deliverP3 (zero puckId : Int) (order : Order) : List Event :=
  cycle (zero + 296) [] ++
  reads ⟨.m8, true, puckId⟩ [.rfidInputLearnPuck .m8 puckId, .machineProcStart .m8 puckId] ++
  cycle (zero + 301) [.production (.machineProcDone .m8)] ++
  reads ⟨.m8, false, 0⟩ [.machinePuckRemoval .m8] ++
  reads ⟨.d1, true, puckId⟩ [.deliverProcStart .d1 puckId] ++
  cycle (zero + 303) [.production (.deliverProcDone .d1),
    .production (.orderDeliveredInTime ⟨303, 301, .cyan, .p3, .d1⟩ order)] ++
  reads ⟨.d1, false, 0⟩ [.deliverRemoval .d1]

/-- The operator starts the production phase at second 100, and the first P3 is delivered. -/
def deliverOne : List Event :=
  [.initGame ⟨100, 0⟩, .simInit false false, .gameSwitchToPreGame, .setGamePhase .production,
    .gameParameterize Llsf.startup.machines drawnOrders [], .productionStart,
    .setGameState .running] ++
  cycle 390 [.production (.activateOrder { order3 with active := false })] ++
  deliverP3 100 1 order3

theorem order_accounts_of_one_delivery :
    ∃ tr g o, GameRun startup tr g ∧ o ∈ g.orders ∧ o.quantityDelivered = 1 ∧
      creditedFor (sinceReset tr) o.id = o.worth := by
  have hrun : (trace step startup deliverOne).any (fun r =>
      decide (({ order3 with quantityDelivered := 1 } : Order) ∈ r.2.orders ∧
        (∀ t ∈ r.1, t.pre.DrawsOrders t.label) ∧
        ∀ t ∈ sinceReset r.1, deliversFor 3 t = true → t.pre.CreditsAnew t.label)) = true := by
    decide +kernel
  obtain ⟨⟨tr, g⟩, htrace, hr⟩ := (Option.any_eq_true _ _).mp hrun
  obtain ⟨ho, hdraws, hanew⟩ := of_decide_eq_true hr
  have hrun := run_of_trace htrace
  have haccounts := (order_accounts_iff hrun hdraws).1 _ ho
  exact ⟨tr, g, _, hrun, ho, rfl, haccounts.2.mpr hanew⟩

/-- The operator goes back to the setup and starts the production phase again. A second P3 is
delivered 303 seconds later: the order is fulfilled, and its points are those of one. -/
theorem credit_lost :
    ∃ tr g o, GameRun startup tr g ∧ (∀ t ∈ tr, t.pre.DrawsOrders t.label) ∧ o ∈ g.orders ∧
      consumedFor (sinceReset tr) o.id = 2 ∧ o.worth = 20 ∧
        creditedFor (sinceReset tr) o.id = 10 := by
  have hrun : (trace step startup (deliverOne ++
      [.setGamePhase .setup, .setGamePhase .production, .productionStart] ++
      deliverP3 403 2 { order3 with quantityDelivered := 1 })).any (fun r =>
        decide ((∀ t ∈ r.1, t.pre.DrawsOrders t.label) ∧
          ∃ o ∈ r.2.orders, consumedFor (sinceReset r.1) o.id = 2 ∧ o.worth = 20 ∧
            creditedFor (sinceReset r.1) o.id = 10)) = true := by decide +kernel
  obtain ⟨⟨tr, g⟩, htrace, hr⟩ := (Option.any_eq_true _ _).mp hrun
  obtain ⟨hdraws, o, ho, haccounts⟩ := of_decide_eq_true hr
  exact ⟨tr, g, o, run_of_trace htrace, hdraws, ho, haccounts⟩

end Game

end FactoryHub.Llsf
