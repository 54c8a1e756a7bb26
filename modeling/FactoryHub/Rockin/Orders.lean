import FactoryHub.Lib.Heap
import FactoryHub.Lib.Run
import FactoryHub.Rockin.Benchmark

/-!
# Orders

`order.clp`, `order-info.clp`, the orders that `task-benchmarks.clp` sets up, their removal in
`benchmark.clp`, and `net-recv-OrderAcceptance`. An order takes its id from a slot that the class
shares, and CLIPS resets that slot when the last instance of the class is deleted; the dummy order
is there to prevent it.

* `Orders.switchScenario_leads`, `Orders.acceptOrders_leads` — ids are not used twice, and a team
  stays.
* `takenOnce` — along any run, an order belongs to the first team that accepted it.
-/

namespace FactoryHub.Rockin

open Clips Lib

inductive ObjectId where
  | ax01 | ax02 | ax03 | ax04 | ax05 | ax07 | ax08 | ax09
  | em01_01 | em02_01 | er02_01
  deriving DecidableEq, Repr

inductive LocationId where
  | workstation03 | workstation06
  deriving DecidableEq, Repr

/-- `Order`. The dummy order has no object. -/
structure Order where
  id : ℕ := 0
  objectId : Option ObjectId := none
  containerId : Option ObjectId := none
  quantityRequested : Option ℕ := none
  destinationId : Option LocationId := none
  processingTeam : Option String := none
  deriving DecidableEq, Repr

/-- An order to deliver objects into a container. -/
def Order.into (objectId containerId : ObjectId) (quantity : ℕ) : Order :=
  { objectId := some objectId, containerId := some containerId, quantityRequested := some quantity }

/-- An order to deliver a container to a location. -/
def Order.to (objectId : ObjectId) (destinationId : LocationId) : Order :=
  { objectId := some objectId, destinationId := some destinationId }

/-- The orders of `setup`. -/
def Scenario.orders : Scenario → List Order
  | .tbm1 => [.into .ax01 .em01_01 2, .to .em01_01 .workstation03]
  | .tbm2 =>
      [.into .ax07 .em02_01 1, .into .ax07 .em02_01 1, .into .ax08 .er02_01 1,
        .into .ax08 .er02_01 1]
  | .tbm3 =>
      [.to .er02_01 .workstation06, .into .ax01 .er02_01 1, .into .ax02 .er02_01 1,
        .into .ax03 .er02_01 1, .into .ax04 .er02_01 1, .into .ax05 .er02_01 1,
        .into .ax09 .er02_01 1]
  | .none | .fbm1 | .fbm2 | .fbm3 => []

/-- The instances of Order, the slot `next-id` they share, and the slot `orders` of
`[order-info]`, which holds names. -/
structure Orders where
  nextId : ℕ
  instances : Heap Order
  orderInfo : List ℕ

namespace Orders

/-- `make-instance` and the `init` of Order, which overwrites the id. -/
def makeOrder (order : Order) (o : Orders) : Orders :=
  { o with
    nextId := o.nextId + 1
    instances := o.instances.make { order with id := o.nextId } }

/-- `unmake-instance`. The shared slot goes back to its default with the last instance. -/
def unmakeOrder (name : ℕ) (o : Orders) : Orders :=
  let instances := o.instances.unmake name
  { o with instances, nextId := if instances.live.isEmpty then 0 else o.nextId }

/-- One `make-instance` after the other, with the names of what they make. -/
def makeOrders : List Order → Orders → List ℕ × Orders
  | [], o => ([], o)
  | order :: orders, o =>
      let (names, made) := makeOrders orders (o.makeOrder order)
      (o.instances.next :: names, made)

/-- `slot-insert$` of new orders at position 1 of `[order-info]`. -/
def insertOrders (orders : List Order) (o : Orders) : Orders :=
  let (names, made) := makeOrders orders o
  { made with orderInfo := names ++ made.orderInfo }

/-- The part of `switch-scenario` that removes all orders from the order info. -/
def removeOrders (o : Orders) : Orders :=
  let removed := o.orderInfo.foldl (fun o name => o.unmakeOrder name) o
  { removed with orderInfo := [] }

/-- What `switch-scenario` does to the orders. -/
def switchScenario (scenario : Scenario) (o : Orders) : Orders :=
  o.removeOrders.insertOrders scenario.orders

/-- An order of which no team is in charge is given to the team. -/
def acceptOrder (team : String) (o : Orders) (id : ℕ) : Orders :=
  { o with
    instances := o.instances.map fun _ order =>
      if order.id = id ∧ order.processingTeam = none then
        { order with processingTeam := some team }
      else order }

/-- The loops of `net-recv-OrderAcceptance`, over the ids of the message and over all instances. -/
def acceptOrders (team : String) (ids : List ℕ) (o : Orders) : Orders :=
  ids.foldl (acceptOrder team) o

/-- The name of `[dummy]`, which `make-dummy-order` makes first. -/
def dummy : ℕ := 0

/-- The orders after the `init` rules. -/
def start : Orders := makeOrder {} { nextId := 0, instances := .empty, orderInfo := [] }

end Orders

/-! ## The refbox with its orders -/

/-- The refbox and its orders. -/
structure OrderRefbox extends Refbox where
  orders : Orders

/-- The refbox after the `init` rules. -/
def OrderRefbox.start : OrderRefbox := { Refbox.start with orders := .start }

/-- An input of the benchmark and the registry of robots, or an OrderAcceptance of a robot. -/
inductive OrderInput where
  | refbox (i : Input)
  | orderAcceptance (robot : Robot) (ids : List ℕ)
  deriving DecidableEq, Repr

/-- The refbox after an input. A message is matched with the fact of the robot that sent it. -/
def OrderRefbox.step (clock : Clock) (rand : ℕ → ℕ) (r : OrderRefbox) : OrderInput → OrderRefbox
  | .refbox (.setBenchmarkTransitionEvent .reset) =>
      { r.toRefbox.step clock rand (.setBenchmarkTransitionEvent .reset) with
        orders := r.orders.switchScenario r.benchmark.requestedScenario }
  | .refbox i => { r.toRefbox.step clock rand i with orders := r.orders }
  | .orderAcceptance robot ids =>
      if robot ∈ r.robots then { r with orders := r.orders.acceptOrders robot.team ids } else r

/-! ## What becomes of the orders -/

namespace Order

/-- The order after a message of a team that names `ids`. -/
def accept (team : String) (ids : List ℕ) (order : Order) : Order :=
  if order.id ∈ ids ∧ order.processingTeam = none then { order with processingTeam := some team }
  else order

variable {team : String} {id : ℕ} {ids : List ℕ} {order : Order}

@[simp] theorem accept_id : (order.accept team ids).id = order.id := by
  unfold accept
  split <;> rfl

theorem accept_of_notMem (h : order.id ∉ ids) : order.accept team ids = order :=
  if_neg fun hmem => h hmem.1

theorem accept_of_some {owner : String} (h : order.processingTeam = some owner) :
    order.accept team ids = order := by
  apply if_neg
  rintro ⟨-, hnone⟩
  rw [hnone] at h
  cases h

@[simp] theorem accept_nil : order.accept team [] = order := accept_of_notMem List.not_mem_nil

theorem accept_processingTeam :
    (order.accept team ids).processingTeam =
      order.processingTeam.or (if order.id ∈ ids then some team else none) := by
  cases howner : order.processingTeam with
  | some owner => rw [accept_of_some howner, howner, Option.some_or]
  | none =>
      rw [Option.none_or]
      by_cases hmem : order.id ∈ ids
      · rw [if_pos hmem, accept, if_pos ⟨hmem, howner⟩]
      · rw [if_neg hmem, accept_of_notMem hmem, howner]

theorem accept_cons :
    order.accept team (id :: ids) = (order.accept team [id]).accept team ids := by
  by_cases hid : order.id = id
  · -- the first id decides
    cases howner : order.processingTeam with
    | some owner =>
        rw [accept_of_some howner, accept_of_some howner, accept_of_some howner]
    | none =>
        have hset : (order.accept team [id]).processingTeam = some team := by
          rw [accept_processingTeam, howner, if_pos (List.mem_singleton.mpr hid), Option.none_or]
        rw [accept_of_some hset, accept, accept, if_pos ⟨List.mem_cons.mpr (Or.inl hid), howner⟩,
          if_pos ⟨List.mem_singleton.mpr hid, howner⟩]
  · have hnot : order.id ∉ [id] := fun h => hid (List.mem_singleton.mp h)
    rw [accept_of_notMem hnot]
    simp only [accept, List.mem_cons, hid, false_or]

end Order

namespace Orders

variable {o o' o'' : Orders}

/-- Ids are below the shared slot and stand for one instance each; the dummy order is live and not
in the order info. -/
structure WellFormed (o : Orders) : Prop where
  id_lt : ∀ p ∈ o.instances.live, p.2.id < o.nextId
  id_inj : ∀ p ∈ o.instances.live, ∀ q ∈ o.instances.live, p.2.id = q.2.id → p = q
  dummy_live : ∃ order, (dummy, order) ∈ o.instances.live
  dummy_notMem : dummy ∉ o.orderInfo

/-- An instance among `o'` is one among `o`, with its id and its team if it had one, or it has a
name and an id that were not given yet. -/
structure Follows (o o' : Orders) : Prop where
  nextId_le : o.nextId ≤ o'.nextId
  next_le : o.instances.next ≤ o'.instances.next
  origin : ∀ p' ∈ o'.instances.live,
    (∃ order, (p'.1, order) ∈ o.instances.live ∧ p'.2.id = order.id ∧
      ∀ team, order.processingTeam = some team → p'.2.processingTeam = some team) ∨
    (o.instances.next ≤ p'.1 ∧ o.nextId ≤ p'.2.id)

theorem Follows.refl (o : Orders) : o.Follows o where
  nextId_le := le_refl _
  next_le := le_refl _
  origin := fun p hp => Or.inl ⟨p.2, hp, rfl, fun _ h => h⟩

theorem Follows.trans (h : o.Follows o') (h' : o'.Follows o'') : o.Follows o'' where
  nextId_le := le_trans h.nextId_le h'.nextId_le
  next_le := le_trans h.next_le h'.next_le
  origin := by
    intro p'' hp''
    rcases h'.origin p'' hp'' with ⟨order', hlive', hid', hteam'⟩ | ⟨hname, hid⟩
    · rcases h.origin _ hlive' with ⟨order, hlive, hid, hteam⟩ | ⟨hname, hid⟩
      · exact Or.inl ⟨order, hlive, hid'.trans hid, fun team ht => hteam' team (hteam team ht)⟩
      · exact Or.inr ⟨hname, hid'.symm ▸ hid⟩
    · exact Or.inr ⟨le_trans h.next_le hname, le_trans h.nextId_le hid⟩

/-- What an operation on well-formed orders guarantees. -/
def Leads (o o' : Orders) : Prop := o.WellFormed → o'.WellFormed ∧ o.Follows o'

theorem Leads.refl (o : Orders) : o.Leads o := fun h => ⟨h, .refl o⟩

theorem Leads.trans (h : o.Leads o') (h' : o'.Leads o'') : o.Leads o'' := by
  intro hwf
  obtain ⟨hwf', hfollows⟩ := h hwf
  obtain ⟨hwf'', hfollows'⟩ := h' hwf'
  exact ⟨hwf'', hfollows.trans hfollows'⟩

theorem makeOrder_leads (order : Order) (o : Orders) : o.Leads (o.makeOrder order) := by
  intro hwf
  refine ⟨⟨?_, ?_, ?_, hwf.dummy_notMem⟩, Nat.le_succ _, Nat.le_succ _, ?_⟩
  · intro p hp
    rcases Heap.mem_make.mp hp with rfl | hp
    · exact Nat.lt_succ_self _
    · exact Nat.lt_succ_of_lt (hwf.id_lt p hp)
  · intro p hp q hq hid
    rcases Heap.mem_make.mp hp with rfl | hp
    · rcases Heap.mem_make.mp hq with rfl | hq
      · rfl
      · -- the new id is below no id
        exact absurd hid.symm (Nat.ne_of_lt (hwf.id_lt q hq))
    · rcases Heap.mem_make.mp hq with rfl | hq
      · exact absurd hid (Nat.ne_of_lt (hwf.id_lt p hp))
      · exact hwf.id_inj p hp q hq hid
  · obtain ⟨d, hd⟩ := hwf.dummy_live
    exact ⟨d, Heap.mem_make.mpr (Or.inr hd)⟩
  · intro p hp
    rcases Heap.mem_make.mp hp with rfl | hp
    · exact Or.inr ⟨le_refl _, le_refl _⟩
    · exact Or.inl ⟨p.2, hp, rfl, fun _ h => h⟩

/-- While the dummy order lives, the shared slot is not reset. -/
theorem unmakeOrder_nextId {name : ℕ} (hwf : o.WellFormed) (hname : name ≠ dummy) :
    (o.unmakeOrder name).nextId = o.nextId := by
  obtain ⟨d, hd⟩ := hwf.dummy_live
  have hlive : (dummy, d) ∈ (o.instances.unmake name).live := Heap.mem_unmake.mpr ⟨hd, hname.symm⟩
  have hne : ¬ (o.instances.unmake name).live.isEmpty = true := by
    rw [List.isEmpty_iff]
    exact List.ne_nil_of_mem hlive
  exact if_neg hne

theorem unmakeOrder_leads {name : ℕ} (o : Orders) (hname : name ≠ dummy) :
    o.Leads (o.unmakeOrder name) := by
  intro hwf
  have hnextId := unmakeOrder_nextId hwf hname
  refine ⟨⟨?_, ?_, ?_, hwf.dummy_notMem⟩, hnextId.ge, le_refl _, ?_⟩
  · intro p hp
    rw [hnextId]
    exact hwf.id_lt p (Heap.mem_unmake.mp hp).1
  · intro p hp q hq
    exact hwf.id_inj p (Heap.mem_unmake.mp hp).1 q (Heap.mem_unmake.mp hq).1
  · obtain ⟨d, hd⟩ := hwf.dummy_live
    exact ⟨d, Heap.mem_unmake.mpr ⟨hd, hname.symm⟩⟩
  · intro p hp
    exact Or.inl ⟨p.2, (Heap.mem_unmake.mp hp).1, rfl, fun _ h => h⟩

theorem acceptOrder_leads (team : String) (id : ℕ) (o : Orders) :
    o.Leads (o.acceptOrder team id) := by
  intro hwf
  have horigin : ∀ p' ∈ (o.acceptOrder team id).instances.live,
      ∃ order, (p'.1, order) ∈ o.instances.live ∧ p'.2.id = order.id ∧
        ∀ team, order.processingTeam = some team → p'.2.processingTeam = some team := by
    intro p' hp'
    obtain ⟨order, hlive, heq⟩ := Heap.mem_map.mp hp'
    refine ⟨order, hlive, ?_, ?_⟩
    · rw [← heq]
      split <;> rfl
    · intro team' hteam
      rw [← heq, if_neg, hteam]
      rintro ⟨-, hnone⟩
      rw [hnone] at hteam
      cases hteam
  refine ⟨⟨?_, ?_, ?_, hwf.dummy_notMem⟩, le_refl _, le_refl _, fun p hp => Or.inl (horigin p hp)⟩
  · intro p hp
    obtain ⟨order, hlive, hid, -⟩ := horigin p hp
    rw [hid]
    exact hwf.id_lt _ hlive
  · intro p hp q hq heq
    obtain ⟨a, ha, hida, -⟩ := horigin p hp
    obtain ⟨b, hb, hidb, -⟩ := horigin q hq
    have hab := hwf.id_inj _ ha _ hb (by rw [← hida, ← hidb, heq])
    have hname : p.1 = q.1 := (Prod.mk.inj hab).1
    have hq' : (p.1, q.2) ∈ (o.acceptOrder team id).instances.live := hname ▸ hq
    exact Prod.ext hname (Heap.eq_of_mem hp hq')
  · obtain ⟨d, hd⟩ := hwf.dummy_live
    exact ⟨_, Heap.mem_map.mpr ⟨d, hd, rfl⟩⟩

theorem acceptOrders_leads (team : String) (ids : List ℕ) (o : Orders) :
    o.Leads (o.acceptOrders team ids) := by
  induction ids generalizing o with
  | nil => exact .refl o
  | cons id ids ih => exact (acceptOrder_leads team id o).trans (ih (o.acceptOrder team id))

theorem unmakeOrders_leads {names : List ℕ} (h : dummy ∉ names) (o : Orders) :
    o.Leads (names.foldl (fun o name => o.unmakeOrder name) o) := by
  induction names generalizing o with
  | nil => exact .refl o
  | cons name names ih =>
      rw [List.mem_cons, not_or] at h
      exact (unmakeOrder_leads o (Ne.symm h.1)).trans (ih h.2 (o.unmakeOrder name))

theorem removeOrders_leads (o : Orders) : o.Leads o.removeOrders := by
  intro hwf
  obtain ⟨hremoved, hfollows⟩ := unmakeOrders_leads hwf.dummy_notMem o hwf
  have hnil : dummy ∉ ([] : List ℕ) := List.not_mem_nil
  exact ⟨⟨hremoved.id_lt, hremoved.id_inj, hremoved.dummy_live, hnil⟩,
    ⟨hfollows.nextId_le, hfollows.next_le, hfollows.origin⟩⟩

theorem makeOrders_leads (orders : List Order) (o : Orders) :
    o.Leads (makeOrders orders o).2 := by
  induction orders generalizing o with
  | nil => exact .refl o
  | cons order orders ih => exact (makeOrder_leads order o).trans (ih (o.makeOrder order))

/-- The names are new. -/
theorem next_le_of_mem_makeOrders {orders : List Order} {name : ℕ}
    (h : name ∈ (makeOrders orders o).1) : o.instances.next ≤ name := by
  induction orders generalizing o with
  | nil => cases h
  | cons order orders ih =>
      rcases List.mem_cons.mp h with rfl | h
      · exact le_refl _
      · exact le_trans (Nat.le_succ _) (ih h)

theorem insertOrders_leads (orders : List Order) (o : Orders) :
    o.Leads (o.insertOrders orders) := by
  intro hwf
  obtain ⟨hmade, hfollows⟩ := makeOrders_leads orders o hwf
  obtain ⟨d, hd⟩ := hwf.dummy_live
  have hdummy : dummy ∉ (makeOrders orders o).1 ++ (makeOrders orders o).2.orderInfo := by
    intro hmem
    rcases List.mem_append.mp hmem with hnew | hold
    · -- the dummy order has its name already
      exact absurd (next_le_of_mem_makeOrders hnew) (Nat.not_le_of_lt (o.instances.name_lt _ hd))
    · exact hmade.dummy_notMem hold
  exact ⟨⟨hmade.id_lt, hmade.id_inj, hmade.dummy_live, hdummy⟩,
    ⟨hfollows.nextId_le, hfollows.next_le, hfollows.origin⟩⟩

theorem switchScenario_leads (scenario : Scenario) (o : Orders) :
    o.Leads (o.switchScenario scenario) :=
  (removeOrders_leads o).trans (insertOrders_leads scenario.orders o.removeOrders)

/-- What is made has an id that was not given yet, and the team it is made with. -/
theorem mem_makeOrders {orders : List Order} {p : ℕ × Order}
    (h : p ∈ (makeOrders orders o).2.instances.live) :
    p ∈ o.instances.live ∨
      o.nextId ≤ p.2.id ∧ ∃ order ∈ orders, p.2.processingTeam = order.processingTeam := by
  induction orders generalizing o with
  | nil => exact Or.inl h
  | cons order orders ih =>
      rcases ih h with hmade | ⟨hid, later, hmem, hteam⟩
      · rcases Heap.mem_make.mp hmade with rfl | hold
        · exact Or.inr ⟨le_refl _, order, List.mem_cons_self .., rfl⟩
        · exact Or.inl hold
      · exact Or.inr ⟨Nat.le_of_succ_le hid, later, List.mem_cons_of_mem _ hmem, hteam⟩

theorem mem_of_mem_unmakeOrders {names : List ℕ} {p : ℕ × Order}
    (h : p ∈ (names.foldl (fun o name => o.unmakeOrder name) o).instances.live) :
    p ∈ o.instances.live := by
  induction names generalizing o with
  | nil => exact h
  | cons name names ih => exact (Heap.mem_unmake.mp (ih h)).1

/-- A scenario sets up orders that nobody is in charge of. -/
theorem orders_processingTeam (scenario : Scenario) :
    ∀ order ∈ scenario.orders, order.processingTeam = none := by
  cases scenario <;> decide

theorem mem_switchScenario {scenario : Scenario} {p : ℕ × Order} (hwf : o.WellFormed)
    (h : p ∈ (o.switchScenario scenario).instances.live) :
    p ∈ o.instances.live ∨ o.nextId ≤ p.2.id ∧ p.2.processingTeam = none := by
  rcases mem_makeOrders h with hremoved | ⟨hid, order, hmem, hteam⟩
  · exact Or.inl (mem_of_mem_unmakeOrders hremoved)
  · have hle : o.nextId ≤ o.removeOrders.nextId := (removeOrders_leads o hwf).2.nextId_le
    exact Or.inr ⟨le_trans hle hid, hteam.trans (orders_processingTeam scenario order hmem)⟩

theorem wellFormed_start : start.WellFormed := by
  constructor
  · decide
  · decide
  · exact ⟨{}, List.mem_singleton.mpr rfl⟩
  · decide

/-! ### What a message does to an order -/

theorem mem_acceptOrder {team : String} {id : ℕ} {p : ℕ × Order} :
    p ∈ (o.acceptOrder team id).instances.live ↔
      ∃ order, (p.1, order) ∈ o.instances.live ∧ order.accept team [id] = p.2 := by
  rw [acceptOrder, Heap.mem_map]
  simp only [Order.accept, List.mem_singleton]

/-- The ids of a message work together as one condition on each order. -/
theorem mem_acceptOrders {team : String} {ids : List ℕ} {p : ℕ × Order} :
    p ∈ (o.acceptOrders team ids).instances.live ↔
      ∃ order, (p.1, order) ∈ o.instances.live ∧ order.accept team ids = p.2 := by
  induction ids generalizing o with
  | nil =>
      constructor
      · intro hp
        exact ⟨p.2, hp, Order.accept_nil⟩
      · rintro ⟨order, hlive, heq⟩
        rw [Order.accept_nil] at heq
        subst heq
        exact hlive
  | cons id ids ih =>
      show p ∈ ((o.acceptOrder team id).acceptOrders team ids).instances.live ↔ _
      rw [ih]
      constructor
      · rintro ⟨order', hlive', heq'⟩
        obtain ⟨order, hlive, heq⟩ := mem_acceptOrder.mp hlive'
        refine ⟨order, hlive, ?_⟩
        rw [Order.accept_cons, heq, heq']
      · rintro ⟨order, hlive, heq⟩
        rw [Order.accept_cons] at heq
        refine ⟨order.accept team [id], ?_, heq⟩
        exact mem_acceptOrder.mpr ⟨order, hlive, rfl⟩

end Orders

/-! ## Along a run -/

section

variable {clock : Clock} {rand : ℕ → ℕ} {tr : List (Step OrderRefbox OrderInput)}
  {r : OrderRefbox}

theorem step_leads (r : OrderRefbox) (i : OrderInput) :
    r.orders.Leads (r.step clock rand i).orders := by
  unfold OrderRefbox.step
  split
  · exact Orders.switchScenario_leads _ _
  · exact .refl _
  · split
    · exact Orders.acceptOrders_leads _ _ _
    · exact .refl _

/-- The team that a step gives the order with an id to, if nobody is in charge of it: its label is
an OrderAcceptance of a known robot that names the id, and there is such an order. -/
def acceptedBy (t : Step OrderRefbox OrderInput) (id : ℕ) : Option String :=
  match t.label with
  | .refbox _ => none
  | .orderAcceptance robot ids =>
      if robot ∈ t.pre.robots ∧ id ∈ ids ∧ ∃ p ∈ t.pre.orders.instances.live, p.2.id = id then
        some robot.team
      else none

/-- The team of the first message of a record that accepts the order with an id. -/
def firstTeam : List (Step OrderRefbox OrderInput) → ℕ → Option String
  | [], _ => none
  | t :: earlier, id => (firstTeam earlier id).or (acceptedBy t id)

/-- An order with the id was live before a step of the record. -/
def IdIn (tr : List (Step OrderRefbox OrderInput)) (id : ℕ) : Prop :=
  ∃ t ∈ tr, ∃ p ∈ t.pre.orders.instances.live, p.2.id = id

/-- The instance with the name was live before a step of the record. -/
def NameIn (tr : List (Step OrderRefbox OrderInput)) (name : ℕ) : Prop :=
  ∃ t ∈ tr, ∃ p ∈ t.pre.orders.instances.live, p.1 = name

/-- An order is taken by one team only. -/
structure TakenOnce (clock : Clock) (rand : ℕ → ℕ) (tr : List (Step OrderRefbox OrderInput))
    (r : OrderRefbox) : Prop where
  /-- The team of an order stays. -/
  kept : ∀ t ∈ tr, ∀ name order order', (name, order) ∈ t.pre.orders.instances.live →
    (name, order') ∈ r.orders.instances.live →
      ∀ team, order.processingTeam = some team → order'.processingTeam = some team
  /-- It is the first one that accepted the order. -/
  first : ∀ p ∈ r.orders.instances.live, p.2.processingTeam = firstTeam tr p.2.id
  /-- Take a point of the past, such as a RESET. Of the ids in a message, those that orders had by
  then do nothing to an order made since: it stays what it is unless another id is its own. -/
  stale : ∀ later u earlier, tr = later ++ u :: earlier →
    ∀ name order, (name, order) ∈ r.orders.instances.live → ¬ NameIn (u :: earlier) name →
      ∀ robot ids, (∀ id ∈ ids, id = order.id → IdIn (u :: earlier) id) →
        (name, order) ∈ (r.step clock rand (.orderAcceptance robot ids)).orders.instances.live

theorem wellFormed_of_run (h : Run (fun r i r' => r.step clock rand i = r') .start tr r) :
    r.orders.WellFormed := by
  apply Run.invariant ?_ ?_ h
  · exact Orders.wellFormed_start
  · rintro r i _ hr rfl
    exact (step_leads r i hr).1

theorem leads_of_run (h : Run (fun r i r' => r.step clock rand i = r') .start tr r) :
    ∀ t ∈ tr, t.pre.orders.Leads r.orders := by
  apply Run.related (R := fun r r' => r.orders.Leads r'.orders) ?_ ?_ h
  · intro r r' r'' hr hr'
    exact hr.trans hr'
  · rintro r i _ rfl
    exact step_leads r i

/-- Every state of the past was well-formed, and the reached one follows it. -/
theorem follows_of_run (h : Run (fun r i r' => r.step clock rand i = r') .start tr r)
    {t : Step OrderRefbox OrderInput} (ht : t ∈ tr) :
    t.pre.orders.WellFormed ∧ t.pre.orders.Follows r.orders := by
  obtain ⟨-, tr', hrun, -⟩ := Run.mem_run h ht
  have hwf := wellFormed_of_run hrun
  exact ⟨hwf, (leads_of_run h t ht hwf).2⟩

/-! ### The first team -/

/-- Every live order is with its first team, and no team has accepted an id that was not given. -/
def FirstCome (tr : List (Step OrderRefbox OrderInput)) (o : Orders) : Prop :=
  (∀ p ∈ o.instances.live, p.2.processingTeam = firstTeam tr p.2.id) ∧
    ∀ id, o.nextId ≤ id → firstTeam tr id = none

/-- Where nothing is accepted, an order is from before or new and without a team. -/
theorem firstCome_of_acceptedBy {t : Step OrderRefbox OrderInput} (h : FirstCome tr t.pre.orders)
    (hnone : ∀ id, acceptedBy t id = none) (hle : t.pre.orders.nextId ≤ t.post.orders.nextId)
    (hlive : ∀ p ∈ t.post.orders.instances.live, p ∈ t.pre.orders.instances.live ∨
      t.pre.orders.nextId ≤ p.2.id ∧ p.2.processingTeam = none) :
    FirstCome (t :: tr) t.post.orders := by
  have hfirst : ∀ id, firstTeam (t :: tr) id = firstTeam tr id := by
    intro id
    rw [firstTeam, hnone, Option.or_none]
  constructor
  · intro p hp
    rw [hfirst]
    rcases hlive p hp with hold | ⟨hid, hteam⟩
    · exact h.1 p hold
    · rw [hteam, h.2 _ hid]
  · intro id hid
    rw [hfirst]
    exact h.2 id (le_trans hle hid)

/-- An acceptance gives each order without a team to the robot's team if the order's id is named. -/
theorem firstCome_of_orderAcceptance {robot : Robot} {ids : List ℕ} (hwf : r.orders.WellFormed)
    (h : FirstCome tr r.orders) (hknown : robot ∈ r.robots) :
    FirstCome (⟨r, .orderAcceptance robot ids, r.step clock rand (.orderAcceptance robot ids)⟩ :: tr)
      (r.orders.acceptOrders robot.team ids) := by
  constructor
  · intro p hp
    obtain ⟨order, hlive, heq⟩ := Orders.mem_acceptOrders.mp hp
    have hid : p.2.id = order.id := by rw [← heq, Order.accept_id]
    rw [firstTeam, hid, ← h.1 _ hlive, ← heq, Order.accept_processingTeam]
    congr 1
    -- the order itself is what makes the message count
    show _ = if _ then _ else _
    by_cases hmem : order.id ∈ ids
    · rw [if_pos hmem, if_pos ⟨hknown, hmem, _, hlive, rfl⟩]
    · rw [if_neg hmem, if_neg fun hc => hmem hc.2.1]
  · intro id hid
    have hnextId : r.orders.nextId ≤ id :=
      le_trans (Orders.acceptOrders_leads robot.team ids r.orders hwf).2.nextId_le hid
    rw [firstTeam, h.2 id hnextId, Option.none_or]
    apply if_neg
    rintro ⟨-, -, p, hlive, heq⟩
    -- no order has such an id
    exact absurd (hwf.id_lt p hlive) (Nat.not_lt.mpr (heq ▸ hnextId))

theorem firstCome_step (hwf : r.orders.WellFormed) (h : FirstCome tr r.orders) (i : OrderInput) :
    FirstCome (⟨r, i, r.step clock rand i⟩ :: tr) (r.step clock rand i).orders := by
  have hle : r.orders.nextId ≤ (r.step clock rand i).orders.nextId :=
    (step_leads r i hwf).2.nextId_le
  cases i with
  | refbox i =>
      refine firstCome_of_acceptedBy h (fun _ => rfl) hle fun p hp => ?_
      by_cases hi : i = .setBenchmarkTransitionEvent .reset
      · subst hi
        exact Orders.mem_switchScenario hwf hp
      · have hsame : (r.step clock rand (.refbox i)).orders = r.orders := by
          unfold OrderRefbox.step
          split
          · next heq => exact absurd (OrderInput.refbox.inj heq) hi
          · rfl
          · next heq => cases heq
        left
        rw [← hsame]
        exact hp
  | orderAcceptance robot ids =>
      by_cases hknown : robot ∈ r.robots
      · have hpost : (r.step clock rand (.orderAcceptance robot ids)).orders =
            r.orders.acceptOrders robot.team ids := by
          rw [OrderRefbox.step, if_pos hknown]
        rw [hpost]
        exact firstCome_of_orderAcceptance hwf h hknown
      · have hpost : r.step clock rand (.orderAcceptance robot ids) = r := if_neg hknown
        refine firstCome_of_acceptedBy h (fun id => if_neg fun hc => hknown hc.1) hle fun p hp => ?_
        left
        rw [hpost] at hp
        exact hp

theorem firstCome_start : FirstCome [] Orders.start := by
  constructor
  · decide
  · exact fun _ _ => rfl

theorem firstCome_of_run (h : Run (fun r i r' => r.step clock rand i = r') .start tr r) :
    FirstCome tr r.orders := by
  induction h with
  | init => exact firstCome_start
  | step hrun hstep ih =>
      subst hstep
      exact firstCome_step (wellFormed_of_run hrun) ih _

/-! ### The result -/

/-- **An order is taken by one team only**, whatever messages, scenario switches and resets make up
the run. -/
theorem takenOnce (h : Run (fun r i r' => r.step clock rand i = r') .start tr r) :
    TakenOnce clock rand tr r where
  kept := by
    intro t ht name order order' hlive hlive' team hteam
    obtain ⟨-, hfollows⟩ := follows_of_run h ht
    rcases hfollows.origin _ hlive' with ⟨origin, horigin, -, hkept⟩ | ⟨hname, -⟩
    · have heq : order = origin := Heap.eq_of_mem hlive horigin
      exact hkept team (heq ▸ hteam)
    · -- the name was taken
      exact absurd (t.pre.orders.instances.name_lt _ hlive) (Nat.not_lt.mpr hname)
  first := (firstCome_of_run h).1
  stale := by
    intro later u earlier hsplit name order hlive hnew robot ids hstale
    have hnotMem : order.id ∉ ids := by
      intro hmem
      obtain ⟨t, ht, p, hp, hid⟩ := hstale _ hmem rfl
      have htr : t ∈ tr := hsplit ▸ List.mem_append_right _ ht
      obtain ⟨hwf, hfollows⟩ := follows_of_run h htr
      rcases hfollows.origin _ hlive with ⟨origin, horigin, -⟩ | ⟨-, hle⟩
      · exact hnew ⟨t, ht, _, horigin, rfl⟩
      · -- ids are not given twice
        exact absurd (hwf.id_lt p hp) (Nat.not_lt.mpr (hid ▸ hle))
    rw [OrderRefbox.step]
    split
    · exact Orders.mem_acceptOrders.mpr ⟨order, hlive, Order.accept_of_notMem hnotMem⟩
    · exact hlive

/-- Two teams ask for the orders of TBM1, which is then reset; the last message comes late. -/
def twoTeams : List OrderInput :=
  let a : Robot := { team := "a", name := "robot", host := "10.0.0.1", port := 4444 }
  let b : Robot := { team := "b", name := "robot", host := "10.0.0.2", port := 4444 }
  [.refbox (.beacon a), .refbox (.beacon b), .refbox (.setBenchmarkScenario .tbm 1),
    .refbox (.setBenchmarkTransitionEvent .reset), .orderAcceptance a [1],
    .orderAcceptance b [1, 2], .refbox (.setBenchmarkTransitionEvent .reset),
    .orderAcceptance b [3], .orderAcceptance a [1, 2]]

theorem takenOnce_of_twoTeams :
    let step := OrderRefbox.step everySecond id
    TakenOnce everySecond id (record step .start twoTeams) (twoTeams.foldl step .start) ∧
      [1, 2, 3, 4].map (firstTeam (record step .start twoTeams)) =
        [some "a", some "b", some "b", none] := by
  refine ⟨takenOnce (run_record (OrderRefbox.step everySecond id) .start twoTeams), ?_⟩
  decide +kernel

end

end FactoryHub.Rockin
