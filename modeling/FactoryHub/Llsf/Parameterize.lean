import FactoryHub.Llsf.MachineInit
import Mathlib.Data.List.Nodup
import Mathlib.Tactic.Linarith

/-!
# The orders of `game-parameterize`

The times of the orders of CYAN are drawn, and MAGENTA gets copies of these orders. Then come two
passes. The first makes every order at least `ORDER-MIN-DELIVER-TIME` longer than its product takes. The
second goes through the pairs of an order and a machine that outputs its product, and changes the
down period of the machine where it covers too much of the order.

* `mem_drawOrders_iff`, `nodup_drawOrders` — an order of CYAN keeps its id, and its copy gets a new one.
* `newDownPeriod_spec` — a changed down period is a part of the old one, or no longer than half of
  any order.
* `final_machines_available` — so no change spoils an order that was looked at before.
-/

namespace FactoryHub.Llsf

open Clips

/-- `ORDER-MIN-DELIVER-TIME`. -/
def orderMinDeliverTime : Int := 30
/-- `ORDER-MAX-DOWN-RATIO`. -/
def orderMaxDownRatio : ℚ := 1 / 2
/-- `ORDER-DOWN-SHRINK`. -/
def orderDownShrink : ℚ := 20

/-! ## The draws -/

/-- The random numbers for an order of CYAN: `deliver-start`, how long `deliver-end` is after it, and
`activation-pre-time`. -/
structure OrderDraw where
  deliverStart : Int
  duration : Int
  activationPreTime : Int
  deriving DecidableEq, Repr

/-- `highest-order-id`. -/
def highestOrderId (orders : List Order) : Int :=
  (orders.filter (·.team = .cyan)).foldl
    (fun highest order => if order.id > highest then order.id else highest) 0

/-- The order of CYAN with its random times. -/
def drawTimes (draw : OrderDraw) (order : Order) : Order :=
  { order with
    active := false
    activateAt := max (draw.deliverStart - draw.activationPreTime) 0
    deliveryPeriod := (draw.deliverStart, draw.deliverStart + draw.duration) }

/-- `machine-magenta-for-cyan-gate` of the gate of an order. -/
def Gate.magentaForCyan : Gate → Gate
  | .any => .any
  | .only name => machineMagentaForCyanGate name

/-- The order that is asserted for MAGENTA. -/
def magentaOrder (id : Int) (order : Order) : Order where
  id := id
  team := .magenta
  product := order.product
  quantityRequested := order.quantityRequested
  deliveryPeriod := order.deliveryPeriod
  deliveryGate := order.deliveryGate.magentaForCyan
  active := order.active
  activateAt := order.activateAt
  points := order.points
  pointsSupernumerous := order.pointsSupernumerous

/-- The orders of MAGENTA are retracted, and those of CYAN copied with the next ids. The draws are by
the ids of the orders. -/
def drawOrders (draws : Int → OrderDraw) (orders : List Order) : List Order :=
  let highest := highestOrderId orders
  let cyan := (orders.filter (·.team = .cyan)).map fun order => drawTimes (draws order.id) order
  cyan ++ cyan.zipIdx.map fun (order, i) => magentaOrder (highest + (i + 1)) order

/-! ## The passes -/

/-- The types of machines, in the order of `machine-specs`. -/
def MType.all : List MType := [.t1, .t2, .t3, .t4, .t5, .deliver, .recycle]

/-- The `machine-spec` facts. -/
def machineSpecs (procTime : MType → Int) : List MachineSpec :=
  MType.all.filterMap (machineSpec procTime)

/-- The body of the first pass, for an order and a specification that outputs its product. -/
def extendOrder (order : Order) (mspec : MachineSpec) : Order :=
  let minTime := mspec.procTime + orderMinDeliverTime
  let deliveryTime := order.deliveryPeriod.2 - order.deliveryPeriod.1
  if deliveryTime < minTime then
    let newEndTime := order.deliveryPeriod.2 + (minTime - deliveryTime)
    { order with deliveryPeriod := (order.deliveryPeriod.1, newEndTime) }
  else order

/-- The first pass. One specification at most outputs a product, so each order is modified once. -/
def extendOrders (procTime : MType → Int) (orders : List Order) : List Order :=
  orders.map (fun order =>
    match (machineSpecs procTime).find? (fun mspec => order.product = mspec.output) with
    | some mspec => extendOrder order mspec
    | none => order)

/-- The down period that the second pass gives a machine. -/
def newDownPeriod (orderStart orderEnd : ℚ) (down : ℚ × ℚ) : ℚ × ℚ :=
  if timeRangeOverlapRatio orderStart orderEnd down.1 down.2 > orderMaxDownRatio then
    if orderEnd > down.1 ∧ orderEnd ≤ down.2 then
      -- the end of the order time is within the down time
      (orderEnd - orderDownShrink, down.2)
    else if orderStart ≥ down.1 ∧ orderStart < down.2 then
      -- the start of the order time is within the down time
      (down.1, orderStart + orderDownShrink)
    else if orderStart < down.1 ∧ orderEnd > down.2 then
      -- the down time is within the order time
      (orderStart, orderStart + orderDownShrink)
    else down
  else down

/-- The body of the second pass, for an order and a machine with its specification. -/
def shrinkDownPeriod (procTime : MType → Int) (machines : MachineName → Machine)
    (visit : Order × MachineName) : MachineName → Machine :=
  let (order, m) := visit
  let mf := machines m
  match machineSpec procTime mf.mtype with
  | some spec =>
      if order.product = spec.output ∧ mf.downPeriod.1 ≥ 0 then
        let mf' := { mf with
          downPeriod := newDownPeriod order.deliveryPeriod.1 order.deliveryPeriod.2 mf.downPeriod }
        fun n => if n = m then mf' else machines n
      else machines
  | none => machines

/-- The second pass, over the pairs in the order of the query: a modified machine goes to the end of
the facts, and may be visited again. -/
def shrinkDownPeriods (procTime : MType → Int) (visits : List (Order × MachineName))
    (machines : MachineName → Machine) : MachineName → Machine :=
  visits.foldl (shrinkDownPeriod procTime) machines

/-! ## The orders that are drawn -/

section

variable {draws : Int → OrderDraw} {orders : List Order} {o c : Order}

/-- The fold is above where it starts, and above all ids. -/
theorem le_foldl_highest (l : List Order) (start : Int) :
    let highest := l.foldl
      (fun highest order => if order.id > highest then order.id else highest) start
    start ≤ highest ∧ ∀ c ∈ l, c.id ≤ highest := by
  induction l generalizing start with
  | nil => exact ⟨le_rfl, fun c hc => absurd hc List.not_mem_nil⟩
  | cons order l ih =>
      intro highest
      obtain ⟨hstart, hids⟩ := ih (if order.id > start then order.id else start)
      have hnext : start ≤ (if order.id > start then order.id else start) ∧
          order.id ≤ (if order.id > start then order.id else start) := by
        split <;> omega
      refine ⟨hnext.1.trans hstart, fun c hc => ?_⟩
      rcases List.mem_cons.mp hc with rfl | hc
      · exact hnext.2.trans hstart
      · exact hids c hc

theorem id_le_highestOrderId (hc : c ∈ orders) (hcyan : c.team = .cyan) :
    c.id ≤ highestOrderId orders :=
  (le_foldl_highest _ 0).2 c (List.mem_filter.mpr ⟨hc, decide_eq_true hcyan⟩)

/-- The orders are those of CYAN with their new times, and copies with ids above theirs. -/
theorem mem_drawOrders (ho : o ∈ drawOrders draws orders) :
    ∃ c ∈ orders, c.team = .cyan ∧ (o = drawTimes (draws c.id) c ∨
      ∃ id, highestOrderId orders < id ∧ o = magentaOrder id (drawTimes (draws c.id) c)) := by
  have hcyan : ∀ d ∈ (orders.filter (·.team = .cyan)).map fun order =>
      drawTimes (draws order.id) order,
      ∃ c ∈ orders, c.team = .cyan ∧ d = drawTimes (draws c.id) c := by
    intro d hd
    obtain ⟨c, hc, rfl⟩ := List.mem_map.mp hd
    obtain ⟨hc, hteam⟩ := List.mem_filter.mp hc
    exact ⟨c, hc, of_decide_eq_true hteam, rfl⟩
  rcases List.mem_append.mp ho with ho | ho
  · obtain ⟨c, hc, hteam, rfl⟩ := hcyan o ho
    exact ⟨c, hc, hteam, .inl rfl⟩
  · obtain ⟨⟨d, i⟩, hd, rfl⟩ := List.mem_map.mp ho
    obtain ⟨c, hc, hteam, rfl⟩ := hcyan d (List.fst_mem_of_mem_zipIdx hd)
    exact ⟨c, hc, hteam, .inr ⟨_, by omega, rfl⟩⟩

theorem drawTimes_mem_drawOrders (hc : c ∈ orders) (hcyan : c.team = .cyan) :
    drawTimes (draws c.id) c ∈ drawOrders draws orders :=
  List.mem_append_left _
    (List.mem_map.mpr ⟨c, List.mem_filter.mpr ⟨hc, decide_eq_true hcyan⟩, rfl⟩)

theorem inactive_of_mem_drawOrders (ho : o ∈ drawOrders draws orders) : o.active = false := by
  obtain ⟨c, -, -, rfl | ⟨id, -, rfl⟩⟩ := mem_drawOrders ho <;> rfl

theorem ids_drawOrders :
    (drawOrders draws orders).map Order.id =
      (orders.filter (·.team = .cyan)).map Order.id ++
        (List.range (orders.filter (·.team = .cyan)).length).map fun (i : ℕ) =>
          highestOrderId orders + ((i : Int) + 1) := by
  have hids : ((fun order : Order => order.id) ∘ fun order => drawTimes (draws order.id) order) =
      Order.id := rfl
  have hcopies : ∀ (l : List Order) (start : ℕ),
      (l.zipIdx start).map (Order.id ∘ fun (p : Order × ℕ) =>
          magentaOrder (highestOrderId orders + ((p.2 : Int) + 1)) p.1) =
        (List.range' start l.length).map fun (i : ℕ) =>
          highestOrderId orders + ((i : Int) + 1) := by
    intro l
    induction l with
    | nil => exact fun start => rfl
    | cons order l ih =>
        intro start
        rw [List.zipIdx_cons, List.map_cons, ih, List.length_cons, List.range'_succ, List.map_cons]
        rfl
  unfold drawOrders
  dsimp only
  rw [List.map_append, List.map_map, List.map_map, hcopies, List.length_map, List.range_eq_range']
  rfl

/-- The ids stay unique. -/
theorem nodup_drawOrders (hnodup : (orders.map Order.id).Nodup) :
    ((drawOrders draws orders).map Order.id).Nodup := by
  rw [ids_drawOrders, List.nodup_append]
  refine ⟨hnodup.sublist (List.filter_sublist.map _), ?_, ?_⟩
  · refine List.Nodup.map (fun i j hij => ?_) List.nodup_range
    omega
  · intro id hid id' hid' heq
    obtain ⟨c, hc, rfl⟩ := List.mem_map.mp hid
    obtain ⟨i, -, rfl⟩ := List.mem_map.mp hid'
    obtain ⟨hc, hteam⟩ := List.mem_filter.mp hc
    have hle := id_le_highestOrderId hc (of_decide_eq_true hteam)
    omega

end

/-! ## One change of a down period -/

/-- A down period within another one. -/
def Within (d' d : ℚ × ℚ) : Prop := d.1 ≤ d'.1 ∧ d'.2 ≤ d.2

/-- The down period covers no more of the order than it may. -/
def Bearable (orderStart orderEnd : ℚ) (down : ℚ × ℚ) : Prop :=
  timeRangeOverlapRatio orderStart orderEnd down.1 down.2 ≤ orderMaxDownRatio

section

variable {a b : ℚ} {d d' : ℚ × ℚ}

/-- The bound in terms of the intersection. -/
theorem bearable_iff (hab : a < b) (hd : d.1 ≤ d.2) :
    Bearable a b d ↔ 2 * (min b d.2 - max a d.1) ≤ b - a := by
  have hlength : 0 < b - a := sub_pos.mpr hab
  unfold Bearable timeRangeOverlapRatio orderMaxDownRatio
  rw [timeRangeOverlapLength_eq hab.le hd, div_le_iff₀ hlength]
  constructor
  · intro h
    have := le_max_right 0 (min b d.2 - max a d.1)
    linarith
  · intro h
    exact max_le (by linarith) (by linarith)

/-- A part of a bearable down period is bearable. -/
theorem Bearable.of_within (h : Bearable a b d) (hab : a < b) (hd : d.1 ≤ d.2) (hd' : d'.1 ≤ d'.2)
    (hwithin : Within d' d) : Bearable a b d' := by
  rw [bearable_iff hab hd] at h
  rw [bearable_iff hab hd']
  have hend : min b d'.2 ≤ min b d.2 := min_le_min_left b hwithin.2
  have hstart : max a d.1 ≤ max a d'.1 := max_le_max_left a hwithin.1
  linarith

/-- A down period of the length it is shrunk to is bearable for every order. -/
theorem bearable_of_short (hab : 40 ≤ b - a) (hd : d.1 ≤ d.2) (hshort : d.2 - d.1 ≤ 20) :
    Bearable a b d := by
  rw [bearable_iff (by linarith) hd]
  have hend := min_le_right b d.2
  have hstart := le_max_right a d.1
  linarith

/-- **What the second pass does to a down period**: it stays a period, is bearable for the order,
and is a part of what it was or short. -/
theorem newDownPeriod_spec (hab : 40 ≤ b - a) (hd : d.1 ≤ d.2) :
    (newDownPeriod a b d).1 ≤ (newDownPeriod a b d).2 ∧ Bearable a b (newDownPeriod a b d) ∧
      (Within (newDownPeriod a b d) d ∨ (newDownPeriod a b d).2 - (newDownPeriod a b d).1 ≤ 20) := by
  have hlt : a < b := by linarith
  by_cases hconflict : Bearable a b d
  · have heq : newDownPeriod a b d = d := if_neg (not_lt.mpr hconflict)
    rw [heq]
    exact ⟨hd, hconflict, Or.inl ⟨le_rfl, le_rfl⟩⟩
  have hratio : timeRangeOverlapRatio a b d.1 d.2 > orderMaxDownRatio := not_le.mp hconflict
  rw [bearable_iff hlt hd, not_le] at hconflict
  -- more than 20 s of the order are covered
  have hlong : 20 < min b d.2 - max a d.1 := by linarith
  have hbd := min_le_left b d.2
  have hdb := min_le_right b d.2
  have had := le_max_left a d.1
  have hda := le_max_right a d.1
  unfold newDownPeriod
  rw [if_pos hratio]
  unfold orderDownShrink
  split
  · next hcase =>
      have hd' : b - 20 ≤ d.2 := by linarith [hcase.2]
      refine ⟨hd', ?_, Or.inl ⟨?_, le_rfl⟩⟩
      · rw [bearable_iff hlt hd']
        have hstart := le_max_right a (b - 20)
        have hend := min_le_left b d.2
        dsimp only
        linarith
      · dsimp only
        linarith
  split
  · next hcase =>
      have hd' : d.1 ≤ a + 20 := by linarith [hcase.1]
      refine ⟨hd', ?_, Or.inl ⟨le_rfl, ?_⟩⟩
      · rw [bearable_iff hlt hd']
        have hstart := le_max_left a d.1
        have hend := min_le_right b (a + 20)
        dsimp only
        linarith
      · dsimp only
        linarith
  split
  · have hd' : a ≤ a + 20 := by linarith
    refine ⟨hd', bearable_of_short hab hd' ?_, Or.inr ?_⟩
    · dsimp only
      linarith
    · dsimp only
      linarith
  · next hfirst hsecond hthird =>
      -- the three cases cover all down periods that meet the order for longer
      exfalso
      have hbstart : d.1 < b := by linarith
      have hastart : a < d.2 := by linarith
      have hend : d.2 < b := by
        by_contra hle
        exact hfirst ⟨hbstart, not_lt.mp hle⟩
      have hstart : a < d.1 := by
        by_contra hle
        exact hsecond ⟨not_lt.mp hle, hastart⟩
      exact hthird ⟨hstart, hend⟩

end

/-! ## The passes together -/

theorem MType.mem_all (mtype : MType) : mtype ∈ MType.all := by cases mtype <;> decide

theorem mem_machineSpecs {procTime : MType → Int} {spec : MachineSpec} :
    spec ∈ machineSpecs procTime ↔ ∃ mtype, machineSpec procTime mtype = some spec := by
  unfold machineSpecs
  rw [List.mem_filterMap]
  exact ⟨fun ⟨mtype, _, h⟩ => ⟨mtype, h⟩, fun ⟨mtype, h⟩ => ⟨mtype, mtype.mem_all, h⟩⟩

/-- Each product is the output of one specification. -/
theorem eq_of_output_eq {procTime : MType → Int} {mtype mtype' : MType} {spec spec' : MachineSpec}
    (h : machineSpec procTime mtype = some spec) (h' : machineSpec procTime mtype' = some spec')
    (houtput : spec.output = spec'.output) : spec = spec' := by
  cases mtype <;> cases h <;> cases mtype' <;> cases h'
  all_goals first
    | rfl
    | cases houtput

theorem product_extendOrder (o : Order) (spec : MachineSpec) :
    (extendOrder o spec).product = o.product := by
  unfold extendOrder
  dsimp only
  split <;> rfl

/-- The first pass changes delivery periods only. -/
theorem extendOrders_eq_map (procTime : MType → Int) (orders : List Order) :
    ∃ extend : Order → Order, extendOrders procTime orders = orders.map extend ∧
      ∀ o, extend o = { o with deliveryPeriod := (extend o).deliveryPeriod } := by
  refine ⟨_, rfl, fun o => ?_⟩
  split
  · unfold extendOrder
    dsimp only
    split <;> rfl
  · rfl

theorem le_length_extendOrder (o : Order) (spec : MachineSpec) :
    spec.procTime + orderMinDeliverTime ≤
      (extendOrder o spec).deliveryPeriod.2 - (extendOrder o spec).deliveryPeriod.1 := by
  unfold extendOrder
  dsimp only
  split
  · dsimp only
    omega
  · omega

/-- **The first pass**: an order lasts longer than its product takes. -/
theorem length_of_extendOrders {procTime : MType → Int} {orders : List Order} {o : Order}
    (ho : o ∈ extendOrders procTime orders) {mtype : MType} {spec : MachineSpec}
    (hspec : machineSpec procTime mtype = some spec) (houtput : o.product = spec.output) :
    spec.procTime + orderMinDeliverTime ≤ o.deliveryPeriod.2 - o.deliveryPeriod.1 := by
  obtain ⟨c, -, hc⟩ := List.mem_map.mp ho
  cases hfind : (machineSpecs procTime).find? (fun mspec => c.product = mspec.output) with
  | none =>
      rw [hfind] at hc
      subst hc
      have hnone := List.find?_eq_none.mp hfind spec (mem_machineSpecs.mpr ⟨mtype, hspec⟩)
      exact absurd houtput (by simpa using hnone)
  | some spec' =>
      rw [hfind] at hc
      subst hc
      obtain ⟨mtype', hspec'⟩ := mem_machineSpecs.mp (List.mem_of_find?_eq_some hfind)
      have houtput' : c.product = spec'.output := by simpa using List.find?_some hfind
      rw [product_extendOrder, houtput'] at houtput
      rw [eq_of_output_eq hspec hspec' houtput.symm]
      exact le_length_extendOrder c spec'

/-- The order, where a machine outputs its product, is long enough for the constants of the second
pass. -/
def Order.Long (procTime : MType → Int) (o : Order) : Prop :=
  ∀ mtype spec, machineSpec procTime mtype = some spec → o.product = spec.output →
    (40 : ℚ) ≤ o.deliveryPeriod.2 - o.deliveryPeriod.1

/-- The machine, if it outputs the product of the order, is not down for too much of it. -/
def AvailableFor (procTime : MType → Int) (o : Order) (mf : Machine) : Prop :=
  ∀ spec, machineSpec procTime mf.mtype = some spec → o.product = spec.output →
    0 ≤ mf.downPeriod.1 → Bearable o.deliveryPeriod.1 o.deliveryPeriod.2 mf.downPeriod

/-- The invariant of the second pass, with the pairs visited so far. -/
structure Passed (procTime : MType → Int) (visited : List (Order × MachineName))
    (machines : MachineName → Machine) : Prop where
  periods : ∀ m, (machines m).downPeriod.1 ≤ (machines m).downPeriod.2
  available : ∀ v ∈ visited, AvailableFor procTime v.1 (machines v.2)

variable {procTime : MType → Int} {machines : MachineName → Machine}
  {visited visits : List (Order × MachineName)}

/-- A machine that gets a part of its down period, or a short one, stays available. -/
theorem AvailableFor.of_downPeriod {o : Order} {mf : Machine} {d : ℚ × ℚ}
    (h : AvailableFor procTime o mf) (hlong : o.Long procTime) (hpos : 0 ≤ mf.downPeriod.1)
    (hmf : mf.downPeriod.1 ≤ mf.downPeriod.2) (hd : d.1 ≤ d.2)
    (hless : Within d mf.downPeriod ∨ d.2 - d.1 ≤ 20) :
    AvailableFor procTime o { mf with downPeriod := d } := by
  intro spec hspec houtput _
  have hlength := hlong _ spec hspec houtput
  rcases hless with hwithin | hshort
  · exact (h spec hspec houtput hpos).of_within (by linarith) hmf hd hwithin
  · exact bearable_of_short hlength hd hshort

/-- **One visit** makes its machine available for its order, and for all orders it was available
for. -/
theorem Passed.visit (h : Passed procTime visited machines) {v : Order × MachineName}
    (hlong : ∀ u ∈ v :: visited, u.1.Long procTime) :
    Passed procTime (v :: visited) (shrinkDownPeriod procTime machines v) := by
  obtain ⟨o, m⟩ := v
  have hlongo : o.Long procTime := hlong (o, m) (List.mem_cons_self ..)
  unfold shrinkDownPeriod
  dsimp only
  split
  · next spec hspec =>
      split
      · next hguard =>
          obtain ⟨houtput, hpos⟩ := hguard
          have hlength := hlongo _ spec hspec houtput
          obtain ⟨hd, hbearable, hless⟩ := newDownPeriod_spec hlength (h.periods m)
          constructor
          · intro n
            split
            · exact hd
            · exact h.periods n
          · rintro ⟨o', n⟩ hv
            dsimp only
            split
            · next heq =>
                subst heq
                rcases List.mem_cons.mp hv with hnew | hold
                · cases hnew
                  exact fun _ _ _ _ => hbearable
                · exact (h.available _ hold).of_downPeriod (hlong _ hv) hpos (h.periods n) hd hless
            · next hne =>
                rcases List.mem_cons.mp hv with hnew | hold
                · cases hnew
                  exact absurd rfl hne
                · exact h.available _ hold
      · next hguard =>
          refine ⟨h.periods, ?_⟩
          intro v hv
          rcases List.mem_cons.mp hv with rfl | hold
          · -- the pair is not one of the query
            intro spec' hspec' houtput hpos
            rw [hspec, Option.some.injEq] at hspec'
            subst hspec'
            exact absurd ⟨houtput, hpos⟩ hguard
          · exact h.available v hold
  · next hnone =>
      refine ⟨h.periods, ?_⟩
      intro v hv
      rcases List.mem_cons.mp hv with rfl | hold
      · intro spec' hspec'
        rw [hnone] at hspec'
        cases hspec'
      · exact h.available v hold

/-- **The second pass**, by induction on the visits. -/
theorem Passed.all (h : Passed procTime visited machines)
    (hlong : ∀ u ∈ visits ++ visited, u.1.Long procTime) :
    Passed procTime (visits.reverse ++ visited) (shrinkDownPeriods procTime visits machines) := by
  induction visits generalizing visited machines with
  | nil => exact h
  | cons v visits ih =>
      have hhead : ∀ u ∈ v :: visited, u.1.Long procTime := by
        intro u hu
        refine hlong u ?_
        rcases List.mem_cons.mp hu with rfl | hu
        · exact List.mem_append_left _ (List.mem_cons_self ..)
        · exact List.mem_append_right _ hu
      have hrest : ∀ u ∈ visits ++ v :: visited, u.1.Long procTime := by
        intro u hu
        refine hlong u ?_
        rw [List.mem_append, List.mem_cons] at hu
        rw [List.mem_append, List.mem_cons]
        tauto
      rw [List.reverse_cons, List.append_assoc, List.singleton_append]
      exact ih (h.visit hhead) hrest

/-- **After the passes** every machine that outputs the product of an order is up for at least half
of it, and the down periods are periods. -/
theorem final_machines_available (procTime : MType → Int) (orders : List Order)
    (machines : MachineName → Machine) (visits : List (Order × MachineName))
    (hvisits : ∀ o m, (o, m) ∈ visits ↔ o ∈ extendOrders procTime orders)
    (hproc : ∀ o ∈ extendOrders procTime orders, ∀ mtype spec,
      machineSpec procTime mtype = some spec → o.product = spec.output → 10 ≤ spec.procTime)
    (hperiods : ∀ m, (machines m).downPeriod.1 ≤ (machines m).downPeriod.2) :
    (∀ o ∈ extendOrders procTime orders, ∀ m spec,
      let mf := shrinkDownPeriods procTime visits machines m
      machineSpec procTime mf.mtype = some spec → o.product = spec.output →
        mf.downPeriod.1 ≥ 0 →
          timeRangeOverlapRatio o.deliveryPeriod.1 o.deliveryPeriod.2 mf.downPeriod.1
            mf.downPeriod.2 ≤ orderMaxDownRatio) ∧
      ∀ m, (shrinkDownPeriods procTime visits machines m).downPeriod.1 ≤
        (shrinkDownPeriods procTime visits machines m).downPeriod.2 := by
  have hlong : ∀ o ∈ extendOrders procTime orders, o.Long procTime := by
    intro o ho mtype spec hspec houtput
    have hlength := length_of_extendOrders ho hspec houtput
    have hmin := hproc o ho mtype spec hspec houtput
    unfold orderMinDeliverTime at hlength
    have hint : 40 ≤ o.deliveryPeriod.2 - o.deliveryPeriod.1 := by omega
    exact_mod_cast hint
  have hpassed : Passed procTime (visits.reverse ++ []) (shrinkDownPeriods procTime visits machines) := by
    apply Passed.all
    · exact ⟨hperiods, fun v hv => absurd hv (List.not_mem_nil)⟩
    · rintro ⟨o, m⟩ hv
      rw [List.append_nil] at hv
      exact hlong o ((hvisits o m).mp hv)
  rw [List.append_nil] at hpassed
  refine ⟨?_, hpassed.periods⟩
  intro o ho m spec mf hspec houtput hpos
  exact hpassed.available (o, m) (List.mem_reverse.mpr ((hvisits o m).mpr ho)) spec hspec houtput hpos

/-- M8 is down from 90 to 150, and its P3 is ordered from 100 to 130. The order is extended to 150, and
M8 is up until 130. -/
theorem final_machines_available_of_m8 :
    let orders : List Order := [{ id := 1, team := .cyan, product := .p3, deliveryPeriod := (100, 130) }]
    let machines := fun m => if m = .m8 then { startup.machines m with downPeriod := (90, 150) }
      else startup.machines m
    let visits := (extendOrders (fun _ => 20) orders).product MachineName.all
    let down := (shrinkDownPeriods (fun _ => 20) visits machines .m8).downPeriod
    timeRangeOverlapRatio 100 150 down.1 down.2 ≤ orderMaxDownRatio ∧ down = (130, 150) := by
  intro orders machines visits down
  have hvisits : ∀ o m, (o, m) ∈ visits ↔ o ∈ extendOrders (fun _ => 20) orders := by
    intro o m
    rw [List.pair_mem_product]
    exact and_iff_left m.mem_all
  have hproc : ∀ o ∈ extendOrders (fun _ => 20) orders, ∀ mtype spec,
      machineSpec (fun _ => 20) mtype = some spec → o.product = spec.output → 10 ≤ spec.procTime := by
    intro o _ mtype spec hspec _
    cases mtype <;> cases hspec <;> decide
  have hperiods : ∀ m, (machines m).downPeriod.1 ≤ (machines m).downPeriod.2 := by decide
  have hdown : down = (130, 150) := by decide +kernel
  obtain ⟨hbearable, -⟩ :=
    final_machines_available (fun _ => 20) orders machines visits hvisits hproc hperiods
  refine ⟨?_, hdown⟩
  have hpos : down.1 ≥ 0 := by
    rw [hdown]
    decide
  exact hbearable { id := 1, team := .cyan, product := .p3, deliveryPeriod := (100, 150) }
    (List.mem_singleton.mpr rfl) .m8 ⟨[.s0], .p3, 20, 0⟩ (by decide +kernel) rfl hpos

end FactoryHub.Llsf
