import FactoryHub.AtWork.Routes
import Mathlib.Data.List.Perm.Subperm

/-!
# Tasks that go nowhere

BTT3 and the final draw a source and a destination at each height and one more of each at any
height. A source of a height is deleted from the pool of its height and is not drawn again; the last
one is deleted from the combined pool alone, so a destination of its height can be the same place.

* `Drawn.source_ne_destination` — a task moves unless the shuffles pair these two.
* `Scenario.created_move_iff` — when all tasks that a scenario generates move.
-/

namespace FactoryHub.AtWork

open Clips Generate Lib

/-- The sources and destinations as they are drawn, the last source from any height, and the orders
that the two shuffles leave them in. -/
structure Drawn where
  sources : List LocationId
  destinations : List LocationId
  sourceOrder : List ℕ
  destinationOrder : List ℕ
  places : ∀ x ∈ sources ++ destinations, x ∈ workstationLocations
  fresh : ∀ x ∈ sources.dropLast, x ∉ destinations
  sourceOrder_mem : ∀ i, 0 < i → i ≤ sources.length →
    0 < nth i sourceOrder ∧ nth i sourceOrder ≤ sources.length
  destinationOrder_mem : ∀ i, 0 < i → i ≤ destinations.length →
    0 < nth i destinationOrder ∧ nth i destinationOrder ≤ destinations.length

namespace Drawn

/-- Source `i` after the shuffle. -/
def source (d : Drawn) (i : ℕ) : LocationId := nth (nth i d.sourceOrder) d.sources

/-- Destination `j` after the shuffle. -/
def destination (d : Drawn) (j : ℕ) : LocationId := nth (nth j d.destinationOrder) d.destinations

theorem source_mem (d : Drawn) {i : ℕ} (hi : 0 < i) (hi' : i ≤ d.sources.length) :
    d.source i ∈ d.sources := by
  obtain ⟨hpos, hle⟩ := d.sourceOrder_mem i hi hi'
  exact nth_mem hpos hle

theorem destination_mem (d : Drawn) {j : ℕ} (hj : 0 < j) (hj' : j ≤ d.destinations.length) :
    d.destination j ∈ d.destinations := by
  obtain ⟨hpos, hle⟩ := d.destinationOrder_mem j hj hj'
  exact nth_mem hpos hle

theorem source_mem_workstationLocations (d : Drawn) {i : ℕ} (hi : 0 < i)
    (hi' : i ≤ d.sources.length) : d.source i ∈ workstationLocations :=
  d.places _ (List.mem_append_left _ (d.source_mem hi hi'))

theorem destination_mem_workstationLocations (d : Drawn) {j : ℕ} (hj : 0 < j)
    (hj' : j ≤ d.destinations.length) : d.destination j ∈ workstationLocations :=
  d.places _ (List.mem_append_right _ (d.destination_mem hj hj'))

/-- The last source comes to position `i`, and the same place, drawn as a destination, to position
`j`. -/
def Collide (d : Drawn) (i j : ℕ) : Prop :=
  nth i d.sourceOrder = d.sources.length ∧ d.destination j = nth d.sources.length d.sources

instance (d : Drawn) (i j : ℕ) : Decidable (d.Collide i j) :=
  inferInstanceAs (Decidable (_ ∧ _))

theorem nth_mem_dropLast {l : List LocationId} {i : ℕ} (hpos : 0 < i) (hlt : i < l.length) :
    nth i l ∈ l.dropLast := by
  obtain ⟨i, rfl⟩ := Nat.exists_eq_add_of_le' hpos
  rw [nth_succ, List.getD_eq_getElem _ _ (by omega)]
  have hlen : i < l.dropLast.length := by
    rw [List.length_dropLast]
    omega
  rw [← List.getElem_dropLast hlen]
  exact List.getElem_mem hlen

/-- A task from source `i` to destination `j` moves unless they collide. -/
theorem source_ne_destination (d : Drawn) {i j : ℕ} (hi : 0 < i) (hi' : i ≤ d.sources.length)
    (hj : 0 < j) (hj' : j ≤ d.destinations.length) :
    d.source i ≠ d.destination j ↔ ¬ d.Collide i j := by
  obtain ⟨hpos, hle⟩ := d.sourceOrder_mem i hi hi'
  apply not_congr
  rcases Nat.lt_or_eq_of_le hle with hlt | hlast
  · have hmem : d.destination j ∈ d.destinations := d.destination_mem hj hj'
    have hfresh : d.source i ∉ d.destinations := d.fresh _ (nth_mem_dropLast hpos hlt)
    constructor
    · intro heq
      exact absurd (heq ▸ hmem) hfresh
    · rintro ⟨hlast, _⟩
      omega
  · rw [Collide, source, hlast]
    simp [eq_comm]

end Drawn

/-! ## Pools -/

/-- Deletions leave something of a longer list. -/
theorem foldl_deleteMember_ne_nil {l xs : List LocationId} (hnodup : l.Nodup)
    (hlen : xs.length < l.length) : xs.foldl deleteMember l ≠ [] := by
  intro hnil
  have hsub : l ⊆ xs := by
    intro x hx
    by_contra hxs
    have hmem : x ∈ xs.foldl deleteMember l := mem_foldl_deleteMember.mpr ⟨hx, hxs⟩
    simp [hnil] at hmem
  have hle : l.length ≤ xs.length := (hnodup.subperm hsub).length_le
  omega

/-- A pick from what deletions leave of a list. -/
theorem pickAt_foldl_deleteMember (rand : ℕ → ℕ) {l : List LocationId} (xs : List LocationId)
    (hnodup : l.Nodup) (hlen : xs.length < l.length) (n : ℕ) :
    pickAt rand n (xs.foldl deleteMember l) ∈ l ∧ pickAt rand n (xs.foldl deleteMember l) ∉ xs := by
  apply mem_foldl_deleteMember.mp
  apply pickAt_mem
  exact foldl_deleteMember_ne_nil hnodup hlen

theorem pickAt_deleteMember (rand : ℕ → ℕ) {l : List LocationId} (hnodup : l.Nodup)
    (hlen : 1 < l.length) (x : LocationId) (n : ℕ) :
    pickAt rand n (deleteMember l x) ∈ l ∧ pickAt rand n (deleteMember l x) ≠ x := by
  have h := pickAt_foldl_deleteMember rand [x] hnodup hlen n
  rwa [List.mem_singleton] at h

/-- Places from the pools of their heights are in the pools. -/
theorem mem_flatten_of_forall₂ {pools : List (List LocationId)} {xs : List LocationId}
    (h : List.Forall₂ (· ∈ ·) xs pools) {x : LocationId} (hx : x ∈ xs) : x ∈ pools.flatten := by
  induction h with
  | nil => simp at hx
  | cons hmem _ ih =>
      rw [List.flatten_cons, List.mem_append]
      rcases List.mem_cons.mp hx with rfl | hx
      · exact Or.inl hmem
      · exact Or.inr (ih hx)

/-- Places from pools of workstations, and one more of any height. -/
theorem workstations_of_pools {pools : List (List LocationId)} {xs : List LocationId}
    {any : LocationId} (h : List.Forall₂ (· ∈ ·) xs pools)
    (hpools : ∀ x ∈ pools.flatten, x ∈ workstationLocations) (hany : any ∈ workstationLocations) :
    ∀ x ∈ xs ++ [any], x ∈ workstationLocations := by
  intro x hx
  rcases List.mem_append.mp hx with hx | hx
  · exact hpools x (mem_flatten_of_forall₂ h hx)
  · rwa [List.mem_singleton.mp hx]

/-- Sources of the heights are no destinations when the destination of the same height and the one
of any height are other places. -/
theorem fresh_of_pools (pools : List (List LocationId)) (ds : List LocationId)
    {ss : List LocationId} {any : LocationId}
    (hpools : pools.Pairwise fun l l' => ∀ x ∈ l, x ∉ l') (hs : List.Forall₂ (· ∈ ·) ss pools)
    (hd : List.Forall₂ (· ∈ ·) ds pools) (hne : List.Forall₂ (· ≠ ·) ds ss) (hany : any ∉ ss) :
    ∀ x ∈ ss, x ∉ ds ++ [any] := by
  induction pools generalizing ds ss with
  | nil =>
      cases hs
      simp
  | cons pool pools ih =>
      cases hs with
      | @cons s _ ss _ hspool hs =>
      cases hd with
      | @cons d _ ds _ hdpool hd =>
      cases hne with
      | cons hne hnes =>
      rw [List.pairwise_cons] at hpools
      have hother : ∀ x ∈ pool, x ∉ pools.flatten := by
        intro x hx hmem
        obtain ⟨pool', hpool', hx'⟩ := List.mem_flatten.mp hmem
        exact hpools.1 pool' hpool' x hx hx'
      rw [List.mem_cons, not_or] at hany
      intro x hx hmem
      rw [List.cons_append, List.mem_cons] at hmem
      rcases List.mem_cons.mp hx with rfl | hx
      · rcases hmem with heq | hmem
        · exact hne heq.symm
        · rcases List.mem_append.mp hmem with hds | hlast
          · exact hother x hspool (mem_flatten_of_forall₂ hd hds)
          · exact hany.1 (List.mem_singleton.mp hlast).symm
      · rcases hmem with rfl | hmem
        · exact hother x hdpool (mem_flatten_of_forall₂ hs hx)
        · exact ih ds hpools.2 hs hd hnes hany.2 x hx hmem

/-! ## Basic transportation test 3 -/

namespace BasicTransportationTest3

variable (rand : ℕ → ℕ) (n : ℕ)

-- the objects take seven draws and their shuffle 400
def source0 : LocationId := pickAt rand (n + 407) workstation0cmLocations
def source15 : LocationId := pickAt rand (n + 408) workstation15cmLocations
def source10 : LocationId := pickAt rand (n + 409) workstation10cmLocations

/-- What the first three sources leave of the combined pool. -/
def leftBySources : List LocationId :=
  [source0 rand n, source15 rand n, source10 rand n].foldl deleteMember
    (workstation0cmLocations ++ workstation10cmLocations ++ workstation15cmLocations)

def sourceAny : LocationId := pickAt rand (n + 410) (leftBySources rand n)

-- a shuffle lies between
def destination0 : LocationId :=
  pickAt rand (n + 811) (deleteMember workstation0cmLocations (source0 rand n))
def destination15 : LocationId :=
  pickAt rand (n + 812) (deleteMember workstation15cmLocations (source15 rand n))
def destination10 : LocationId :=
  pickAt rand (n + 813) (deleteMember workstation10cmLocations (source10 rand n))

def destinationAny : LocationId :=
  pickAt rand (n + 814)
    ([destination0 rand n, destination15 rand n, destination10 rand n].foldl deleteMember
      (deleteMember (leftBySources rand n) (sourceAny rand n)))

/-- The pools of the heights. -/
def pools : List (List LocationId) :=
  [workstation0cmLocations, workstation15cmLocations, workstation10cmLocations]

theorem sources_mem :
    List.Forall₂ (· ∈ ·) [source0 rand n, source15 rand n, source10 rand n] pools := by
  refine .cons ?_ (.cons ?_ (.cons ?_ .nil))
  · exact pickAt_mem _ (by decide)
  · exact pickAt_mem _ (by decide)
  · exact pickAt_mem _ (by decide)

theorem destinations_mem :
    List.Forall₂ (· ∈ ·) [destination0 rand n, destination15 rand n, destination10 rand n]
      pools := by
  refine .cons ?_ (.cons ?_ (.cons ?_ .nil))
  · exact (pickAt_deleteMember rand (by decide) (by decide) _ _).1
  · exact (pickAt_deleteMember rand (by decide) (by decide) _ _).1
  · exact (pickAt_deleteMember rand (by decide) (by decide) _ _).1

theorem destinations_ne :
    List.Forall₂ (· ≠ ·) [destination0 rand n, destination15 rand n, destination10 rand n]
      [source0 rand n, source15 rand n, source10 rand n] := by
  refine .cons ?_ (.cons ?_ (.cons ?_ .nil))
  · exact (pickAt_deleteMember rand (by decide) (by decide) _ _).2
  · exact (pickAt_deleteMember rand (by decide) (by decide) _ _).2
  · exact (pickAt_deleteMember rand (by decide) (by decide) _ _).2

theorem allLocations_workstation : ∀ x ∈ workstation0cmLocations ++ workstation10cmLocations ++
    workstation15cmLocations, x ∈ workstationLocations := by decide

theorem sourceAny_mem : sourceAny rand n ∈ workstationLocations := by
  apply allLocations_workstation
  exact (pickAt_foldl_deleteMember rand [source0 rand n, source15 rand n, source10 rand n]
    (by decide) (Nat.lt_of_lt_of_le (show 3 < 10 by decide) (Nat.le_refl _)) _).1

theorem destinationAny_mem :
    destinationAny rand n ∈ workstation0cmLocations ++ workstation10cmLocations ++
        workstation15cmLocations ∧
      destinationAny rand n ∉ [source0 rand n, source15 rand n, source10 rand n, sourceAny rand n,
        destination0 rand n, destination15 rand n, destination10 rand n] := by
  have hany := pickAt_foldl_deleteMember rand
    (l := workstation0cmLocations ++ workstation10cmLocations ++ workstation15cmLocations)
    [source0 rand n, source15 rand n, source10 rand n, sourceAny rand n,
      destination0 rand n, destination15 rand n, destination10 rand n]
    (by decide) (Nat.lt_of_lt_of_le (show 7 < 10 by decide) (Nat.le_refl _)) (n + 814)
  exact hany

/-- No source of a height is a destination. -/
theorem sources_fresh :
    ∀ x ∈ [source0 rand n, source15 rand n, source10 rand n],
      x ∉ [destination0 rand n, destination15 rand n, destination10 rand n,
        destinationAny rand n] := by
  apply fresh_of_pools pools [destination0 rand n, destination15 rand n, destination10 rand n]
  · decide
  · exact sources_mem rand n
  · exact destinations_mem rand n
  · exact destinations_ne rand n
  · intro hmem
    exact (destinationAny_mem rand n).2 (List.mem_append_left _ hmem)

theorem places_workstation :
    ∀ x ∈ [source0 rand n, source15 rand n, source10 rand n, sourceAny rand n] ++
        [destination0 rand n, destination15 rand n, destination10 rand n, destinationAny rand n],
      x ∈ workstationLocations := by
  rw [List.forall_mem_append]
  constructor
  · exact workstations_of_pools (sources_mem rand n) (by decide) (sourceAny_mem rand n)
  · apply workstations_of_pools (destinations_mem rand n) (by decide)
    exact allLocations_workstation _ (destinationAny_mem rand n).1

/-- What is drawn from draw number `n` on. -/
def drawn : Drawn where
  sources := [source0 rand n, source15 rand n, source10 rand n, sourceAny rand n]
  destinations :=
    [destination0 rand n, destination15 rand n, destination10 rand n, destinationAny rand n]
  sourceOrder := orderAt rand (n + 411) 4
  destinationOrder := orderAt rand (n + 815) 4
  places := places_workstation rand n
  fresh := sources_fresh rand n
  sourceOrder_mem _ := nth_orderAt
  destinationOrder_mem _ := nth_orderAt

/-- The positions that the tasks pair: the locations are taken in turn, and the second object of the
last round goes to the destination of the first. -/
def pairs : List (ℕ × ℕ) := [(2, 2), (3, 3), (4, 4), (1, 1), (3, 2)]

/-- Some task goes nowhere. -/
def Collides : Prop := ∃ p ∈ pairs, (drawn rand n).Collide p.1 p.2

instance : Decidable (Collides rand n) :=
  inferInstanceAs (Decidable (∃ p ∈ pairs, (drawn rand n).Collide p.1 p.2))

variable {rand n}

@[simp] theorem length_sources : (drawn rand n).sources.length = 4 := rfl

@[simp] theorem length_destinations : (drawn rand n).destinations.length = 4 := rfl

theorem inTurn_sources (i : ℕ) :
    inTurn i (shuffleAt rand (n + 411) (drawn rand n).sources) =
      (drawn rand n).source (1 + i % 4) := by
  rw [inTurn_shuffleAt i (by simp [drawn]), length_sources, Drawn.source]
  simp only [drawn]

theorem inTurn_destinations (i : ℕ) :
    inTurn i (shuffleAt rand (n + 815) (drawn rand n).destinations) =
      (drawn rand n).destination (1 + i % 4) := by
  rw [inTurn_shuffleAt i (by simp [drawn]), length_destinations, Drawn.destination]
  simp only [drawn]

theorem transportMoves_iff :
    TransportMoves 5 (shuffleAt rand (n + 411) (drawn rand n).sources)
      (shuffleAt rand (n + 815) (drawn rand n).destinations) ↔ ¬ Collides rand n := by
  have hmoves (i j : ℕ) : inTurn i (shuffleAt rand (n + 411) (drawn rand n).sources) ≠
      inTurn j (shuffleAt rand (n + 815) (drawn rand n).destinations) ↔
      ¬ (drawn rand n).Collide (1 + i % 4) (1 + j % 4) := by
    have hi : i % 4 < 4 := Nat.mod_lt _ (by decide)
    have hj : j % 4 < 4 := Nat.mod_lt _ (by decide)
    rw [inTurn_sources, inTurn_destinations]
    apply Drawn.source_ne_destination
    · omega
    · rw [length_sources]
      omega
    · omega
    · rw [length_destinations]
      omega
  have hround (i : ℕ) : RoundMoves 5 (shuffleAt rand (n + 411) (drawn rand n).sources)
      (shuffleAt rand (n + 815) (drawn rand n).destinations) i ↔
      ¬ (drawn rand n).Collide (1 + i % 4) (1 + i % 4) ∧
        (i = 5 → ¬ (drawn rand n).Collide 3 (1 + i % 4)) := by
    rw [RoundMoves, hmoves, hmoves]
  have htable : inTurn (5 + 2) (shuffleAt rand (n + 411) (drawn rand n).sources) ∉
      rotatingTableLocations := by
    rw [inTurn_sources]
    have hworkstation : ∀ x ∈ workstationLocations, x ∉ rotatingTableLocations := by decide
    apply hworkstation
    apply Drawn.source_mem_workstationLocations
    · decide
    · rw [length_sources]
  constructor
  · rintro ⟨hrounds, _⟩ ⟨p, hp, hcollide⟩
    simp only [pairs, List.mem_cons, List.not_mem_nil, or_false] at hp
    rcases hp with rfl | rfl | rfl | rfl | rfl
    · exact ((hround 1).mp (hrounds 1 (by decide) (by decide))).1 hcollide
    · exact ((hround 2).mp (hrounds 2 (by decide) (by decide))).1 hcollide
    · exact ((hround 3).mp (hrounds 3 (by decide) (by decide))).1 hcollide
    · exact ((hround 4).mp (hrounds 4 (by decide) (by decide))).1 hcollide
    · exact ((hround 5).mp (hrounds 5 (by decide) (by decide))).2 rfl hcollide
  · intro hnone
    have hpair (i j : ℕ) (hij : (i, j) ∈ pairs) : ¬ (drawn rand n).Collide i j := by
      intro hcollide
      exact hnone ⟨(i, j), hij, hcollide⟩
    refine ⟨fun i hpos hle => (hround i).mpr ⟨?_, ?_⟩, htable⟩
    · have hturns : ∀ i < 6, (1 + i % 4, 1 + i % 4) ∈ pairs := by decide
      exact hpair _ _ (hturns i (by omega))
    · rintro rfl
      exact hpair 3 2 (by decide)

theorem generate_made {old : List Task} :
    Triple (Made old n True) (BasicTransportationTest3.generate rand) fun _ c =>
      ∃ m, Made old m (¬ Collides rand n) c := by
  unfold BasicTransportationTest3.generate
  refine Triple.bind (drawObjects_made 4 robocupObjects) fun robocup => ?_
  refine Triple.bind (drawObjects_made 3 rockinObjects) fun rockin => ?_
  refine Triple.bind_imp (shuffle_made _) fun objects _ => ?_
  refine Triple.bind_eq (a := source0 rand n) (pick_made _) ?_
  refine Triple.bind_eq (a := source15 rand n) (pick_made _) ?_
  refine Triple.bind_eq (a := source10 rand n) (pick_made _) ?_
  refine Triple.bind_eq (a := sourceAny rand n) (pick_made _) ?_
  refine Triple.bind_eq (shuffle_made _) ?_
  refine Triple.bind_eq (a := destination0 rand n) (pick_made _) ?_
  refine Triple.bind_eq (a := destination15 rand n) (pick_made _) ?_
  refine Triple.bind_eq (a := destination10 rand n) (pick_made _) ?_
  refine Triple.bind_eq (a := destinationAny rand n) (pick_made _) ?_
  refine Triple.bind_eq (shuffle_made _) ?_
  refine Triple.bind (transport_made objects _ _) fun _ => ?_
  refine Triple.post (loopForCount_made_const 1 ?_ ()) fun _ c hc => ⟨_, hc.congr ?_⟩
  · intro i n _ _ _
    exact place_made _ _
  · exact transportMoves_iff

end BasicTransportationTest3

/-! ## Finals -/

namespace AtWorkFinal2016

variable (rand : ℕ → ℕ) (n : ℕ)

-- ten objects, a shuffle of 400 draws and two sources that are not shuffled come first
def source3 : LocationId := pickAt rand (n + 412) workstation0cmLocations
def source4 : LocationId := pickAt rand (n + 413) workstation5cmLocations
def source5 : LocationId := pickAt rand (n + 414) workstation10cmLocations
def source6 : LocationId := pickAt rand (n + 415) workstation15cmLocations

/-- The combined pool without the sources and the 5 cm place that is kept. -/
def leftBySources : List LocationId :=
  [source3 rand n, source4 rand n, nth 1 (deleteMember workstation5cmLocations (source4 rand n)),
    source5 rand n, source6 rand n].foldl deleteMember
      (workstation0cmLocations ++ workstation5cmLocations ++ workstation10cmLocations ++
        workstation15cmLocations)

def source7 : LocationId := pickAt rand (n + 416) (leftBySources rand n)

-- a shuffle and two destinations that are not shuffled lie between
def destination3 : LocationId :=
  pickAt rand (n + 819) (deleteMember workstation0cmLocations (source3 rand n))
def destination4 : LocationId :=
  pickAt rand (n + 820) (deleteMember workstation5cmLocations (source4 rand n))
def destination5 : LocationId :=
  pickAt rand (n + 821) (deleteMember workstation10cmLocations (source5 rand n))
def destination6 : LocationId :=
  pickAt rand (n + 822) (deleteMember workstation15cmLocations (source6 rand n))

def destination7 : LocationId :=
  pickAt rand (n + 823)
    ([destination3 rand n, destination4 rand n, destination5 rand n,
      destination6 rand n].foldl deleteMember
        (deleteMember (leftBySources rand n) (source7 rand n)))

/-- The pools of the heights. -/
def pools : List (List LocationId) :=
  [workstation0cmLocations, workstation5cmLocations, workstation10cmLocations,
    workstation15cmLocations]

theorem sources_mem :
    List.Forall₂ (· ∈ ·) [source3 rand n, source4 rand n, source5 rand n, source6 rand n]
      pools := by
  refine .cons ?_ (.cons ?_ (.cons ?_ (.cons ?_ .nil)))
  · exact pickAt_mem _ (by decide)
  · exact pickAt_mem _ (by decide)
  · exact pickAt_mem _ (by decide)
  · exact pickAt_mem _ (by decide)

theorem destinations_mem :
    List.Forall₂ (· ∈ ·) [destination3 rand n, destination4 rand n, destination5 rand n,
      destination6 rand n] pools := by
  refine .cons ?_ (.cons ?_ (.cons ?_ (.cons ?_ .nil)))
  · exact (pickAt_deleteMember rand (by decide) (by decide) _ _).1
  · exact (pickAt_deleteMember rand (by decide) (by decide) _ _).1
  · exact (pickAt_deleteMember rand (by decide) (by decide) _ _).1
  · exact (pickAt_deleteMember rand (by decide) (by decide) _ _).1

theorem destinations_ne :
    List.Forall₂ (· ≠ ·)
      [destination3 rand n, destination4 rand n, destination5 rand n, destination6 rand n]
      [source3 rand n, source4 rand n, source5 rand n, source6 rand n] := by
  refine .cons ?_ (.cons ?_ (.cons ?_ (.cons ?_ .nil)))
  · exact (pickAt_deleteMember rand (by decide) (by decide) _ _).2
  · exact (pickAt_deleteMember rand (by decide) (by decide) _ _).2
  · exact (pickAt_deleteMember rand (by decide) (by decide) _ _).2
  · exact (pickAt_deleteMember rand (by decide) (by decide) _ _).2

theorem source7_mem : source7 rand n ∈ workstationLocations :=
  (pickAt_foldl_deleteMember rand [source3 rand n, source4 rand n,
    nth 1 (deleteMember workstation5cmLocations (source4 rand n)), source5 rand n, source6 rand n]
    (by decide) (Nat.lt_of_lt_of_le (show 5 < 12 by decide) (Nat.le_refl _)) _).1

/-- The deletions one by one. -/
theorem destination7_eq :
    destination7 rand n = pickAt rand (n + 823)
      (deleteMember (deleteMember (deleteMember (deleteMember (deleteMember (deleteMember
        (deleteMember (deleteMember (deleteMember (deleteMember workstationLocations
          (source3 rand n)) (source4 rand n))
          (nth 1 (deleteMember workstation5cmLocations (source4 rand n)))) (source5 rand n))
          (source6 rand n)) (source7 rand n)) (destination3 rand n)) (destination4 rand n))
          (destination5 rand n)) (destination6 rand n)) := by
  simp only [destination7, leftBySources, workstationLocations, List.foldl_cons, List.foldl_nil]

theorem destination7_mem :
    destination7 rand n ∈ workstationLocations ∧
      destination7 rand n ∉ [source3 rand n, source4 rand n,
        nth 1 (deleteMember workstation5cmLocations (source4 rand n)), source5 rand n,
        source6 rand n, source7 rand n, destination3 rand n, destination4 rand n,
        destination5 rand n, destination6 rand n] := by
  have hany := pickAt_foldl_deleteMember rand (l := workstationLocations)
    [source3 rand n, source4 rand n,
      nth 1 (deleteMember workstation5cmLocations (source4 rand n)), source5 rand n,
      source6 rand n, source7 rand n, destination3 rand n, destination4 rand n,
      destination5 rand n, destination6 rand n]
    (by decide) (Nat.lt_of_lt_of_le (show 10 < 12 by decide) (Nat.le_refl _)) (n + 823)
  rw [destination7_eq]
  simpa only [List.foldl_cons, List.foldl_nil] using hany

/-- No source of a height is a destination. -/
theorem sources_fresh :
    ∀ x ∈ [source3 rand n, source4 rand n, source5 rand n, source6 rand n],
      x ∉ [destination3 rand n, destination4 rand n, destination5 rand n, destination6 rand n,
        destination7 rand n] := by
  apply fresh_of_pools pools
    [destination3 rand n, destination4 rand n, destination5 rand n, destination6 rand n]
  · decide
  · exact sources_mem rand n
  · exact destinations_mem rand n
  · exact destinations_ne rand n
  · intro hmem
    apply (destination7_mem rand n).2
    apply List.Sublist.subset _ hmem
    -- the 5 cm place and the places drawn later are deleted too
    exact .cons_cons _ (.cons_cons _ (.cons _ (.cons_cons _ (.cons_cons _ (List.nil_sublist _)))))

theorem places_workstation :
    ∀ x ∈ [source3 rand n, source4 rand n, source5 rand n, source6 rand n, source7 rand n] ++
        [destination3 rand n, destination4 rand n, destination5 rand n, destination6 rand n,
          destination7 rand n],
      x ∈ workstationLocations := by
  rw [List.forall_mem_append]
  constructor
  · exact workstations_of_pools (sources_mem rand n) (by decide) (source7_mem rand n)
  · exact workstations_of_pools (destinations_mem rand n) (by decide) (destination7_mem rand n).1

/-- What is drawn from draw number `n` on and shuffled. -/
def drawn : Drawn where
  sources := [source3 rand n, source4 rand n, source5 rand n, source6 rand n, source7 rand n]
  destinations :=
    [destination3 rand n, destination4 rand n, destination5 rand n, destination6 rand n,
      destination7 rand n]
  sourceOrder := orderAt rand (n + 417) 5
  destinationOrder := orderAt rand (n + 824) 5
  places := places_workstation rand n
  fresh := sources_fresh rand n
  sourceOrder_mem _ := nth_orderAt
  destinationOrder_mem _ := nth_orderAt

/-- The positions that the tasks between shuffled locations pair. -/
def pairs : List (ℕ × ℕ) := [(1, 1), (2, 2), (2, 3), (3, 4), (3, 5), (4, 5)]

/-- Some task goes nowhere. -/
def Collides : Prop := ∃ p ∈ pairs, (drawn rand n).Collide p.1 p.2

instance : Decidable (Collides rand n) :=
  inferInstanceAs (Decidable (∃ p ∈ pairs, (drawn rand n).Collide p.1 p.2))

variable {rand n}

@[simp] theorem length_sources : (drawn rand n).sources.length = 5 := rfl

@[simp] theorem length_destinations : (drawn rand n).destinations.length = 5 := rfl

theorem nth_sources {i : ℕ} (hpos : 0 < i) (hle : i ≤ 5) :
    nth i (shuffleAt rand (n + 417) (drawn rand n).sources) = (drawn rand n).source i := by
  rw [nth_shuffleAt hpos (by rwa [length_sources]), length_sources, Drawn.source]
  simp only [drawn]

theorem nth_destinations {j : ℕ} (hpos : 0 < j) (hle : j ≤ 5) :
    nth j (shuffleAt rand (n + 824) (drawn rand n).destinations) =
      (drawn rand n).destination j := by
  rw [nth_shuffleAt hpos (by rwa [length_destinations]), length_destinations, Drawn.destination]
  simp only [drawn]

/-- The tasks move when the six between shuffled locations do. -/
theorem tasks_move_iff {source1 source2 destination1 destination2 : LocationId}
    (hsource1 : source1 ∈ rotatingTableLocations) (hsource2 : source2 ∈ shelfLocations)
    (hdestination1 : destination1 ∈ precisionLocations)
    (hdestination2 : destination2 ∈ shelfLocations) :
    (∀ q ∈ [(drawn rand n).source 5 ≠ destination1, source1 ≠ destination2,
      source2 ≠ (drawn rand n).destination 1, source2 ≠ (drawn rand n).destination 1,
      (drawn rand n).source 1 ≠ (drawn rand n).destination 1,
      (drawn rand n).source 2 ≠ (drawn rand n).destination 2,
      (drawn rand n).source 2 ≠ (drawn rand n).destination 3,
      (drawn rand n).source 3 ≠ (drawn rand n).destination 4,
      (drawn rand n).source 3 ≠ (drawn rand n).destination 5,
      (drawn rand n).source 4 ≠ (drawn rand n).destination 5], q) ↔ ¬ Collides rand n := by
  have hmoves (i j : ℕ) (hi : 0 < i) (hi' : i ≤ 5) (hj : 0 < j) (hj' : j ≤ 5) :
      (drawn rand n).source i ≠ (drawn rand n).destination j ↔ ¬ (drawn rand n).Collide i j := by
    apply Drawn.source_ne_destination
    · exact hi
    · rwa [length_sources]
    · exact hj
    · rwa [length_destinations]
  have htask1 : (drawn rand n).source 5 ≠ destination1 := by
    have hprecision : ∀ x ∈ workstationLocations, x ∉ precisionLocations := by decide
    intro heq
    apply hprecision _ (Drawn.source_mem_workstationLocations _ _ _) (heq ▸ hdestination1)
    · decide
    · rw [length_sources]
  have htask2 : source1 ≠ destination2 := by
    have htable : ∀ x ∈ rotatingTableLocations, x ∉ shelfLocations := by decide
    rintro rfl
    exact htable _ hsource1 hdestination2
  have htask3 : source2 ≠ (drawn rand n).destination 1 := by
    have hshelf : ∀ x ∈ workstationLocations, x ∉ shelfLocations := by decide
    intro heq
    apply hshelf _ (Drawn.destination_mem_workstationLocations _ _ _) (heq ▸ hsource2)
    · decide
    · rw [length_destinations]
      decide
  simp (disch := decide) only [List.forall_mem_cons, hmoves]
  simp [Collides, pairs, htask1, htask2, htask3]

theorem generate_made {old : List Task} :
    Triple (Made old n True) (AtWorkFinal2016.generate rand) fun _ c =>
      ∃ m, Made old m (¬ Collides rand n) c := by
  unfold AtWorkFinal2016.generate
  refine Triple.bind (drawObjects_made 4 robocupObjects) fun robocup => ?_
  refine Triple.bind (drawObjects_made 5 rockinObjects) fun rockin => ?_
  refine Triple.bind_imp (pick_made robocupObjects) fun item1 _ => ?_
  refine Triple.bind_imp (shuffle_made _) fun objects _ => ?_
  refine Triple.bind_imp (pick_mem_made (by decide)) fun source1 hsource1 => ?_
  refine Triple.bind_imp (pick_mem_made (by decide)) fun source2 hsource2 => ?_
  refine Triple.bind_eq (a := source3 rand n) (pick_made _) ?_
  refine Triple.bind_eq (a := source4 rand n) (pick_made _) ?_
  refine Triple.bind_eq (a := source5 rand n) (pick_made _) ?_
  refine Triple.bind_eq (a := source6 rand n) (pick_made _) ?_
  refine Triple.bind_eq (a := source7 rand n) (pick_made _) ?_
  refine Triple.bind_imp (shuffle_made _) fun sources hsources => ?_
  refine Triple.bind_imp (pick_mem_made (by decide)) fun destination1 hdestination1 => ?_
  refine Triple.bind_imp (pick_mem_made (by decide)) fun destination2 hdestination2 => ?_
  refine Triple.bind_eq (a := destination3 rand n) (pick_made _) ?_
  refine Triple.bind_eq (a := destination4 rand n) (pick_made _) ?_
  refine Triple.bind_eq (a := destination5 rand n) (pick_made _) ?_
  refine Triple.bind_eq (a := destination6 rand n) (pick_made _) ?_
  refine Triple.bind_imp (pick_made _) fun _ hdestination7 => ?_
  obtain rfl := hdestination7.trans (destination7_eq rand n).symm
  refine Triple.bind_imp (shuffle_made _) fun destinations hdestinations => ?_
  refine Triple.bind (drawObjects_made 5 _) fun _ => ?_
  refine Triple.bind (loopForCount_made_const 2 ?_ _) fun decoys => ?_
  · intro i n decoys _ _
    refine Triple.bind_imp (pick_made _) fun objectId _ => ?_
    refine Triple.bind_imp (pick_made _) fun locationId _ => ?_
    exact Triple.pure fun _ hc => hc
  refine Triple.bind (insertItems_made _) fun _ => ?_
  refine Triple.bind_imp (offers_made [nth 5 sources ≠ destination1, source1 ≠ destination2,
    source2 ≠ nth 1 destinations, source2 ≠ nth 1 destinations,
    nth 1 sources ≠ nth 1 destinations, nth 2 sources ≠ nth 2 destinations,
    nth 2 sources ≠ nth 3 destinations, nth 3 sources ≠ nth 4 destinations,
    nth 3 sources ≠ nth 5 destinations, nth 4 sources ≠ nth 5 destinations] ?_) fun ts hts => ?_
  · repeat' first | exact List.Forall₂.nil | apply List.Forall₂.cons
    all_goals exact offerTransportation_made _ _ _ _
  · refine Triple.post (insertTasks_made ts hts) fun _ c hc => ⟨_, hc.congr ?_⟩
    have hnth (i : ℕ) (hpos : 0 < i) (hle : i ≤ 5) : nth i sources = (drawn rand n).source i := by
      rw [hsources]
      exact nth_sources hpos hle
    have hnth' (j : ℕ) (hpos : 0 < j) (hle : j ≤ 5) :
        nth j destinations = (drawn rand n).destination j := by
      rw [hdestinations]
      exact nth_destinations hpos hle
    rw [true_and]
    simp (disch := decide) only [hnth, hnth']
    exact tasks_move_iff hsource1 hsource2 hdestination1 hdestination2

end AtWorkFinal2016

/-! ## All scenarios -/

namespace Scenario

/-- The tasks that `generate` of a scenario adds to those that are there. -/
def created (rand : ℕ → ℕ) (scenario : Scenario) (c : Content) : List Task :=
  let tasks := ((scenario.generate rand).run c).2.tasks
  tasks.take (tasks.length - c.tasks.length)

/-- Some task that is generated from draw number `n` on goes nowhere. -/
def Collides (rand : ℕ → ℕ) (n : ℕ) : Scenario → Prop
  | .btt3 => BasicTransportationTest3.Collides rand n
  | .awf1 => AtWorkFinal2016.Collides rand n
  | .none | .bnt1 | .bmt1 | .btt1 | .btt2 | .ppt1 | .cbt1 | .cbt2 => False

theorem generate_made (rand : ℕ → ℕ) {old : List Task} {n : ℕ} (scenario : Scenario) :
    Triple (Made old n True) (scenario.generate rand) fun _ c =>
      ∃ m, Made old m (¬ scenario.Collides rand n) c := by
  have hmoving {x : Generate Unit}
      (hx : Triple (Made old n True) x fun _ c => ∃ m, Made old m True c) :
      Triple (Made old n True) x fun _ c => ∃ m, Made old m (¬ False) c := by
    simpa only [not_false_eq_true] using hx
  cases scenario with
  | none => exact hmoving (Triple.pure fun c hc => ⟨n, hc⟩)
  | bnt1 => exact hmoving BasicNavigationTest1.generate_made
  | bmt1 => exact hmoving BasicManipulationTest1.generate_made
  | btt1 => exact hmoving BasicTransportationTest1.generate_made
  | btt2 => exact hmoving BasicTransportationTest2.generate_made
  | btt3 => exact BasicTransportationTest3.generate_made
  | ppt1 => exact hmoving PrecisionPlacementTest1.generate_made
  | cbt1 | cbt2 => exact hmoving (threeObjects_made (by decide))
  | awf1 => exact AtWorkFinal2016.generate_made

/-- The tasks that a scenario generates all go from one location to another one unless the last
source of BTT3 or of the final is paired with itself. -/
theorem created_move_iff (rand : ℕ → ℕ) (scenario : Scenario) (c : Content) :
    (∀ t ∈ scenario.created rand c, t.Moves) ↔ ¬ scenario.Collides rand c.draws := by
  obtain ⟨m, _, created, htasks, hcreated⟩ := scenario.generate_made rand c (made_start c)
  rw [← hcreated, Scenario.created, htasks, List.length_append, Nat.add_sub_cancel,
    List.take_left]

/-- BTT3 with every pick the first one and one exchange of the source shuffle, of positions 1 and 4:
workstation07 is the last source and the destination at 0 cm. -/
theorem created_to_its_source :
    ¬ ∀ t ∈ Scenario.btt3.created (fun i => if i = 412 then 3 else 0) {}, t.Moves := by
  decide +kernel

end Scenario

end FactoryHub.AtWork
