import FactoryHub.AtWork.Benchmark
import FactoryHub.Clips.Draws
import FactoryHub.Lib.Triple

/-!
# Where tasks go

Rules for the parts of a `generate` handler, over the assertion `Made`: the number of draws so far,
and when the tasks made so far all go from one location to another one.

* `loopForCount_made` — what each round of a loop keeps, the loop keeps.
* `transport_made` — the tasks of BTT2 and BTT3.
-/

namespace FactoryHub.AtWork

open Clips Generate Lib

/-- The workstations of all heights. -/
def workstationLocations : List LocationId :=
  workstation0cmLocations ++ workstation5cmLocations ++ workstation10cmLocations ++
    workstation15cmLocations

/-- The source and the destination of a task differ. -/
def Task.Moves (t : Task) : Prop := ∀ tt ∈ t.transportationTask, tt.sourceId ≠ tt.destinationId

instance (t : Task) : Decidable t.Moves :=
  inferInstanceAs (Decidable (∀ tt ∈ t.transportationTask, tt.sourceId ≠ tt.destinationId))

/-- `n` draws have been made, and the tasks that have come to `old` all move if and only if `p`. -/
structure Made (old : List Task) (n : ℕ) (p : Prop) (c : Content) : Prop where
  draws : c.draws = n
  tasks : ∃ created, c.tasks = created ++ old ∧ ((∀ t ∈ created, t.Moves) ↔ p)

variable {rand : ℕ → ℕ} {old : List Task} {n : ℕ} {p q : Prop} {α : Type} [Inhabited α]

theorem made_start (c : Content) : Made c.tasks c.draws True c := by
  refine ⟨rfl, [], rfl, ?_⟩
  simp

theorem Made.congr {c : Content} (h : Made old n p c) (hpq : p ↔ q) : Made old n q c :=
  ⟨h.draws, by rw [← hpq]; exact h.tasks⟩

/-! ## Parts of a handler -/

theorem pick_made (l : List α) :
    Triple (Made old n p) (pick rand l) fun a c => a = pickAt rand n l ∧ Made old (n + 1) p c := by
  rintro c ⟨rfl, htasks⟩
  exact ⟨rfl, rfl, htasks⟩

/-- A pick gives an element of the list. -/
theorem pick_mem_made {l : List α} (hl : l ≠ []) :
    Triple (Made old n p) (pick rand l) fun a c => a ∈ l ∧ Made old (n + 1) p c := by
  refine (pick_made l).post ?_
  rintro a c ⟨rfl, h⟩
  exact ⟨pickAt_mem n hl, h⟩

theorem shuffle_made (l : List α) :
    Triple (Made old n p) (shuffle rand l) fun a c =>
      a = shuffleAt rand n l ∧ Made old (n + 400) p c := by
  rintro c ⟨rfl, htasks⟩
  have hrun : (shuffle rand l).run c =
      (shuffleAt rand c.draws l, { c with draws := c.draws + 400 }) := by
    simp only [StateT.run, shuffle, draw, randomize_run]
  rw [hrun]
  dsimp only
  exact ⟨rfl, rfl, htasks⟩

theorem insertItems_made (items : List Item) :
    Triple (Made old n p) (modify fun c => { c with items := items ++ c.items } : Generate Unit)
      fun _ => Made old n p := by
  rintro c ⟨hdraws, htasks⟩
  exact ⟨hdraws, htasks⟩

theorem insertItem_made (item : Item) :
    Triple (Made old n p) (insertItem item) fun _ => Made old n p := insertItems_made [item]

theorem offerTransportation_made (item : ObjectId) (s d : LocationId) (box : Option ObjectId) :
    Triple (Made old n p) (offerTransportation item s d box) fun t c =>
      (t.Moves ↔ s ≠ d) ∧ Made old n p c := by
  rintro c ⟨hdraws, htasks⟩
  refine ⟨?_, hdraws, htasks⟩
  simp [offerTransportation, makeTask, Task.Moves, StateT.run]

theorem offerNavigation_made (location : LocationId) (waitTime : Int) (orientation : Orientation) :
    Triple (Made old n p) (offerNavigation location waitTime orientation) fun t c =>
      (t.Moves ↔ True) ∧ Made old n p c := by
  rintro c ⟨hdraws, htasks⟩
  refine ⟨?_, hdraws, htasks⟩
  simp [offerNavigation, makeTask, Task.Moves, StateT.run]

theorem insertTasks_made (ts : List Task) (hts : (∀ t ∈ ts, t.Moves) ↔ q) :
    Triple (Made old n p) (modify fun c => { c with tasks := ts ++ c.tasks } : Generate Unit)
      fun _ => Made old n (p ∧ q) := by
  rintro c ⟨hdraws, created, htasks, hcreated⟩
  refine ⟨hdraws, ts ++ created, ?_, ?_⟩
  · show ts ++ c.tasks = _
    rw [htasks, List.append_assoc]
  · rw [List.forall_mem_append, hts, hcreated]
    exact and_comm

theorem insertTask_made {t : Task} (ht : t.Moves ↔ q) :
    Triple (Made old n p) (insertTask t) fun _ => Made old n (p ∧ q) :=
  insertTasks_made [t] (by rwa [List.forall_mem_singleton])

/-- Several offers, one after the other. -/
theorem offers_made {xs : List (Generate Task)} (qs : List Prop)
    (h : List.Forall₂ (fun x q => Triple (Made old n p) x fun t c =>
      (t.Moves ↔ q) ∧ Made old n p c) xs qs) :
    Triple (Made old n p) (xs.mapM id) fun ts c =>
      ((∀ t ∈ ts, t.Moves) ↔ ∀ q ∈ qs, q) ∧ Made old n p c := by
  induction h with
  | nil =>
      rw [List.mapM_nil]
      refine Triple.pure fun c hc => ⟨?_, hc⟩
      simp
  | cons hx _ ih =>
      rw [List.mapM_cons]
      refine Triple.bind_imp hx fun t ht => ?_
      refine Triple.bind_imp ih fun ts hts => ?_
      refine Triple.pure fun c hc => ⟨?_, hc⟩
      rw [List.forall_mem_cons, List.forall_mem_cons, ht, hts]

/-- An offered task is inserted. -/
theorem insert_offered_made (item : ObjectId) (s d : LocationId) (box : Option ObjectId) :
    Triple (Made old n p) (do insertTask (← offerTransportation item s d box)) fun _ =>
      Made old n (p ∧ s ≠ d) := by
  refine Triple.bind_imp (offerTransportation_made item s d box) fun t ht => ?_
  exact insertTask_made ht

/-- An offered task is inserted before whatever comes next. -/
theorem offer_made {β : Type} {Q : β → Content → Prop} {x : Generate β} (item : ObjectId)
    (s d : LocationId) (box : Option ObjectId) (hx : Triple (Made old n (p ∧ s ≠ d)) x Q) :
    Triple (Made old n p) (do insertTask (← offerTransportation item s d box); x) Q := by
  refine Triple.bind_imp (offerTransportation_made item s d box) fun t ht => ?_
  exact Triple.bind (insertTask_made ht) fun _ => hx

/-! ## Loops -/

/-- A loop keeps what each of its rounds keeps, at the draws of a round. -/
theorem loopForCount_made {σ : Type} {I : ℕ → σ → Prop} {m : ℕ} {body : ℕ → σ → Generate σ} (k : ℕ)
    (h : ∀ i n vars, 1 ≤ i → i ≤ m → I i vars → Triple (Made old n p) (body i vars)
      fun vars' c => I (i + 1) vars' ∧ Made old (n + k) p c)
    {vars : σ} (hvars : I 1 vars) :
    Triple (Made old n p) (loopForCount m vars body) fun vars' c =>
      I (1 + m) vars' ∧ Made old (n + m * k) p c := by
  have hloop := Triple.foldlM_range' (I := fun i vars c => I i vars ∧
    Made old (n + (i - 1) * k) p c) (f := fun vars i => body i vars) m 1 ?_ vars
  · refine Triple.mono hloop ?_ ?_
    · intro c hc
      exact ⟨hvars, by simpa using hc⟩
    · intro vars' c hc
      simpa using hc
  · intro i vars hpos hlt
    apply Triple.of_imp
    intro hI
    refine (h i (n + (i - 1) * k) vars hpos (by omega) hI).post ?_
    rintro vars' c ⟨hI', hc⟩
    refine ⟨hI', ?_⟩
    obtain ⟨i, rfl⟩ := Nat.exists_eq_add_of_le' hpos
    rw [Nat.add_sub_cancel] at hc ⊢
    rwa [Nat.add_assoc, ← Nat.succ_mul] at hc

/-- A loop whose variables do not matter. -/
theorem loopForCount_made_const {σ : Type} {m : ℕ} {body : ℕ → σ → Generate σ} (k : ℕ)
    (h : ∀ i n vars, 1 ≤ i → i ≤ m → Triple (Made old n p) (body i vars)
      fun _ => Made old (n + k) p) (vars : σ) :
    Triple (Made old n p) (loopForCount m vars body) fun _ => Made old (n + m * k) p := by
  refine Triple.post (loopForCount_made (I := fun _ _ => True) k ?_ trivial) fun _ _ hc => hc.2
  intro i n vars hpos hle _
  exact (h i n vars hpos hle).post fun _ _ hc => ⟨trivial, hc⟩

/-- A loop that draws nothing and makes tasks in each round. -/
theorem loopForCount_made_and {m : ℕ} {R : ℕ → Prop} {body : ℕ → Unit → Generate Unit}
    (h : ∀ i p, 1 ≤ i → i ≤ m → Triple (Made old n p) (body i ()) fun _ => Made old n (p ∧ R i)) :
    Triple (Made old n True) (loopForCount m () body) fun _ =>
      Made old n (∀ i, 1 ≤ i → i ≤ m → R i) := by
  have hloop : Triple (fun c => Made old n (∀ j, 1 ≤ j → j < 1 → R j) c) (loopForCount m () body)
      fun _ c => Made old n (∀ j, 1 ≤ j → j < 1 + m → R j) c := by
    apply Triple.foldlM_range' (I := fun i (_ : Unit) c => Made old n (∀ j, 1 ≤ j → j < i → R j) c)
    intro i _ hpos hlt
    refine Triple.post (h i _ hpos (by omega)) ?_
    intro _ c hc
    apply hc.congr
    constructor
    · rintro ⟨hR, hRi⟩ j hj hjlt
      rcases Nat.lt_succ_iff_lt_or_eq.mp hjlt with hjlt | rfl
      · exact hR j hj hjlt
      · exact hRi
    · intro hR
      exact ⟨fun j hj hjlt => hR j hj (by omega), hR i hpos (by omega)⟩
  refine Triple.mono hloop ?_ ?_
  · intro c hc
    apply hc.congr
    simp
    omega
  · intro _ c hc
    apply hc.congr
    constructor
    · intro hR j hj hjle
      exact hR j hj (by omega)
    · intro hR j hj hjlt
      exact hR j hj (by omega)

theorem drawObjects_made (m : ℕ) (pool : List ObjectId) :
    Triple (Made old n p) (drawObjects rand m pool) fun _ => Made old (n + m) p := by
  rw [show n + m = n + m * 1 by omega]
  apply loopForCount_made_const
  intro i n drawn _ _
  refine Triple.bind (pick_made pool) fun item => ?_
  exact Triple.pure fun _ hc => hc.2

/-! ## Drawn locations -/

/-- `m` locations drawn from a pool, and what is left of it. -/
structure Split (pool : List LocationId) (m : ℕ) (drawn left : List LocationId) : Prop where
  drawn_length : drawn.length = m
  left_length : left.length + m = pool.length
  left_nodup : left.Nodup
  left_subset : ∀ x ∈ left, x ∈ pool
  drawn_subset : ∀ x ∈ drawn, x ∈ pool
  disjoint : ∀ x ∈ drawn, x ∉ left

theorem Split.refl {pool : List LocationId} (hnodup : pool.Nodup) : Split pool 0 [] pool where
  drawn_length := rfl
  left_length := rfl
  left_nodup := hnodup
  left_subset _ hx := hx
  drawn_subset _ hx := by simp at hx
  disjoint _ hx := by simp at hx

theorem Split.left_ne_nil {pool drawn left : List LocationId} {m : ℕ} (h : Split pool m drawn left)
    (hm : m < pool.length) : left ≠ [] := by
  apply List.ne_nil_of_length_pos
  have hlen := h.left_length
  omega

/-- One more location is drawn. -/
theorem Split.draw {pool drawn left : List LocationId} {m : ℕ} {x : LocationId}
    (h : Split pool m drawn left) (hx : x ∈ left) :
    Split pool (m + 1) (drawn ++ [x]) (deleteMember left x) where
  drawn_length := by rw [List.length_append, h.drawn_length, List.length_singleton]
  left_length := by
    have hlen := length_deleteMember h.left_nodup hx
    have hleft := h.left_length
    omega
  left_nodup := nodup_deleteMember h.left_nodup
  left_subset y hy := h.left_subset y (mem_deleteMember.mp hy).1
  drawn_subset := by
    intro y hy
    rw [List.mem_append, List.mem_singleton] at hy
    rcases hy with hy | rfl
    · exact h.drawn_subset y hy
    · exact h.left_subset y hx
  disjoint := by
    intro y hy
    rw [mem_deleteMember]
    rintro ⟨hleft, hne⟩
    rw [List.mem_append, List.mem_singleton] at hy
    rcases hy with hy | rfl
    · exact h.disjoint y hy hleft
    · exact hne rfl

theorem drawLocations_made {m : ℕ} {pool : List LocationId} (hnodup : pool.Nodup)
    (hm : m ≤ pool.length) :
    Triple (Made old n p) (drawLocations rand m pool) fun r c =>
      Split pool m r.1 r.2 ∧ Made old (n + m) p c := by
  refine Triple.post (loopForCount_made
    (I := fun i r => Split pool (i - 1) r.1 r.2) 1 ?_ ?_) ?_
  · intro i n r hpos hle hsplit
    have hleft : r.2 ≠ [] := hsplit.left_ne_nil (by omega)
    refine Triple.bind_imp (pick_mem_made hleft) fun x hx => ?_
    refine Triple.pure fun c hc => ⟨?_, hc⟩
    rw [show i + 1 - 1 = i - 1 + 1 by omega]
    exact hsplit.draw hx
  · exact Split.refl hnodup
  · intro r c h
    simpa using h

theorem inTurn_mem {l : List α} (hl : l ≠ []) (i : ℕ) : inTurn i l ∈ l := by
  have hlen := List.length_pos_of_ne_nil hl
  have hlt : i % l.length < l.length := Nat.mod_lt _ hlen
  exact nth_mem (by omega) (by omega)

theorem inTurn_shuffleAt {m : ℕ} {l : List α} (i : ℕ) (hl : l ≠ []) :
    inTurn i (shuffleAt rand m l) = nth (nth (1 + i % l.length) (orderAt rand m l.length)) l := by
  have hlen := List.length_pos_of_ne_nil hl
  have hlt : i % l.length < l.length := Nat.mod_lt _ hlen
  rw [inTurn, length_shuffleAt, nth_shuffleAt (by omega) (by omega)]

/-! ## The tasks of the transportation tests -/

/-- The task that round `i` of `last` makes moves, and so does the second one of the last round. -/
def RoundMoves (last : ℕ) (sources destinations : List LocationId) (i : ℕ) : Prop :=
  inTurn i sources ≠ inTurn i destinations ∧
    (i = last → inTurn (last + 1) sources ≠ inTurn i destinations)

/-- All tasks of `transport` move. -/
def TransportMoves (last : ℕ) (sources destinations : List LocationId) : Prop :=
  (∀ i, 1 ≤ i → i ≤ last → RoundMoves last sources destinations i) ∧
    inTurn (last + 2) sources ∉ rotatingTableLocations

theorem transport_made {last : ℕ} (objects : List ObjectId)
    (sources destinations : List LocationId) :
    Triple (Made old n True) (transport rand last objects sources destinations) fun _ =>
      Made old (n + 1) (TransportMoves last sources destinations) := by
  unfold transport
  refine Triple.bind
    (loopForCount_made_and (R := RoundMoves last sources destinations) ?_) fun _ => ?_
  · intro i p hpos hle
    refine Triple.bind (insertItem_made _) fun _ => ?_
    by_cases hi : i = last
    · rw [if_neg (not_not_intro hi)]
      apply offer_made
      refine Triple.bind (insertItem_made _) fun _ => ?_
      refine Triple.post (insert_offered_made _ _ _ _) ?_
      intro _ c hc
      apply hc.congr
      simp [RoundMoves, hi, and_assoc]
    · rw [if_pos hi]
      refine Triple.post (insert_offered_made _ _ _ _) ?_
      intro _ c hc
      apply hc.congr
      simp [RoundMoves, hi]
  · refine Triple.bind_imp (pick_mem_made (by decide)) fun destination hdestination => ?_
    refine Triple.bind (insertItem_made _) fun _ => ?_
    refine Triple.post (insert_offered_made _ _ _ _) ?_
    intro _ c hc
    apply hc.congr
    rw [rotatingTableLocations, List.mem_singleton] at hdestination
    rw [TransportMoves, rotatingTableLocations, List.mem_singleton, hdestination]

/-! ## Handlers whose tasks all move -/

/-- An offered task that moves changes nothing. -/
theorem insert_moving_made (item : ObjectId) {s d : LocationId} (hsd : s ≠ d)
    (box : Option ObjectId) :
    Triple (Made old n p) (do insertTask (← offerTransportation item s d box)) fun _ =>
      Made old n p := by
  refine Triple.post (insert_offered_made item s d box) ?_
  intro _ c hc
  apply hc.congr
  simp [hsd]

theorem BasicNavigationTest1.generate_made :
    Triple (Made old n True) (BasicNavigationTest1.generate rand) fun _ c =>
      ∃ m, Made old m True c := by
  unfold BasicNavigationTest1.generate
  refine Triple.bind (loopForCount_made_const 2 ?_ _) fun _ => Triple.pure fun _ hc => ⟨_, hc⟩
  intro i n locations _ _
  refine Triple.bind_imp (pick_made locations) fun location _ => ?_
  refine Triple.bind_imp (pick_made _) fun orientation _ => ?_
  refine Triple.bind_imp (offerNavigation_made location 3 orientation) fun t ht => ?_
  refine Triple.bind (insertTask_made ht) fun _ => Triple.pure fun c hc => ?_
  exact hc.congr (and_self_iff)

theorem BasicManipulationTest1.generate_made :
    Triple (Made old n True) (BasicManipulationTest1.generate rand) fun _ c =>
      ∃ m, Made old m True c := by
  have hmanipulate (objects : List ObjectId) (n : ℕ) : Triple (Made old n True)
      (do
        let item ← pick rand objects
        insertItem { objectId := item, locationId := some .workstation05 }
        insertTask (← offerTransportation item .workstation05 .workstation06))
      fun _ => Made old (n + 1) True := by
    refine Triple.bind_imp (pick_made objects) fun item _ => ?_
    refine Triple.bind (insertItem_made _) fun _ => ?_
    exact insert_moving_made item (by decide) none
  unfold BasicManipulationTest1.generate
  refine Triple.bind (loopForCount_made_const 1 ?_ ()) fun _ => ?_
  · intro _ n _ _ _
    exact hmanipulate robocupObjects n
  · refine Triple.post (loopForCount_made_const 1 ?_ ()) fun _ _ hc => ⟨_, hc⟩
    intro _ n _ _ _
    exact hmanipulate rockinObjects n

/-- An item drawn and placed somewhere. -/
theorem place_made (objects : List ObjectId) (place : ObjectId → Item) :
    Triple (Made old n p) (do let item ← pick rand objects; insertItem (place item)) fun _ =>
      Made old (n + 1) p := by
  refine Triple.bind_imp (pick_made objects) fun item _ => ?_
  exact insertItem_made _

theorem BasicTransportationTest1.generate_made :
    Triple (Made old n True) (BasicTransportationTest1.generate rand) fun _ c =>
      ∃ m, Made old m True c := by
  unfold BasicTransportationTest1.generate
  refine Triple.bind_imp (drawLocations_made (by decide) (by decide)) fun r hsplit => ?_
  have hsources : r.1 ≠ [] := by
    apply List.ne_nil_of_length_pos
    simp [hsplit.drawn_length]
  refine Triple.bind (loopForCount_made_const 2 ?_ _) fun decoyObjects => ?_
  · intro i n decoyObjects _ _
    refine Triple.bind_imp (pick_made robocupObjects) fun item _ => ?_
    refine Triple.bind (insertItem_made _) fun _ => ?_
    have hleft : r.2 ≠ [] := hsplit.left_ne_nil (by decide)
    refine Triple.bind_imp (pick_mem_made hleft) fun destination hdestination => ?_
    have hmoves : inTurn i r.1 ≠ destination := by
      intro heq
      exact hsplit.disjoint _ (inTurn_mem hsources i) (heq ▸ hdestination)
    apply offer_made
    apply Triple.pure
    intro c hc
    apply hc.congr
    simp [hmoves]
  · refine Triple.post (loopForCount_made_const 1 ?_ ()) fun _ _ hc => ⟨_, hc⟩
    intro i n _ _ _
    exact place_made decoyObjects _

theorem threeObjects_made {s d : LocationId} (hsd : s ≠ d) :
    Triple (Made old n True) (threeObjects rand s d) fun _ c => ∃ m, Made old m True c := by
  unfold threeObjects
  refine Triple.bind (loopForCount_made_const 1 ?_ _) fun _ => Triple.pure fun _ hc => ⟨_, hc⟩
  intro i n objects _ _
  refine Triple.bind_imp (pick_made objects) fun item _ => ?_
  refine Triple.bind (insertItem_made _) fun _ => ?_
  apply offer_made
  apply Triple.pure
  intro c hc
  apply hc.congr
  simp [hsd]

theorem PrecisionPlacementTest1.generate_made :
    Triple (Made old n True) (PrecisionPlacementTest1.generate rand) fun _ c =>
      ∃ m, Made old m True c := by
  unfold PrecisionPlacementTest1.generate
  refine Triple.bind_imp (pick_mem_made (by decide)) fun source hsource => ?_
  refine Triple.bind_imp (pick_mem_made (by decide)) fun destination hdestination => ?_
  apply threeObjects_made
  have hdisjoint : ∀ x ∈ workstation10cmLocations, x ∉ precisionLocations := by decide
  rintro rfl
  exact hdisjoint _ hsource hdestination

theorem BasicTransportationTest2.generate_made :
    Triple (Made old n True) (BasicTransportationTest2.generate rand) fun _ c =>
      ∃ m, Made old m True c := by
  unfold BasicTransportationTest2.generate
  refine Triple.bind (drawObjects_made 2 robocupObjects) fun robocup => ?_
  refine Triple.bind (drawObjects_made 3 rockinObjects) fun rockin => ?_
  refine Triple.bind_imp (shuffle_made _) fun objects _ => ?_
  refine Triple.bind_imp (drawLocations_made (by decide) (by decide)) fun r hsplit => ?_
  have hlen := hsplit.left_length
  rw [show workstation10cmLocations.length = 4 from rfl] at hlen
  refine Triple.bind_imp (pick_mem_made (by decide)) fun shelf hshelf => ?_
  refine Triple.bind_imp (drawLocations_made hsplit.left_nodup (by omega)) fun r' hsplit' => ?_
  refine Triple.bind_imp (shuffle_made _) fun destinations hshuffle => ?_
  refine Triple.post (transport_made objects r.1 destinations) ?_
  intro _ c hc
  refine ⟨_, hc.congr ?_⟩
  rw [iff_true]
  have hsources : r.1 ≠ [] := by
    apply List.ne_nil_of_length_pos
    simp [hsplit.drawn_length]
  have hdestinations : destinations ≠ [] := by
    apply List.ne_nil_of_length_pos
    simp [hshuffle]
  -- the sources are workstations, the destinations others or a shelf
  have hdisjoint : ∀ x ∈ r.1, x ∉ destinations := by
    intro x hx hmem
    rw [hshuffle] at hmem
    rcases List.mem_cons.mp (mem_of_mem_shuffleAt hmem) with rfl | hleft
    · have hshelves : ∀ y ∈ workstation10cmLocations, y ∉ shelfLocations := by decide
      exact hshelves x (hsplit.drawn_subset x hx) hshelf
    · exact hsplit.disjoint x hx (hsplit'.drawn_subset x hleft)
  have hmoves (i j : ℕ) : inTurn i r.1 ≠ inTurn j destinations := by
    intro heq
    exact hdisjoint _ (inTurn_mem hsources i) (heq ▸ inTurn_mem hdestinations j)
  refine ⟨fun i _ _ => ⟨hmoves i i, fun _ => hmoves 4 i⟩, ?_⟩
  have htables : ∀ y ∈ workstation10cmLocations, y ∉ rotatingTableLocations := by decide
  exact htables _ (hsplit.drawn_subset _ (inTurn_mem hsources 5))

end FactoryHub.AtWork
