import FactoryHub.AtWork.LiveInstances
import FactoryHub.Lib.Triple

/-!
# Ids of tasks

A task takes its id from a slot that all tasks share. The slot goes back to its default with the
last task, which never happens as `cleanup` leaves the dummy task alone.

* `LastsWhileMaking.generate` — what each made instance keeps is kept by `generate`.
* `Grown.send` — a message gives out the ids from the counter on.
* `freshIds` — no id is given out twice, in any run.
-/

namespace FactoryHub.AtWork.Instances

open Clips Lib

/-! ## What lasts while instances are made -/

/-- The property depends on the instances and the counter, and holds on when an instance is made. -/
structure LastsWhileMaking (P : Store → Prop) : Prop where
  congr : ∀ s s' : Store, s'.heap = s.heap → s'.nextId = s.nextId → P s → P s'
  make : ∀ s i, Instance.isTask i = false → P s → P { s with heap := s.heap.make i }
  makeTask : ∀ s (task : TaskInstance), P s → P { s with
    heap := s.heap.make (.task { task with id := s.nextId }), nextId := s.nextId + 1 }

theorem keeps_loopForCount {σ : Type} {P : Store → Prop} {body : ℕ → σ → Making σ}
    (h : ∀ k vars, Keeps P (body k vars)) (n : ℕ) (vars : σ) :
    Keeps P (loopForCount n vars body) := Keeps.foldlM h _ vars

namespace LastsWhileMaking

variable {P : Store → Prop} (h : LastsWhileMaking P) (rand : ℕ → ℕ)
include h

theorem draw {α : Type} (x : StateM ℕ α) : Keeps P (draw x) := fun s hs => h.congr s _ rfl rfl hs

theorem pick {α : Type} [Inhabited α] (l : List α) : Keeps P (pick rand l) := h.draw _

theorem shuffle {α : Type} [Inhabited α] (l : List α) : Keeps P (shuffle rand l) := h.draw _

theorem makeItem (item : Item) : Keeps P (makeItem item) := fun s hs => h.make s _ rfl hs

theorem insertItems (names : List ℕ) : Keeps P (insertItems names) :=
  fun s hs => h.congr s _ rfl rfl hs

theorem insertTasks (names : List ℕ) : Keeps P (insertTasks names) :=
  fun s hs => h.congr s _ rfl rfl hs

theorem insertItem (item : Item) : Keeps P (insertItem item) :=
  Keeps.bind (h.makeItem item) fun n => h.insertItems [n]

theorem offerTransportation (objectId : ObjectId) (sourceId destinationId : LocationId)
    (containerId : Option ObjectId) :
    Keeps P (offerTransportation objectId sourceId destinationId containerId) :=
  fun s hs => h.makeTask _ _ (h.make s _ rfl hs)

theorem offerNavigation (locationId : LocationId) (waitTime : Int) (orientation : Orientation) :
    Keeps P (offerNavigation locationId waitTime orientation) :=
  fun s hs => h.makeTask _ _ (h.make s _ rfl hs)

/-- A transportation task is made and inserted. -/
theorem insertTransportation (objectId : ObjectId) (sourceId destinationId : LocationId)
    (containerId : Option ObjectId) :
    Keeps P (do
      Instances.insertTasks
        [← Instances.offerTransportation objectId sourceId destinationId containerId]) :=
  Keeps.bind (h.offerTransportation objectId sourceId destinationId containerId)
    fun n => h.insertTasks [n]

theorem drawLocations (n : ℕ) (pool : List LocationId) : Keeps P (drawLocations rand n pool) :=
  keeps_loopForCount (fun _ _ => Keeps.bind (h.pick rand _) fun _ => Keeps.pure _) n _

theorem drawObjects (n : ℕ) (pool : List ObjectId) : Keeps P (drawObjects rand n pool) :=
  keeps_loopForCount (fun _ _ => Keeps.bind (h.pick rand pool) fun _ => Keeps.pure _) n _

/-! ### The handlers -/

theorem basicNavigationTest1 : Keeps P (BasicNavigationTest1.generate rand) := by
  refine Keeps.bind (keeps_loopForCount ?_ 9 _) fun _ => Keeps.pure _
  intro _ locations
  refine Keeps.bind (h.pick rand locations) fun location => ?_
  refine Keeps.bind (h.pick rand _) fun orientation => ?_
  refine Keeps.bind (h.offerNavigation location 3 orientation) fun n => ?_
  exact Keeps.bind (h.insertTasks [n]) fun _ => Keeps.pure _

theorem basicManipulationTest1 : Keeps P (BasicManipulationTest1.generate rand) := by
  have hmanipulate : ∀ objects : List ObjectId, Keeps P (do
      let item ← Instances.pick rand objects
      Instances.insertItem { objectId := item, locationId := some .workstation05 }
      Instances.insertTasks [← Instances.offerTransportation item .workstation05 .workstation06]) := by
    intro objects
    refine Keeps.bind (h.pick rand objects) fun item => ?_
    exact Keeps.bind (h.insertItem _) fun _ => h.insertTransportation item _ _ none
  refine Keeps.bind (keeps_loopForCount ?_ 3 _) fun _ => keeps_loopForCount ?_ 2 _
  · intro _ _
    exact hmanipulate robocupObjects
  · intro _ _
    exact hmanipulate rockinObjects

/-- Decoys come last. -/
theorem decoys (n : ℕ) (decoys : List ObjectId) (sources : List LocationId) :
    Keeps P (Instances.loopForCount n () fun counter _ => do
      let item ← Instances.pick rand decoys
      Instances.insertItem
        { objectId := item, locationId := some (Generate.inTurn counter sources) }) :=
  keeps_loopForCount (fun _ _ => Keeps.bind (h.pick rand decoys) fun _ => h.insertItem _) n _

theorem basicTransportationTest1 : Keeps P (BasicTransportationTest1.generate rand) := by
  refine Keeps.bind (h.drawLocations rand 2 _) fun ⟨sources, workstations⟩ => ?_
  refine Keeps.bind (keeps_loopForCount ?_ 5 _) fun objects => h.decoys rand 3 objects sources
  intro counter objects
  refine Keeps.bind (h.pick rand _) fun item => ?_
  refine Keeps.bind (h.insertItem _) fun _ => ?_
  refine Keeps.bind (h.pick rand workstations) fun destination => ?_
  refine Keeps.bind (h.offerTransportation item _ destination none) fun n => ?_
  exact Keeps.bind (h.insertTasks [n]) fun _ => Keeps.pure _

theorem transport (last : ℕ) (objects : List ObjectId) (sources destinations : List LocationId) :
    Keeps P (transport rand last objects sources destinations) := by
  refine Keeps.bind (keeps_loopForCount ?_ last _) fun _ => ?_
  · intro counter _
    refine Keeps.bind (h.insertItem _) fun _ => ?_
    split
    · exact h.insertTransportation _ _ _ none
    · refine Keeps.bind (h.offerTransportation _ _ _ (some .containerR)) fun n => ?_
      refine Keeps.bind (h.insertTasks [n]) fun _ => ?_
      refine Keeps.bind (h.insertItem _) fun _ => ?_
      exact h.insertTransportation _ _ _ (some .containerB)
  · refine Keeps.bind (h.pick rand _) fun destination => ?_
    exact Keeps.bind (h.insertItem _) fun _ => h.insertTransportation _ _ destination none

theorem basicTransportationTest2 : Keeps P (BasicTransportationTest2.generate rand) := by
  refine Keeps.bind (h.drawObjects rand 2 _) fun robocup => ?_
  refine Keeps.bind (h.drawObjects rand 3 _) fun rockin => ?_
  refine Keeps.bind (h.shuffle rand _) fun objects => ?_
  refine Keeps.bind (h.drawLocations rand 2 _) fun ⟨sources, workstations⟩ => ?_
  refine Keeps.bind (h.pick rand _) fun shelf => ?_
  refine Keeps.bind (h.drawLocations rand 2 _) fun ⟨drawn, _⟩ => ?_
  refine Keeps.bind (h.shuffle rand _) fun destinations => ?_
  exact h.transport rand 3 objects sources destinations

theorem basicTransportationTest3 : Keeps P (BasicTransportationTest3.generate rand) := by
  refine Keeps.bind (h.drawObjects rand 4 _) fun robocup => ?_
  refine Keeps.bind (h.drawObjects rand 3 _) fun rockin => ?_
  refine Keeps.bind (h.shuffle rand _) fun objects => ?_
  -- sources
  iterate 4 refine Keeps.bind (h.pick rand _) fun _ => ?_
  refine Keeps.bind (h.shuffle rand _) fun sources => ?_
  -- destinations
  iterate 4 refine Keeps.bind (h.pick rand _) fun _ => ?_
  refine Keeps.bind (h.shuffle rand _) fun destinations => ?_
  refine Keeps.bind (h.transport rand 5 objects sources destinations) fun _ => ?_
  exact h.decoys rand 3 _ sources

theorem threeObjects (source destination : LocationId) :
    Keeps P (threeObjects rand source destination) := by
  refine Keeps.bind (keeps_loopForCount ?_ 3 _) fun _ => Keeps.pure _
  intro _ objects
  refine Keeps.bind (h.pick rand objects) fun item => ?_
  refine Keeps.bind (h.insertItem _) fun _ => ?_
  refine Keeps.bind (h.offerTransportation item source destination none) fun n => ?_
  exact Keeps.bind (h.insertTasks [n]) fun _ => Keeps.pure _

theorem precisionPlacementTest1 : Keeps P (PrecisionPlacementTest1.generate rand) := by
  refine Keeps.bind (h.pick rand _) fun source => ?_
  exact Keeps.bind (h.pick rand _) fun destination => h.threeObjects rand source destination

theorem atWorkFinal2016 : Keeps P (AtWorkFinal2016.generate rand) := by
  refine Keeps.bind (h.drawObjects rand 4 _) fun robocup => ?_
  refine Keeps.bind (h.drawObjects rand 5 _) fun rockin => ?_
  refine Keeps.bind (h.pick rand _) fun item1 => ?_
  refine Keeps.bind (h.shuffle rand _) fun objects => ?_
  -- sources
  iterate 7 refine Keeps.bind (h.pick rand _) fun _ => ?_
  refine Keeps.bind (h.shuffle rand _) fun sources => ?_
  -- destinations
  iterate 7 refine Keeps.bind (h.pick rand _) fun _ => ?_
  refine Keeps.bind (h.shuffle rand _) fun destinations => ?_
  refine Keeps.bind (h.drawObjects rand 5 _) fun _ => ?_
  -- items
  have hitems : ∀ items : List Item, Keeps P (items.mapM Instances.makeItem) := by
    intro items
    exact Keeps.mapM fun item _ => h.makeItem item
  refine Keeps.bind (hitems _) fun placed => ?_
  refine Keeps.bind (keeps_loopForCount ?_ 5 _) fun decoys => ?_
  · intro _ drawn
    refine Keeps.bind (h.pick rand _) fun objectId => ?_
    refine Keeps.bind (h.pick rand _) fun locationId => ?_
    exact Keeps.bind (h.makeItem _) fun _ => Keeps.pure _
  refine Keeps.bind (hitems _) fun containers => ?_
  refine Keeps.bind (h.insertItems _) fun _ => ?_
  -- tasks
  refine Keeps.bind (Keeps.mapM ?_) fun tasks => h.insertTasks tasks
  iterate 10 refine List.forall_mem_cons.mpr ⟨h.offerTransportation _ _ _ _, ?_⟩
  simp

/-- What each made instance keeps is kept by `generate`. -/
theorem generate (scenario : Scenario) : Keeps P (generate rand scenario) := by
  cases scenario with
  | none => exact Keeps.pure ()
  | bnt1 => exact h.basicNavigationTest1 rand
  | bmt1 => exact h.basicManipulationTest1 rand
  | btt1 => exact h.basicTransportationTest1 rand
  | btt2 => exact h.basicTransportationTest2 rand
  | btt3 => exact h.basicTransportationTest3 rand
  | ppt1 => exact h.precisionPlacementTest1 rand
  | cbt1 => exact h.threeObjects rand _ _
  | cbt2 => exact h.threeObjects rand _ _
  | awf1 => exact h.atWorkFinal2016 rand

end LastsWhileMaking


/-! ## What a message adds -/

/-- The id of a task that was made since a name was next. -/
def idFrom (n : ℕ) (o : ℕ × Instance) : Option ℕ :=
  match o.2 with
  | .task task => if n ≤ o.1 then some task.id else none
  | _ => none

/-- The ids of the tasks that were made since a name was next, in the order they were made in: what
lives is listed newest first. -/
def idsSince (n : ℕ) (h : Heap Instance) : List ℕ := h.live.reverse.filterMap (idFrom n)

/-- Tasks have ids below the counter, in the order of their names. -/
structure Ordered (s : Store) : Prop where
  id_lt : ∀ n task, (n, .task task) ∈ s.heap.live → task.id < s.nextId
  lt_of_lt : ∀ n task n' task', (n, .task task) ∈ s.heap.live → (n', .task task') ∈ s.heap.live →
    n < n' → task.id < task'.id

/-- The store has come from an older one, and the ids given out since are those from its counter
on. -/
structure Grown (old s : Store) : Prop where
  next_le : old.heap.next ≤ s.heap.next
  nextId_le : old.nextId ≤ s.nextId
  ids_eq : idsSince old.heap.next s.heap = List.range' old.nextId (s.nextId - old.nextId)
  older : ∀ o ∈ s.heap.live, o.1 < old.heap.next → o ∈ old.heap.live
  ordered : Ordered s

/-- The store is a later one of a run: what has come since has later names and later ids. -/
structure Later (old s : Store) : Prop where
  next_le : old.heap.next ≤ s.heap.next
  nextId_le : old.nextId ≤ s.nextId
  older : ∀ o ∈ s.heap.live, o.1 < old.heap.next → o ∈ old.heap.live
  newer : ∀ n task, (n, .task task) ∈ s.heap.live → old.heap.next ≤ n → old.nextId ≤ task.id

section

variable {old s s' : Store} {h h' : Heap Instance} {n : ℕ} {task : TaskInstance}

theorem idsSince_make (n : ℕ) (i : Instance) :
    idsSince n (h.make i) = idsSince n h ++ (idFrom n (h.next, i)).toList := by
  show (List.reverse (_ :: h.live)).filterMap _ = _
  rw [List.reverse_cons, List.filterMap_append]
  congr 1

theorem mem_idsSince {id : ℕ} :
    id ∈ idsSince n h ↔ ∃ k task, n ≤ k ∧ (k, .task task) ∈ h.live ∧ task.id = id := by
  unfold idsSince
  rw [List.mem_filterMap]
  constructor
  · rintro ⟨⟨k, i⟩, hmem, hid⟩
    cases i with
    | task task =>
        by_cases hk : n ≤ k
        · simp [idFrom, hk] at hid
          exact ⟨k, task, hk, List.mem_reverse.mp hmem, hid⟩
        · simp [idFrom, hk] at hid
    | _ => cases hid
  · rintro ⟨k, task, hk, hlive, rfl⟩
    exact ⟨(k, .task task), List.mem_reverse.mpr hlive, by simp [idFrom, hk]⟩

/-- Nothing has the next name yet. -/
theorem idsSince_next (h : Heap Instance) : idsSince h.next h = [] := by
  apply List.eq_nil_iff_forall_not_mem.mpr
  intro id hid
  obtain ⟨k, task, hk, hlive, -⟩ := mem_idsSince.mp hid
  exact absurd hk (Nat.not_le_of_lt (h.name_lt _ hlive))

theorem Ordered.mono (ho : Ordered s) (hsub : ∀ o ∈ s'.heap.live, o ∈ s.heap.live)
    (hnext : s.nextId ≤ s'.nextId) : Ordered s' where
  id_lt := fun n task hlive => lt_of_lt_of_le (ho.id_lt n task (hsub _ hlive)) hnext
  lt_of_lt := fun n task n' task' hlive hlive' =>
    ho.lt_of_lt n task n' task' (hsub _ hlive) (hsub _ hlive')

theorem Ordered.makeTask (ho : Ordered s) (task : TaskInstance) : Ordered { s with
    heap := s.heap.make (.task { task with id := s.nextId }), nextId := s.nextId + 1 } := by
  constructor
  · intro n t hlive
    rcases Heap.mem_make.mp hlive with hnew | hold
    · cases hnew
      exact Nat.lt_succ_self _
    · exact Nat.lt_succ_of_lt (ho.id_lt n t hold)
  · intro n t n' t' hlive hlive' hlt
    rcases Heap.mem_make.mp hlive with hnew | hold
    · -- nothing has a later name
      cases hnew
      have hlt' : n' < s.heap.next + 1 := Heap.name_lt _ _ hlive'
      exact absurd hlt (by omega)
    · rcases Heap.mem_make.mp hlive' with hnew | hold'
      · cases hnew
        exact ho.id_lt n t hold
      · exact ho.lt_of_lt n t n' t' hold hold' hlt

/-- The order of names is that of ids. -/
theorem Ordered.lt_iff (ho : Ordered s) {n' : ℕ} {task' : TaskInstance}
    (hlive : (n, .task task) ∈ s.heap.live) (hlive' : (n', .task task') ∈ s.heap.live) :
    (n < n' ↔ task.id < task'.id) ∧ (n = n' ↔ task.id = task'.id) := by
  rcases Nat.lt_trichotomy n n' with hlt | rfl | hgt
  · have hid := ho.lt_of_lt n task n' task' hlive hlive' hlt
    omega
  · obtain rfl := Instance.task.inj (Heap.eq_of_mem hlive hlive')
    simp
  · have hid := ho.lt_of_lt n' task' n task hlive' hlive hgt
    omega

theorem Grown.refl (ho : Ordered s) : Grown s s where
  next_le := le_refl _
  nextId_le := le_refl _
  ids_eq := by rw [idsSince_next, Nat.sub_self, List.range'_zero]
  older := fun _ hlive _ => hlive
  ordered := ho

theorem Grown.le_id (hg : Grown old s) (hlive : (n, .task task) ∈ s.heap.live)
    (hn : old.heap.next ≤ n) : old.nextId ≤ task.id := by
  have hid : task.id ∈ idsSince old.heap.next s.heap := mem_idsSince.mpr ⟨n, task, hn, hlive, rfl⟩
  rw [hg.ids_eq, List.mem_range'_1] at hid
  exact hid.1

theorem Grown.later (hg : Grown old s) : Later old s where
  next_le := hg.next_le
  nextId_le := hg.nextId_le
  older := hg.older
  newer := fun _ _ hlive hn => hg.le_id hlive hn

theorem Later.trans (h : Later old s) (h' : Later s s') : Later old s' where
  next_le := le_trans h.next_le h'.next_le
  nextId_le := le_trans h.nextId_le h'.nextId_le
  older := fun o hlive hlt =>
    h.older o (h'.older o hlive (Nat.lt_of_lt_of_le hlt h.next_le)) hlt
  newer := by
    intro n task hlive hn
    rcases Nat.lt_or_ge n s.heap.next with hlt | hge
    · exact h.newer n task (h'.older _ hlive hlt) hn
    · exact le_trans h.nextId_le (h'.newer n task hlive hge)

/-- Names and ids of the tasks of two times are in the same order. -/
theorem Later.lt_iff (h : Later old s) (ho : Ordered old) {n' : ℕ} {task' : TaskInstance}
    (hlive : (n, .task task) ∈ old.heap.live) (hlive' : (n', .task task') ∈ s.heap.live) :
    (n < n' ↔ task.id < task'.id) ∧ (n = n' ↔ task.id = task'.id) := by
  rcases Nat.lt_or_ge n' old.heap.next with hlt | hge
  · exact ho.lt_iff hlive (h.older _ hlive' hlt)
  · have hn : n < n' := Nat.lt_of_lt_of_le (old.heap.name_lt _ hlive) hge
    have hid : task.id < task'.id :=
      Nat.lt_of_lt_of_le (ho.id_lt n task hlive) (h.newer n' task' hlive' hge)
    omega

/-- Each new task takes the id of the counter. -/
theorem Grown.lastsWhileMaking (old : Store) : LastsWhileMaking (Grown old) where
  congr := by
    intro s s' hheap hid hg
    refine ⟨?_, ?_, ?_, ?_, ?_⟩
    · rw [hheap]
      exact hg.next_le
    · rw [hid]
      exact hg.nextId_le
    · rw [hheap, hid]
      exact hg.ids_eq
    · rw [hheap]
      exact hg.older
    · refine hg.ordered.mono ?_ hid.ge
      rw [hheap]
      exact fun _ hlive => hlive
  make := by
    intro s i hi hg
    have hold : ∀ n task, (n, .task task) ∈ (s.heap.make i).live → (n, .task task) ∈ s.heap.live := by
      intro n task hlive
      rcases Heap.mem_make.mp hlive with hnew | hold
      · cases hnew
        cases hi
      · exact hold
    refine ⟨Nat.le_succ_of_le hg.next_le, hg.nextId_le, ?_, ?_, ?_, ?_⟩
    · show idsSince old.heap.next (s.heap.make i) = _
      have hnone : idFrom old.heap.next (s.heap.next, i) = none := by
        cases i <;> first | rfl | cases hi
      rw [idsSince_make, hnone, hg.ids_eq, Option.toList_none, List.append_nil]
    · intro o hlive hlt
      rcases Heap.mem_make.mp hlive with rfl | hlive
      · exact absurd hlt (Nat.not_lt_of_le hg.next_le)
      · exact hg.older o hlive hlt
    · exact fun n task hlive => hg.ordered.id_lt n task (hold _ _ hlive)
    · exact fun n task n' task' hlive hlive' =>
        hg.ordered.lt_of_lt n task n' task' (hold _ _ hlive) (hold _ _ hlive')
  makeTask := by
    intro s task hg
    have hle := hg.nextId_le
    refine ⟨Nat.le_succ_of_le hg.next_le, Nat.le_succ_of_le hle, ?_, ?_, hg.ordered.makeTask task⟩
    · show idsSince old.heap.next (s.heap.make _) = List.range' _ (s.nextId + 1 - _)
      have hsome : idFrom old.heap.next (s.heap.next, .task { task with id := s.nextId }) =
          some s.nextId := if_pos hg.next_le
      rw [idsSince_make, hsome, hg.ids_eq, Nat.succ_sub hle, List.range'_concat,
        Nat.one_mul, Nat.add_sub_cancel' hle]
      rfl
    · intro o hlive hlt
      rcases Heap.mem_make.mp hlive with rfl | hlive
      · exact absurd hlt (Nat.not_lt_of_le hg.next_le)
      · exact hg.older o hlive hlt

variable {base : ℕ} {c : Content}

/-- `cleanup` gives no ids, and leaves the counter alone as the dummy task lives. -/
theorem Grown.cleanup (hr : Represents.all base c s) (ho : Ordered s) : Grown s s.cleanup := by
  obtain ⟨hdeleted, -⟩ := hr.cleanup_live
  have hnext := hr.cleanup.2
  have hdummy : (dummyTask, .task { id := 0 }) ∈ s.cleanup.heap.live :=
    (hdeleted.live _).mpr ⟨hr.dummy_live, fun h => h rfl⟩
  have hid : s.cleanup.nextId = s.nextId := hdeleted.nextId_eq hdummy
  have hsub : ∀ o ∈ s.cleanup.heap.live, o ∈ s.heap.live := fun o hlive =>
    ((hdeleted.live o).mp hlive).1
  refine ⟨hnext.ge, hid.ge, ?_, fun o hlive _ => hsub o hlive, ho.mono hsub hid.ge⟩
  rw [← hnext, idsSince_next, hid, Nat.sub_self, List.range'_zero]

theorem Grown.generate (hg : Grown old s) (rand : ℕ → ℕ) (scenario : Scenario) :
    Grown old (s.generate rand scenario) :=
  (Grown.lastsWhileMaking old).generate rand scenario s hg

/-- The instances represent some content after `generate`, if they did before. -/
theorem represents_generate (hr : Represents.all base c s) (rand : ℕ → ℕ) (scenario : Scenario) :
    ∃ c', Represents.all base c' (s.generate rand scenario) :=
  ⟨_, (generate_same rand scenario c s hr).2⟩

/-- **A message gives out the ids from the counter on**, whatever is cleaned up. -/
theorem Grown.send (hr : Represents.all base c s) (ho : Ordered s) (rand : ℕ → ℕ) (b : Benchmark)
    (message : Send) : Grown s (sendStore rand b s message) ∧
      ∃ base c, Represents.all base c (sendStore rand b s message) := by
  have hcleanup := Grown.cleanup hr ho
  have hrCleanup := hr.cleanup.1
  cases message with
  | switchScenario =>
      rw [sendStore]
      split
      · exact ⟨hcleanup.generate rand _, _, represents_generate hrCleanup rand _⟩
      · exact ⟨Grown.refl ho, base, c, hr⟩
  | cleanup => exact ⟨hcleanup, _, _, hrCleanup⟩
  | generate => exact ⟨(Grown.refl ho).generate rand _, _, represents_generate hr rand _⟩
  | _ => exact ⟨Grown.refl ho, base, c, hr⟩

end

/-! ## Runs -/

/-- The ids that a run gives to tasks, in the order in which these are made: that of the dummy task,
and those of the tasks each message makes. -/
def givenIds : List (Step LiveBenchmark Send) → List ℕ
  | [] => idsSince 0 LiveBenchmark.start.store.heap
  | t :: earlier => givenIds earlier ++ idsSince t.pre.store.heap.next t.post.store.heap

/-- Ids are given out in increasing order, none of them twice. -/
structure FreshIds (tr : List (Step LiveBenchmark Send)) (b : LiveBenchmark) : Prop where
  /-- The ids of the run increase in the order of creation. -/
  increasing : (givenIds tr).Pairwise (· < ·)
  /-- The ids of the tasks that live are among them. -/
  given : ∀ n task, (n, .task task) ∈ b.store.heap.live → task.id ∈ givenIds tr
  /-- Between tasks that live now and those that lived at any time of the run, ids tell which came
  first, and the same id is the same task. -/
  lt_iff : ∀ t ∈ tr, ∀ n task n' task', (n, .task task) ∈ t.pre.store.heap.live →
    (n', .task task') ∈ b.store.heap.live →
      (n < n' ↔ task.id < task'.id) ∧ (n = n' ↔ task.id = task'.id)

section

variable {clock : Clock} {rand : ℕ → ℕ} {tr : List (Step LiveBenchmark Send)} {b : LiveBenchmark}

/-- All that a run keeps. -/
structure Numbered (tr : List (Step LiveBenchmark Send)) (b : LiveBenchmark) : Prop where
  represents : ∃ base c, Represents.all base c b.store
  ordered : Ordered b.store
  ids_eq : givenIds tr = List.range b.store.nextId
  given : ∀ n task, (n, .task task) ∈ b.store.heap.live → task.id ∈ givenIds tr
  later : ∀ t ∈ tr, Ordered t.pre.store ∧ Later t.pre.store b.store

theorem numbered_start : Numbered [] LiveBenchmark.start where
  represents := ⟨0, _, represents_start⟩
  ordered := by
    have hempty : Ordered { Store.start with heap := Heap.empty, nextId := 0 } := by
      constructor <;> intro _ _ <;> simp [Heap.empty]
    exact hempty.makeTask { id := 0 }
  ids_eq := rfl
  given := fun n task hlive => mem_idsSince.mpr ⟨n, task, Nat.zero_le n, hlive, rfl⟩
  later := by simp

theorem Numbered.send (h : Numbered tr b) (message : Send) :
    Numbered (⟨b, message, b.send clock rand message⟩ :: tr) (b.send clock rand message) := by
  obtain ⟨base, c, hr⟩ := h.represents
  obtain ⟨hgrown, hr'⟩ := Grown.send hr h.ordered rand b.benchmark message
  have hlater : Later b.store (b.send clock rand message).store := hgrown.later
  refine ⟨hr', hgrown.ordered, ?_, ?_, ?_⟩
  · show givenIds tr ++ idsSince b.store.heap.next (sendStore rand b.benchmark b.store message).heap =
      List.range (sendStore rand b.benchmark b.store message).nextId
    have happend := List.range'_append_1 (s := 0) (m := b.store.nextId)
      (n := (sendStore rand b.benchmark b.store message).nextId - b.store.nextId)
    rw [Nat.zero_add, Nat.add_sub_cancel' hgrown.nextId_le] at happend
    rw [h.ids_eq, hgrown.ids_eq, List.range_eq_range', List.range_eq_range', happend]
  · intro n task hlive
    apply List.mem_append.mpr
    rcases Nat.lt_or_ge n b.store.heap.next with hlt | hge
    · exact Or.inl (h.given n task (hgrown.older _ hlive hlt))
    · exact Or.inr (mem_idsSince.mpr ⟨n, task, hge, hlive, rfl⟩)
  · intro t ht
    rcases List.mem_cons.mp ht with rfl | ht
    · exact ⟨h.ordered, hlater⟩
    · obtain ⟨hordered, hpre⟩ := h.later t ht
      exact ⟨hordered, hpre.trans hlater⟩

theorem numbered_run (h : Run (fun b message b' => b.send clock rand message = b') .start tr b) :
    Numbered tr b := by
  induction h with
  | init => exact numbered_start
  | step hrun hstep ih =>
      subst hstep
      exact ih.send _

/-- **No id is given out twice**, in whatever order scenarios are switched, tasks generated and
cleaned up. -/
theorem freshIds (h : Run (fun b message b' => b.send clock rand message = b') .start tr b) :
    FreshIds tr b := by
  have hn := numbered_run h
  refine ⟨?_, hn.given, ?_⟩
  · rw [hn.ids_eq]
    exact List.pairwise_lt_range
  · intro t ht n task n' task' hlive hlive'
    obtain ⟨hordered, hlater⟩ := hn.later t ht
    exact hlater.lt_iff hordered hlive hlive'

/-- Tasks are generated twice without a cleanup between, and cleaned up twice. -/
def roundsOfTasks : List Send :=
  [.requestScenario .cbt 1, .switchScenario, .cleanup, .generate, .generate, .cleanup, .cleanup,
    .requestScenario .bnt 1, .switchScenario]

theorem freshIds_of_roundsOfTasks :
    let send := LiveBenchmark.send everySecond id
    let steps := record send .start roundsOfTasks
    FreshIds steps (roundsOfTasks.foldl send .start) ∧ givenIds steps = List.range 19 := by
  let send := LiveBenchmark.send everySecond id
  have hrun := run_record send LiveBenchmark.start roundsOfTasks
  refine ⟨freshIds hrun, ?_⟩
  decide +kernel

end

end FactoryHub.AtWork.Instances
