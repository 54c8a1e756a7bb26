import FactoryHub.AtWork.Instances
import FactoryHub.Lib.Relational
import FactoryHub.Lib.Run

/-!
# What lives belongs to the current scenario

The instances represent the content of the benchmark: the slots of `[inventory]` and `[task-info]`
name, in order, an instance of each item and task, and but for the dummy task nothing else lives.
`generate` keeps that as it adds to both (`generate_same`), and `cleanup` as it empties both
(`Represents.cleanup`).

* `represents_run` — the instances represent the content in every run.
* `ofCurrentScenario` — the slots name what the last `generate` made, and reach all that lives.
-/

namespace FactoryHub.AtWork.Instances

open Clips Lib

/-! ## Instances and what they stand for -/

/-- The name stands for an item. -/
def IsItem (h : Heap Instance) (n : ℕ) (item : Item) : Prop := (n, .item item) ∈ h.live

/-- The name stands for a task, whose sub-tasks live as well. -/
def IsTask (h : Heap Instance) (n : ℕ) (task : Task) : Prop :=
  ∃ transportationTask navigationTask,
    (n, .task { id := task.id, taskType := task.taskType, status := task.status
                transportationTask, navigationTask }) ∈ h.live ∧
      List.Forall₂ (fun k t => (k, .transportationTask t) ∈ h.live) transportationTask
        task.transportationTask.toList ∧
      List.Forall₂ (fun k t => (k, .navigationTask t) ∈ h.live) navigationTask
        task.navigationTask.toList

/-- The name is one of a list of tasks, or one of their sub-tasks. -/
def OfTasks (h : Heap Instance) (tasks : List ℕ) (n : ℕ) : Prop :=
  ∃ t ∈ tasks, ∃ task, (t, .task task) ∈ h.live ∧
    (n = t ∨ n ∈ task.transportationTask ∨ n ∈ task.navigationTask)

/-- The store represents the content, but for items and tasks that are made and not inserted yet:
`items` with the names `itemNames`, `tasks` with the names `taskNames`. What lives was made under a
name from `base` on, apart from the dummy task. -/
structure Represents (base : ℕ) (items : List Item) (itemNames : List ℕ) (tasks : List Task)
    (taskNames : List ℕ) (c : Content) (s : Store) : Prop where
  inventory : List.Forall₂ (IsItem s.heap) s.items c.items
  taskInfo : List.Forall₂ (IsTask s.heap) s.tasks c.tasks
  itemsMade : List.Forall₂ (IsItem s.heap) itemNames items
  tasksMade : List.Forall₂ (IsTask s.heap) taskNames tasks
  nextId_eq : s.nextId = c.nextId
  draws_eq : s.draws = c.draws
  base_le : base ≤ s.heap.next
  dummy_live : (dummyTask, .task { id := 0 }) ∈ s.heap.live
  dummy_notMem : dummyTask ∉ s.tasks ++ taskNames
  subTasks : ∀ t task, (t, .task task) ∈ s.heap.live →
    (∀ n ∈ task.transportationTask, ∃ k, (n, .transportationTask k) ∈ s.heap.live) ∧
      ∀ n ∈ task.navigationTask, ∃ k, (n, .navigationTask k) ∈ s.heap.live
  origin : ∀ o ∈ s.heap.live, o.1 = dummyTask ∨
    base ≤ o.1 ∧ (o.1 ∈ s.items ++ itemNames ∨ OfTasks s.heap (s.tasks ++ taskNames) o.1)

section

variable {h h' : Heap Instance} {n : ℕ} {base : ℕ} {items : List Item} {itemNames : List ℕ}
  {tasks : List Task} {taskNames : List ℕ} {c : Content} {s : Store}

/-! ### More instances -/

theorem IsTask.mono {task : Task} (hsub : ∀ o ∈ h.live, o ∈ h'.live) (ht : IsTask h n task) :
    IsTask h' n task := by
  obtain ⟨tts, nts, hlive, htts, hnts⟩ := ht
  exact ⟨tts, nts, hsub _ hlive, htts.imp fun _ _ hk => hsub _ hk, hnts.imp fun _ _ hk => hsub _ hk⟩

theorem OfTasks.mono {names names' : List ℕ} (hsub : ∀ o ∈ h.live, o ∈ h'.live)
    (hnames : ∀ t ∈ names, t ∈ names') (ht : OfTasks h names n) : OfTasks h' names' n := by
  obtain ⟨t, hmem, task, hlive, hn⟩ := ht
  exact ⟨t, hnames t hmem, task, hsub _ hlive, hn⟩

theorem Represents.subTasks_mono (hr : Represents base items itemNames tasks taskNames c s)
    (hsub : ∀ o ∈ s.heap.live, o ∈ h'.live) {t : ℕ} {task : TaskInstance}
    (hlive : (t, .task task) ∈ s.heap.live) :
    (∀ n ∈ task.transportationTask, ∃ k, (n, .transportationTask k) ∈ h'.live) ∧
      ∀ n ∈ task.navigationTask, ∃ k, (n, .navigationTask k) ∈ h'.live := by
  obtain ⟨htts, hnts⟩ := hr.subTasks t task hlive
  constructor
  · intro n hn
    obtain ⟨k, hk⟩ := htts n hn
    exact ⟨k, hsub _ hk⟩
  · intro n hn
    obtain ⟨k, hk⟩ := hnts n hn
    exact ⟨k, hsub _ hk⟩

theorem Represents.origin_mono (hr : Represents base items itemNames tasks taskNames c s)
    (hsub : ∀ o ∈ s.heap.live, o ∈ h'.live) {itemNames' taskNames' : List ℕ}
    (hitems : itemNames ⊆ itemNames') (htasks : taskNames ⊆ taskNames') {o : ℕ × Instance}
    (ho : o ∈ s.heap.live) :
    o.1 = dummyTask ∨
      base ≤ o.1 ∧ (o.1 ∈ s.items ++ itemNames' ∨ OfTasks h' (s.tasks ++ taskNames') o.1) := by
  have hadd : ∀ {l l' : List ℕ}, l ⊆ l' → ∀ inserted, inserted ++ l ⊆ inserted ++ l' :=
    fun hl inserted => List.append_subset.mpr
      ⟨List.subset_append_left .., List.subset_append_of_subset_right _ hl⟩
  rcases hr.origin o ho with hdummy | ⟨hbase, hitem | htask⟩
  · exact Or.inl hdummy
  · exact Or.inr ⟨hbase, Or.inl (hadd hitems _ hitem)⟩
  · exact Or.inr ⟨hbase, Or.inr (htask.mono hsub (hadd htasks _))⟩

/-- An item is made. -/
theorem Represents.makeItem (hr : Represents base items itemNames tasks taskNames c s)
    (item : Item) :
    Represents base (items ++ [item]) (itemNames ++ [s.heap.next]) tasks taskNames c
      { s with heap := s.heap.make (.item item) } := by
  have hsub : ∀ o ∈ s.heap.live, o ∈ (s.heap.make (.item item)).live :=
    fun o ho => Heap.mem_make.mpr (Or.inr ho)
  have hnew : (s.heap.next, .item item) ∈ (s.heap.make (.item item)).live :=
    Heap.mem_make.mpr (Or.inl rfl)
  refine
    { inventory := hr.inventory.imp fun _ _ hi => hsub _ hi
      taskInfo := hr.taskInfo.imp fun _ _ ht => ht.mono hsub
      itemsMade := ?_
      tasksMade := hr.tasksMade.imp fun _ _ ht => ht.mono hsub
      nextId_eq := hr.nextId_eq
      draws_eq := hr.draws_eq
      base_le := Nat.le_succ_of_le hr.base_le
      dummy_live := hsub _ hr.dummy_live
      dummy_notMem := hr.dummy_notMem
      subTasks := ?_
      origin := ?_ }
  · exact List.rel_append (hr.itemsMade.imp fun _ _ hi => hsub _ hi) (.cons hnew .nil)
  · intro t task hlive
    rcases Heap.mem_make.mp hlive with heq | hold
    · cases heq
    · exact hr.subTasks_mono hsub hold
  · intro o ho
    rcases Heap.mem_make.mp ho with rfl | hold
    · right
      refine ⟨hr.base_le, Or.inl ?_⟩
      simp
    · exact hr.origin_mono hsub (List.subset_append_left ..) (List.Subset.refl _) hold

/-- A task is made, after the one instance its slots name. -/
theorem Represents.makeTask (hr : Represents base items itemNames tasks taskNames c s)
    {sub : Instance} (hnotTask : sub.isTask = false) {k : TaskInstance} {task : Task}
    (htask : IsTask ((s.heap.make sub).make (.task k)) (s.heap.next + 1) task)
    (htts : ∀ n ∈ k.transportationTask, n = s.heap.next ∧ ∃ t, sub = .transportationTask t)
    (hnts : ∀ n ∈ k.navigationTask, n = s.heap.next ∧ ∃ t, sub = .navigationTask t)
    (hused : s.heap.next ∈ k.transportationTask ∨ s.heap.next ∈ k.navigationTask) :
    Represents base items itemNames (tasks ++ [task]) (taskNames ++ [s.heap.next + 1])
      { c with nextId := c.nextId + 1 }
      { s with heap := (s.heap.make sub).make (.task k), nextId := s.nextId + 1 } := by
  have hsub : ∀ o ∈ s.heap.live, o ∈ ((s.heap.make sub).make (.task k)).live :=
    fun o ho => Heap.mem_make.mpr (Or.inr (Heap.mem_make.mpr (Or.inr ho)))
  have hsubLive : (s.heap.next, sub) ∈ ((s.heap.make sub).make (.task k)).live :=
    Heap.mem_make.mpr (Or.inr (Heap.mem_make.mpr (Or.inl rfl)))
  have hnew : (s.heap.next + 1, .task k) ∈ ((s.heap.make sub).make (.task k)).live :=
    Heap.mem_make.mpr (Or.inl rfl)
  refine
    { inventory := hr.inventory.imp fun _ _ hi => hsub _ hi
      taskInfo := hr.taskInfo.imp fun _ _ ht => ht.mono hsub
      itemsMade := hr.itemsMade.imp fun _ _ hi => hsub _ hi
      tasksMade := ?_
      nextId_eq := congrArg Nat.succ hr.nextId_eq
      draws_eq := hr.draws_eq
      base_le := le_trans hr.base_le (Nat.le_add_right _ 2)
      dummy_live := hsub _ hr.dummy_live
      dummy_notMem := ?_
      subTasks := ?_
      origin := ?_ }
  · exact List.rel_append (hr.tasksMade.imp fun _ _ ht => ht.mono hsub) (.cons htask .nil)
  · rw [← List.append_assoc, List.mem_append, List.mem_singleton]
    rintro (hold | heq)
    · exact hr.dummy_notMem hold
    · cases heq
  · intro t task hlive
    rcases Heap.mem_make.mp hlive with heq | hold
    · obtain ⟨-, hk⟩ := Prod.mk.inj heq
      obtain rfl := Instance.task.inj hk
      constructor
      · intro n hn
        obtain ⟨rfl, k, rfl⟩ := htts n hn
        exact ⟨k, hsubLive⟩
      · intro n hn
        obtain ⟨rfl, k, rfl⟩ := hnts n hn
        exact ⟨k, hsubLive⟩
    · rcases Heap.mem_make.mp hold with heq | hold
      · obtain ⟨-, rfl⟩ := Prod.mk.inj heq
        cases hnotTask
      · exact hr.subTasks_mono hsub hold
  · have hlast : s.heap.next + 1 ∈ s.tasks ++ (taskNames ++ [s.heap.next + 1]) := by simp
    intro o ho
    rcases Heap.mem_make.mp ho with rfl | hold
    · exact Or.inr ⟨Nat.le_succ_of_le hr.base_le, Or.inr ⟨_, hlast, k, hnew, Or.inl rfl⟩⟩
    · rcases Heap.mem_make.mp hold with rfl | hold
      · exact Or.inr ⟨hr.base_le, Or.inr ⟨_, hlast, k, hnew, Or.inr hused⟩⟩
      · exact hr.origin_mono hsub (List.Subset.refl _) (List.subset_append_left ..) hold

/-! ### The parts of a `generate` handler -/

/-- The relation between content and store, with nothing left to insert. -/
abbrev Represents.all (base : ℕ) : Content → Store → Prop := Represents base [] [] [] []

theorem same_draw {α : Type} (x : StateM ℕ α) :
    Same (Represents base items itemNames tasks taskNames) (Generate.draw x) (draw x) := by
  intro c s hr
  have heq : x s.draws = x c.draws := by rw [hr.draws_eq]
  constructor
  · show (x c.draws).1 = (x s.draws).1
    rw [heq]
  · exact { hr with draws_eq := congrArg Prod.snd heq }

theorem same_pick {α : Type} [Inhabited α] (rand : ℕ → ℕ) (l : List α) :
    Same (Represents base items itemNames tasks taskNames) (AtWork.pick rand l) (pick rand l) :=
  same_draw _

theorem same_shuffle {α : Type} [Inhabited α] (rand : ℕ → ℕ) (l : List α) :
    Same (Represents base items itemNames tasks taskNames) (AtWork.shuffle rand l)
      (shuffle rand l) :=
  same_draw _

theorem same_loopForCount {σ : Type} {P : Content → Store → Prop} {body : ℕ → σ → Generate σ}
    {body' : ℕ → σ → Making σ} (h : ∀ k vars, Same P (body k vars) (body' k vars)) (n : ℕ)
    (vars : σ) : Same P (Generate.loopForCount n vars body) (loopForCount n vars body') :=
  Same.foldlM h _ vars

/-- Making items, where the content has nothing to do yet. -/
theorem related_makeItems (new : List Item) :
    Related (Represents base items itemNames tasks taskNames) (pure new) (new.mapM makeItem)
      fun is ns => Represents base (items ++ is) (itemNames ++ ns) tasks taskNames := by
  induction new generalizing items itemNames with
  | nil =>
      rw [List.mapM_nil]
      refine Related.pure fun c s hr => ?_
      rw [List.append_nil, List.append_nil]
      exact hr
  | cons item new ih =>
      intro c s hr
      rw [List.mapM_cons]
      have hmade := ih c { s with heap := s.heap.make (.item item) } (hr.makeItem item)
      simp only [List.append_assoc] at hmade
      exact hmade

/-- Items that are made are inserted at once. -/
theorem related_insertItems :
    Related (Represents base items itemNames tasks taskNames)
      (modify fun c => { c with items := items ++ c.items } : Generate Unit)
      (insertItems itemNames) fun _ _ => Represents base [] [] tasks taskNames := by
  intro c s hr
  refine { hr with
    inventory := List.rel_append hr.itemsMade hr.inventory
    itemsMade := .nil
    origin := ?_ }
  intro o ho
  rcases hr.origin o ho with hdummy | ⟨hbase, hitem | htask⟩
  · exact Or.inl hdummy
  · refine Or.inr ⟨hbase, Or.inl ?_⟩
    rw [List.append_nil]
    exact List.mem_append.mpr (List.mem_append.mp hitem).symm
  · exact Or.inr ⟨hbase, Or.inr htask⟩

theorem related_insertTasks :
    Related (Represents base items itemNames tasks taskNames)
      (modify fun c => { c with tasks := tasks ++ c.tasks } : Generate Unit)
      (insertTasks taskNames) fun _ _ => Represents base items itemNames [] [] := by
  intro c s hr
  have hswap : ∀ n, n ∈ s.tasks ++ taskNames ↔ n ∈ (taskNames ++ s.tasks) ++ [] := by
    intro n
    rw [List.append_nil, List.mem_append, List.mem_append, or_comm]
  refine { hr with
    taskInfo := List.rel_append hr.tasksMade hr.taskInfo
    tasksMade := .nil
    dummy_notMem := fun hmem => hr.dummy_notMem ((hswap _).mpr hmem)
    origin := ?_ }
  intro o ho
  rcases hr.origin o ho with hdummy | ⟨hbase, hitem | htask⟩
  · exact Or.inl hdummy
  · exact Or.inr ⟨hbase, Or.inl hitem⟩
  · exact Or.inr ⟨hbase, Or.inr (htask.mono (fun _ h => h) fun t ht => (hswap t).mp ht)⟩

theorem related_offerTransportation (objectId : ObjectId) (sourceId destinationId : LocationId)
    (containerId : Option ObjectId) :
    Related (Represents base items itemNames tasks taskNames)
      (Generate.offerTransportation objectId sourceId destinationId containerId)
      (offerTransportation objectId sourceId destinationId containerId)
      fun t n => Represents base items itemNames (tasks ++ [t]) (taskNames ++ [n]) := by
  intro c s hr
  apply hr.makeTask rfl
  · refine ⟨[s.heap.next], [], Heap.mem_make.mpr (Or.inl ?_), .cons ?_ .nil, .nil⟩
    · exact congrArg (fun id => (s.heap.next + 1, Instance.task
        { id, taskType := .transportation, transportationTask := [s.heap.next] })) hr.nextId_eq.symm
    · exact Heap.mem_make.mpr (Or.inr (Heap.mem_make.mpr (Or.inl rfl)))
  · intro n hn
    exact ⟨List.mem_singleton.mp hn, _, rfl⟩
  · intro n hn
    cases hn
  · exact Or.inl (List.mem_singleton.mpr rfl)

theorem related_offerNavigation (locationId : LocationId) (waitTime : Int)
    (orientation : Orientation) :
    Related (Represents base items itemNames tasks taskNames)
      (Generate.offerNavigation locationId waitTime orientation)
      (offerNavigation locationId waitTime orientation)
      fun t n => Represents base items itemNames (tasks ++ [t]) (taskNames ++ [n]) := by
  intro c s hr
  apply hr.makeTask rfl
  · refine ⟨[], [s.heap.next], Heap.mem_make.mpr (Or.inl ?_), .nil, .cons ?_ .nil⟩
    · exact congrArg (fun id => (s.heap.next + 1, Instance.task
        { id, taskType := .navigation, navigationTask := [s.heap.next] })) hr.nextId_eq.symm
    · exact Heap.mem_make.mpr (Or.inr (Heap.mem_make.mpr (Or.inl rfl)))
  · intro n hn
    cases hn
  · intro n hn
    exact ⟨List.mem_singleton.mp hn, _, rfl⟩
  · exact Or.inr (List.mem_singleton.mpr rfl)

theorem same_insertItem (item : Item) :
    Same (Represents.all base) (Generate.insertItem item) (insertItem item) :=
  fun c _ hr => ⟨rfl, related_insertItems c _ (hr.makeItem item)⟩

/-- A task is made and inserted. -/
theorem same_insertTask {x : Generate Task} {y : Making ℕ}
    (hxy : Related (Represents.all base) x y fun t n => Represents base [] [] [t] [n]) :
    Same (Represents.all base) (x >>= fun t => Generate.insertTask t)
      (y >>= fun n => insertTasks [n]) :=
  fun c s hr => ⟨rfl, related_insertTasks _ _ (hxy c s hr)⟩

/-- A task is made and inserted, and more is to come. -/
theorem same_insertTask_bind {α : Type} {x : Generate Task} {y : Making ℕ} {f : Unit → Generate α}
    {g : Unit → Making α}
    (hxy : Related (Represents.all base) x y fun t n => Represents base [] [] [t] [n])
    (hf : Same (Represents.all base) (f ()) (g ())) :
    Same (Represents.all base) (x >>= fun t => Generate.insertTask t >>= f)
      (y >>= fun n => insertTasks [n] >>= g) :=
  fun c s hr => hf _ _ (same_insertTask hxy c s hr).2

/-! ### The handlers -/

variable (rand : ℕ → ℕ)

theorem same_drawLocations (n : ℕ) (pool : List LocationId) :
    Same (Represents base items itemNames tasks taskNames) (AtWork.drawLocations rand n pool)
      (drawLocations rand n pool) := by
  refine same_loopForCount ?_ n _
  rintro _ ⟨drawn, pool⟩
  exact Same.bind (same_pick rand pool) fun _ => Same.pure _

theorem same_drawObjects (n : ℕ) (pool : List ObjectId) :
    Same (Represents base items itemNames tasks taskNames) (AtWork.drawObjects rand n pool)
      (drawObjects rand n pool) :=
  same_loopForCount (fun _ _ => Same.bind (same_pick rand pool) fun _ => Same.pure _) n _

theorem same_basicNavigationTest1 :
    Same (Represents.all base) (AtWork.BasicNavigationTest1.generate rand)
      (BasicNavigationTest1.generate rand) := by
  refine Same.bind (same_loopForCount ?_ 9 _) fun _ => Same.pure _
  intro _ locations
  refine Same.bind (same_pick rand locations) fun location => ?_
  refine Same.bind (same_pick rand _) fun orientation => ?_
  exact same_insertTask_bind (related_offerNavigation location 3 orientation) (Same.pure _)

/-- Objects of one list are to be taken from one place to another. -/
theorem same_transport_object (objects : List ObjectId) (source destination : LocationId) :
    Same (Represents.all base)
      (do
        let item ← AtWork.pick rand objects
        Generate.insertItem { objectId := item, locationId := some source }
        Generate.insertTask (← Generate.offerTransportation item source destination))
      (do
        let item ← pick rand objects
        insertItem { objectId := item, locationId := some source }
        insertTasks [← offerTransportation item source destination]) := by
  refine Same.bind (same_pick rand objects) fun item => ?_
  refine Same.bind (same_insertItem _) fun _ => ?_
  exact same_insertTask (related_offerTransportation item source destination none)

theorem same_basicManipulationTest1 :
    Same (Represents.all base) (AtWork.BasicManipulationTest1.generate rand)
      (BasicManipulationTest1.generate rand) := by
  refine Same.bind (same_loopForCount (fun _ _ => ?_) 3 _) fun _ => ?_
  · exact same_transport_object rand robocupObjects _ _
  · exact same_loopForCount (fun _ _ => same_transport_object rand rockinObjects _ _) 2 _

/-- Decoys come last. -/
theorem same_decoys (n : ℕ) (decoys : List ObjectId) (sources : List LocationId) :
    Same (Represents.all base)
      (Generate.loopForCount n () fun counter _ => do
        let item ← AtWork.pick rand decoys
        Generate.insertItem
          { objectId := item, locationId := some (Generate.inTurn counter sources) })
      (loopForCount n () fun counter _ => do
        let item ← pick rand decoys
        insertItem { objectId := item, locationId := some (Generate.inTurn counter sources) }) :=
  same_loopForCount
    (fun _ _ => Same.bind (same_pick rand decoys) fun _ => same_insertItem _) n _

theorem same_basicTransportationTest1 :
    Same (Represents.all base) (AtWork.BasicTransportationTest1.generate rand)
      (BasicTransportationTest1.generate rand) := by
  refine Same.bind (same_drawLocations rand 2 _) ?_
  rintro ⟨sources, workstations⟩
  refine Same.bind (same_loopForCount ?_ 5 _) fun decoys => same_decoys rand 3 decoys sources
  intro counter decoys
  refine Same.bind (same_pick rand _) fun item => ?_
  refine Same.bind (same_insertItem _) fun _ => ?_
  refine Same.bind (same_pick rand workstations) fun destination => ?_
  exact same_insertTask_bind (related_offerTransportation item _ destination none) (Same.pure _)

theorem same_transport (last : ℕ) (objects : List ObjectId) (sources destinations : List LocationId) :
    Same (Represents.all base) (AtWork.transport rand last objects sources destinations)
      (transport rand last objects sources destinations) := by
  refine Same.bind (same_loopForCount ?_ last _) fun _ => ?_
  · intro counter _
    refine Same.bind (same_insertItem _) fun _ => ?_
    split
    · exact same_insertTask (related_offerTransportation _ _ _ none)
    · refine same_insertTask_bind (related_offerTransportation _ _ _ (some .containerR)) ?_
      refine Same.bind (same_insertItem _) fun _ => ?_
      exact same_insertTask (related_offerTransportation _ _ _ (some .containerB))
  · refine Same.bind (same_pick rand _) fun destination => ?_
    refine Same.bind (same_insertItem _) fun _ => ?_
    exact same_insertTask (related_offerTransportation _ _ destination none)

theorem same_basicTransportationTest2 :
    Same (Represents.all base) (AtWork.BasicTransportationTest2.generate rand)
      (BasicTransportationTest2.generate rand) := by
  refine Same.bind (same_drawObjects rand 2 _) fun robocup => ?_
  refine Same.bind (same_drawObjects rand 3 _) fun rockin => ?_
  refine Same.bind (same_shuffle rand _) fun objects => ?_
  refine Same.bind (same_drawLocations rand 2 _) ?_
  rintro ⟨sources, workstations⟩
  refine Same.bind (same_pick rand _) fun shelf => ?_
  refine Same.bind (same_drawLocations rand 2 _) ?_
  rintro ⟨drawn, _⟩
  refine Same.bind (same_shuffle rand _) fun destinations => ?_
  exact same_transport rand 3 objects sources destinations

theorem same_basicTransportationTest3 :
    Same (Represents.all base) (AtWork.BasicTransportationTest3.generate rand)
      (BasicTransportationTest3.generate rand) := by
  refine Same.bind (same_drawObjects rand 4 _) fun robocup => ?_
  refine Same.bind (same_drawObjects rand 3 _) fun rockin => ?_
  refine Same.bind (same_shuffle rand _) fun objects => ?_
  -- sources
  iterate 4 refine Same.bind (same_pick rand _) fun _ => ?_
  refine Same.bind (same_shuffle rand _) fun sources => ?_
  -- destinations
  iterate 4 refine Same.bind (same_pick rand _) fun _ => ?_
  refine Same.bind (same_shuffle rand _) fun destinations => ?_
  refine Same.bind (same_transport rand 5 objects sources destinations) fun _ => ?_
  exact same_decoys rand 3 _ sources

theorem same_threeObjects (source destination : LocationId) :
    Same (Represents.all base) (AtWork.threeObjects rand source destination)
      (threeObjects rand source destination) := by
  refine Same.bind (same_loopForCount ?_ 3 _) fun _ => Same.pure _
  intro _ objects
  refine Same.bind (same_pick rand objects) fun item => ?_
  refine Same.bind (same_insertItem _) fun _ => ?_
  exact same_insertTask_bind (related_offerTransportation item source destination none)
    (Same.pure _)

theorem same_precisionPlacementTest1 :
    Same (Represents.all base) (AtWork.PrecisionPlacementTest1.generate rand)
      (PrecisionPlacementTest1.generate rand) := by
  refine Same.bind (same_pick rand _) fun source => ?_
  refine Same.bind (same_pick rand _) fun destination => ?_
  exact same_threeObjects rand source destination

/-- The decoys of the finals are made one by one, and inserted later. -/
theorem related_finalDecoys (decoys : List ObjectId) (sources : List LocationId) :
    Related (Represents base items itemNames [] [])
      (Generate.loopForCount 5 ([] : List Item) fun _ drawn => do
        let objectId ← AtWork.pick rand decoys
        let locationId ← AtWork.pick rand sources
        return drawn ++ [{ objectId, locationId := some locationId }])
      (loopForCount 5 ([] : List ℕ) fun _ drawn => do
        let objectId ← pick rand decoys
        let locationId ← pick rand sources
        let decoy ← makeItem { objectId, locationId := some locationId }
        return drawn ++ [decoy])
      fun is ns => Represents base (items ++ is) (itemNames ++ ns) [] [] := by
  have hloop := Related.foldlM
    (I := fun is ns => Represents base (items ++ is) (itemNames ++ ns) [] [])
    (f := fun (drawn : List Item) (_ : ℕ) => do
      let objectId ← AtWork.pick rand decoys
      let locationId ← AtWork.pick rand sources
      return drawn ++ [{ objectId, locationId := some locationId }])
    (g := fun (drawn : List ℕ) (_ : ℕ) => do
      let objectId ← pick rand decoys
      let locationId ← pick rand sources
      let decoy ← makeItem { objectId, locationId := some locationId }
      return drawn ++ [decoy]) ?_ (List.range' 1 5) [] []
  · simp only [List.append_nil] at hloop
    exact hloop
  · intro _ is ns
    refine (same_pick rand decoys).bind_related fun objectId => ?_
    refine (same_pick rand sources).bind_related fun locationId => ?_
    intro c s hr
    have hmade := hr.makeItem { objectId, locationId := some locationId }
    rw [List.append_assoc, List.append_assoc] at hmade
    exact hmade

theorem same_atWorkFinal2016 :
    Same (Represents.all base) (AtWork.AtWorkFinal2016.generate rand)
      (AtWorkFinal2016.generate rand) := by
  refine Same.bind (same_drawObjects rand 4 _) fun robocup => ?_
  refine Same.bind (same_drawObjects rand 5 _) fun rockin => ?_
  refine Same.bind (same_pick rand _) fun item1 => ?_
  refine Same.bind (same_shuffle rand _) fun objects => ?_
  -- sources
  iterate 7 refine Same.bind (same_pick rand _) fun _ => ?_
  refine Same.bind (same_shuffle rand _) fun sources => ?_
  -- destinations
  iterate 7 refine Same.bind (same_pick rand _) fun _ => ?_
  refine Same.bind (same_shuffle rand _) fun destinations => ?_
  refine Same.bind (same_drawObjects rand 5 _) fun _ => ?_
  -- items
  refine Related.bind_right (related_makeItems _) fun placed => ?_
  refine Related.bind (related_finalDecoys rand _ _) fun decoys decoyNames => ?_
  refine Related.bind_right (related_makeItems _) fun containers => ?_
  refine Related.bind related_insertItems fun _ _ => ?_
  -- tasks
  refine Related.bind (Related.mapM_id (I := fun ts ns => Represents base [] [] ts ns) ?_ [] [])
    fun ts ns => ?_
  · iterate 10 refine .cons (fun _ _ => related_offerTransportation _ _ _ _) ?_
    exact .nil
  · exact related_insertTasks.mono (fun _ _ h => h) fun _ _ _ _ h => ⟨rfl, h⟩

/-- `generate` makes an instance for all it adds to the content, and nothing else. -/
theorem generate_same (scenario : Scenario) :
    Same (Represents.all base) (scenario.generate rand) (generate rand scenario) := by
  cases scenario with
  | none => exact Same.pure ()
  | bnt1 => exact same_basicNavigationTest1 rand
  | bmt1 => exact same_basicManipulationTest1 rand
  | btt1 => exact same_basicTransportationTest1 rand
  | btt2 => exact same_basicTransportationTest2 rand
  | btt3 => exact same_basicTransportationTest3 rand
  | ppt1 => exact same_precisionPlacementTest1 rand
  | cbt1 => exact same_threeObjects rand _ _
  | cbt2 => exact same_threeObjects rand _ _
  | awf1 => exact same_atWorkFinal2016 rand

end

/-! ## Fewer instances -/

/-- The instances with certain names are gone, and nothing else has changed; the shared slot keeps
its value as long as the dummy task lives. -/
structure Deleted (gone : ℕ → Prop) (s s' : Store) : Prop where
  live : ∀ o, o ∈ s'.heap.live ↔ o ∈ s.heap.live ∧ ¬ gone o.1
  next_eq : s'.heap.next = s.heap.next
  items_eq : s'.items = s.items
  tasks_eq : s'.tasks = s.tasks
  draws_eq : s'.draws = s.draws
  nextId_eq : (dummyTask, .task { id := 0 }) ∈ s'.heap.live → s'.nextId = s.nextId

section

variable {gone gone' : ℕ → Prop} {s s' s'' : Store} {name : ℕ}

theorem Deleted.congr (h : Deleted gone s s')
    (heq : ∀ o ∈ s.heap.live, gone o.1 ↔ gone' o.1) : Deleted gone' s s' := by
  refine { h with live := fun o => ?_ }
  rw [h.live o]
  constructor
  · rintro ⟨ho, hgone⟩
    exact ⟨ho, fun h => hgone ((heq o ho).mpr h)⟩
  · rintro ⟨ho, hgone⟩
    exact ⟨ho, fun h => hgone ((heq o ho).mp h)⟩

theorem Deleted.none (s : Store) : Deleted (fun _ => False) s s where
  live := fun _ => ⟨fun h => ⟨h, id⟩, And.left⟩
  next_eq := rfl
  items_eq := rfl
  tasks_eq := rfl
  draws_eq := rfl
  nextId_eq := fun _ => rfl

theorem Deleted.trans (h : Deleted gone s s') (h' : Deleted gone' s' s'') :
    Deleted (fun n => gone n ∨ gone' n) s s'' where
  live := by
    intro o
    rw [h'.live, h.live, not_or, and_assoc]
  next_eq := h'.next_eq.trans h.next_eq
  items_eq := h'.items_eq.trans h.items_eq
  tasks_eq := h'.tasks_eq.trans h.tasks_eq
  draws_eq := h'.draws_eq.trans h.draws_eq
  nextId_eq := by
    intro hdummy
    exact (h'.nextId_eq hdummy).trans (h.nextId_eq ((h'.live _).mp hdummy).1)

theorem unmake_deleted (s : Store) (name : ℕ) : Deleted (· = name) s (s.unmake name) where
  live := fun _ => Heap.mem_unmake
  next_eq := rfl
  items_eq := rfl
  tasks_eq := rfl
  draws_eq := rfl
  nextId_eq := by
    intro hdummy
    have htask : ((s.heap.unmake name).live.any fun o => o.2.isTask) = true :=
      List.any_eq_true.mpr ⟨_, hdummy, rfl⟩
    exact if_pos htask

theorem foldl_unmake_deleted (names : List ℕ) (s : Store) :
    Deleted (· ∈ names) s (names.foldl Store.unmake s) := by
  induction names generalizing s with
  | nil => exact (Deleted.none s).congr fun _ _ => by simp
  | cons name names ih =>
      refine ((unmake_deleted s name).trans (ih (s.unmake name))).congr fun _ _ => ?_
      exact List.mem_cons.symm

/-- The slots of one task change, and all that has another name stays. -/
theorem mem_modifyTask {f : TaskInstance → TaskInstance} {o : ℕ × Instance} (hne : o.1 ≠ name) :
    o ∈ (s.modifyTask name f).heap.live ↔ o ∈ s.heap.live := by
  rw [Store.modifyTask, Heap.mem_map]
  constructor
  · rintro ⟨i, hlive, heq⟩
    cases i with
    | task task =>
        dsimp only at heq
        rw [if_neg hne] at heq
        rw [heq] at hlive
        exact hlive
    | _ =>
        dsimp only at heq
        rw [heq] at hlive
        exact hlive
  · intro hlive
    refine ⟨o.2, hlive, ?_⟩
    cases o.2 with
    | task task => exact if_neg hne
    | _ => rfl

/-- A task goes with its sub-tasks. -/
theorem cleanupTask_deleted {task : TaskInstance} (hlive : (name, .task task) ∈ s.heap.live) :
    Deleted (fun n => n = name ∨ n ∈ task.transportationTask ∨ n ∈ task.navigationTask) s
      (s.cleanupTask name) := by
  have hget : s.heap.get? name = some (.task task) := Heap.get?_eq_some_iff.mpr hlive
  rw [Store.cleanupTask, hget]
  dsimp only
  have htts := foldl_unmake_deleted task.transportationTask s
  set s₁ := task.transportationTask.foldl Store.unmake s
  set s₂ := s₁.modifyTask name fun task => { task with transportationTask := [] }
  have hnts := foldl_unmake_deleted task.navigationTask s₂
  set s₃ := task.navigationTask.foldl Store.unmake s₂
  set s₄ := s₃.modifyTask name fun task => { task with navigationTask := [] }
  have hname := unmake_deleted s₄ name
  have hlive₁ : ∀ o : ℕ × Instance, o.1 ≠ name → (o ∈ s₃.heap.live ↔
      o ∈ s₁.heap.live ∧ o.1 ∉ task.navigationTask) := by
    intro o hne
    rw [hnts.live, mem_modifyTask hne]
  have hlive₃ : ∀ o, o ∈ (s₄.unmake name).heap.live ↔ o ∈ s₃.heap.live ∧ o.1 ≠ name := by
    intro o
    rw [hname.live]
    constructor
    · rintro ⟨ho, hne⟩
      exact ⟨(mem_modifyTask hne).mp ho, hne⟩
    · rintro ⟨ho, hne⟩
      exact ⟨(mem_modifyTask hne).mpr ho, hne⟩
  refine
    { live := fun o => ?_
      next_eq := hname.next_eq.trans (hnts.next_eq.trans htts.next_eq)
      items_eq := hname.items_eq.trans (hnts.items_eq.trans htts.items_eq)
      tasks_eq := hname.tasks_eq.trans (hnts.tasks_eq.trans htts.tasks_eq)
      draws_eq := hname.draws_eq.trans (hnts.draws_eq.trans htts.draws_eq)
      nextId_eq := fun hdummy => ?_ }
  · rw [hlive₃, not_or, not_or]
    constructor
    · rintro ⟨ho, hne⟩
      obtain ⟨ho₁, hnt⟩ := (hlive₁ o hne).mp ho
      obtain ⟨hos, htt⟩ := (htts.live o).mp ho₁
      exact ⟨hos, hne, htt, hnt⟩
    · rintro ⟨hos, hne, htt, hnt⟩
      exact ⟨(hlive₁ o hne).mpr ⟨(htts.live o).mpr ⟨hos, htt⟩, hnt⟩, hne⟩
  · -- the dummy task lives all along
    obtain ⟨hdummy₃, hne⟩ := (hlive₃ _).mp hdummy
    have hdummy₁ := ((hlive₁ _ hne).mp hdummy₃).1
    exact (hname.nextId_eq hdummy).trans ((hnts.nextId_eq hdummy₃).trans (htts.nextId_eq hdummy₁))

/-- A name that stands for no live task is passed over. -/
theorem cleanupTask_of_dead (hdead : ∀ task, (name, .task task) ∉ s.heap.live) :
    s.cleanupTask name = s := by
  unfold Store.cleanupTask
  split
  · next task hget => exact absurd (Heap.get?_eq_some_iff.mp hget) (hdead task)
  · rfl

/-- The tasks of a list go with their sub-tasks, if no sub-task is a task. -/
theorem foldl_cleanupTask_deleted (names : List ℕ) (s : Store)
    (hsub : ∀ t task, (t, .task task) ∈ s.heap.live →
      ∀ n, n ∈ task.transportationTask ∨ n ∈ task.navigationTask →
        ∀ other, (n, .task other) ∉ s.heap.live) :
    Deleted (OfTasks s.heap names) s (names.foldl Store.cleanupTask s) := by
  induction names generalizing s with
  | nil =>
      refine (Deleted.none s).congr fun o _ => ?_
      constructor
      · exact False.elim
      · rintro ⟨t, ht, -⟩
        cases ht
  | cons name names ih =>
      by_cases halive : ∃ task, (name, .task task) ∈ s.heap.live
      · obtain ⟨task, hlive⟩ := halive
        have hfirst := cleanupTask_deleted hlive
        have hfewer : ∀ o, o ∈ (s.cleanupTask name).heap.live → o ∈ s.heap.live :=
          fun o ho => ((hfirst.live o).mp ho).1
        have hrest := ih (s.cleanupTask name) fun t k ht n hn other hother =>
          hsub t k (hfewer _ ht) n hn other (hfewer _ hother)
        refine (hfirst.trans hrest).congr fun o ho => ?_
        constructor
        · rintro (hn | ⟨t, ht, k, hk, hn⟩)
          · exact ⟨name, List.mem_cons_self .., task, hlive, hn⟩
          · exact ⟨t, List.mem_cons_of_mem _ ht, k, hfewer _ hk, hn⟩
        · rintro ⟨t, ht, k, hk, hn⟩
          by_cases hsame : t = name
          · subst hsame
            obtain rfl := Instance.task.inj (Heap.eq_of_mem hk hlive)
            exact Or.inl hn
          · -- a later task, which is no sub-task of the first one
            have hmem : t ∈ names := (List.mem_cons.mp ht).resolve_left hsame
            refine Or.inr ⟨t, hmem, k, (hfirst.live _).mpr ⟨hk, ?_⟩, hn⟩
            rintro (heq | hsubTask)
            · exact hsame heq
            · exact hsub name task hlive t hsubTask k hk
      · rw [not_exists] at halive
        show Deleted _ s (names.foldl Store.cleanupTask (s.cleanupTask name))
        rw [cleanupTask_of_dead halive]
        refine (ih s hsub).congr fun o _ => ?_
        constructor
        · rintro ⟨t, ht, k, hk, hn⟩
          exact ⟨t, List.mem_cons_of_mem _ ht, k, hk, hn⟩
        · rintro ⟨t, ht, k, hk, hn⟩
          rcases List.mem_cons.mp ht with rfl | ht
          · exact absurd hk (halive k)
          · exact ⟨t, ht, k, hk, hn⟩

theorem exists_of_mem_left {α β : Type} {R : α → β → Prop} {as : List α} {bs : List β}
    (h : List.Forall₂ R as bs) {a : α} (ha : a ∈ as) : ∃ b ∈ bs, R a b := by
  induction h with
  | nil => cases ha
  | cons hab _ ih =>
      rcases List.mem_cons.mp ha with rfl | ha
      · exact ⟨_, List.mem_cons_self .., hab⟩
      · obtain ⟨b, hb, hr⟩ := ih ha
        exact ⟨b, List.mem_cons_of_mem _ hb, hr⟩

variable {base : ℕ} {c : Content}

/-- The instances of the slots, all of them of the right class. -/
theorem Represents.item_of_mem (hr : Represents.all base c s) {n : ℕ} (hn : n ∈ s.items) :
    ∃ item, (n, .item item) ∈ s.heap.live := by
  obtain ⟨item, -, hitem⟩ := exists_of_mem_left hr.inventory hn
  exact ⟨item, hitem⟩

theorem Represents.task_of_mem (hr : Represents.all base c s) {n : ℕ} (hn : n ∈ s.tasks) :
    n ≠ dummyTask ∧ ∃ task, (n, .task task) ∈ s.heap.live := by
  obtain ⟨task, -, tts, nts, hlive, -⟩ := exists_of_mem_left hr.taskInfo hn
  refine ⟨?_, _, hlive⟩
  rintro rfl
  exact hr.dummy_notMem (List.mem_append_left _ hn)

/-- A sub-task is no task. -/
theorem Represents.subTask_ne_task (hr : Represents.all base c s) {t n : ℕ} {task : TaskInstance}
    (ht : (t, .task task) ∈ s.heap.live)
    (hn : n ∈ task.transportationTask ∨ n ∈ task.navigationTask) (other : TaskInstance) :
    (n, .task other) ∉ s.heap.live := by
  intro hother
  obtain ⟨htts, hnts⟩ := hr.subTasks t task ht
  rcases hn with hn | hn
  · obtain ⟨k, hk⟩ := htts n hn
    cases Heap.eq_of_mem hk hother
  · obtain ⟨k, hk⟩ := hnts n hn
    cases Heap.eq_of_mem hk hother

/-- When the items are gone, the slots reach what is left but for the dummy task. -/
theorem Represents.ofSlots_iff (hr : Represents.all base c s)
    (hlive : ∀ o, o ∈ h.live ↔ o ∈ s.heap.live ∧ o.1 ∉ s.items) {o : ℕ × Instance}
    (ho : o ∈ s.heap.live) : (o.1 ∈ s.items ∨ OfTasks h s.tasks o.1) ↔ o.1 ≠ dummyTask := by
  constructor
  · rintro (hitem | ⟨t, ht, task, htask, hn⟩) hdummy
    · obtain ⟨item, hi⟩ := hr.item_of_mem hitem
      rw [hdummy] at hi
      cases Heap.eq_of_mem hi hr.dummy_live
    · have hs := ((hlive _).mp htask).1
      rcases hn with rfl | hn
      · exact (hr.task_of_mem ht).1 hdummy
      · exact hr.subTask_ne_task hs (hdummy ▸ hn) _ hr.dummy_live
  · intro hne
    rcases (hr.origin o ho).resolve_left hne with ⟨-, hitem | ⟨t, ht, task, htask, hn⟩⟩
    · rw [List.append_nil] at hitem
      exact Or.inl hitem
    · rw [List.append_nil] at ht
      refine Or.inr ⟨t, ht, task, (hlive _).mpr ⟨htask, ?_⟩, hn⟩
      intro hitem
      obtain ⟨item, hi⟩ := hr.item_of_mem hitem
      cases Heap.eq_of_mem hi htask

/-- Only the dummy task is left. -/
theorem Represents.cleanup_live (hr : Represents.all base c s) :
    Deleted (· ≠ dummyTask) s { s.cleanup with items := s.items, tasks := s.tasks } ∧
      s.cleanup.items = [] := by
  have hitems := foldl_unmake_deleted s.items s
  set s₁ : Store := { s.items.foldl Store.unmake s with items := [] }
  have hlive₁ : ∀ o, o ∈ s₁.heap.live ↔ o ∈ s.heap.live ∧ o.1 ∉ s.items := hitems.live
  have hsub : ∀ t task, (t, .task task) ∈ s₁.heap.live →
      ∀ n, n ∈ task.transportationTask ∨ n ∈ task.navigationTask →
        ∀ other, (n, .task other) ∉ s₁.heap.live := by
    intro t task ht n hn other hother
    exact hr.subTask_ne_task ((hlive₁ _).mp ht).1 hn other ((hlive₁ _).mp hother).1
  have htasks := foldl_cleanupTask_deleted s.tasks s₁ hsub
  have heq : s.cleanup = { s.tasks.foldl Store.cleanupTask s₁ with tasks := [] } := by
    show { s₁.tasks.foldl Store.cleanupTask s₁ with tasks := [] } = _
    have hsame : s₁.tasks = s.tasks := hitems.tasks_eq
    rw [hsame]
  have hboth : Deleted (fun n => n ∈ s.items ∨ OfTasks s₁.heap s.tasks n) s
      { s.cleanup with items := s.items, tasks := s.tasks } := by
    rw [heq]
    refine
      { live := fun o => ?_
        next_eq := htasks.next_eq.trans hitems.next_eq
        items_eq := rfl
        tasks_eq := rfl
        draws_eq := htasks.draws_eq.trans hitems.draws_eq
        nextId_eq := fun hdummy => ?_ }
    · rw [htasks.live, hlive₁, not_or, and_assoc]
    · have hdummy₁ := ((htasks.live _).mp hdummy).1
      exact (htasks.nextId_eq hdummy).trans (hitems.nextId_eq hdummy₁)
  refine ⟨hboth.congr fun o ho => hr.ofSlots_iff hlive₁ ho, ?_⟩
  rw [heq]
  exact htasks.items_eq

/-- After a cleanup, nothing is left to represent. -/
theorem Represents.cleanup (hr : Represents.all base c s) :
    Represents.all s.heap.next { c with items := [], tasks := [] } s.cleanup ∧
      s.cleanup.heap.next = s.heap.next := by
  obtain ⟨hdeleted, hitems⟩ := hr.cleanup_live
  have hdummy : (dummyTask, .task { id := 0 }) ∈ s.cleanup.heap.live :=
    (hdeleted.live _).mpr ⟨hr.dummy_live, fun h => h rfl⟩
  have honly : ∀ o ∈ s.cleanup.heap.live, o.1 = dummyTask :=
    fun o ho => not_not.mp ((hdeleted.live o).mp ho).2
  refine
    ⟨{ inventory := by
         rw [hitems]
         exact .nil
       taskInfo := .nil
       itemsMade := .nil
       tasksMade := .nil
       nextId_eq := (hdeleted.nextId_eq hdummy).trans hr.nextId_eq
       draws_eq := hdeleted.draws_eq.trans hr.draws_eq
       base_le := hdeleted.next_eq.ge
       dummy_live := hdummy
       dummy_notMem := List.not_mem_nil
       subTasks := ?_
       origin := fun o ho => Or.inl (honly o ho) }, hdeleted.next_eq⟩
  intro t task ht
  obtain rfl : t = dummyTask := honly _ ht
  obtain rfl := Instance.task.inj (Heap.eq_of_mem ht hdummy)
  constructor
  · intro n hn
    cases hn
  · intro n hn
    cases hn

end

/-! ## Runs -/

/-- The input makes the benchmark call `generate`: SHUFFLE does, and RESET when another scenario is
requested than the current one. -/
def Generates (b : LiveBenchmark) : Input → Prop
  | .setBenchmarkTransitionEvent .shuffle => True
  | .setBenchmarkTransitionEvent .reset =>
      b.benchmark.currentScenario ≠ b.benchmark.requestedScenario
  | _ => False

instance (b : LiveBenchmark) (i : Input) : Decidable (Generates b i) := by
  unfold Generates
  split <;> infer_instance

/-- The newest step of a record that calls `generate`. -/
def lastGenerate : List (Step LiveBenchmark Input) → Option (Step LiveBenchmark Input)
  | [] => none
  | t :: earlier => if Generates t.pre t.label then some t else lastGenerate earlier

section

variable {clock : Clock} {rand : ℕ → ℕ} {b : LiveBenchmark} {i : Input} {base : ℕ}

/-- `generate` comes after `cleanup`, and is that of the scenario that is current then. -/
theorem step_of_generates (clock : Clock) (rand : ℕ → ℕ) (h : Generates b i) :
    let b' := b.step clock rand i
    b'.store = b.store.cleanup.generate rand b'.benchmark.currentScenario ∧
      b'.benchmark.content = ((b'.benchmark.currentScenario.generate rand).run
        { b.benchmark.content with items := [], tasks := [] }).2 := by
  cases i with
  | setBenchmarkTransitionEvent event =>
      cases event with
      | shuffle => exact ⟨rfl, rfl⟩
      | reset =>
          have hne : b.benchmark.currentScenario ≠ b.benchmark.requestedScenario := h
          have hbenchmark : (b.step clock rand (.setBenchmarkTransitionEvent .reset)).benchmark =
              (Benchmark.generate rand (Benchmark.cleanup { b.benchmark with
                currentScenario := b.benchmark.requestedScenario })).setup := if_pos hne
          dsimp only
          rw [hbenchmark]
          exact ⟨if_pos hne, rfl⟩
      | _ => exact h.elim
  | _ => exact h.elim

/-- All other inputs leave items and tasks alone, and the scenario. -/
theorem step_of_not_generates (clock : Clock) (rand : ℕ → ℕ) (h : ¬ Generates b i) :
    let b' := b.step clock rand i
    b'.store = b.store ∧ b'.benchmark.content = b.benchmark.content ∧
      b'.benchmark.currentScenario = b.benchmark.currentScenario := by
  cases i with
  | setBenchmarkScenario type typeId =>
      have hbenchmark : (b.step clock rand (.setBenchmarkScenario type typeId)).benchmark =
          b.benchmark.requestScenario type typeId := rfl
      dsimp only
      rw [hbenchmark]
      refine ⟨rfl, ?_⟩
      unfold Benchmark.requestScenario
      split
      · exact ⟨rfl, rfl⟩
      · exact ⟨rfl, rfl⟩
  | tick => exact ⟨rfl, rfl, rfl⟩
  | setBenchmarkTransitionEvent event =>
      cases event with
      | shuffle => exact absurd trivial h
      | reset =>
          have hbenchmark : (b.step clock rand (.setBenchmarkTransitionEvent .reset)).benchmark =
              b.benchmark.setup := if_neg h
          dsimp only
          rw [hbenchmark]
          exact ⟨if_neg h, rfl, rfl⟩
      | _ => exact ⟨rfl, rfl, rfl⟩

theorem represents_of_generates
    (hr : Represents.all base b.benchmark.content b.store) (h : Generates b i) :
    Represents.all b.store.heap.next (b.step clock rand i).benchmark.content
      (b.step clock rand i).store := by
  obtain ⟨hstore, hcontent⟩ := step_of_generates clock rand h
  rw [hstore, hcontent]
  exact (generate_same rand _ _ _ hr.cleanup.1).2

theorem represents_start : Represents.all 0 LiveBenchmark.start.benchmark.content Store.start where
  inventory := .nil
  taskInfo := .nil
  itemsMade := .nil
  tasksMade := .nil
  nextId_eq := rfl
  draws_eq := rfl
  base_le := Nat.zero_le _
  dummy_live := Heap.mem_make.mpr (Or.inl rfl)
  dummy_notMem := List.not_mem_nil
  subTasks := by
    intro t task ht
    rcases Heap.mem_make.mp ht with heq | hnone
    · obtain ⟨-, hk⟩ := Prod.mk.inj heq
      obtain rfl := Instance.task.inj hk
      constructor
      · intro n hn
        cases hn
      · intro n hn
        cases hn
    · cases hnone
  origin := by
    intro o ho
    rcases Heap.mem_make.mp ho with rfl | hnone
    · exact Or.inl rfl
    · cases hnone

/-- Where the instances are from: the last `generate`, if there was one. -/
def FromLast (b : LiveBenchmark) (base : ℕ) : Option (Step LiveBenchmark Input) → Prop
  | none => b.store.items = [] ∧ b.store.tasks = []
  | some t => base = t.pre.store.heap.next ∧ dummyTask < base ∧ b.store = t.post.store ∧
      t.post.benchmark.currentScenario = b.benchmark.currentScenario

variable {tr : List (Step LiveBenchmark Input)}

/-- **The instances represent the content** in every reached state, and are from the last
`generate`. -/
theorem represents_run (h : Run (fun b i b' => b.step clock rand i = b') .start tr b) :
    ∃ base, Represents.all base b.benchmark.content b.store ∧ FromLast b base (lastGenerate tr) := by
  induction h with
  | init => exact ⟨0, represents_start, rfl, rfl⟩
  | @step tr b b' i hrun hstep ih =>
      subst hstep
      obtain ⟨base, hr, hfrom⟩ := ih
      rw [lastGenerate]
      by_cases hi : Generates b i
      · rw [if_pos hi]
        have hdummy := b.store.heap.name_lt _ hr.dummy_live
        exact ⟨_, represents_of_generates hr hi, rfl, hdummy, rfl, rfl⟩
      · rw [if_neg hi]
        obtain ⟨hstore, hcontent, hscenario⟩ := step_of_not_generates clock rand hi
        refine ⟨base, ?_, ?_⟩
        · rw [hstore, hcontent]
          exact hr
        · cases hlast : lastGenerate tr with
          | none =>
              rw [hlast] at hfrom
              unfold FromLast
              rw [hstore]
              exact hfrom
          | some t =>
              rw [hlast] at hfrom
              obtain ⟨hbase, hdummy, hpost, hcurrent⟩ := hfrom
              exact ⟨hbase, hdummy, hstore.trans hpost, hcurrent.trans hscenario.symm⟩

/-- Inventory and task list belong to the current scenario. -/
structure OfCurrentScenario (tr : List (Step LiveBenchmark Input)) (b : LiveBenchmark) : Prop where
  /-- The slot of `[inventory]` names the items made by the last `generate`. -/
  items_iff : ∀ n, n ∈ b.store.items ↔ ∃ t ∈ lastGenerate tr, t.pre.store.heap.next ≤ n ∧
    ∃ item, (n, .item item) ∈ t.post.store.heap.live
  /-- The slot of `[task-info]` names the tasks made by it. -/
  tasks_iff : ∀ n, n ∈ b.store.tasks ↔ ∃ t ∈ lastGenerate tr, t.pre.store.heap.next ≤ n ∧
    ∃ task, (n, .task task) ∈ t.post.store.heap.live
  /-- It was that of the current scenario. -/
  scenario : ∀ t ∈ lastGenerate tr,
    t.post.benchmark.currentScenario = b.benchmark.currentScenario
  /-- But for the dummy task, what lives is reached from the slots. -/
  reached : ∀ o ∈ b.store.heap.live, o.1 = dummyTask ∨ o.1 ∈ b.store.items ∨
    OfTasks b.store.heap b.store.tasks o.1
  /-- What is reached from the slots lives. -/
  items_live : ∀ n ∈ b.store.items, ∃ item, (n, .item item) ∈ b.store.heap.live
  tasks_live : ∀ n ∈ b.store.tasks, n ≠ dummyTask ∧
    ∃ task, (n, .task task) ∈ b.store.heap.live ∧
      (∀ k ∈ task.transportationTask, ∃ t, (k, .transportationTask t) ∈ b.store.heap.live) ∧
        ∀ k ∈ task.navigationTask, ∃ t, (k, .navigationTask t) ∈ b.store.heap.live

/-- An item that was made since a name was given out is in the slot of `[inventory]`. -/
theorem Represents.mem_items_iff {c : Content} {s : Store} (hr : Represents.all base c s) (n : ℕ) :
    n ∈ s.items ↔ base ≤ n ∧ ∃ item, (n, .item item) ∈ s.heap.live := by
  constructor
  · intro hn
    obtain ⟨item, hlive⟩ := hr.item_of_mem hn
    rcases hr.origin _ hlive with rfl | ⟨hbase, -⟩
    · cases Heap.eq_of_mem hlive hr.dummy_live
    · exact ⟨hbase, item, hlive⟩
  · rintro ⟨-, item, hlive⟩
    rcases hr.origin _ hlive with rfl | ⟨-, hmem | ⟨t, ht, task, htask, hn⟩⟩
    · cases Heap.eq_of_mem hlive hr.dummy_live
    · rw [List.append_nil] at hmem
      exact hmem
    · -- neither a task nor a sub-task is an item
      rcases hn with rfl | hn | hn
      · cases Heap.eq_of_mem hlive htask
      · obtain ⟨k, hk⟩ := (hr.subTasks t task htask).1 _ hn
        cases Heap.eq_of_mem hlive hk
      · obtain ⟨k, hk⟩ := (hr.subTasks t task htask).2 _ hn
        cases Heap.eq_of_mem hlive hk

theorem Represents.mem_tasks_iff {c : Content} {s : Store} (hr : Represents.all base c s) (n : ℕ) :
    n ∈ s.tasks ↔ n ≠ dummyTask ∧ base ≤ n ∧ ∃ task, (n, .task task) ∈ s.heap.live := by
  constructor
  · intro hn
    obtain ⟨hne, task, hlive⟩ := hr.task_of_mem hn
    exact ⟨hne, ((hr.origin _ hlive).resolve_left hne).1, task, hlive⟩
  · rintro ⟨hne, -, task, hlive⟩
    rcases (hr.origin _ hlive).resolve_left hne with ⟨-, hmem | ⟨t, ht, other, hother, hn⟩⟩
    · rw [List.append_nil] at hmem
      obtain ⟨item, hitem⟩ := hr.item_of_mem hmem
      cases Heap.eq_of_mem hitem hlive
    · rw [List.append_nil] at ht
      rcases hn with rfl | hn
      · exact ht
      · exact absurd hlive (hr.subTask_ne_task hother hn task)

/-- **Inventory and task list belong to the current scenario**, and nothing else lives. -/
theorem ofCurrentScenario
    (h : Run (fun b i b' => b.step clock rand i = b') LiveBenchmark.start tr b) :
    OfCurrentScenario tr b := by
  obtain ⟨base, hr, hfrom⟩ := represents_run h
  have hreached : ∀ o ∈ b.store.heap.live, o.1 = dummyTask ∨ o.1 ∈ b.store.items ∨
      OfTasks b.store.heap b.store.tasks o.1 := by
    intro o ho
    rcases hr.origin o ho with hdummy | ⟨-, hmem | htask⟩
    · exact Or.inl hdummy
    · rw [List.append_nil] at hmem
      exact Or.inr (Or.inl hmem)
    · rw [List.append_nil] at htask
      exact Or.inr (Or.inr htask)
  have htasks : ∀ n ∈ b.store.tasks, n ≠ dummyTask ∧
      ∃ task, (n, .task task) ∈ b.store.heap.live ∧
        (∀ k ∈ task.transportationTask, ∃ t, (k, .transportationTask t) ∈ b.store.heap.live) ∧
          ∀ k ∈ task.navigationTask, ∃ t, (k, .navigationTask t) ∈ b.store.heap.live := by
    intro n hn
    obtain ⟨hne, task, hlive⟩ := hr.task_of_mem hn
    exact ⟨hne, task, hlive, hr.subTasks n task hlive⟩
  cases hlast : lastGenerate tr with
  | none =>
      rw [hlast] at hfrom
      obtain ⟨hitems, htasksNil⟩ := hfrom
      refine ⟨?_, ?_, ?_, hreached, fun n hn => hr.item_of_mem hn, htasks⟩
      · intro n
        rw [hitems, hlast]
        simp
      · intro n
        rw [htasksNil, hlast]
        simp
      · intro t ht
        rw [hlast] at ht
        cases ht
  | some t =>
      rw [hlast] at hfrom
      obtain ⟨hbase, hdummy, hpost, hcurrent⟩ := hfrom
      refine ⟨?_, ?_, ?_, hreached, fun n hn => hr.item_of_mem hn, htasks⟩
      · intro n
        rw [hr.mem_items_iff, hlast, hbase, hpost]
        simp
      · intro n
        rw [hr.mem_tasks_iff, hlast, hbase, hpost]
        simp only [Option.mem_some, exists_eq_left']
        rw [hbase] at hdummy
        constructor
        · exact And.right
        · intro hn
          exact ⟨Nat.ne_of_gt (Nat.lt_of_lt_of_le hdummy hn.1), hn⟩
      · intro u hu
        rw [hlast, Option.mem_some] at hu
        exact hu ▸ hcurrent

/-- Scenarios come and go, with a SHUFFLE and a SKIP between. -/
def switchAndShuffle : List Input :=
  [.setBenchmarkScenario .cbt 1, .setBenchmarkTransitionEvent .reset,
    .setBenchmarkTransitionEvent .shuffle, .setBenchmarkTransitionEvent .start, .tick,
    .setBenchmarkScenario .bnt 1, .setBenchmarkTransitionEvent .skip,
    .setBenchmarkTransitionEvent .reset, .setBenchmarkTransitionEvent .reset]

theorem ofCurrentScenario_of_switchAndShuffle :
    let steps := record (LiveBenchmark.step everySecond id) .start switchAndShuffle
    let b := switchAndShuffle.foldl (LiveBenchmark.step everySecond id) .start
    OfCurrentScenario steps b ∧ b.store.items = [] ∧ b.store.tasks.length = 9 ∧
      b.store.heap.live.length = 19 := by
  let step := LiveBenchmark.step everySecond id
  refine ⟨ofCurrentScenario (run_record step LiveBenchmark.start switchAndShuffle), ?_⟩
  decide +kernel

end

end FactoryHub.AtWork.Instances
