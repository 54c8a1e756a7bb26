import FactoryHub.AtWork.Benchmark
import FactoryHub.Lib.Heap

/-!
# Instances of items and tasks

What the `generate` handlers and `cleanup` of the benchmark do to the instances of the classes Item,
Task, TransportationTask and NavigationTask. The slots of `[inventory]`, `[task-info]` and of a task
hold names; an instance that no slot names any more stays until it is unmade. That the handlers make
the same items and tasks as those over values is `generate_same`.
-/

namespace FactoryHub.AtWork.Instances

open Clips Lib

/-- An instance of Task, with the names in its two slots for sub-tasks. -/
structure TaskInstance where
  id : ℕ
  taskType : TaskType := .unknown
  status : TaskStatus := .offered
  transportationTask : List ℕ := []
  navigationTask : List ℕ := []
  deriving DecidableEq, Repr

inductive Instance where
  | item (item : Item)
  | transportationTask (task : TransportationTask)
  | navigationTask (task : NavigationTask)
  | task (task : TaskInstance)
  deriving DecidableEq, Repr

def Instance.isTask : Instance → Bool
  | .task _ => true
  | _ => false

/-- The live instances, the slots of `[inventory]` and `[task-info]`, the slot that Task shares, and
the number of random draws made. -/
structure Store where
  heap : Heap Instance
  items : List ℕ
  tasks : List ℕ
  nextId : ℕ
  draws : ℕ

/-- A part of a `generate` handler. -/
abbrev Making := StateM Store

/-! ## Making instances -/

/-- Random draws. -/
def draw {α : Type} (x : StateM ℕ α) : Making α := fun s =>
  let (a, draws) := x s.draws
  (a, { s with draws })

/-- `make-instance` of a class without an `init` of its own, with the new name. -/
def makeInstance (i : Instance) : Making ℕ := fun s =>
  (s.heap.next, { s with heap := s.heap.make i })

/-- `make-instance` of Task, whose `init` takes the next id. -/
def makeTask (task : TaskInstance) : Making ℕ := fun s =>
  (s.heap.next,
    { s with heap := s.heap.make (.task { task with id := s.nextId }), nextId := s.nextId + 1 })

/-- `slot-insert$` at position 1 of the items of `[inventory]`. -/
def insertItems (names : List ℕ) : Making Unit :=
  modify fun s => { s with items := names ++ s.items }

/-- `slot-insert$` at position 1 of the tasks of `[task-info]`. -/
def insertTasks (names : List ℕ) : Making Unit :=
  modify fun s => { s with tasks := names ++ s.tasks }

def makeItem (item : Item) : Making ℕ := makeInstance (.item item)

def insertItem (item : Item) : Making Unit := do insertItems [← makeItem item]

/-- An offered transportation task for one object. -/
def offerTransportation (objectId : ObjectId) (sourceId destinationId : LocationId)
    (containerId : Option ObjectId := none) : Making ℕ := do
  let transportationTask ← makeInstance <| .transportationTask
    { objectId, containerId, quantityRequested := some 1
      destinationId := some destinationId, sourceId := some sourceId }
  makeTask { id := 0, taskType := .transportation, transportationTask := [transportationTask] }

/-- An offered navigation task. -/
def offerNavigation (locationId : LocationId) (waitTime : Int) (orientation : Orientation) :
    Making ℕ := do
  let navigationTask ← makeInstance (.navigationTask { locationId, waitTime, orientation })
  makeTask { id := 0, taskType := .navigation, navigationTask := [navigationTask] }

/-- `(loop-for-count (?counter 1 n))`, with the variables its body binds. -/
def loopForCount {σ : Type} (n : ℕ) (vars : σ) (body : ℕ → σ → Making σ) : Making σ :=
  (List.range' 1 n).foldlM (fun vars counter => body counter vars) vars

open AtWork.Generate (inTurn)

/-! ## What the scenarios generate -/

section

variable (rand : ℕ → ℕ)

def pick {α : Type} [Inhabited α] (l : List α) : Making α := draw (pickRandom rand l)

def shuffle {α : Type} [Inhabited α] (l : List α) : Making (List α) := draw (randomize rand l)

/-- Draw `n` locations, each of which is removed from the pool. -/
def drawLocations (n : ℕ) (pool : List LocationId) : Making (List LocationId × List LocationId) :=
  loopForCount n (([] : List LocationId), pool) fun _ (drawn, pool) => do
    let location ← pick rand pool
    return (drawn ++ [location], deleteMember pool location)

/-- Draw `n` objects, which stay in the pool. -/
def drawObjects (n : ℕ) (pool : List ObjectId) : Making (List ObjectId) :=
  loopForCount n ([] : List ObjectId) fun _ drawn => do
    let item ← pick rand pool
    return drawn ++ [item]

/-- `generate` of BasicNavigationTest1. -/
def BasicNavigationTest1.generate : Making Unit := do
  let navigationLocations := workstation0cmLocations ++ workstation5cmLocations ++
    workstation10cmLocations ++ workstation15cmLocations ++ shelfLocations ++ conveyorLocations ++
    waypointLocations ++ precisionLocations
  let _ ← loopForCount 9 navigationLocations fun _ navigationLocations => do
    let location ← pick rand navigationLocations
    let orientation ← pick rand [Orientation.north, .east, .south, .west]
    insertTasks [← offerNavigation location 3 orientation]
    return deleteMember navigationLocations location

/-- `generate` of BasicManipulationTest1. -/
def BasicManipulationTest1.generate : Making Unit := do
  let sourceLocation := LocationId.workstation05
  let destinationLocation := LocationId.workstation06
  let manipulate (objects : List ObjectId) : Making Unit := do
    let item ← pick rand objects
    insertItem { objectId := item, locationId := some sourceLocation }
    insertTasks [← offerTransportation item sourceLocation destinationLocation]
  loopForCount 3 () fun _ _ => manipulate robocupObjects
  loopForCount 2 () fun _ _ => manipulate rockinObjects

/-- `generate` of BasicTransportationTest1. -/
def BasicTransportationTest1.generate : Making Unit := do
  let (sourceLocations, workstationLocations) ← drawLocations rand 2 workstation10cmLocations
  let decoyObjects ← loopForCount 5 (robocupObjects ++ rockinObjects)
    fun counter decoyObjects => do
      let item ← pick rand robocupObjects
      let sourceLocation := inTurn counter sourceLocations
      insertItem { objectId := item, locationId := some sourceLocation }
      let destinationLocation ← pick rand workstationLocations
      insertTasks [← offerTransportation item sourceLocation destinationLocation]
      return deleteMember decoyObjects item
  loopForCount 3 () fun counter _ => do
    let item ← pick rand decoyObjects
    insertItem { objectId := item, locationId := some (inTurn counter sourceLocations) }

/-- The items and tasks of BTT2 and BTT3. -/
def transport (last : ℕ) (transportationObjects : List ObjectId)
    (sourceLocations destinationLocations : List LocationId) : Making Unit := do
  loopForCount last () fun counter _ => do
    let item := nth counter transportationObjects
    let sourceLocation := inTurn counter sourceLocations
    let destinationLocation := inTurn counter destinationLocations
    insertItem { objectId := item, locationId := some sourceLocation }
    if counter ≠ last then
      insertTasks [← offerTransportation item sourceLocation destinationLocation]
    else
      insertTasks [← offerTransportation item sourceLocation destinationLocation
        (some .containerR)]
      let item := nth (last + 1) transportationObjects
      let sourceLocation := inTurn (last + 1) sourceLocations
      insertItem { objectId := item, locationId := some sourceLocation }
      insertTasks [← offerTransportation item sourceLocation destinationLocation
        (some .containerB)]
  let item := nth (last + 2) transportationObjects
  let sourceLocation := inTurn (last + 2) sourceLocations
  let destinationLocation ← pick rand rotatingTableLocations
  insertItem { objectId := item, locationId := some sourceLocation }
  insertTasks [← offerTransportation item sourceLocation destinationLocation]

/-- `generate` of BasicTransportationTest2. -/
def BasicTransportationTest2.generate : Making Unit := do
  let robocup ← drawObjects rand 2 robocupObjects
  let rockin ← drawObjects rand 3 rockinObjects
  let transportationObjects ← shuffle rand (robocup ++ rockin)
  let (sourceLocations, workstationLocations) ← drawLocations rand 2 workstation10cmLocations
  let shelf ← pick rand shelfLocations
  let (workstations, _) ← drawLocations rand 2 workstationLocations
  let destinationLocations ← shuffle rand (shelf :: workstations)
  transport rand 3 transportationObjects sourceLocations destinationLocations

/-- `generate` of BasicTransportationTest3. -/
def BasicTransportationTest3.generate : Making Unit := do
  let robocup ← drawObjects rand 4 robocupObjects
  let rockin ← drawObjects rand 3 rockinObjects
  let decoyObjects := (robocup ++ rockin).foldl deleteMember (robocupObjects ++ rockinObjects)
  let transportationObjects ← shuffle rand (robocup ++ rockin)
  let workstationLocations :=
    workstation0cmLocations ++ workstation10cmLocations ++ workstation15cmLocations
  let source0 ← pick rand workstation0cmLocations
  let source15 ← pick rand workstation15cmLocations
  let source10 ← pick rand workstation10cmLocations
  let workstationLocations := [source0, source15, source10].foldl deleteMember workstationLocations
  let sourceAny ← pick rand workstationLocations
  let workstationLocations := deleteMember workstationLocations sourceAny
  let sourceLocations ← shuffle rand [source0, source15, source10, sourceAny]
  let destination0 ← pick rand (deleteMember workstation0cmLocations source0)
  let destination15 ← pick rand (deleteMember workstation15cmLocations source15)
  let destination10 ← pick rand (deleteMember workstation10cmLocations source10)
  let workstationLocations :=
    [destination0, destination15, destination10].foldl deleteMember workstationLocations
  let destinationAny ← pick rand workstationLocations
  let destinationLocations ←
    shuffle rand [destination0, destination15, destination10, destinationAny]
  transport rand 5 transportationObjects sourceLocations destinationLocations
  loopForCount 3 () fun counter _ => do
    let item ← pick rand decoyObjects
    insertItem { objectId := item, locationId := some (inTurn counter sourceLocations) }

/-- Three different RoboCup objects go from one location to another. -/
def threeObjects (sourceLocation destinationLocation : LocationId) : Making Unit := do
  let _ ← loopForCount 3 robocupObjects fun _ objects => do
    let item ← pick rand objects
    insertItem { objectId := item, locationId := some sourceLocation }
    insertTasks [← offerTransportation item sourceLocation destinationLocation]
    return deleteMember objects item

/-- `generate` of PrecisionPlacementTest1. -/
def PrecisionPlacementTest1.generate : Making Unit := do
  let sourceLocation ← pick rand workstation10cmLocations
  let destinationLocation ← pick rand precisionLocations
  threeObjects rand sourceLocation destinationLocation

/-- `generate` of ConveyorBeltTest1. -/
def ConveyorBeltTest1.generate : Making Unit := threeObjects rand .conveyorbelt01 .robot

/-- `generate` of ConveyorBeltTest2. -/
def ConveyorBeltTest2.generate : Making Unit := threeObjects rand .conveyorbelt02 .robot

/-- `generate` of AtWorkFinal2016. -/
def AtWorkFinal2016.generate : Making Unit := do
  let robocup ← drawObjects rand 4 robocupObjects
  let rockin ← drawObjects rand 5 rockinObjects
  let item1 ← pick rand robocupObjects
  let manipulationObjects ← shuffle rand (robocup ++ rockin)
  let item (i : ℕ) := if i = 1 then item1 else nth (i - 1) manipulationObjects
  let workstationLocations := workstation0cmLocations ++ workstation5cmLocations ++
    workstation10cmLocations ++ workstation15cmLocations
  let source1 ← pick rand rotatingTableLocations
  let source2 ← pick rand shelfLocations
  let source3 ← pick rand workstation0cmLocations
  let left0cm := deleteMember workstation0cmLocations source3
  let workstationLocations := deleteMember workstationLocations source3
  let source4 ← pick rand workstation5cmLocations
  let left5cm := deleteMember workstation5cmLocations source4
  let workstationLocations := deleteMember workstationLocations source4
  let workstationLocations := deleteMember workstationLocations (nth 1 left5cm)
  let source5 ← pick rand workstation10cmLocations
  let left10cm := deleteMember workstation10cmLocations source5
  let workstationLocations := deleteMember workstationLocations source5
  let source6 ← pick rand workstation15cmLocations
  let left15cm := deleteMember workstation15cmLocations source6
  let workstationLocations := deleteMember workstationLocations source6
  let source7 ← pick rand workstationLocations
  let workstationLocations := deleteMember workstationLocations source7
  let shuffledSources ← shuffle rand [source3, source4, source5, source6, source7]
  let source (i : ℕ) :=
    if i = 1 then source1 else if i = 2 then source2 else nth (i - 2) shuffledSources
  let sourceLocations := shuffledSources ++ [source2]
  let destination1 ← pick rand precisionLocations
  let destination2 ← pick rand shelfLocations
  let destination3 ← pick rand left0cm
  let workstationLocations := deleteMember workstationLocations destination3
  let destination4 ← pick rand left5cm
  let workstationLocations := deleteMember workstationLocations destination4
  let destination5 ← pick rand left10cm
  let workstationLocations := deleteMember workstationLocations destination5
  let destination6 ← pick rand left15cm
  let workstationLocations := deleteMember workstationLocations destination6
  let destination7 ← pick rand workstationLocations
  let shuffledDestinations ←
    shuffle rand [destination3, destination4, destination5, destination6, destination7]
  let destination (i : ℕ) :=
    if i = 1 then destination1 else if i = 2 then destination2 else nth (i - 2) shuffledDestinations
  let decoyObjects :=
    ((List.range' 1 10).map item).foldl deleteMember (robocupObjects ++ rockinObjects)
  let _ ← drawObjects rand 5 decoyObjects
  let put (i s : ℕ) : Item := { objectId := item i, locationId := some (source s) }
  -- all items are made before the first one is inserted
  let placed ←
    [put 2 1, put 3 2, put 4 2, put 5 3, put 6 4, put 7 4, put 8 5, put 9 5, put 10 6,
      put 1 7].mapM makeItem
  let decoys ← loopForCount 5 ([] : List ℕ) fun _ decoys => do
    let objectId ← pick rand decoyObjects
    let locationId ← pick rand sourceLocations
    let decoy ← makeItem { objectId, locationId := some locationId }
    return decoys ++ [decoy]
  let containers ←
    [{ objectId := .containerB, locationId := some (destination 7) },
      { objectId := .containerR, locationId := some (destination 7) }].mapM makeItem
  insertItems (placed ++ decoys ++ containers)
  let task (i s d : ℕ) (containerId : Option ObjectId := none) : Making ℕ :=
    offerTransportation (item i) (source s) (destination d) containerId
  let tasks ←
    [task 1 7 1, task 2 1 2, task 3 2 3, task 4 2 3, task 5 3 3, task 6 4 4, task 7 4 5,
      task 8 5 6, task 9 5 7 (some .containerR), task 10 6 7 (some .containerR)].mapM id
  insertTasks tasks

/-- `generate`. -/
def generate : Scenario → Making Unit
  | .none => pure ()
  | .bnt1 => BasicNavigationTest1.generate rand
  | .bmt1 => BasicManipulationTest1.generate rand
  | .btt1 => BasicTransportationTest1.generate rand
  | .btt2 => BasicTransportationTest2.generate rand
  | .btt3 => BasicTransportationTest3.generate rand
  | .ppt1 => PrecisionPlacementTest1.generate rand
  | .cbt1 => ConveyorBeltTest1.generate rand
  | .cbt2 => ConveyorBeltTest2.generate rand
  | .awf1 => AtWorkFinal2016.generate rand

end

/-! ## Deleting instances -/

namespace Store

/-- `unmake-instance`. The slot that Task shares goes back to its default with the last Task. -/
def unmake (s : Store) (name : ℕ) : Store :=
  let heap := s.heap.unmake name
  { s with heap, nextId := if heap.live.any (fun o => o.2.isTask) then s.nextId else 0 }

/-- Change the slots of a task. -/
def modifyTask (name : ℕ) (f : TaskInstance → TaskInstance) (s : Store) : Store :=
  { s with
    heap := s.heap.map fun n i =>
      match i with
      | .task task => if n = name then .task (f task) else i
      | _ => i }

/-- The body of the loop over the tasks in `cleanup`. Deleting no elements of an empty slot is left
out by the source as well. -/
def cleanupTask (s : Store) (name : ℕ) : Store :=
  match s.heap.get? name with
  | some (.task task) =>
      let s := task.transportationTask.foldl unmake s
      let s := s.modifyTask name fun task => { task with transportationTask := [] }
      let s := task.navigationTask.foldl unmake s
      let s := s.modifyTask name fun task => { task with navigationTask := [] }
      s.unmake name
  | _ => s

/-- `cleanup`. -/
def cleanup (s : Store) : Store :=
  let s := { s.items.foldl unmake s with items := [] }
  { s.tasks.foldl cleanupTask s with tasks := [] }

/-- `generate`. -/
def generate (rand : ℕ → ℕ) (scenario : Scenario) (s : Store) : Store :=
  ((Instances.generate rand scenario).run s).2

end Store

/-- The name of `[dummy-task]`, which is made first. -/
def dummyTask : ℕ := 0

/-- The store after the `init` rules. -/
def Store.start : Store where
  heap := Heap.empty.make (.task { id := 0 })
  items := []
  tasks := []
  nextId := 1
  draws := 0

/-! ## The benchmark and its instances -/

/-- The benchmark and the instances of items and tasks that live beside it. -/
structure LiveBenchmark where
  benchmark : Benchmark
  store : Store

/-- The benchmark after the `init` rules. -/
def LiveBenchmark.start : LiveBenchmark := { benchmark := .start, store := .start }

variable (clock : Clock) (rand : ℕ → ℕ)

/-- What a message to the benchmark does to the instances. -/
def sendStore (b : Benchmark) (s : Store) : Send → Store
  | .switchScenario =>
      if b.currentScenario ≠ b.requestedScenario then s.cleanup.generate rand b.requestedScenario
      else s
  | .cleanup => s.cleanup
  | .generate => s.generate rand b.currentScenario
  | .requestScenario .. | .processEvent _ | .update => s

/-- The benchmark and its instances after a message. -/
def LiveBenchmark.send (b : LiveBenchmark) (message : Send) : LiveBenchmark where
  benchmark := b.benchmark.step clock rand message
  store := sendStore rand b.benchmark b.store message

/-- The benchmark after an input. -/
def LiveBenchmark.step (b : LiveBenchmark) (input : Input) : LiveBenchmark :=
  input.sends.foldl (LiveBenchmark.send clock rand) b

end FactoryHub.AtWork.Instances
