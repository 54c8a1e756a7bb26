import FactoryHub.AtWork.Benchmark
import FactoryHub.Clips.CheckedDraws

/-!
# What the scenarios generate, with checks

The `generate` handlers once more, where every `nth$` and every `pick-random$` checks that the list
has the position. For each of them a theorem `generate_safe` says that no check fails and that it does
what the handler without checks does, so that neither can be changed alone.
-/

namespace FactoryHub.AtWork

open Clips Generate Lib

/-- A part of a `generate` handler, with checks. -/
abbrev Generate? := Checked Content

namespace Generate

/-- Random draws. -/
def draw? {α : Type} (x : Checked ℕ α) : Generate? α := fun c =>
  (x.run c.draws).map fun r => (r.1, { c with draws := r.2 })

/-- `nth$`. -/
def read {α : Type} [Inhabited α] (i : ℕ) (l : List α) : Generate? α := Checked.check (nth? i l)

/-- `(loop-for-count (?counter 1 n))`, with the variables its body binds. -/
def loopForCount? {σ : Type} (n : ℕ) (vars : σ) (body : ℕ → σ → Generate? σ) : Generate? σ :=
  (List.range' 1 n).foldlM (fun vars counter => body counter vars) vars

/-- The element of a list for a counter, all taken in turn. -/
def readInTurn {α : Type} [Inhabited α] (counter : ℕ) (l : List α) : Generate? α :=
  read (1 + counter % l.length) l

end Generate

variable (rand : ℕ → ℕ)

/-- `pick-random$` in a `generate` handler. -/
def pick? {α : Type} [Inhabited α] (l : List α) : Generate? α := draw? (pickRandom? rand l)

/-- `randomize$` in a `generate` handler. -/
def shuffle? {α : Type} [Inhabited α] (l : List α) : Generate? (List α) := draw? (randomize? rand l)

/-- Draw `n` locations, each of which is removed from the pool. -/
def drawLocations? (n : ℕ) (pool : List LocationId) :
    Generate? (List LocationId × List LocationId) :=
  loopForCount? n (([] : List LocationId), pool) fun _ vars => do
    let location ← pick? rand vars.2
    return (vars.1 ++ [location], deleteMember vars.2 location)

/-- Draw `n` objects, which stay in the pool. -/
def drawObjects? (n : ℕ) (pool : List ObjectId) : Generate? (List ObjectId) :=
  loopForCount? n ([] : List ObjectId) fun _ drawn => do
    let item ← pick? rand pool
    return drawn ++ [item]

/-! ## Basic navigation test -/

/-- `generate` of BasicNavigationTest1. -/
def BasicNavigationTest1.generate? : Generate? Unit := do
  let navigationLocations := workstation0cmLocations ++ workstation5cmLocations ++
    workstation10cmLocations ++ workstation15cmLocations ++ shelfLocations ++ conveyorLocations ++
    waypointLocations ++ precisionLocations
  let _ ← loopForCount? 9 navigationLocations fun _ navigationLocations => do
    let location ← pick? rand navigationLocations
    let orientation ← pick? rand [Orientation.north, .east, .south, .west]
    let task ← offerNavigation location 3 orientation
    insertTask task
    return deleteMember navigationLocations location

/-! ## Basic manipulation test -/

/-- One object is to go from one workstation to the other. -/
def BasicManipulationTest1.manipulate? (objects : List ObjectId) : Generate? Unit := do
  let item ← pick? rand objects
  insertItem { objectId := item, locationId := some .workstation05 }
  let task ← offerTransportation item .workstation05 .workstation06
  insertTask task

/-- `generate` of BasicManipulationTest1. -/
def BasicManipulationTest1.generate? : Generate? Unit := do
  loopForCount? 3 () fun _ _ => manipulate? rand robocupObjects
  loopForCount? 2 () fun _ _ => manipulate? rand rockinObjects

/-! ## Basic transportation tests -/

/-- Draw `n` decoys, and place them at the source locations in turn. -/
def placeDecoys? (n : ℕ) (decoyObjects : List ObjectId) (sourceLocations : List LocationId) :
    Generate? Unit :=
  loopForCount? n () fun counter _ => do
    let sourceLocation ← readInTurn counter sourceLocations
    let item ← pick? rand decoyObjects
    insertItem { objectId := item, locationId := some sourceLocation }

/-- `generate` of BasicTransportationTest1. -/
def BasicTransportationTest1.generate? : Generate? Unit := do
  let locations ← drawLocations? rand 2 workstation10cmLocations
  let decoyObjects ← loopForCount? 5 (robocupObjects ++ rockinObjects)
    fun counter decoyObjects => do
      let item ← pick? rand robocupObjects
      let sourceLocation ← readInTurn counter locations.1
      insertItem { objectId := item, locationId := some sourceLocation }
      let destinationLocation ← pick? rand locations.2
      let task ← offerTransportation item sourceLocation destinationLocation
      insertTask task
      return deleteMember decoyObjects item
  placeDecoys? rand 3 decoyObjects locations.1

/-- The items and tasks of BTT2 and BTT3. -/
def transport? (last : ℕ) (transportationObjects : List ObjectId)
    (sourceLocations destinationLocations : List LocationId) : Generate? Unit := do
  loopForCount? last () fun counter _ => do
    let item ← read counter transportationObjects
    let sourceLocation ← readInTurn counter sourceLocations
    let destinationLocation ← readInTurn counter destinationLocations
    insertItem { objectId := item, locationId := some sourceLocation }
    if counter ≠ last then do
      let task ← offerTransportation item sourceLocation destinationLocation
      insertTask task
    else do
      let task ← offerTransportation item sourceLocation destinationLocation (some .containerR)
      insertTask task
      let item ← read (last + 1) transportationObjects
      let sourceLocation ← readInTurn (last + 1) sourceLocations
      insertItem { objectId := item, locationId := some sourceLocation }
      let task ← offerTransportation item sourceLocation destinationLocation (some .containerB)
      insertTask task
  let item ← read (last + 2) transportationObjects
  let sourceLocation ← readInTurn (last + 2) sourceLocations
  let destinationLocation ← pick? rand rotatingTableLocations
  insertItem { objectId := item, locationId := some sourceLocation }
  let task ← offerTransportation item sourceLocation destinationLocation
  insertTask task

/-- `generate` of BasicTransportationTest2. -/
def BasicTransportationTest2.generate? : Generate? Unit := do
  let robocup ← drawObjects? rand 2 robocupObjects
  let rockin ← drawObjects? rand 3 rockinObjects
  let transportationObjects ← shuffle? rand (robocup ++ rockin)
  let locations ← drawLocations? rand 2 workstation10cmLocations
  let shelf ← pick? rand shelfLocations
  let workstations ← drawLocations? rand 2 locations.2
  let destinationLocations ← shuffle? rand (shelf :: workstations.1)
  transport? rand 3 transportationObjects locations.1 destinationLocations

/-- `generate` of BasicTransportationTest3. -/
def BasicTransportationTest3.generate? : Generate? Unit := do
  let robocup ← drawObjects? rand 4 robocupObjects
  let rockin ← drawObjects? rand 3 rockinObjects
  let decoyObjects := (robocup ++ rockin).foldl deleteMember (robocupObjects ++ rockinObjects)
  let transportationObjects ← shuffle? rand (robocup ++ rockin)
  let workstationLocations :=
    workstation0cmLocations ++ workstation10cmLocations ++ workstation15cmLocations
  let source0 ← pick? rand workstation0cmLocations
  let source15 ← pick? rand workstation15cmLocations
  let source10 ← pick? rand workstation10cmLocations
  let workstationLocations := [source0, source15, source10].foldl deleteMember workstationLocations
  let sourceAny ← pick? rand workstationLocations
  let workstationLocations := deleteMember workstationLocations sourceAny
  let sourceLocations ← shuffle? rand [source0, source15, source10, sourceAny]
  let destination0 ← pick? rand (deleteMember workstation0cmLocations source0)
  let destination15 ← pick? rand (deleteMember workstation15cmLocations source15)
  let destination10 ← pick? rand (deleteMember workstation10cmLocations source10)
  let workstationLocations :=
    [destination0, destination15, destination10].foldl deleteMember workstationLocations
  let destinationAny ← pick? rand workstationLocations
  let destinationLocations ←
    shuffle? rand [destination0, destination15, destination10, destinationAny]
  transport? rand 5 transportationObjects sourceLocations destinationLocations
  placeDecoys? rand 3 decoyObjects sourceLocations

/-! ## Precision placement test and conveyor belt tests -/

/-- Three different RoboCup objects go from one location to another. -/
def threeObjects? (sourceLocation destinationLocation : LocationId) : Generate? Unit := do
  let _ ← loopForCount? 3 robocupObjects fun _ objects => do
    let item ← pick? rand objects
    insertItem { objectId := item, locationId := some sourceLocation }
    let task ← offerTransportation item sourceLocation destinationLocation
    insertTask task
    return deleteMember objects item

/-- `generate` of PrecisionPlacementTest1. -/
def PrecisionPlacementTest1.generate? : Generate? Unit := do
  let sourceLocation ← pick? rand workstation10cmLocations
  let destinationLocation ← pick? rand precisionLocations
  threeObjects? rand sourceLocation destinationLocation

/-- `generate` of ConveyorBeltTest1. -/
def ConveyorBeltTest1.generate? : Generate? Unit := threeObjects? rand .conveyorbelt01 .robot

/-- `generate` of ConveyorBeltTest2. -/
def ConveyorBeltTest2.generate? : Generate? Unit := threeObjects? rand .conveyorbelt02 .robot

/-! ## Finals -/

/-- The items of the finals: those of the tasks, the decoys and the containers. -/
def AtWorkFinal2016.stock (placed : List (ObjectId × LocationId)) (decoys : List Item)
    (containerLocation : LocationId) : List Item :=
  placed.map (fun (objectId, location) => { objectId, locationId := some location }) ++ decoys ++
    [{ objectId := .containerB, locationId := some containerLocation },
      { objectId := .containerR, locationId := some containerLocation }]

/-- `generate` of AtWorkFinal2016. -/
def AtWorkFinal2016.generate? : Generate? Unit := do
  let robocup ← drawObjects? rand 4 robocupObjects
  let rockin ← drawObjects? rand 5 rockinObjects
  let item1 ← pick? rand robocupObjects
  let manipulationObjects ← shuffle? rand (robocup ++ rockin)
  let item2 ← read 1 manipulationObjects
  let item3 ← read 2 manipulationObjects
  let item4 ← read 3 manipulationObjects
  let item5 ← read 4 manipulationObjects
  let item6 ← read 5 manipulationObjects
  let item7 ← read 6 manipulationObjects
  let item8 ← read 7 manipulationObjects
  let item9 ← read 8 manipulationObjects
  let item10 ← read 9 manipulationObjects
  -- source locations
  let workstationLocations := workstation0cmLocations ++ workstation5cmLocations ++
    workstation10cmLocations ++ workstation15cmLocations
  let source1 ← pick? rand rotatingTableLocations
  let source2 ← pick? rand shelfLocations
  let source3 ← pick? rand workstation0cmLocations
  let left0cm := deleteMember workstation0cmLocations source3
  let workstationLocations := deleteMember workstationLocations source3
  let source4 ← pick? rand workstation5cmLocations
  let left5cm := deleteMember workstation5cmLocations source4
  let workstationLocations := deleteMember workstationLocations source4
  -- there are only two, the other one is kept for a destination
  let kept ← read 1 left5cm
  let workstationLocations := deleteMember workstationLocations kept
  let source5 ← pick? rand workstation10cmLocations
  let left10cm := deleteMember workstation10cmLocations source5
  let workstationLocations := deleteMember workstationLocations source5
  let source6 ← pick? rand workstation15cmLocations
  let left15cm := deleteMember workstation15cmLocations source6
  let workstationLocations := deleteMember workstationLocations source6
  let source7 ← pick? rand workstationLocations
  let workstationLocations := deleteMember workstationLocations source7
  let shuffledSources ← shuffle? rand [source3, source4, source5, source6, source7]
  let source3 ← read 1 shuffledSources
  let source4 ← read 2 shuffledSources
  let source5 ← read 3 shuffledSources
  let source6 ← read 4 shuffledSources
  let source7 ← read 5 shuffledSources
  let sourceLocations := shuffledSources ++ [source2]
  -- destination locations
  let destination1 ← pick? rand precisionLocations
  let destination2 ← pick? rand shelfLocations
  let destination3 ← pick? rand left0cm
  let workstationLocations := deleteMember workstationLocations destination3
  let destination4 ← pick? rand left5cm
  let workstationLocations := deleteMember workstationLocations destination4
  let destination5 ← pick? rand left10cm
  let workstationLocations := deleteMember workstationLocations destination5
  let destination6 ← pick? rand left15cm
  let workstationLocations := deleteMember workstationLocations destination6
  let destination7 ← pick? rand workstationLocations
  let shuffledDestinations ←
    shuffle? rand [destination3, destination4, destination5, destination6, destination7]
  let destination3 ← read 1 shuffledDestinations
  let destination4 ← read 2 shuffledDestinations
  let destination5 ← read 3 shuffledDestinations
  let destination6 ← read 4 shuffledDestinations
  let destination7 ← read 5 shuffledDestinations
  let decoyObjects :=
    [item1, item2, item3, item4, item5, item6, item7, item8, item9, item10].foldl deleteMember
      (robocupObjects ++ rockinObjects)
  -- five decoys that are drawn and not used
  let _ ← drawObjects? rand 5 decoyObjects
  let decoys ← loopForCount? 5 ([] : List Item) fun _ decoys => do
    let objectId ← pick? rand decoyObjects
    let locationId ← pick? rand sourceLocations
    return decoys ++ [{ objectId, locationId := some locationId }]
  let items := stock
    [(item2, source1), (item3, source2), (item4, source2), (item5, source3), (item6, source4),
      (item7, source4), (item8, source5), (item9, source5), (item10, source6), (item1, source7)]
    decoys destination7
  modify fun c => { c with items := items ++ c.items }
  let tasks ←
    ([offerTransportation item1 source7 destination1,
      offerTransportation item2 source1 destination2,
      offerTransportation item3 source2 destination3,
      offerTransportation item4 source2 destination3,
      offerTransportation item5 source3 destination3,
      offerTransportation item6 source4 destination4,
      offerTransportation item7 source4 destination5,
      offerTransportation item8 source5 destination6,
      offerTransportation item9 source5 destination7 (some .containerR),
      offerTransportation item10 source6 destination7 (some .containerR)].mapM id :
        Generate (List Task))
  modify fun c => { c with tasks := tasks ++ c.tasks }

/-- `generate`. -/
def Scenario.generate? : Scenario → Generate? Unit
  | .none => pure ()
  | .bnt1 => BasicNavigationTest1.generate? rand
  | .bmt1 => BasicManipulationTest1.generate? rand
  | .btt1 => BasicTransportationTest1.generate? rand
  | .btt2 => BasicTransportationTest2.generate? rand
  | .btt3 => BasicTransportationTest3.generate? rand
  | .ppt1 => PrecisionPlacementTest1.generate? rand
  | .cbt1 => ConveyorBeltTest1.generate? rand
  | .cbt2 => ConveyorBeltTest2.generate? rand
  | .awf1 => AtWorkFinal2016.generate? rand

end FactoryHub.AtWork
