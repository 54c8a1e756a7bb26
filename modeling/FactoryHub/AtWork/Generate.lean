import FactoryHub.AtWork.Workshop

/-!
# What the scenarios generate

The `generate` handlers of the @Work scenarios, over a source `rand` of random numbers. Each inserts
items into the inventory and tasks into the task info, the last one first.
-/

namespace FactoryHub.AtWork

open Clips Generate

variable (rand : ℕ → ℕ)

/-- `pick-random$` in a `generate` handler. -/
def pick {α : Type} [Inhabited α] (l : List α) : Generate α := draw (pickRandom rand l)

/-- `randomize$` in a `generate` handler. -/
def shuffle {α : Type} [Inhabited α] (l : List α) : Generate (List α) := draw (randomize rand l)

/-- Draw `n` locations, each of which is removed from the pool. -/
def drawLocations (n : ℕ) (pool : List LocationId) :
    Generate (List LocationId × List LocationId) :=
  loopForCount n (([] : List LocationId), pool) fun _ (drawn, pool) => do
    let location ← pick rand pool
    return (drawn ++ [location], deleteMember pool location)

/-- Draw `n` objects, which stay in the pool. -/
def drawObjects (n : ℕ) (pool : List ObjectId) : Generate (List ObjectId) :=
  loopForCount n ([] : List ObjectId) fun _ drawn => do
    let item ← pick rand pool
    return drawn ++ [item]

/-! ## Basic navigation test -/

/-- `generate` of BasicNavigationTest1. -/
def BasicNavigationTest1.generate : Generate Unit := do
  let navigationLocations := workstation0cmLocations ++ workstation5cmLocations ++
    workstation10cmLocations ++ workstation15cmLocations ++ shelfLocations ++ conveyorLocations ++
    waypointLocations ++ precisionLocations
  let _ ← loopForCount 9 navigationLocations fun _ navigationLocations => do
    let location ← pick rand navigationLocations
    let orientation ← pick rand [Orientation.north, .east, .south, .west]
    insertTask (← offerNavigation location 3 orientation)
    return deleteMember navigationLocations location

/-! ## Basic manipulation test -/

/-- `generate` of BasicManipulationTest1. -/
def BasicManipulationTest1.generate : Generate Unit := do
  let sourceLocation := LocationId.workstation05
  let destinationLocation := LocationId.workstation06
  let manipulate (objects : List ObjectId) : Generate Unit := do
    let item ← pick rand objects
    insertItem { objectId := item, locationId := some sourceLocation }
    insertTask (← offerTransportation item sourceLocation destinationLocation)
  loopForCount 3 () fun _ _ => manipulate robocupObjects
  loopForCount 2 () fun _ _ => manipulate rockinObjects

/-! ## Basic transportation tests -/

/-- `generate` of BasicTransportationTest1. -/
def BasicTransportationTest1.generate : Generate Unit := do
  let (sourceLocations, workstationLocations) ← drawLocations rand 2 workstation10cmLocations
  let decoyObjects ← loopForCount 5 (robocupObjects ++ rockinObjects)
    fun counter decoyObjects => do
      let item ← pick rand robocupObjects
      let sourceLocation := inTurn counter sourceLocations
      insertItem { objectId := item, locationId := some sourceLocation }
      let destinationLocation ← pick rand workstationLocations
      insertTask (← offerTransportation item sourceLocation destinationLocation)
      return deleteMember decoyObjects item
  loopForCount 3 () fun counter _ => do
    let item ← pick rand decoyObjects
    insertItem { objectId := item, locationId := some (inTurn counter sourceLocations) }

/-- The items and tasks of BTT2 and BTT3: `last` objects go to the destinations in turn, the last
of them into the red container and one more into the blue one next to it; the next one goes to a
rotating table. -/
def transport (last : ℕ) (transportationObjects : List ObjectId)
    (sourceLocations destinationLocations : List LocationId) : Generate Unit := do
  loopForCount last () fun counter _ => do
    let item := nth counter transportationObjects
    let sourceLocation := inTurn counter sourceLocations
    let destinationLocation := inTurn counter destinationLocations
    insertItem { objectId := item, locationId := some sourceLocation }
    if counter ≠ last then
      insertTask (← offerTransportation item sourceLocation destinationLocation)
    else
      insertTask (← offerTransportation item sourceLocation destinationLocation
        (some .containerR))
      let item := nth (last + 1) transportationObjects
      let sourceLocation := inTurn (last + 1) sourceLocations
      insertItem { objectId := item, locationId := some sourceLocation }
      insertTask (← offerTransportation item sourceLocation destinationLocation
        (some .containerB))
  let item := nth (last + 2) transportationObjects
  let sourceLocation := inTurn (last + 2) sourceLocations
  let destinationLocation ← pick rand rotatingTableLocations
  insertItem { objectId := item, locationId := some sourceLocation }
  insertTask (← offerTransportation item sourceLocation destinationLocation)

/-- `generate` of BasicTransportationTest2. -/
def BasicTransportationTest2.generate : Generate Unit := do
  let robocup ← drawObjects rand 2 robocupObjects
  let rockin ← drawObjects rand 3 rockinObjects
  let transportationObjects ← shuffle rand (robocup ++ rockin)
  let (sourceLocations, workstationLocations) ← drawLocations rand 2 workstation10cmLocations
  let shelf ← pick rand shelfLocations
  let (workstations, _) ← drawLocations rand 2 workstationLocations
  let destinationLocations ← shuffle rand (shelf :: workstations)
  transport rand 3 transportationObjects sourceLocations destinationLocations

/-- `generate` of BasicTransportationTest3. -/
def BasicTransportationTest3.generate : Generate Unit := do
  let robocup ← drawObjects rand 4 robocupObjects
  let rockin ← drawObjects rand 3 rockinObjects
  let decoyObjects := (robocup ++ rockin).foldl deleteMember (robocupObjects ++ rockinObjects)
  let transportationObjects ← shuffle rand (robocup ++ rockin)
  -- source locations: one of each height, and one of any
  let workstationLocations :=
    workstation0cmLocations ++ workstation10cmLocations ++ workstation15cmLocations
  let source0 ← pick rand workstation0cmLocations
  let source15 ← pick rand workstation15cmLocations
  let source10 ← pick rand workstation10cmLocations
  let workstationLocations := [source0, source15, source10].foldl deleteMember workstationLocations
  let sourceAny ← pick rand workstationLocations
  let workstationLocations := deleteMember workstationLocations sourceAny
  let sourceLocations ← shuffle rand [source0, source15, source10, sourceAny]
  -- destination locations: likewise, from what is left of each height
  let destination0 ← pick rand (deleteMember workstation0cmLocations source0)
  let destination15 ← pick rand (deleteMember workstation15cmLocations source15)
  let destination10 ← pick rand (deleteMember workstation10cmLocations source10)
  let workstationLocations :=
    [destination0, destination15, destination10].foldl deleteMember workstationLocations
  let destinationAny ← pick rand workstationLocations
  let destinationLocations ←
    shuffle rand [destination0, destination15, destination10, destinationAny]
  transport rand 5 transportationObjects sourceLocations destinationLocations
  loopForCount 3 () fun counter _ => do
    let item ← pick rand decoyObjects
    insertItem { objectId := item, locationId := some (inTurn counter sourceLocations) }

/-! ## Precision placement test and conveyor belt tests -/

/-- Three different RoboCup objects go from one location to another. -/
def threeObjects (sourceLocation destinationLocation : LocationId) : Generate Unit := do
  let _ ← loopForCount 3 robocupObjects fun _ objects => do
    let item ← pick rand objects
    insertItem { objectId := item, locationId := some sourceLocation }
    insertTask (← offerTransportation item sourceLocation destinationLocation)
    return deleteMember objects item

/-- `generate` of PrecisionPlacementTest1. -/
def PrecisionPlacementTest1.generate : Generate Unit := do
  let sourceLocation ← pick rand workstation10cmLocations
  let destinationLocation ← pick rand precisionLocations
  threeObjects rand sourceLocation destinationLocation

/-- `generate` of ConveyorBeltTest1. -/
def ConveyorBeltTest1.generate : Generate Unit := threeObjects rand .conveyorbelt01 .robot

/-- `generate` of ConveyorBeltTest2. -/
def ConveyorBeltTest2.generate : Generate Unit := threeObjects rand .conveyorbelt02 .robot

/-! ## Finals -/

/-- `generate` of AtWorkFinal2016. -/
def AtWorkFinal2016.generate : Generate Unit := do
  let robocup ← drawObjects rand 4 robocupObjects
  let rockin ← drawObjects rand 5 rockinObjects
  let item1 ← pick rand robocupObjects
  let manipulationObjects ← shuffle rand (robocup ++ rockin)
  let item (i : ℕ) := if i = 1 then item1 else nth (i - 1) manipulationObjects
  -- source locations
  let workstationLocations := workstation0cmLocations ++ workstation5cmLocations ++
    workstation10cmLocations ++ workstation15cmLocations
  let source1 ← pick rand rotatingTableLocations
  let source2 ← pick rand shelfLocations
  let source3 ← pick rand workstation0cmLocations
  let left0cm := deleteMember workstation0cmLocations source3
  let workstationLocations := deleteMember workstationLocations source3
  let source4 ← pick rand workstation5cmLocations
  let left5cm := deleteMember workstation5cmLocations source4
  let workstationLocations := deleteMember workstationLocations source4
  -- there are only two, the other one is kept for a destination
  let workstationLocations := deleteMember workstationLocations (nth 1 left5cm)
  let source5 ← pick rand workstation10cmLocations
  let left10cm := deleteMember workstation10cmLocations source5
  let workstationLocations := deleteMember workstationLocations source5
  let source6 ← pick rand workstation15cmLocations
  let left15cm := deleteMember workstation15cmLocations source6
  let workstationLocations := deleteMember workstationLocations source6
  let source7 ← pick rand workstationLocations
  let workstationLocations := deleteMember workstationLocations source7
  let shuffledSources ← shuffle rand [source3, source4, source5, source6, source7]
  let source (i : ℕ) :=
    if i = 1 then source1 else if i = 2 then source2 else nth (i - 2) shuffledSources
  let sourceLocations := shuffledSources ++ [source2]
  -- destination locations
  let destination1 ← pick rand precisionLocations
  let destination2 ← pick rand shelfLocations
  let destination3 ← pick rand left0cm
  let workstationLocations := deleteMember workstationLocations destination3
  let destination4 ← pick rand left5cm
  let workstationLocations := deleteMember workstationLocations destination4
  let destination5 ← pick rand left10cm
  let workstationLocations := deleteMember workstationLocations destination5
  let destination6 ← pick rand left15cm
  let workstationLocations := deleteMember workstationLocations destination6
  let destination7 ← pick rand workstationLocations
  let shuffledDestinations ←
    shuffle rand [destination3, destination4, destination5, destination6, destination7]
  let destination (i : ℕ) :=
    if i = 1 then destination1 else if i = 2 then destination2 else nth (i - 2) shuffledDestinations
  let decoyObjects :=
    ((List.range' 1 10).map item).foldl deleteMember (robocupObjects ++ rockinObjects)
  -- five decoys that are drawn and not used
  let _ ← drawObjects rand 5 decoyObjects
  let put (i s : ℕ) : Item := { objectId := item i, locationId := some (source s) }
  let placed :=
    [put 2 1, put 3 2, put 4 2, put 5 3, put 6 4, put 7 4, put 8 5, put 9 5, put 10 6, put 1 7]
  let decoys ← loopForCount 5 ([] : List Item) fun _ decoys => do
    let objectId ← pick rand decoyObjects
    let locationId ← pick rand sourceLocations
    return decoys ++ [{ objectId, locationId := some locationId }]
  let containers : List Item :=
    [{ objectId := .containerB, locationId := some (destination 7) },
      { objectId := .containerR, locationId := some (destination 7) }]
  modify fun c => { c with items := placed ++ decoys ++ containers ++ c.items }
  let task (i s d : ℕ) (containerId : Option ObjectId := none) : Generate Task :=
    offerTransportation (item i) (source s) (destination d) containerId
  let tasks ←
    [task 1 7 1, task 2 1 2, task 3 2 3, task 4 2 3, task 5 3 3, task 6 4 4, task 7 4 5,
      task 8 5 6, task 9 5 7 (some .containerR), task 10 6 7 (some .containerR)].mapM id
  modify fun c => { c with tasks := tasks ++ c.tasks }

end FactoryHub.AtWork
