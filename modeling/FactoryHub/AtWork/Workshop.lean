import FactoryHub.Clips.Random

/-!
# Objects, locations, items and tasks

The identifiers of `object-identifier.clp` and `location.clp`, the lists of them in `globals.clp`,
and the items of the inventory and the tasks of the task info, with the instances that a scenario's
`generate` fills them with (`Content`).
-/

namespace FactoryHub.AtWork

open Clips

inductive ObjectId where
  | f20_20_B | f20_20_G | s40_40_B | s40_40_G | m20_100 | m20 | m30 | r20
  | bearingBox | bearing | axis | distanceTube | motor
  | containerB | containerR
  deriving DecidableEq, Repr, Inhabited

inductive LocationId where
  | shelf01 | shelf02
  | workstation01 | workstation02 | workstation03 | workstation04 | workstation05
  | workstation06 | workstation07 | workstation08 | workstation09 | workstation10
  | workstation11 | workstation12
  | waypoint01 | waypoint02 | waypoint03 | waypoint04 | waypoint05
  | waypoint06 | waypoint07 | waypoint08 | waypoint09 | waypoint10
  | waypoint11 | waypoint12 | waypoint13 | waypoint14 | waypoint15
  | conveyorbelt01 | conveyorbelt02 | precision01 | robot
  deriving DecidableEq, Repr, Inhabited

inductive Orientation where
  | north | east | south | west
  deriving DecidableEq, Repr, Inhabited

/-! ## Globals -/

/-- `ROBOCUP-OBJECTS`. -/
def robocupObjects : List ObjectId :=
  [.f20_20_B, .f20_20_G, .s40_40_B, .s40_40_G, .m20_100, .m20, .m30, .r20]

/-- `ROCKIN-OBJECTS`. -/
def rockinObjects : List ObjectId := [.bearingBox, .bearing, .axis, .distanceTube, .motor]

/-- `SHELF-LOCATIONS`. -/
def shelfLocations : List LocationId := [.shelf01, .shelf02]

/-- `WORKSTATION-0CM-LOCATIONS`. -/
def workstation0cmLocations : List LocationId := [.workstation01, .workstation07, .workstation11]

/-- `WORKSTATION-5CM-LOCATIONS`. -/
def workstation5cmLocations : List LocationId := [.workstation12, .workstation08]

/-- `WORKSTATION-10CM-LOCATIONS`. -/
def workstation10cmLocations : List LocationId :=
  [.workstation02, .workstation03, .workstation05, .workstation06]

/-- `WORKSTATION-15CM-LOCATIONS`. -/
def workstation15cmLocations : List LocationId :=
  [.workstation04, .workstation09, .workstation10]

/-- `PRECISION-LOCATIONS`. -/
def precisionLocations : List LocationId := [.precision01]

/-- `CONVEYOR-LOCATIONS`. -/
def conveyorLocations : List LocationId := [.conveyorbelt01, .conveyorbelt02]

/-- `ROTATING-TABLE-LOCATIONS`. -/
def rotatingTableLocations : List LocationId := [.conveyorbelt02]

/-- `WAYPOINT-LOCATIONS`. -/
def waypointLocations : List LocationId :=
  [.waypoint01, .waypoint02, .waypoint03, .waypoint04, .waypoint05, .waypoint06, .waypoint07,
    .waypoint08, .waypoint09, .waypoint10, .waypoint11, .waypoint12, .waypoint13, .waypoint14,
    .waypoint15]

/-! ## Items and tasks -/

/-- `Item`. -/
structure Item where
  objectId : ObjectId
  locationId : Option LocationId := none
  containerId : Option ObjectId := none
  quantity : Option Int := none
  deriving DecidableEq, Repr

/-- `TransportationTask`. -/
structure TransportationTask where
  objectId : ObjectId
  containerId : Option ObjectId := none
  quantityDelivered : Int := 0
  quantityRequested : Option Int := none
  destinationId : Option LocationId := none
  sourceId : Option LocationId := none
  processingTeam : Option String := none
  deriving DecidableEq, Repr

/-- `NavigationTask`. -/
structure NavigationTask where
  locationId : LocationId
  waitTime : Int
  orientation : Orientation
  deriving DecidableEq, Repr

inductive TaskType where
  | unknown | transportation | navigation
  deriving DecidableEq, Repr

inductive TaskStatus where
  | offered | timeout | inProgress | paused | aborted | finished
  deriving DecidableEq, Repr

/-- `Task`. -/
structure Task where
  id : ℕ
  taskType : TaskType
  status : TaskStatus
  transportationTask : Option TransportationTask := none
  navigationTask : Option NavigationTask := none
  deriving DecidableEq, Repr

/-- The items of the inventory, the tasks of the task info, the shared slot `next-id` of the class
`Task`, and the number of random draws made. -/
structure Content where
  items : List Item := []
  tasks : List Task := []
  nextId : ℕ := 0
  draws : ℕ := 0
  deriving DecidableEq, Repr

/-! ## Filling them -/

/-- A part of a `generate` handler. -/
abbrev Generate := StateM Content

namespace Generate

/-- Random draws. -/
def draw {α : Type} (x : StateM ℕ α) : Generate α := fun c =>
  let (a, draws) := x c.draws
  (a, { c with draws })

/-- `slot-insert$` of an item at position 1 of the inventory. -/
def insertItem (item : Item) : Generate Unit := modify fun c => { c with items := item :: c.items }

/-- `init` of a task, which takes the next id. -/
def makeTask (task : ℕ → Task) : Generate Task := fun c =>
  (task c.nextId, { c with nextId := c.nextId + 1 })

/-- `slot-insert$` of a task at position 1 of the task info. -/
def insertTask (task : Task) : Generate Unit := modify fun c => { c with tasks := task :: c.tasks }

/-- `(loop-for-count (?counter 1 n))`, with the variables its body binds. -/
def loopForCount {σ : Type} (n : ℕ) (vars : σ) (body : ℕ → σ → Generate σ) : Generate σ :=
  (List.range' 1 n).foldlM (fun vars counter => body counter vars) vars

/-- An offered transportation task for one object. -/
def offerTransportation (objectId : ObjectId) (sourceId destinationId : LocationId)
    (containerId : Option ObjectId := none) : Generate Task :=
  makeTask fun id =>
    { id, taskType := .transportation, status := .offered
      transportationTask := some
        { objectId, containerId, quantityRequested := some 1
          destinationId := some destinationId, sourceId := some sourceId } }

/-- An offered navigation task. -/
def offerNavigation (locationId : LocationId) (waitTime : Int) (orientation : Orientation) :
    Generate Task :=
  makeTask fun id =>
    { id, taskType := .navigation, status := .offered
      navigationTask := some { locationId, waitTime, orientation } }

/-- The element of a list for a counter, all taken in turn. -/
def inTurn {α : Type} [Inhabited α] (counter : ℕ) (l : List α) : α :=
  nth (1 + counter % l.length) l

end Generate

end FactoryHub.AtWork
