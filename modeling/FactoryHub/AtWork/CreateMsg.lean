import FactoryHub.AtWork.Broadcasts
import FactoryHub.Comm.Messages

/-!
# The messages of the refbox

The handlers `create-msg` and the functions `net-create-…` over the handles of messages, with the types
of the `.proto` files. A robot fact comes with its slot `is-logging`; a multifield of one element is the
element.

* `builds_publicMsg`, `builds_robotInfo`, `builds_attentionMessage` — they make the messages, and no other
  handle stays.
-/

namespace FactoryHub.AtWork

open Clips Lib Handles Comm.Pb

/-! ## Types -/

def objectTypes : List String :=
  ["F20_20_B", "F20_20_G", "S40_40_B", "S40_40_G", "M20_100", "M20", "M30", "R20", "BEARING_BOX",
    "BEARING", "AXIS", "DISTANCE_TUBE", "MOTOR", "CONTAINER_B", "CONTAINER_R"]

def locationTypes : List String := ["SH", "WS", "CB", "WP", "PP", "ROBOT"]

/-- The package `atwork_pb_msgs`, as far as the rules of `net.clp` and of the devices work on it. -/
def atworkTypes : Types
  | "atwork_pb_msgs.Time" => some [⟨"sec", .int64, false⟩, ⟨"nsec", .int64, false⟩]
  | "atwork_pb_msgs.ObjectIdentifier" => some
      [⟨"type", .enum objectTypes, false⟩, ⟨"type_id", .int64, false⟩,
        ⟨"instance_id", .int64, false⟩, ⟨"description", .string, false⟩]
  | "atwork_pb_msgs.LocationIdentifier" => some
      [⟨"type", .enum locationTypes, false⟩, ⟨"instance_id", .uint64, false⟩,
        ⟨"description", .string, false⟩]
  | "atwork_pb_msgs.Inventory.Item" => some
      [⟨"object", .message "atwork_pb_msgs.ObjectIdentifier", false⟩, ⟨"quantity", .uint64, false⟩,
        ⟨"container", .message "atwork_pb_msgs.ObjectIdentifier", false⟩,
        ⟨"location", .message "atwork_pb_msgs.LocationIdentifier", false⟩]
  | "atwork_pb_msgs.Inventory" => some
      [⟨"items", .message "atwork_pb_msgs.Inventory.Item", true⟩]
  | "atwork_pb_msgs.TransportationTask" => some
      [⟨"object", .message "atwork_pb_msgs.ObjectIdentifier", false⟩,
        ⟨"container", .message "atwork_pb_msgs.ObjectIdentifier", false⟩,
        ⟨"quantity_delivered", .uint64, false⟩, ⟨"quantity_requested", .uint64, false⟩,
        ⟨"destination", .message "atwork_pb_msgs.LocationIdentifier", false⟩,
        ⟨"source", .message "atwork_pb_msgs.LocationIdentifier", false⟩,
        ⟨"processing_team", .string, false⟩]
  | "atwork_pb_msgs.NavigationTask" => some
      [⟨"location", .message "atwork_pb_msgs.LocationIdentifier", false⟩,
        ⟨"orientation", .enum ["NORTH", "EAST", "SOUTH", "WEST"], false⟩,
        ⟨"wait_time", .message "atwork_pb_msgs.Time", false⟩]
  | "atwork_pb_msgs.Task" => some
      [⟨"id", .uint64, false⟩, ⟨"type", .enum ["UNKNOWN", "TRANSPORTATION", "NAVIGATION"], false⟩,
        ⟨"status", .enum ["OFFERED", "TIMEOUT", "IN_PROGRESS", "PAUSED", "ABORTED", "FINISHED"],
          false⟩,
        ⟨"transportation_task", .message "atwork_pb_msgs.TransportationTask", false⟩,
        ⟨"navigation_task", .message "atwork_pb_msgs.NavigationTask", false⟩]
  | "atwork_pb_msgs.TaskInfo" => some [⟨"tasks", .message "atwork_pb_msgs.Task", true⟩]
  | "atwork_pb_msgs.BenchmarkScenario" => some
      [⟨"type", .enum ["NONE", "BNT", "BMT", "BTT", "PPT", "CBT", "AWF", "IRL"], false⟩,
        ⟨"type_id", .uint32, false⟩, ⟨"description", .string, false⟩]
  | "atwork_pb_msgs.BenchmarkState" => some
      [⟨"benchmark_time", .message "atwork_pb_msgs.Time", false⟩,
        ⟨"state", .enum ["RUNNING", "PAUSED", "FINISHED", "STOPPED"], false⟩,
        ⟨"phase", .enum ["EXECUTION", "CALIBRATION", "PREPARATION"], false⟩,
        ⟨"scenario", .message "atwork_pb_msgs.BenchmarkScenario", false⟩,
        ⟨"known_teams", .string, true⟩, ⟨"connected_teams", .string, true⟩]
  | "atwork_pb_msgs.BeaconSignal" => some
      [⟨"time", .message "atwork_pb_msgs.Time", false⟩, ⟨"seq", .uint64, false⟩,
        ⟨"team_name", .string, false⟩, ⟨"peer_name", .string, false⟩]
  | "atwork_pb_msgs.VersionInfo" => some
      [⟨"version_major", .uint32, false⟩, ⟨"version_minor", .uint32, false⟩,
        ⟨"version_micro", .uint32, false⟩, ⟨"version_string", .string, false⟩]
  | "atwork_pb_msgs.Robot" => some
      [⟨"name", .string, false⟩, ⟨"team", .string, false⟩, ⟨"host", .string, false⟩,
        ⟨"last_seen", .message "atwork_pb_msgs.Time", false⟩, ⟨"is_logging", .bool, false⟩]
  | "atwork_pb_msgs.RobotInfo" => some [⟨"robots", .message "atwork_pb_msgs.Robot", true⟩]
  | "atwork_pb_msgs.AttentionMessage" => some
      [⟨"message", .string, false⟩, ⟨"time_to_show", .float, false⟩, ⟨"team", .string, false⟩]
  | "atwork_pb_msgs.SetBenchmarkScenario" => some
      [⟨"scenario", .message "atwork_pb_msgs.BenchmarkScenario", false⟩]
  | "atwork_pb_msgs.SetBenchmarkTransitionEvent" => some
      [⟨"event", .enum ["RESET", "START", "STOP", "PAUSE", "SKIP", "SHUFFLE"], false⟩]
  | "atwork_pb_msgs.LoggingStatus" => some [⟨"is_logging", .bool, false⟩]
  | "atwork_pb_msgs.RobotStatus" => some
      [⟨"capability", .enum ["UNKNOWN", "NAVIGATION", "MANIPULATION", "PERCEPTION", "TASK"], false⟩,
        ⟨"functionality", .string, false⟩, ⟨"meta_data", .string, false⟩]
  | "atwork_pb_msgs.RobotStatusReport" => some
      [⟨"status", .message "atwork_pb_msgs.RobotStatus", true⟩]
  | "atwork_pb_msgs.BenchmarkInfo" => some [⟨"object", .string, false⟩]
  | "atwork_pb_msgs.ConveyorBeltStatus" => some
      [⟨"state", .enum ["CB_RUNNING", "CB_STOPPED"], false⟩,
        ⟨"connection_state", .enum ["CB_NOT_CONNECTED", "CB_CONNECTED"], false⟩]
  | "atwork_pb_msgs.ConveyorBeltCommand" => some
      [⟨"command", .enum ["CB_RUNNING", "CB_STOPPED"], false⟩]
  | "atwork_pb_msgs.RotatingTurntableStatus" => some
      [⟨"state", .enum ["RTT_RUNNING", "RTT_STOPPED"], false⟩,
        ⟨"connection_state", .enum ["RTT_NOT_CONNECTED", "RTT_CONNECTED"], false⟩]
  | "atwork_pb_msgs.RotatingTurntableCommand" => some
      [⟨"command", .enum ["RTT_RUNNING", "RTT_STOPPED"], false⟩]
  | _ => none

/-! ## Identifiers -/

namespace ObjectId

/-- The slot `type`. -/
def type : ObjectId → String
  | .f20_20_B => "F20_20_B"
  | .f20_20_G => "F20_20_G"
  | .s40_40_B => "S40_40_B"
  | .s40_40_G => "S40_40_G"
  | .m20_100 => "M20_100"
  | .m20 => "M20"
  | .m30 => "M30"
  | .r20 => "R20"
  | .bearingBox => "BEARING_BOX"
  | .bearing => "BEARING"
  | .axis => "AXIS"
  | .distanceTube => "DISTANCE_TUBE"
  | .motor => "MOTOR"
  | .containerB => "CONTAINER_B"
  | .containerR => "CONTAINER_R"

def description : ObjectId → String
  | .f20_20_B => "Small Black Alu. Profile"
  | .f20_20_G => "Small Grey Alu. Profile"
  | .s40_40_B => "Large Black Alu. Profile"
  | .s40_40_G => "Large Grey Alu. Profile"
  | .m20_100 => "Bolt"
  | .m20 => "Small Nut"
  | .m30 => "Large Nut"
  | .r20 => "Plastic Tube"
  | .bearingBox => "Bearing Box"
  | .bearing => "Bearing"
  | .axis => "Axis"
  | .distanceTube => "Distance Tube"
  | .motor => "Motor"
  | .containerB => "Blue Container"
  | .containerR => "Red Container"

/-- `create-msg`. None of the identifiers has an `instance-id`, and all have `type-id` 1. -/
def createMsg (self : ObjectId) : Program ℕ := do
  let object ← clipsPbCreate atworkTypes "atwork_pb_msgs.ObjectIdentifier"
  clipsPbSetField atworkTypes object "type" (.symbol self.type)
  clipsPbSetField atworkTypes object "type_id" (.integer 1)
  clipsPbSetField atworkTypes object "description" (.string self.description)
  return object

end ObjectId

namespace LocationId

/-- The slots `type` and `instance-id`. -/
def key : LocationId → String × ℕ
  | .shelf01 => ("SH", 1)
  | .shelf02 => ("SH", 2)
  | .workstation01 => ("WS", 1)
  | .workstation02 => ("WS", 2)
  | .workstation03 => ("WS", 3)
  | .workstation04 => ("WS", 4)
  | .workstation05 => ("WS", 5)
  | .workstation06 => ("WS", 6)
  | .workstation07 => ("WS", 7)
  | .workstation08 => ("WS", 8)
  | .workstation09 => ("WS", 9)
  | .workstation10 => ("WS", 10)
  | .workstation11 => ("WS", 11)
  | .workstation12 => ("WS", 12)
  | .waypoint01 => ("WP", 1)
  | .waypoint02 => ("WP", 2)
  | .waypoint03 => ("WP", 3)
  | .waypoint04 => ("WP", 4)
  | .waypoint05 => ("WP", 5)
  | .waypoint06 => ("WP", 6)
  | .waypoint07 => ("WP", 7)
  | .waypoint08 => ("WP", 8)
  | .waypoint09 => ("WP", 9)
  | .waypoint10 => ("WP", 10)
  | .waypoint11 => ("WP", 11)
  | .waypoint12 => ("WP", 12)
  | .waypoint13 => ("WP", 13)
  | .waypoint14 => ("WP", 14)
  | .waypoint15 => ("WP", 15)
  | .conveyorbelt01 => ("CB", 1)
  | .conveyorbelt02 => ("CB", 2)
  | .precision01 => ("PP", 1)
  | .robot => ("ROBOT", 1)

def description (l : LocationId) : String :=
  match l with
  | .conveyorbelt01 => "Conveyor Belt"
  | .conveyorbelt02 => "Rotating Table"
  | .precision01 => "Precision Platform"
  | .robot => "Robot"
  | l => match l.key with
      | ("SH", i) => "Shelf " ++ toString i
      | ("WS", i) => "Workstation " ++ toString i
      | (_, i) => "Waypoint " ++ toString i

/-- `create-msg`. -/
def createMsg (self : LocationId) : Program ℕ := do
  let location ← clipsPbCreate atworkTypes "atwork_pb_msgs.LocationIdentifier"
  clipsPbSetField atworkTypes location "type" (.symbol self.key.1)
  clipsPbSetField atworkTypes location "instance_id" (.integer self.key.2)
  clipsPbSetField atworkTypes location "description" (.string self.description)
  return location

end LocationId

/-! ## The inventory -/

/-- `create-msg`. -/
def Item.createMsg (self : Item) : Program ℕ := do
  let item ← clipsPbCreate atworkTypes "atwork_pb_msgs.Inventory.Item"
  clipsPbSetField atworkTypes item "object" (.address (← self.objectId.createMsg))
  self.locationId.forM fun location => do
    clipsPbSetField atworkTypes item "location" (.address (← location.createMsg))
  self.containerId.forM fun container => do
    clipsPbSetField atworkTypes item "container" (.address (← container.createMsg))
  self.quantity.forM fun quantity =>
    clipsPbSetField atworkTypes item "quantity" (.integer quantity)
  return item

/-- `create-msg` of an inventory with these items. -/
def Inventory.createMsg (items : List Item) : Program ℕ := do
  let inventory ← clipsPbCreate atworkTypes "atwork_pb_msgs.Inventory"
  items.forM fun item => do
    clipsPbAddList atworkTypes inventory "items" (.address (← item.createMsg))
  return inventory

/-! ## The tasks -/

/-- The lines that set a field of type `Time`. -/
def setTime (handle : ℕ) (name : String) (time : TimeMsg) : Program Unit := do
  match ← clipsPbFieldValue atworkTypes handle name with
  | .address t =>
      clipsPbSetField atworkTypes t "sec" (.integer time.sec)
      clipsPbSetField atworkTypes t "nsec" (.integer time.nsec)
      -- destroys `t`
      clipsPbSetField atworkTypes handle name (.address t)
  | _ => return ()

/-- `create-msg`. -/
def TransportationTask.createMsg (self : TransportationTask) : Program ℕ := do
  let task ← clipsPbCreate atworkTypes "atwork_pb_msgs.TransportationTask"
  clipsPbSetField atworkTypes task "object" (.address (← self.objectId.createMsg))
  self.containerId.forM fun container => do
    clipsPbSetField atworkTypes task "container" (.address (← container.createMsg))
  clipsPbSetField atworkTypes task "quantity_delivered" (.integer self.quantityDelivered)
  self.quantityRequested.forM fun quantity =>
    clipsPbSetField atworkTypes task "quantity_requested" (.integer quantity)
  self.destinationId.forM fun destination => do
    clipsPbSetField atworkTypes task "destination" (.address (← destination.createMsg))
  self.sourceId.forM fun source => do
    clipsPbSetField atworkTypes task "source" (.address (← source.createMsg))
  self.processingTeam.forM fun team =>
    clipsPbSetField atworkTypes task "processing_team" (.string team)
  return task

def Orientation.name : Orientation → String
  | .north => "NORTH"
  | .east => "EAST"
  | .south => "SOUTH"
  | .west => "WEST"

/-- `create-msg`. -/
def NavigationTask.createMsg (self : NavigationTask) : Program ℕ := do
  let task ← clipsPbCreate atworkTypes "atwork_pb_msgs.NavigationTask"
  clipsPbSetField atworkTypes task "location" (.address (← self.locationId.createMsg))
  setTime task "wait_time" (.ofTime (Time.fromSec self.waitTime))
  clipsPbSetField atworkTypes task "orientation" (.symbol self.orientation.name)
  return task

def TaskType.name : TaskType → String
  | .unknown => "UNKNOWN"
  | .transportation => "TRANSPORTATION"
  | .navigation => "NAVIGATION"

def TaskStatus.name : TaskStatus → String
  | .offered => "OFFERED"
  | .timeout => "TIMEOUT"
  | .inProgress => "IN_PROGRESS"
  | .paused => "PAUSED"
  | .aborted => "ABORTED"
  | .finished => "FINISHED"

/-- `create-msg`. -/
def Task.createMsg (self : Task) : Program ℕ := do
  let task ← clipsPbCreate atworkTypes "atwork_pb_msgs.Task"
  clipsPbSetField atworkTypes task "id" (.integer self.id)
  clipsPbSetField atworkTypes task "type" (.symbol self.taskType.name)
  clipsPbSetField atworkTypes task "status" (.symbol self.status.name)
  self.transportationTask.forM fun transportation => do
    clipsPbSetField atworkTypes task "transportation_task" (.address (← transportation.createMsg))
  self.navigationTask.forM fun navigation => do
    clipsPbSetField atworkTypes task "navigation_task" (.address (← navigation.createMsg))
  return task

/-- `create-msg` of a task info with these tasks. -/
def TaskInfo.createMsg (tasks : List Task) : Program ℕ := do
  let taskInfo ← clipsPbCreate atworkTypes "atwork_pb_msgs.TaskInfo"
  tasks.forM fun task => do
    clipsPbAddList atworkTypes taskInfo "tasks" (.address (← task.createMsg))
  return taskInfo

/-! ## The benchmark -/

def BenchmarkType.name : BenchmarkType → String
  | .none => "NONE"
  | .bnt => "BNT"
  | .bmt => "BMT"
  | .btt => "BTT"
  | .ppt => "PPT"
  | .cbt => "CBT"
  | .awf => "AWF"
  | .irl => "IRL"

/-- `create-msg` of a scenario. -/
def ScenarioMsg.createMsg (self : ScenarioMsg) : Program ℕ := do
  let scenario ← clipsPbCreate atworkTypes "atwork_pb_msgs.BenchmarkScenario"
  clipsPbSetField atworkTypes scenario "type" (.symbol self.type.name)
  clipsPbSetField atworkTypes scenario "type_id" (.integer self.typeId)
  clipsPbSetField atworkTypes scenario "description" (.string self.description)
  return scenario

def stateName : RobotState → String
  | .running => "RUNNING"
  | .paused => "PAUSED"
  | .finished => "FINISHED"
  | .stopped => "STOPPED"

def phaseName : Phase → String
  | .execution => "EXECUTION"
  | .calibration => "CALIBRATION"
  | .preparation => "PREPARATION"

namespace PublicMsg

/-- The functions `net-create-…`, the lines of `net-send-beacon` that make the beacon, and the
`create-msg` of the inventory and the task info. -/
def createMsg : PublicMsg → Program ℕ
  | .beaconSignal time seq teamName peerName => do
      let beacon ← clipsPbCreate atworkTypes "atwork_pb_msgs.BeaconSignal"
      setTime beacon "time" time
      clipsPbSetField atworkTypes beacon "seq" (.integer seq)
      clipsPbSetField atworkTypes beacon "team_name" (.string teamName)
      clipsPbSetField atworkTypes beacon "peer_name" (.string peerName)
      return beacon
  | .benchmarkState benchmarkTime scenario knownTeams state phase => do
      let benchmarkState ← clipsPbCreate atworkTypes "atwork_pb_msgs.BenchmarkState"
      setTime benchmarkState "benchmark_time" benchmarkTime
      clipsPbSetField atworkTypes benchmarkState "scenario" (.address (← scenario.createMsg))
      knownTeams.forM fun team =>
        clipsPbAddList atworkTypes benchmarkState "known_teams" (.string team)
      clipsPbSetField atworkTypes benchmarkState "state" (.symbol (stateName state))
      clipsPbSetField atworkTypes benchmarkState "phase" (.symbol (phaseName phase))
      return benchmarkState
  | .inventory items => Inventory.createMsg items
  | .taskInfo tasks => TaskInfo.createMsg tasks
  | .versionInfo version versionString => do
      let versionInfo ← clipsPbCreate atworkTypes "atwork_pb_msgs.VersionInfo"
      clipsPbSetField atworkTypes versionInfo "version_major" (.integer version.major)
      clipsPbSetField atworkTypes versionInfo "version_minor" (.integer version.minor)
      clipsPbSetField atworkTypes versionInfo "version_micro" (.integer version.micro)
      clipsPbSetField atworkTypes versionInfo "version_string" (.string versionString)
      return versionInfo

end PublicMsg

/-! ## For the clients -/

def symbol (b : Bool) : Value := .symbol (if b then "TRUE" else "FALSE")

/-- The lines of `net-create-RobotInfo` for a robot, with its slot `is-logging`. -/
def Robot.createMsg (self : Robot) (isLogging : Bool) : Program ℕ := do
  let robot ← clipsPbCreate atworkTypes "atwork_pb_msgs.Robot"
  setTime robot "last_seen" (.ofTime self.lastSeen)
  clipsPbSetField atworkTypes robot "name" (.string self.name)
  clipsPbSetField atworkTypes robot "team" (.string self.team)
  clipsPbSetField atworkTypes robot "host" (.string self.host)
  clipsPbSetField atworkTypes robot "is_logging" (symbol isLogging)
  return robot

/-- `net-create-RobotInfo` of the sorted robots. -/
def netCreateRobotInfo (robots : List (Robot × Bool)) : Program ℕ := do
  let robotInfo ← clipsPbCreate atworkTypes "atwork_pb_msgs.RobotInfo"
  robots.forM fun r => do
    clipsPbAddList atworkTypes robotInfo "robots" (.address (← r.1.createMsg r.2))
  return robotInfo

/-- The lines of `send-attmsg` that make the message. -/
def createAttentionMessage (text team : String) (time : Int) : Program ℕ := do
  let attmsg ← clipsPbCreate atworkTypes "atwork_pb_msgs.AttentionMessage"
  clipsPbSetField atworkTypes attmsg "message" (.string text)
  if team ≠ "" then clipsPbSetField atworkTypes attmsg "team" (.string team)
  if time > 0 then clipsPbSetField atworkTypes attmsg "time_to_show" (.integer time)
  return attmsg

/-- `net-create-BenchmarkInfo` of a fact `benchmark-info`. -/
def netCreateBenchmarkInfo (object : String) : Program ℕ := do
  let bi ← clipsPbCreate atworkTypes "atwork_pb_msgs.BenchmarkInfo"
  clipsPbSetField atworkTypes bi "object" (.string object)
  return bi

/-- A device that is commanded by clients, with the prefix of its symbols. -/
inductive Device where
  | conveyorBelt | rotatingTurntable
  deriving DecidableEq, Repr

namespace Device

def statusType : Device → String
  | .conveyorBelt => "atwork_pb_msgs.ConveyorBeltStatus"
  | .rotatingTurntable => "atwork_pb_msgs.RotatingTurntableStatus"

def commandType : Device → String
  | .conveyorBelt => "atwork_pb_msgs.ConveyorBeltCommand"
  | .rotatingTurntable => "atwork_pb_msgs.RotatingTurntableCommand"

def connectionState : Device → Bool → String
  | .conveyorBelt, true => "CB_CONNECTED"
  | .conveyorBelt, false => "CB_NOT_CONNECTED"
  | .rotatingTurntable, true => "RTT_CONNECTED"
  | .rotatingTurntable, false => "RTT_NOT_CONNECTED"

def runMode : Device → Bool → String
  | .conveyorBelt, true => "CB_RUNNING"
  | .conveyorBelt, false => "CB_STOPPED"
  | .rotatingTurntable, true => "RTT_RUNNING"
  | .rotatingTurntable, false => "RTT_STOPPED"

/-- `net-create-ConveyorBeltStatus` and `net-create-RotatingTurntableStatus`, which differ in these
names only. -/
def netCreateStatus (device : Device) (isConnected isRunning : Bool) : Program ℕ := do
  let status ← clipsPbCreate atworkTypes device.statusType
  clipsPbSetField atworkTypes status "connection_state" (.symbol (device.connectionState isConnected))
  clipsPbSetField atworkTypes status "state" (.symbol (device.runMode isRunning))
  return status

end Device

/-- `net-create-ConveyorBeltStatus`. -/
def netCreateConveyorBeltStatus : Bool → Bool → Program ℕ := Device.conveyorBelt.netCreateStatus

/-- `net-create-RotatingTurntableStatus`. -/
def netCreateRotatingTurntableStatus : Bool → Bool → Program ℕ :=
  Device.rotatingTurntable.netCreateStatus

/-! ## What they make -/

section

variable {P : Handles (Option PbMessage) → Prop} {m : PbMessage} {name type : String}

theorem builds_type (type : String) (h : (atworkTypes type).isSome = true) :
    Builds P (clipsPbCreate atworkTypes type) (some { type }) := builds_clipsPbCreate h

def ObjectId.message (self : ObjectId) : PbMessage :=
  ({ type := "atwork_pb_msgs.ObjectIdentifier" } : PbMessage)
    |>.set "type" (.enum self.type)
    |>.set "type_id" (.integer 1)
    |>.set "description" (.string self.description)

theorem builds_objectId (self : ObjectId) (P : Handles (Option PbMessage) → Prop) :
    Builds P self.createMsg (some self.message) := by
  refine (builds_type _ rfl).finish fun h => ?_
  refine Fills.finish (fills_setField rfl rfl (v := .enum self.type) ?_) ?_
  · cases self <;> rfl
  refine Fills.finish (fills_setField rfl rfl rfl) ?_
  refine Fills.finish (fills_setField rfl rfl rfl) ?_
  exact finishes_return

def LocationId.message (self : LocationId) : PbMessage :=
  ({ type := "atwork_pb_msgs.LocationIdentifier" } : PbMessage)
    |>.set "type" (.enum self.key.1)
    |>.set "instance_id" (.integer self.key.2)
    |>.set "description" (.string self.description)

theorem builds_locationId (self : LocationId) (P : Handles (Option PbMessage) → Prop) :
    Builds P self.createMsg (some self.message) := by
  refine (builds_type _ rfl).finish fun h => ?_
  refine Fills.finish (fills_setField rfl rfl (v := .enum self.key.1) ?_) ?_
  · cases self <;> rfl
  refine Fills.finish (fills_setField rfl rfl (v := .integer self.key.2) ?_) ?_
  · cases self <;> rfl
  refine Fills.finish (fills_setField rfl rfl rfl) ?_
  exact finishes_return

def Item.message (self : Item) : PbMessage :=
  ({ type := "atwork_pb_msgs.Inventory.Item" } : PbMessage)
    |>.set "object" self.objectId.message.toValue
    |>.setOption "location" (self.locationId.map fun l => l.message.toValue)
    |>.setOption "container" (self.containerId.map fun c => c.message.toValue)
    |>.setOption "quantity" (self.quantity.map fun q => .integer (ulong q))

theorem builds_item (self : Item) (P : Handles (Option PbMessage) → Prop) :
    Builds P self.createMsg (some self.message) := by
  refine (builds_type _ rfl).finish fun h => ?_
  refine finishes_setMessage rfl (by rfl) (builds_objectId _) ?_
  refine Fills.finish (fills_option fun l => fills_setMessage rfl (by rfl) (builds_locationId l)) ?_
  refine Fills.finish (fills_option fun c => fills_setMessage rfl (by rfl) (builds_objectId c)) ?_
  refine Fills.finish (fills_option fun q => fills_setField rfl rfl rfl) ?_
  exact finishes_return

def Inventory.message (items : List Item) : PbMessage :=
  ({ type := "atwork_pb_msgs.Inventory" } : PbMessage)
    |>.addAll "items" (items.map fun item => item.message.toValue)

theorem builds_inventory (items : List Item) (P : Handles (Option PbMessage) → Prop) :
    Builds P (Inventory.createMsg items) (some (Inventory.message items)) := by
  refine (builds_type _ rfl).finish fun h => ?_
  refine Fills.finish (fills_addMessages Item.message items rfl rfl (fun _ => rfl)
    builds_item) ?_
  exact finishes_return

def TimeMsg.message (self : TimeMsg) : PbMessage :=
  ({ type := "atwork_pb_msgs.Time" } : PbMessage)
    |>.set "sec" (.integer (long self.sec))
    |>.set "nsec" (.integer (long self.nsec))

/-- The copy of the field is filled, and put into it. -/
theorem fills_setTime {time : TimeMsg} (hm : m.type = type)
    (hfield : atworkTypes.findFieldByName type name =
      some ⟨name, .message "atwork_pb_msgs.Time", false⟩) (hunset : m.find name = none) :
    Fills (fun h => setTime h name time) (some m) (some (m.set name time.message.toValue)) := by
  subst hm
  apply fills_fieldValue_message (m := m) hfield rfl rfl
  have hchild : m.child name "atwork_pb_msgs.Time" = { type := "atwork_pb_msgs.Time" } := by
    simp [PbMessage.child, hunset]
  rw [hchild]
  apply Consumes.fill (fills_setField rfl rfl rfl)
  apply Consumes.fill (fills_setField rfl rfl rfl)
  have hput : Consumes (fun h h' => clipsPbSetField atworkTypes h name (.address h')) (some m)
      (some time.message) (some (m.set name time.message.toValue)) :=
    consumes_putField hfield rfl rfl
  exact hput

def TransportationTask.message (self : TransportationTask) : PbMessage :=
  ({ type := "atwork_pb_msgs.TransportationTask" } : PbMessage)
    |>.set "object" self.objectId.message.toValue
    |>.setOption "container" (self.containerId.map fun c => c.message.toValue)
    |>.set "quantity_delivered" (.integer (ulong self.quantityDelivered))
    |>.setOption "quantity_requested" (self.quantityRequested.map fun q => .integer (ulong q))
    |>.setOption "destination" (self.destinationId.map fun l => l.message.toValue)
    |>.setOption "source" (self.sourceId.map fun l => l.message.toValue)
    |>.setOption "processing_team" (self.processingTeam.map .string)

theorem builds_transportationTask (self : TransportationTask)
    (P : Handles (Option PbMessage) → Prop) : Builds P self.createMsg (some self.message) := by
  refine (builds_type _ rfl).finish fun h => ?_
  refine finishes_setMessage rfl (by rfl) (builds_objectId _) ?_
  refine Fills.finish (fills_option fun c => fills_setMessage rfl (by rfl) (builds_objectId c)) ?_
  refine Fills.finish (fills_setField rfl rfl rfl) ?_
  refine Fills.finish (fills_option fun q => fills_setField rfl rfl rfl) ?_
  refine Fills.finish (fills_option fun l => fills_setMessage rfl (by rfl) (builds_locationId l)) ?_
  refine Fills.finish (fills_option fun l => fills_setMessage rfl (by rfl) (builds_locationId l)) ?_
  refine Fills.finish (fills_option fun team => fills_setField rfl rfl rfl) ?_
  exact finishes_return

def NavigationTask.message (self : NavigationTask) : PbMessage :=
  ({ type := "atwork_pb_msgs.NavigationTask" } : PbMessage)
    |>.set "location" self.locationId.message.toValue
    |>.set "wait_time" (TimeMsg.ofTime (Time.fromSec self.waitTime)).message.toValue
    |>.set "orientation" (.enum self.orientation.name)

theorem builds_navigationTask (self : NavigationTask) (P : Handles (Option PbMessage) → Prop) :
    Builds P self.createMsg (some self.message) := by
  refine (builds_type _ rfl).finish fun h => ?_
  refine finishes_setMessage rfl (by rfl) (builds_locationId _) ?_
  refine Fills.finish (fills_setTime rfl rfl (by simp [PbMessage.find_set])) ?_
  refine Fills.finish (fills_setField rfl rfl (v := .enum self.orientation.name) ?_) ?_
  · cases self.orientation <;> rfl
  exact finishes_return

def Task.message (self : Task) : PbMessage :=
  ({ type := "atwork_pb_msgs.Task" } : PbMessage)
    |>.set "id" (.integer (ulong self.id))
    |>.set "type" (.enum self.taskType.name)
    |>.set "status" (.enum self.status.name)
    |>.setOption "transportation_task" (self.transportationTask.map fun t => t.message.toValue)
    |>.setOption "navigation_task" (self.navigationTask.map fun t => t.message.toValue)

theorem builds_task (self : Task) (P : Handles (Option PbMessage) → Prop) :
    Builds P self.createMsg (some self.message) := by
  refine (builds_type _ rfl).finish fun h => ?_
  refine Fills.finish (fills_setField rfl rfl rfl) ?_
  refine Fills.finish (fills_setField rfl rfl (v := .enum self.taskType.name) ?_) ?_
  · cases self.taskType <;> rfl
  refine Fills.finish (fills_setField rfl rfl (v := .enum self.status.name) ?_) ?_
  · cases self.status <;> rfl
  refine Fills.finish
    (fills_option fun t => fills_setMessage rfl (by rfl) (builds_transportationTask t)) ?_
  refine Fills.finish
    (fills_option fun t => fills_setMessage rfl (by rfl) (builds_navigationTask t)) ?_
  exact finishes_return

def TaskInfo.message (tasks : List Task) : PbMessage :=
  ({ type := "atwork_pb_msgs.TaskInfo" } : PbMessage)
    |>.addAll "tasks" (tasks.map fun task => task.message.toValue)

theorem builds_taskInfo (tasks : List Task) (P : Handles (Option PbMessage) → Prop) :
    Builds P (TaskInfo.createMsg tasks) (some (TaskInfo.message tasks)) := by
  refine (builds_type _ rfl).finish fun h => ?_
  refine Fills.finish (fills_addMessages Task.message tasks rfl rfl (fun _ => rfl)
    builds_task) ?_
  exact finishes_return

def ScenarioMsg.message (self : ScenarioMsg) : PbMessage :=
  ({ type := "atwork_pb_msgs.BenchmarkScenario" } : PbMessage)
    |>.set "type" (.enum self.type.name)
    |>.set "type_id" (.integer (uint self.typeId))
    |>.set "description" (.string self.description)

theorem builds_scenario (self : ScenarioMsg) (P : Handles (Option PbMessage) → Prop) :
    Builds P self.createMsg (some self.message) := by
  refine (builds_type _ rfl).finish fun h => ?_
  refine Fills.finish (fills_setField rfl rfl (v := .enum self.type.name) ?_) ?_
  · cases self.type <;> rfl
  refine Fills.finish (fills_setField rfl rfl rfl) ?_
  refine Fills.finish (fills_setField rfl rfl rfl) ?_
  exact finishes_return

/-- The message itself. -/
def PublicMsg.message : PublicMsg → PbMessage
  | .beaconSignal time seq teamName peerName =>
      ({ type := "atwork_pb_msgs.BeaconSignal" } : PbMessage)
        |>.set "time" time.message.toValue
        |>.set "seq" (.integer (ulong seq))
        |>.set "team_name" (.string teamName)
        |>.set "peer_name" (.string peerName)
  | .benchmarkState benchmarkTime scenario knownTeams state phase =>
      ({ type := "atwork_pb_msgs.BenchmarkState" } : PbMessage)
        |>.set "benchmark_time" benchmarkTime.message.toValue
        |>.set "scenario" scenario.message.toValue
        |>.addAll "known_teams" (knownTeams.map .string)
        |>.set "state" (.enum (stateName state))
        |>.set "phase" (.enum (phaseName phase))
  | .inventory items => Inventory.message items
  | .taskInfo tasks => TaskInfo.message tasks
  | .versionInfo version versionString =>
      ({ type := "atwork_pb_msgs.VersionInfo" } : PbMessage)
        |>.set "version_major" (.integer (uint version.major))
        |>.set "version_minor" (.integer (uint version.minor))
        |>.set "version_micro" (.integer (uint version.micro))
        |>.set "version_string" (.string versionString)

/-- **A public message** is made without a misuse of a handle, and is the only one that stays. -/
theorem builds_publicMsg (msg : PublicMsg) (P : Handles (Option PbMessage) → Prop) :
    Builds P msg.createMsg (some msg.message) := by
  cases msg with
  | beaconSignal time seq teamName peerName =>
      refine (builds_type _ rfl).finish fun h => ?_
      refine Fills.finish (fills_setTime rfl rfl (by simp)) ?_
      refine Fills.finish (fills_setField rfl rfl rfl) ?_
      refine Fills.finish (fills_setField rfl rfl rfl) ?_
      refine Fills.finish (fills_setField rfl rfl rfl) ?_
      exact finishes_return
  | benchmarkState benchmarkTime scenario knownTeams state phase =>
      refine (builds_type _ rfl).finish fun h => ?_
      refine Fills.finish (fills_setTime rfl rfl (by simp)) ?_
      refine finishes_setMessage rfl (by rfl) (builds_scenario _) ?_
      refine Fills.finish (fills_addFields (v := .string) knownTeams rfl (by rfl) fun _ => rfl) ?_
      refine Fills.finish (fills_setField rfl rfl (v := .enum (stateName state)) ?_) ?_
      · cases state <;> rfl
      refine Fills.finish (fills_setField rfl rfl (v := .enum (phaseName phase)) ?_) ?_
      · cases phase <;> rfl
      exact finishes_return
  | inventory items => exact builds_inventory items P
  | taskInfo tasks => exact builds_taskInfo tasks P
  | versionInfo version versionString =>
      refine (builds_type _ rfl).finish fun h => ?_
      refine Fills.finish (fills_setField rfl rfl rfl) ?_
      refine Fills.finish (fills_setField rfl rfl rfl) ?_
      refine Fills.finish (fills_setField rfl rfl rfl) ?_
      refine Fills.finish (fills_setField rfl rfl rfl) ?_
      exact finishes_return

def Robot.message (self : Robot) (isLogging : Bool) : PbMessage :=
  ({ type := "atwork_pb_msgs.Robot" } : PbMessage)
    |>.set "last_seen" (TimeMsg.ofTime self.lastSeen).message.toValue
    |>.set "name" (.string self.name)
    |>.set "team" (.string self.team)
    |>.set "host" (.string self.host)
    |>.set "is_logging" (.bool isLogging)

theorem builds_robot (r : Robot × Bool) (P : Handles (Option PbMessage) → Prop) :
    Builds P (r.1.createMsg r.2) (some (r.1.message r.2)) := by
  refine (builds_type _ rfl).finish fun h => ?_
  refine Fills.finish (fills_setTime rfl rfl (by simp)) ?_
  refine Fills.finish (fills_setField rfl rfl rfl) ?_
  refine Fills.finish (fills_setField rfl rfl rfl) ?_
  refine Fills.finish (fills_setField rfl rfl rfl) ?_
  refine Fills.finish (fills_setField rfl rfl (v := .bool r.2) ?_) ?_
  · cases r.2 <;> rfl
  exact finishes_return

def robotInfoMessage (robots : List (Robot × Bool)) : PbMessage :=
  ({ type := "atwork_pb_msgs.RobotInfo" } : PbMessage)
    |>.addAll "robots" (robots.map fun r => (r.1.message r.2).toValue)

theorem builds_robotInfo (robots : List (Robot × Bool)) (P : Handles (Option PbMessage) → Prop) :
    Builds P (netCreateRobotInfo robots) (some (robotInfoMessage robots)) := by
  refine (builds_type _ rfl).finish fun h => ?_
  refine Fills.finish (fills_addMessages (fun r : Robot × Bool => r.1.message r.2) robots
    rfl rfl (fun _ => rfl) builds_robot) ?_
  exact finishes_return

def attentionMessage (text team : String) (time : Int) : PbMessage :=
  ({ type := "atwork_pb_msgs.AttentionMessage" } : PbMessage)
    |>.set "message" (.string text)
    |>.setOption "team" (if team ≠ "" then some (.string team) else none)
    |>.setOption "time_to_show" (if time > 0 then some (.float time) else none)

theorem builds_attentionMessage (text team : String) (time : Int)
    (P : Handles (Option PbMessage) → Prop) :
    Builds P (createAttentionMessage text team time) (some (attentionMessage text team time)) := by
  unfold createAttentionMessage attentionMessage
  by_cases hteam : team = "" <;> by_cases htime : time > 0
  all_goals
    simp only [hteam, htime, ne_eq, not_true_eq_false, not_false_eq_true, if_true, if_false,
      PbMessage.setOption_some, PbMessage.setOption_none]
    refine (builds_type _ rfl).finish fun h => ?_
    repeat refine Fills.finish (fills_setField rfl rfl rfl) ?_
    exact finishes_return

def benchmarkInfoMessage (object : String) : PbMessage :=
  ({ type := "atwork_pb_msgs.BenchmarkInfo" } : PbMessage) |>.set "object" (.string object)

theorem builds_benchmarkInfo (object : String) (P : Handles (Option PbMessage) → Prop) :
    Builds P (netCreateBenchmarkInfo object) (some (benchmarkInfoMessage object)) := by
  refine (builds_type _ rfl).finish fun h => ?_
  refine Fills.finish (fills_setField rfl rfl rfl) ?_
  exact finishes_return

def Device.statusMessage (device : Device) (isConnected isRunning : Bool) : PbMessage :=
  ({ type := device.statusType } : PbMessage)
    |>.set "connection_state" (.enum (device.connectionState isConnected))
    |>.set "state" (.enum (device.runMode isRunning))

theorem builds_deviceStatus (device : Device) (isConnected isRunning : Bool)
    (P : Handles (Option PbMessage) → Prop) :
    Builds P (device.netCreateStatus isConnected isRunning)
      (some (device.statusMessage isConnected isRunning)) := by
  have hconnected : Fills (fun h => clipsPbSetField atworkTypes h "connection_state"
      (.symbol (device.connectionState isConnected))) (some { type := device.statusType })
      (some (({ type := device.statusType } : PbMessage)
        |>.set "connection_state" (.enum (device.connectionState isConnected)))) := by
    cases device <;> cases isConnected <;> exact fills_setField rfl rfl rfl
  have hrunning : Fills (fun h => clipsPbSetField atworkTypes h "state"
      (.symbol (device.runMode isRunning)))
      (some (({ type := device.statusType } : PbMessage)
        |>.set "connection_state" (.enum (device.connectionState isConnected))))
      (some (device.statusMessage isConnected isRunning)) := by
    cases device <;> cases isRunning <;> exact fills_setField rfl rfl rfl
  refine (builds_type _ (by cases device <;> rfl)).finish fun h => ?_
  exact hconnected.finish (hrunning.finish finishes_return)

end

end FactoryHub.AtWork
