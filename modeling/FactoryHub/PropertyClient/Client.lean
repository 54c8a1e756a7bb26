import FactoryHub.Lib.Run
import Mathlib.Data.List.Perm.Basic
import Mathlib.Data.Rat.Defs

/-!
# The property client

`src/libs/property_client/`: the thread that keeps the properties of a device of a property server.
Every operation holds `mutex_`, so an interleaving is a sequence of operations. The JSON library is
`Value`, over any type of numbers with its conversions; what it throws, and a null pointer that is
dereferenced, is a `Fault`, after which nothing runs.
-/

namespace FactoryHub.PropertyClient

open Lib

/-! ## JSON -/

/-- The conversions of `web::json::number`. -/
class Number (N : Type) where
  Double : Type
  toInt64 : N → Int64
  toUInt64 : N → UInt64
  toDouble : N → Double

/-- `web::json::value`. -/
inductive Value (N : Type) where
  | null
  | boolean (b : Bool)
  | number (n : N)
  | string (s : String)
  | array (items : List (Value N))
  | object (fields : List (String × Value N))

/-- `web::json::object`. -/
abbrev Object (N : Type) := List (String × Value N)

inductive Fault where
  | jsonException
  | nullDereference
  deriving DecidableEq, Repr

variable {N : Type}

/-- `object[key]`: null where there is no such field. -/
def Object.get (object : Object N) (key : String) : Value N := (object.lookup key).getD .null

namespace Value

def asString : Value N → Except Fault String
  | .string s => .ok s
  | _ => .error .jsonException

def asBool : Value N → Except Fault Bool
  | .boolean b => .ok b
  | _ => .error .jsonException

def asNumber : Value N → Except Fault N
  | .number n => .ok n
  | _ => .error .jsonException

end Value

/-! ## Properties -/

variable [Number N]

/-- `type_` with `value_`, `min_value_` and `max_value_`. What a string property keeps is a pointer to
a temporary string, which is not modelled. -/
inductive Held (N : Type) [Number N] where
  | bool (value : Bool)
  | string
  | long (value min max : Int64)
  | ulong (value min max : UInt64)
  | double (value min max : Number.Double N)
  | unknown

/-- `Property`, without its client. -/
structure Property (N : Type) [Number N] where
  uri : String
  id : String
  name : String
  description : String
  readonly : Bool
  timestamp : UInt64 := 0
  held : Held N

/-- A number field, converted. -/
def numberField {α : Type} (convert : N → α) (property : Object N) (key : String) :
    Except Fault α := do
  let n ← (property.get key).asNumber
  return convert n

/-- The `value`, `min` and `max` of a property of type long. -/
def longFields (property : Object N) : Except Fault (Held N) := do
  let value ← numberField Number.toInt64 property "value"
  let min ← numberField Number.toInt64 property "min"
  let max ← numberField Number.toInt64 property "max"
  return .long value min max

/-- The `value`, `min` and `max` of a property of type ulong. -/
def ulongFields (property : Object N) : Except Fault (Held N) := do
  let value ← numberField Number.toUInt64 property "value"
  let min ← numberField Number.toUInt64 property "min"
  let max ← numberField Number.toUInt64 property "max"
  return .ulong value min max

/-- The `value`, `min` and `max` of a property of type double. -/
def doubleFields (property : Object N) : Except Fault (Held N) := do
  let value ← numberField Number.toDouble property "value"
  let min ← numberField Number.toDouble property "min"
  let max ← numberField Number.toDouble property "max"
  return .double value min max

def boolField (property : Object N) : Except Fault (Held N) := do
  let value ← (property.get "value").asBool
  return .bool value

def stringField (property : Object N) : Except Fault (Held N) := do
  let _ ← (property.get "value").asString
  return .string

/-- What `create_property` reads for a type. -/
def heldOfType (type : String) (property : Object N) : Except Fault (Held N) :=
  if type = "bool" then boolField property
  else if type = "long" then longFields property
  else if type = "ulong" then ulongFields property
  else if type = "string" then stringField property
  else if type = "double" then doubleFields property
  else .ok .unknown

/-- `create_property`. -/
def createProperty (property : Object N) : Except Fault (Property N) := do
  let id ← (property.get "id").asString
  let name ← (property.get "name").asString
  let uri ← (property.get "uri").asString
  let description ← (property.get "description").asString
  let readonly ← (property.get "readonly").asBool
  let type ← (property.get "type").asString
  let held ← heldOfType type property
  return { uri, id, name, description, readonly, held }

/-- The new values of a property that has changed. -/
def Held.update (property : Object N) : Held N → Except Fault (Held N)
  | .long .. => longFields property
  | .ulong .. => ulongFields property
  | .double .. => doubleFields property
  | .bool _ => boolField property
  | .string => stringField property
  | .unknown => .ok .unknown

/-! ## The cache -/

/-- `properties_`: an id has no entry, or a pointer, which may be null. -/
def Cache (N : Type) [Number N] := String → Option (Option (Property N))

namespace Cache

def empty : Cache N := fun _ => none

/-- `properties_[id] = p`. -/
def set (properties : Cache N) (id : String) (p : Option (Property N)) : Cache N :=
  fun i => if i = id then some p else properties i

end Cache

/-- The pointer under an id, where there is none that to a new property. -/
def findOrCreate (property : Object N) (properties : Cache N) (id : String) :
    Except Fault (Option (Property N)) :=
  match properties id with
  | some entry => .ok entry
  | none => some <$> createProperty property

/-- `process_property`. Of what has changed it notes the id. -/
def processProperty (property : Object N) (properties : Cache N) (changed : List String) :
    Except Fault (Cache N × List String) := do
  let id ← (property.get "id").asString
  let entry ← findOrCreate property properties id
  match entry with
  | none => .error .nullDereference
  | some p =>
      let newTimestamp ← numberField Number.toUInt64 property "timestamp"
      if p.timestamp ≠ newTimestamp then
        let held ← p.held.update property
        return (properties.set id (some { p with timestamp := newTimestamp, held }), changed ++ [id])
      else return (properties.set id (some p), changed)

/-- The objects in the list of properties. -/
def listed (value : Value N) : List (Object N) :=
  match value with
  | .object device =>
      match Object.get device "properties" with
      | .array items => items.filterMap (fun | .object property => some property | _ => none)
      | _ => []
  | _ => []

/-- The loop of `process_property_list`. -/
def processAll (properties : Cache N) (changed : List String) :
    List (Object N) → Except Fault (Cache N × List String)
  | [] => .ok (properties, changed)
  | property :: rest => do
      let (properties, changed) ← processProperty property properties changed
      processAll properties changed rest

/-! ## The client -/

/-- What the listener is told. -/
inductive Call (N : Type) [Number N] where
  | deviceConnected
  | deviceError
  | deviceDisconnected
  | propertyChanged (property : Option (Property N))

/-- `process_property_list`: the cache, and the properties the listener is told of. -/
def processPropertyList (value : Value N) (properties : Cache N) :
    Except Fault (Cache N × List (Call N)) := do
  let (properties, changed) ← processAll properties [] (listed value)
  return (properties, changed.map (fun id => .propertyChanged ((properties id).getD none)))

/-- `Client`. `httpClient` is the base url of the HTTP client, if there is one. -/
structure Client (N : Type) [Number N] where
  serverName : String := ""
  httpClient : Option String := none
  properties : Cache N := .empty
  servers : List (String × String) := []

/-- How a request ends: with an `http_exception`, or with a response, whether its status is OK, and
its JSON, if it can be extracted. -/
inductive Response (N : Type) where
  | failed
  | answered (ok : Bool) (json : Option (Value N))

/-- What is done under the mutex. An iteration of `loop` carries the responses it gets: that of the
connected server, or those of the servers in the order in which the map iterates over them. -/
inductive Event (N : Type) where
  | poll (response : Response N)
  | search (order : List (String × String)) (response : String → Response N)
  | serviceAdded (name ip : String) (port : UInt16)
  | serviceRemoved (name : String)
  | existsProperty (id : String)
  | getProperty (id : String)

namespace Client

variable (s : Client N)

/-- The HTTP client is deleted, and the properties are forgotten. -/
def disconnect : Client N := { s with httpClient := none, properties := .empty }

/-- `poll_properties`. -/
def pollProperties (response : Response N) : Except Fault (Client N × List (Call N)) :=
  match response with
  | .answered _ (some value) => do
      let (properties, calls) ← processPropertyList value s.properties
      return ({ s with properties }, calls)
  | _ => .ok (s.disconnect, [.deviceError, .deviceDisconnected])

/-- `test_server`: nothing if the server does not have the device. -/
def testServer (name baseUrl : String) (response : Response N) :
    Except Fault (Option (Client N × List (Call N))) :=
  match response with
  | .answered true (some value) => do
      let (properties, calls) ← processPropertyList value s.properties
      return some ({ s with serverName := name, httpClient := some baseUrl, properties },
        calls ++ [.deviceConnected])
  | _ => .ok none

/-- `search_server`. -/
def searchServer (response : String → Response N) :
    List (String × String) → Except Fault (Client N × List (Call N))
  | [] => .ok (s, [])
  | (name, url) :: rest => do
      match ← s.testServer name url (response name) with
      | some r => return r
      | none => searchServer response rest

/-- `service_added`. -/
def serviceAdded (name ip : String) (port : UInt16) : Client N :=
  let baseUrl := "http://" ++ ip ++ ":" ++ toString port.toNat
  { s with servers := (name, baseUrl) :: s.servers.filter (fun server => server.1 ≠ name) }

/-- `service_removed`. -/
def serviceRemoved (name : String) : Client N × List (Call N) :=
  let s := { s with servers := s.servers.filter (fun server => server.1 ≠ name) }
  if s.httpClient = none then (s, [])
  else if s.serverName ≠ name then (s, [])
  else (s.disconnect, [.deviceDisconnected])

/-- `exists_property`. -/
def existsProperty (id : String) : Bool := (s.properties id).isSome

/-- `get_property`: `operator[]` inserts a null pointer where there is no entry. -/
def getProperty (id : String) : Option (Property N) × Client N :=
  match s.properties id with
  | some p => (p, s)
  | none => (none, { s with properties := s.properties.set id none })

/-- One operation, if it can happen. -/
def step : Event N → Option (Except Fault (Client N × List (Call N)))
  | .poll response => if s.httpClient.isSome then some (s.pollProperties response) else none
  | .search order response =>
      if s.httpClient = none ∧ order.Perm s.servers then some (s.searchServer response order)
      else none
  | .serviceAdded name ip port => some (.ok (s.serviceAdded name ip port, []))
  | .serviceRemoved name => some (.ok (s.serviceRemoved name))
  | .existsProperty _ => some (.ok (s, []))
  | .getProperty id => some (.ok ((s.getProperty id).2, []))

/-- The client after an operation without a fault. -/
def after (e : Event N) : Option (Client N) :=
  match s.step e with
  | some (.ok (s', _)) => some s'
  | _ => none

theorem after_eq_some_iff {s s' : Client N} {e : Event N} :
    s.after e = some s' ↔ ∃ calls, s.step e = some (.ok (s', calls)) := by
  unfold after
  constructor
  · intro h
    split at h
    · next calls hstep =>
        cases h
        exact ⟨calls, hstep⟩
    · cases h
  · rintro ⟨calls, hstep⟩
    rw [hstep]

end Client

/-- A run of the client. -/
abbrev ClientRun (N : Type) [Number N] := Run (fun (s : Client N) e s' => s.after e = some s')

end FactoryHub.PropertyClient
