import FactoryHub.PropertyClient.Cache
import Mathlib.Data.List.Chain

/-!
# The conveyor belt as listener of its property client

`src/atwork/plugins/conveyor_belt/conveyor_belt_thread.cpp`: the thread keeps whether the belt is
connected and whether it is running. The client tells it of a property when the timestamp of the
property changes; a property that it creates has timestamp 0.

* `Sound.step` — one operation of the client keeps what thread, client and server agree on.
* `mirrors_iff` — the thread mirrors the device unless the belt moves, and every entry of
  `current_speed` since the connection has timestamp 0.
-/

namespace FactoryHub.AtWork.ConveyorBelt

open Lib PropertyClient

variable {N : Type} [Number N]

/-! ## The thread -/

/-- `Property::as_long`, of what the property holds. -/
def asLong : Held N → Int64
  | .long value .. => value
  | _ => 0

/-- `ConveyorBeltThread`. -/
structure ConveyorBeltThread where
  connected : Bool := false
  running : Bool := false
  deriving DecidableEq, Repr

namespace ConveyorBeltThread

/-- `device_connected`. -/
def deviceConnected (thread : ConveyorBeltThread) : ConveyorBeltThread :=
  { thread with connected := true }

/-- `device_disconnected`. -/
def deviceDisconnected (thread : ConveyorBeltThread) : ConveyorBeltThread :=
  { thread with connected := false, running := false }

/-- `property_changed`. -/
def propertyChanged (thread : ConveyorBeltThread) (property : Property N) : ConveyorBeltThread :=
  if property.id = "current_speed" then { thread with running := asLong property.held ≠ 0 }
  else thread

/-- A call of the client. There is no thread after the dereference of a null pointer. -/
def hear (thread : ConveyorBeltThread) : Call N → Option ConveyorBeltThread
  | .deviceConnected => some thread.deviceConnected
  | .deviceError => some thread
  | .deviceDisconnected => some thread.deviceDisconnected
  | .propertyChanged (some property) => some (thread.propertyChanged property)
  | .propertyChanged none => none

end ConveyorBeltThread

/-- The client and its listener. -/
structure System (N : Type) [Number N] where
  client : Client N := {}
  thread : ConveyorBeltThread := {}

/-- One operation of the client, with its calls. -/
def step (s : System N) (e : Event N) : Option (System N) :=
  match s.client.step e with
  | some (.ok (client, calls)) =>
      (calls.foldlM ConveyorBeltThread.hear s.thread).map fun thread => { client, thread }
  | _ => none

/-- `is_connected`. -/
def isConnected (client : Client N) : Bool := client.httpClient.isSome

/-! ## What a run leaves behind -/

section

/-- An entry of the server for the current speed. -/
def isCurrentSpeed (property : Object N) : Bool :=
  match property.get "id" with
  | .string id => id == "current_speed"
  | _ => false

def timestampOf (property : Object N) : Except Fault UInt64 :=
  numberField Number.toUInt64 property "timestamp"

def typeOf (property : Object N) : Except Fault String := (property.get "type").asString

def longOf (property : Object N) : Except Fault Int64 :=
  numberField Number.toInt64 property "value"

/-- A property keeps its type, and changes its value only together with its timestamp. -/
def Keeps (before after : Object N) : Prop :=
  typeOf before = typeOf after ∧ (timestampOf before = timestampOf after → longOf before = longOf after)

/-- What a call says of the connection. -/
def connection : Call N → Option Bool
  | .deviceConnected => some true
  | .deviceDisconnected => some false
  | _ => none

/-- The calls of an operation. -/
def callsOf (client : Client N) (e : Event N) : List (Call N) :=
  match client.step e with
  | some (.ok (_, calls)) => calls
  | _ => []

abbrev Record (N : Type) [Number N] := List (Step (System N) (Event N))

/-- The calls of `device_connected` and `device_disconnected`, oldest first. -/
def connections : Record N → List Bool
  | [] => []
  | t :: tr => connections tr ++ (callsOf t.pre.client t.label).filterMap connection

/-- The entries of the current speed since the connection was made, oldest first. -/
def listings : Record N → List (Object N)
  | [] => []
  | t :: tr =>
      if t.post.client.httpClient = none then []
      else listings tr ++ (t.post.client.taken t.label).filter isCurrentSpeed

/-- An iteration of the loop. -/
def isIteration : Event N → Bool
  | .poll _ => true
  | .search .. => true
  | _ => false

/-- The last entry of the current speed in the last reply. -/
def lastListed : Record N → Option (Object N)
  | [] => none
  | t :: tr =>
      if isIteration t.label then ((t.post.client.taken t.label).filter isCurrentSpeed).getLast?
      else lastListed tr

/-- One of the entries has a timestamp other than that of a property just created. -/
def Stamped (listed : List (Object N)) : Prop := ∃ property ∈ listed, timestampOf property ≠ .ok 0

/-- The entries of the current speed, of one connection, follow one another as they should. -/
def Truthful (tr : Record N) : Prop :=
  AllSteps (fun t earlier => (listings (t :: earlier)).IsChain Keeps) tr

/-- The thread mirrors the device. -/
structure Mirrors (tr : Record N) (s : System N) : Prop where
  connected : s.thread.connected = isConnected s.client
  alternated : (false :: connections tr).IsChain (· ≠ ·)
  running : s.thread.running = true → s.thread.connected = true
  speed : isConnected s.client = true → ∀ property v, lastListed tr = some property →
    typeOf property = .ok "long" → longOf property = .ok v → (s.thread.running = true ↔ v ≠ 0)

/-- Where the last reply has the belt moving, the thread has been told of the current speed. -/
def Told (tr : Record N) : Prop :=
  ∀ property v, lastListed tr = some property → typeOf property = .ok "long" →
    longOf property = .ok v → v ≠ 0 → Stamped (listings tr)

end

theorem stamped_append {listed more : List (Object N)} :
    Stamped (listed ++ more) ↔ Stamped listed ∨ Stamped more := by
  unfold Stamped
  simp only [List.mem_append, or_and_right, exists_or]

theorem not_stamped_nil : ¬ Stamped ([] : List (Object N)) := by simp [Stamped]

/-! ## What a property holds of its entry -/

/-- What is held is of type long if the entry is, and then has its value. -/
structure Describes (property : Object N) (held : Held N) : Prop where
  type : typeOf property = .ok "long" ↔ held.type = .long
  value : held.type = .long → longOf property = .ok (asLong held)

theorem longFields_long (property : Object N) :
    Meets (fun held => held.type = .long ∧ longOf property = .ok (asLong held)) NotNull
      (longFields property) := by
  unfold longFields
  refine (numberField_meets _ property "value").with_eq.bind fun value hvalue => ?_
  refine (numberField_meets _ property "min").bind fun min _ => ?_
  refine (numberField_meets _ property "max").bind fun max _ => ?_
  exact .ok ⟨rfl, hvalue.2⟩

/-- Only an entry of type long makes a property of type long. -/
theorem heldOfType_long (type : String) (property : Object N) :
    Meets (fun held => (type = "long" ↔ held.type = .long) ∧
      (held.type = .long → longOf property = .ok (asLong held))) NotNull
      (heldOfType type property) := by
  have hother : ∀ {x : Except Fault (Held N)} {t : ValueType},
      Meets (fun held => held.type = t) NotNull x → type ≠ "long" → t ≠ .long →
        Meets (fun held => (type = "long" ↔ held.type = .long) ∧
          (held.type = .long → longOf property = .ok (asLong held))) NotNull x := by
    intro x t h htype ht
    refine h.mono fun held hheld => ?_
    simp [hheld, htype, ht]
  unfold heldOfType
  split
  · next h => exact hother (boolField_meets property) (by simp [h]) nofun
  split
  · next h =>
      refine (longFields_long property).mono fun held hheld => ?_
      simp [h, hheld]
  split
  · next h => exact hother (ulongFields_meets property) (by simp [h]) nofun
  split
  · next h => exact hother (stringField_meets property) (by simp [h]) nofun
  split
  · next h => exact hother (doubleFields_meets property) (by simp [h]) nofun
  · next h _ _ _ =>
      refine .ok ?_
      simp [h, Held.type]

theorem createProperty_describes (property : Object N) :
    Meets (fun p => property.get "id" = .string p.id ∧ p.timestamp = 0 ∧ Describes property p.held)
      NotNull (createProperty property) := by
  unfold createProperty
  refine (asString_meets _).bind fun id hid => ?_
  refine (asString_meets _).bind fun name _ => ?_
  refine (asString_meets _).bind fun uri _ => ?_
  refine (asString_meets _).bind fun description _ => ?_
  refine (asBool_meets _).bind fun readonly _ => ?_
  refine (asString_meets _).with_eq.bind fun type htype => ?_
  refine (heldOfType_long type property).bind fun held hheld => ?_
  refine .ok ⟨hid, rfl, ?_, hheld.2⟩
  have htypeOf : typeOf property = .ok type := htype.2
  rw [htypeOf, Except.ok.injEq]
  exact hheld.1

/-- A new value is of the type of the old one. -/
theorem update_describes {property : Object N} {held : Held N}
    (htype : typeOf property = .ok "long" ↔ held.type = .long) :
    Meets (Describes property) NotNull (held.update property) := by
  have hother : ∀ held' : Held N, held'.type = held.type → held.type ≠ .long →
      Describes property held' := by
    intro held' heq hne
    rw [← heq] at htype hne
    exact ⟨htype, fun h => absurd h hne⟩
  cases held with
  | long =>
      refine (longFields_long property).mono fun held' hheld => ?_
      exact ⟨htype.trans (iff_of_true rfl hheld.1), fun _ => hheld.2⟩
  | ulong => exact (ulongFields_meets property).mono fun held' h => hother held' h nofun
  | double => exact (doubleFields_meets property).mono fun held' h => hother held' h nofun
  | bool => exact (boolField_meets property).mono fun held' h => hother held' h nofun
  | string => exact (stringField_meets property).mono fun held' h => hother held' h nofun
  | unknown => exact .ok (hother _ rfl nofun)

/-! ## Processing the entries -/

/-- Any fault. -/
def AnyFault (_ : Fault) : Prop := True

theorem anyFault {α : Type} {P : α → Prop} {x : Except Fault α} (h : Meets P NotNull x) :
    Meets P AnyFault x :=
  h.mono_error fun _ _ => trivial

/-- The property cached is as in the last of the entries. -/
def Follows (listed : List (Object N)) (entry : Option (Option (Property N))) : Prop :=
  match listed.getLast? with
  | none => ∀ p, entry ≠ some (some p)
  | some property => ∃ p, entry = some (some p) ∧ timestampOf property = .ok p.timestamp ∧
      Describes property p.held

/-- The property cached has a value other than 0. -/
def Moves (entry : Option (Option (Property N))) : Prop :=
  ∃ p, entry = some (some p) ∧ asLong p.held ≠ 0

/-- While a reply is processed: `changed` are the ids the thread will be told of, and `running` is
what it has been told before. -/
structure Mirrored (running : Bool) (listed : List (Object N)) (properties : Cache N)
    (changed : List String) : Prop where
  follows : Follows listed (properties "current_speed")
  named : ∀ id p, properties id = some (some p) → p.id = id
  there : ∀ id ∈ changed, ∃ p, properties id = some (some p)
  pushed : "current_speed" ∈ changed → Stamped listed
  kept : "current_speed" ∉ changed →
    (running = true ↔ Stamped listed ∧ Moves (properties "current_speed"))

section

variable {running : Bool} {listed : List (Object N)} {properties : Cache N} {changed : List String}
  {property : Object N} {id : String} {p : Property N}

/-- The pointer that `process_property` works on. -/
theorem findOrCreate_describes (hid : property.get "id" = .string id) :
    Meets (fun entry => properties id = some entry ∨ properties id = none ∧
      ∃ p, entry = some p ∧ p.id = id ∧ p.timestamp = 0 ∧ Describes property p.held) NotNull
      (findOrCreate property properties id) := by
  unfold findOrCreate
  split
  · next entry hentry => exact .ok (Or.inl hentry)
  · next hnone =>
      refine (createProperty_describes property).map ?_
      rintro p ⟨hpid, hstamp, hdescribes⟩
      rw [hid, Value.string.injEq] at hpid
      exact Or.inr ⟨hnone, p, rfl, hpid.symm, hstamp, hdescribes⟩

@[simp] theorem set_self {entry : Option (Property N)} : properties.set id entry id = some entry :=
  if_pos rfl

theorem set_of_ne {entry : Option (Property N)} {i : String} (h : i ≠ id) :
    properties.set id entry i = properties i :=
  if_neg h

theorem named_set (hnamed : ∀ id p, properties id = some (some p) → p.id = id) (hp : p.id = id) :
    ∀ i q, properties.set id (some p) i = some (some q) → q.id = i := by
  intro i q h
  unfold Cache.set at h
  split at h
  · next heq =>
      cases h
      exact hp.trans heq.symm
  · exact hnamed i q h

theorem there_set (hthere : ∀ i ∈ changed, ∃ p, properties i = some (some p)) :
    ∀ i ∈ changed, ∃ q, properties.set id (some p) i = some (some q) := by
  intro i hi
  unfold Cache.set
  split
  · exact ⟨p, rfl⟩
  · exact hthere i hi

theorem there_append (hthere : ∀ i ∈ changed, ∃ p, properties i = some (some p))
    (hid : ∃ p, properties id = some (some p)) :
    ∀ i ∈ changed ++ [id], ∃ q, properties i = some (some q) := by
  intro i hi
  rcases List.mem_append.mp hi with hi | hi
  · exact hthere i hi
  · rw [List.mem_singleton.mp hi]
    exact hid

/-- Another property. -/
theorem Mirrored.set (h : Mirrored running listed properties changed) (hne : id ≠ "current_speed")
    (hp : p.id = id) : Mirrored running listed (properties.set id (some p)) changed where
  follows := by
    rw [set_of_ne hne.symm]
    exact h.follows
  named := named_set h.named hp
  there := there_set h.there
  pushed := h.pushed
  kept := by
    rw [set_of_ne hne.symm]
    exact h.kept

theorem Mirrored.append (h : Mirrored running listed properties changed)
    (hne : id ≠ "current_speed") (hid : ∃ p, properties id = some (some p)) :
    Mirrored running listed properties (changed ++ [id]) where
  follows := h.follows
  named := h.named
  there := there_append h.there hid
  pushed hmem := h.pushed (by simpa [hne.symm] using hmem)
  kept hmem := h.kept (by simpa [hne.symm] using hmem)

/-- A new entry of the current speed, and the property found or created for it. -/
structure Known (listed : List (Object N)) (properties : Cache N) (property : Object N)
    (p : Property N) : Prop where
  name : p.id = "current_speed"
  type : typeOf property = .ok "long" ↔ p.held.type = .long
  same : timestampOf property = .ok p.timestamp → Describes property p.held
  stamped : p.timestamp ≠ 0 → Stamped listed
  there : Stamped listed → properties "current_speed" = some (some p)

/-- The property that is there is the one of the last entry. -/
theorem known_of_found (h : Mirrored running listed properties changed)
    (hchain : (listed ++ [property]).IsChain Keeps)
    (hfound : properties "current_speed" = some (some p)) : Known listed properties property p := by
  have hfollows := h.follows
  rw [hfound] at hfollows
  unfold Follows at hfollows
  split at hfollows
  · exact absurd rfl (hfollows p)
  · next last hlast =>
      obtain ⟨q, hq, hstamp, hdescribes⟩ := hfollows
      cases hq
      have hkeeps : Keeps last property := (List.isChain_append.mp hchain).2.2 last hlast property rfl
      have htype := hdescribes.type
      rw [hkeeps.1] at htype
      refine ⟨h.named _ p hfound, htype, ?_, ?_, fun _ => hfound⟩
      · intro hsame
        refine ⟨htype, fun hlong => ?_⟩
        rw [← hkeeps.2 (hstamp.trans hsame.symm)]
        exact hdescribes.value hlong
      · intro hne
        refine ⟨last, List.mem_of_getLast? hlast, ?_⟩
        rw [hstamp]
        simpa using hne

/-- Before the first entry there is none. -/
theorem known_of_created (h : Mirrored running listed properties changed)
    (hnone : properties "current_speed" = none) (hid : p.id = "current_speed")
    (hzero : p.timestamp = 0) (hdescribes : Describes property p.held) :
    Known listed properties property p := by
  have hlisted : listed = [] := by
    have hfollows := h.follows
    rw [hnone] at hfollows
    unfold Follows at hfollows
    split at hfollows
    · next hlast => exact List.getLast?_eq_none_iff.mp hlast
    · obtain ⟨q, hq, -⟩ := hfollows
      cases hq
  subst hlisted
  exact ⟨hid, hdescribes.type, fun _ => hdescribes, fun hne => absurd hzero hne,
    fun hstamped => absurd hstamped not_stamped_nil⟩

theorem stamped_singleton {newTimestamp : UInt64} (hstamp : timestampOf property = .ok newTimestamp) :
    Stamped [property] ↔ newTimestamp ≠ 0 := by
  simp [Stamped, hstamp]

/-- The timestamp is the one of the property: the thread is not told. -/
theorem Mirrored.unchanged (h : Mirrored running listed properties changed)
    (hknown : Known listed properties property p) (hstamp : timestampOf property = .ok p.timestamp) :
    Mirrored running (listed ++ [property]) (properties.set "current_speed" (some p)) changed where
  follows := by
    unfold Follows
    rw [List.getLast?_concat, set_self]
    exact ⟨p, rfl, hstamp, hknown.same hstamp⟩
  named := named_set h.named hknown.name
  there := there_set h.there
  pushed hmem := stamped_append.mpr (Or.inl (h.pushed hmem))
  kept hmem := by
    have hiff : Stamped (listed ++ [property]) ↔ Stamped listed := by
      rw [stamped_append, stamped_singleton hstamp]
      exact ⟨fun hor => hor.elim id hknown.stamped, Or.inl⟩
    rw [h.kept hmem, hiff, set_self]
    refine and_congr_right fun hstamped => ?_
    rw [hknown.there hstamped]

/-- Another timestamp: the thread will be told. -/
theorem Mirrored.told (h : Mirrored running listed properties changed)
    (hknown : Known listed properties property p) {newTimestamp : UInt64} {held : Held N}
    (hstamp : timestampOf property = .ok newTimestamp) (hne : p.timestamp ≠ newTimestamp)
    (hdescribes : Describes property held) :
    Mirrored running (listed ++ [property])
      (properties.set "current_speed" (some { p with timestamp := newTimestamp, held }))
      (changed ++ ["current_speed"]) where
  follows := by
    unfold Follows
    rw [List.getLast?_concat, set_self]
    exact ⟨_, rfl, hstamp, hdescribes⟩
  named := named_set h.named hknown.name
  there := there_append (there_set h.there) ⟨_, set_self⟩
  pushed _ := by
    rw [stamped_append, stamped_singleton hstamp]
    by_cases hzero : newTimestamp = 0
    · rw [hzero] at hne
      exact Or.inl (hknown.stamped hne)
    · exact Or.inr hzero
  kept hmem := absurd (List.mem_append_right _ (List.mem_singleton_self _)) hmem

/-- **One entry** of a reply. -/
theorem processProperty_mirrored (h : Mirrored running listed properties changed)
    (hchain : (listed ++ [property].filter isCurrentSpeed).IsChain Keeps) :
    Meets (fun r => Mirrored running (listed ++ [property].filter isCurrentSpeed) r.1 r.2) AnyFault
      (processProperty property properties changed) := by
  unfold processProperty
  refine (anyFault (asString_meets _)).bind fun id hid => ?_
  refine (anyFault (findOrCreate_describes hid)).bind fun entry hentry => ?_
  cases entry with
  | none => exact .error trivial
  | some p =>
    refine (anyFault (numberField_meets _ property "timestamp").with_eq).bind fun newTimestamp hnew => ?_
    have hstamp : timestampOf property = .ok newTimestamp := hnew.2
    by_cases hspeed : id = "current_speed"
    · subst hspeed
      have hfilter : [property].filter isCurrentSpeed = [property] := by simp [isCurrentSpeed, hid]
      rw [hfilter] at hchain ⊢
      have hknown : Known listed properties property p := by
        rcases hentry with hfound | ⟨hnone, q, hq, hqid, hzero, hdescribes⟩
        · exact known_of_found h hchain hfound
        · cases hq
          exact known_of_created h hnone hqid hzero hdescribes
      split
      · next hne =>
          refine (anyFault (update_describes hknown.type)).bind fun held hdescribes => ?_
          exact .ok (h.told hknown hstamp hne hdescribes)
      · next heq =>
          refine .ok (h.unchanged hknown ?_)
          rw [hstamp, not_not.mp heq]
    · have hfilter : [property].filter isCurrentSpeed = [] := by
        simp [isCurrentSpeed, hid, hspeed]
      rw [hfilter, List.append_nil]
      have hpid : p.id = id := by
        rcases hentry with hfound | ⟨-, q, hq, hqid, -⟩
        · exact h.named _ p hfound
        · cases hq
          exact hqid
      split
      · refine (anyFault (P := fun _ => True) ?_).bind fun held _ => ?_
        · exact (update_meets property p.held).mono fun _ _ => trivial
        · have hset := h.set (p := { p with timestamp := newTimestamp, held }) hspeed hpid
          exact .ok (hset.append hspeed ⟨_, set_self⟩)
      · exact .ok (h.set hspeed hpid)

theorem processAll_mirrored {entries : List (Object N)}
    (h : Mirrored running listed properties changed)
    (hchain : (listed ++ entries.filter isCurrentSpeed).IsChain Keeps) :
    Meets (fun r => Mirrored running (listed ++ entries.filter isCurrentSpeed) r.1 r.2) AnyFault
      (processAll properties changed entries) := by
  induction entries generalizing listed properties changed with
  | nil =>
      rw [List.filter_nil, List.append_nil]
      exact .ok h
  | cons property rest ih =>
      have hsplit : (property :: rest).filter isCurrentSpeed =
          [property].filter isCurrentSpeed ++ rest.filter isCurrentSpeed := by
        rw [← List.filter_append, List.singleton_append]
      rw [hsplit, ← List.append_assoc] at hchain ⊢
      refine (processProperty_mirrored h hchain.left_of_append).bind fun r hr => ?_
      exact ih hr hchain

/-! ## What the thread hears -/

theorem asLong_iff_moves (h : properties "current_speed" = some (some p)) :
    decide (asLong p.held ≠ 0) = true ↔ Moves (properties "current_speed") := by
  rw [decide_eq_true_iff, h]
  constructor
  · intro hne
    exact ⟨p, rfl, hne⟩
  · rintro ⟨q, hq, hne⟩
    cases hq
    exact hne

/-- The calls for what has changed leave `running` as the property is now, if it has changed. -/
theorem hear_changed (hnamed : ∀ id p, properties id = some (some p) → p.id = id)
    (hthere : ∀ id ∈ changed, ∃ p, properties id = some (some p)) (thread : ConveyorBeltThread) :
    ∃ thread', (changed.map fun id => Call.propertyChanged ((properties id).getD none)).foldlM
        ConveyorBeltThread.hear thread = some thread' ∧
      thread'.connected = thread.connected ∧
      ("current_speed" ∈ changed → (thread'.running = true ↔ Moves (properties "current_speed"))) ∧
      ("current_speed" ∉ changed → thread'.running = thread.running) := by
  induction changed generalizing thread with
  | nil => exact ⟨thread, rfl, rfl, nofun, fun _ => rfl⟩
  | cons id rest ih =>
      obtain ⟨p, hp⟩ := hthere id (List.mem_cons_self ..)
      have hid : p.id = id := hnamed id p hp
      have hrest : ∀ i ∈ rest, ∃ p, properties i = some (some p) :=
        fun i hi => hthere i (List.mem_cons_of_mem _ hi)
      obtain ⟨thread', hfold, hconnected, hin, hout⟩ := ih hrest (thread.propertyChanged p)
      refine ⟨thread', ?_, ?_, ?_, ?_⟩
      · rw [List.map_cons, List.foldlM_cons, hp]
        exact hfold
      · rw [hconnected]
        unfold ConveyorBeltThread.propertyChanged
        split <;> rfl
      · intro hmem
        by_cases hlater : "current_speed" ∈ rest
        · exact hin hlater
        · -- the last call for the current speed
          have heq : id = "current_speed" := by
            rcases List.mem_cons.mp hmem with heq | hmem
            · exact heq.symm
            · exact absurd hmem hlater
          subst heq
          rw [hout hlater, ConveyorBeltThread.propertyChanged, if_pos hid]
          exact asLong_iff_moves hp
      · intro hmem
        rw [List.mem_cons, not_or] at hmem
        rw [hout hmem.2, ConveyorBeltThread.propertyChanged, if_neg]
        rw [hid]
        exact Ne.symm hmem.1

/-- **One reply**: what the thread is told brings it up to date. -/
theorem processPropertyList_mirrored {value : Value N} (thread : ConveyorBeltThread)
    (h : Mirrored thread.running listed properties [])
    (hchain : (listed ++ (PropertyClient.listed value).filter isCurrentSpeed).IsChain Keeps) :
    Meets (fun r => r.2.filterMap connection = [] ∧
      ∃ thread', r.2.foldlM ConveyorBeltThread.hear thread = some thread' ∧
        thread'.connected = thread.connected ∧
        Mirrored thread'.running (listed ++ (PropertyClient.listed value).filter isCurrentSpeed)
          r.1 []) AnyFault (processPropertyList value properties) := by
  unfold processPropertyList
  refine (processAll_mirrored h hchain).bind ?_
  rintro ⟨properties', changed⟩ hmirrored
  obtain ⟨thread', hfold, hconnected, hin, hout⟩ :=
    hear_changed hmirrored.named hmirrored.there thread
  refine .ok ⟨?_, thread', hfold, hconnected, ?_⟩
  · simp [List.filterMap_map, Function.comp_def, connection]
  · refine ⟨hmirrored.follows, hmirrored.named, nofun, nofun, fun _ => ?_⟩
    by_cases hmem : "current_speed" ∈ changed
    · rw [hin hmem]
      exact (and_iff_right (hmirrored.pushed hmem)).symm
    · rw [hout hmem]
      exact hmirrored.kept hmem

end

/-! ## One operation -/

theorem listings_cons (t : Step (System N) (Event N)) (tr : Record N) :
    listings (t :: tr) = if t.post.client.httpClient = none then []
      else listings tr ++ (t.post.client.taken t.label).filter isCurrentSpeed := rfl

section

variable {s s' : System N} {e : Event N} {tr : Record N} {client' : Client N} {calls : List (Call N)}

/-- What thread, client and server agree on after each operation. -/
structure Sound (tr : Record N) (s : System N) : Prop where
  connected : s.thread.connected = isConnected s.client
  alternated : (false :: connections tr).IsChain (· ≠ ·)
  last : (false :: connections tr).getLast? = some s.thread.connected
  closed : s.client.httpClient = none → listings tr = []
  mirrored : Mirrored s.thread.running (listings tr) s.client.properties []

theorem sound_init : Sound [] ({} : System N) where
  connected := rfl
  alternated := .singleton _
  last := rfl
  closed _ := rfl
  mirrored :=
    { follows := nofun
      named := nofun
      there := nofun
      pushed := nofun
      kept := fun _ => ⟨nofun, fun h => absurd h.1 not_stamped_nil⟩ }

/-- Nothing is cached, and the belt stands still. -/
theorem mirrored_empty : Mirrored false [] (.empty : Cache N) [] :=
  sound_init.mirrored

theorem Mirrored.running_eq_false {running : Bool} {properties : Cache N}
    (h : Mirrored running [] properties []) : running = false := by
  by_contra hne
  rw [Bool.not_eq_false] at hne
  exact not_stamped_nil ((h.kept nofun).mp hne).1

/-- The record after an operation, from what it changes. -/
theorem Sound.next (h : Sound tr s) (hstep : s.client.step e = some (.ok (s'.client, calls)))
    (hcalls : calls.filterMap connection =
      if s'.thread.connected = s.thread.connected then [] else [s'.thread.connected])
    (hconnected : s'.thread.connected = isConnected s'.client)
    (hmirrored : Mirrored s'.thread.running (listings (⟨s, e, s'⟩ :: tr)) s'.client.properties []) :
    Sound (⟨s, e, s'⟩ :: tr) s' := by
  have hcallsOf : callsOf s.client e = calls := by rw [callsOf, hstep]
  have hconnections : connections (⟨s, e, s'⟩ :: tr) =
      connections tr ++ if s'.thread.connected = s.thread.connected then []
        else [s'.thread.connected] := by
    rw [connections, hcallsOf, hcalls]
  have hclosed : s'.client.httpClient = none → listings (⟨s, e, s'⟩ :: tr) = [] :=
    fun hnone => if_pos hnone
  by_cases heq : s'.thread.connected = s.thread.connected
  · rw [if_pos heq, List.append_nil] at hconnections
    refine ⟨hconnected, ?_, ?_, hclosed, hmirrored⟩
    · rw [hconnections]
      exact h.alternated
    · rw [hconnections, h.last, heq]
  · rw [if_neg heq] at hconnections
    refine ⟨hconnected, ?_, ?_, hclosed, hmirrored⟩
    · rw [hconnections, ← List.cons_append]
      refine h.alternated.append (.singleton _) ?_
      intro x hx y hy
      rw [h.last] at hx
      cases hx
      cases hy
      exact Ne.symm heq
    · rw [hconnections, ← List.cons_append, List.getLast?_concat]

theorem step_eq_some (hstep : step s e = some s') : ∃ calls,
    s.client.step e = some (.ok (s'.client, calls)) ∧
      calls.foldlM ConveyorBeltThread.hear s.thread = some s'.thread := by
  unfold step at hstep
  split at hstep
  · next client calls hclient =>
      obtain ⟨thread, hhear, rfl⟩ := Option.map_eq_some_iff.mp hstep
      exact ⟨calls, hclient, hhear⟩
  · cases hstep

/-- Neither the connection nor what is known of the device has changed. -/
theorem Sound.same (h : Sound tr s) (hstep : s.client.step e = some (.ok (s'.client, [])))
    (hthread : s'.thread = s.thread) (hclient : s'.client.httpClient = s.client.httpClient)
    (hmirrored : Mirrored s'.thread.running (listings tr) s'.client.properties [])
    (htaken : s.client.httpClient ≠ none → s'.client.taken e = []) :
    Sound (⟨s, e, s'⟩ :: tr) s' := by
  have hlistings : listings (⟨s, e, s'⟩ :: tr) = listings tr := by
    rw [listings_cons, hclient]
    split
    · next hnone => exact (h.closed hnone).symm
    · next hsome => simp [htaken hsome]
  apply h.next hstep
  · rw [hthread, if_pos rfl]
    rfl
  · rw [hthread, h.connected, isConnected, isConnected, hclient]
  · rw [hlistings]
    exact hmirrored

/-- The connection is given up. -/
theorem Sound.disconnected (h : Sound tr s) (hsome : s.client.httpClient ≠ none)
    (hstep : s.client.step e = some (.ok (s'.client, calls)))
    (hclient : s'.client.httpClient = none) (hproperties : s'.client.properties = .empty)
    (hcalls : calls.filterMap connection = [false])
    (hthread : s'.thread = { connected := false, running := false }) :
    Sound (⟨s, e, s'⟩ :: tr) s' := by
  have hconnected : s.thread.connected = true := by
    rw [h.connected]
    exact Option.isSome_iff_ne_none.mpr hsome
  apply h.next hstep
  · simp [hcalls, hthread, hconnected]
  · simp [hthread, isConnected, hclient]
  · have hlistings : listings (⟨s, e, s'⟩ :: tr) = [] := if_pos hclient
    rw [hlistings, hthread, hproperties]
    exact mirrored_empty

/-- A client without a connection asks for a null pointer. -/
theorem Mirrored.insert {running : Bool} {listed : List (Object N)} {properties : Cache N}
    {id : String} (h : Mirrored running listed properties []) (hnone : properties id = none) :
    Mirrored running listed (properties.set id none) [] := by
  have hentry : ∀ i p, properties.set id none i = some (some p) ↔ properties i = some (some p) := by
    intro i p
    unfold Cache.set
    split
    · next heq => simp [heq, hnone]
    · rfl
  refine ⟨?_, fun i p hp => h.named i p ((hentry i p).mp hp), nofun, nofun, fun hmem => ?_⟩
  · have hfollows := h.follows
    unfold Follows at hfollows ⊢
    split at hfollows
    · intro p hp
      exact hfollows p ((hentry _ p).mp hp)
    · obtain ⟨p, hp, hrest⟩ := hfollows
      exact ⟨p, (hentry _ p).mpr hp, hrest⟩
  · rw [h.kept hmem]
    simp only [Moves, hentry]

/-- A search finds nothing, or the first server with the device. -/
theorem searchServer_eq_ok {client : Client N} {response : String → Response N}
    {order : List (String × String)} (h : client.searchServer response order = .ok (client', calls)) :
    (client' = client ∧ calls = []) ∨ ∃ name url value r, response name = .answered true (some value) ∧
      processPropertyList value client.properties = .ok r ∧ calls = r.2 ++ [.deviceConnected] ∧
      client' = { client with serverName := name, httpClient := some url, properties := r.1 } := by
  induction order with
  | nil =>
      cases h
      exact Or.inl ⟨rfl, rfl⟩
  | cons server rest ih =>
      obtain ⟨name, url⟩ := server
      unfold Client.searchServer Client.testServer at h
      split at h
      · next value hresponse =>
          cases hprocess : processPropertyList value client.properties with
          | error fault =>
              rw [hprocess] at h
              cases h
          | ok r =>
              rw [hprocess] at h
              cases h
              exact Or.inr ⟨name, url, value, r, hresponse, hprocess, rfl, rfl⟩
      · exact ih h

/-- The reply of the connected server. -/
theorem Sound.polled (h : Sound tr s) {ok : Bool} {value : Value N} {r : Cache N × List (Call N)}
    (hstep : s.client.step (.poll (.answered ok (some value))) = some (.ok (s'.client, r.2)))
    (hprocess : processPropertyList value s.client.properties = .ok r)
    (hclient : s'.client = { s.client with properties := r.1 })
    (hhear : r.2.foldlM ConveyorBeltThread.hear s.thread = some s'.thread)
    (hsome : s.client.httpClient ≠ none)
    (hchain : (listings (⟨s, .poll (.answered ok (some value)), s'⟩ :: tr)).IsChain Keeps) :
    Sound (⟨s, .poll (.answered ok (some value)), s'⟩ :: tr) s' := by
  have hlistings : listings (⟨s, .poll (.answered ok (some value)), s'⟩ :: tr) =
      listings tr ++ (listed value).filter isCurrentSpeed := by
    rw [listings_cons, hclient, if_neg hsome]
    rfl
  rw [hlistings] at hchain
  obtain ⟨hcalls, thread', hfold, hconnected, hmirrored⟩ :=
    (processPropertyList_mirrored s.thread h.mirrored hchain).of_eq_ok hprocess
  rw [hhear, Option.some.injEq] at hfold
  rw [← hfold] at hconnected hmirrored
  apply h.next hstep
  · rw [hcalls, if_pos hconnected]
  · rw [hconnected, h.connected, hclient]
    rfl
  · rw [hlistings, hclient]
    exact hmirrored

/-- The reply of a server that has the device. -/
theorem Sound.found (h : Sound tr s) {order : List (String × String)} {response : String → Response N}
    {name url : String} {value : Value N} {r : Cache N × List (Call N)}
    (hstep : s.client.step (.search order response) =
      some (.ok (s'.client, r.2 ++ [.deviceConnected])))
    (hresponse : response name = .answered true (some value))
    (hprocess : processPropertyList value s.client.properties = .ok r)
    (hclient : s'.client =
      { s.client with serverName := name, httpClient := some url, properties := r.1 })
    (hhear : (r.2 ++ [Call.deviceConnected]).foldlM ConveyorBeltThread.hear s.thread = some s'.thread)
    (hnone : s.client.httpClient = none)
    (hchain : (listings (⟨s, .search order response, s'⟩ :: tr)).IsChain Keeps) :
    Sound (⟨s, .search order response, s'⟩ :: tr) s' := by
  have hlistings : listings (⟨s, .search order response, s'⟩ :: tr) =
      [] ++ (listed value).filter isCurrentSpeed := by
    rw [listings_cons, hclient, if_neg nofun, h.closed hnone]
    simp only [Client.taken, hresponse]
    rfl
  have hmirrored := h.mirrored
  rw [h.closed hnone] at hmirrored
  rw [hlistings] at hchain
  obtain ⟨hcalls, thread', hfold, hconnected, hmirrored⟩ :=
    (processPropertyList_mirrored s.thread hmirrored hchain).of_eq_ok hprocess
  rw [List.foldlM_append, hfold] at hhear
  have hthread : s'.thread = thread'.deviceConnected := (Option.some.inj hhear).symm
  have hpre : s.thread.connected = false := by
    rw [h.connected, isConnected, hnone]
    rfl
  apply h.next hstep
  · rw [List.filterMap_append, hcalls, hthread, hpre]
    rfl
  · rw [hthread, hclient]
    rfl
  · rw [hlistings, hclient, hthread]
    exact hmirrored

/-- **One operation** of the client. -/
theorem Sound.step (h : Sound tr s) (hstep : ConveyorBelt.step s e = some s')
    (hchain : (listings (⟨s, e, s'⟩ :: tr)).IsChain Keeps) : Sound (⟨s, e, s'⟩ :: tr) s' := by
  obtain ⟨calls, hclient, hhear⟩ := step_eq_some hstep
  obtain ⟨client', thread'⟩ := s'
  cases e with
  | poll response =>
      obtain ⟨hconnected, hs⟩ := Option.ite_none_right_eq_some.mp hclient
      rw [Option.some.injEq, Client.pollProperties.eq_def] at hs
      have hsome : s.client.httpClient ≠ none := Option.isSome_iff_ne_none.mp hconnected
      split at hs
      · next value =>
          cases hprocess : processPropertyList value s.client.properties with
          | error fault =>
              rw [hprocess] at hs
              cases hs
          | ok r =>
              rw [hprocess] at hs
              cases hs
              exact h.polled hclient hprocess rfl hhear hsome hchain
      · cases hs
        cases hhear
        exact h.disconnected hsome hclient rfl rfl rfl rfl
  | search order response =>
      obtain ⟨⟨hnone, -⟩, hs⟩ := Option.ite_none_right_eq_some.mp hclient
      rw [Option.some.injEq] at hs
      rcases searchServer_eq_ok hs with ⟨rfl, rfl⟩ | ⟨name, url, value, r, hresponse, hprocess, rfl, rfl⟩
      · cases hhear
        exact h.same hclient rfl rfl h.mirrored fun hsome => absurd hnone hsome
      · exact h.found hclient hresponse hprocess rfl hhear hnone hchain
  | serviceAdded name ip port =>
      cases hclient
      cases hhear
      exact h.same rfl rfl rfl h.mirrored fun _ => rfl
  | serviceRemoved name =>
      have hs := hclient
      simp only [Client.step, Client.serviceRemoved, Option.some.injEq, Except.ok.injEq] at hs
      split at hs
      · cases hs
        cases hhear
        exact h.same hclient rfl rfl h.mirrored fun _ => rfl
      · next hsome =>
          split at hs <;> cases hs <;> cases hhear
          · exact h.same hclient rfl rfl h.mirrored fun _ => rfl
          · exact h.disconnected hsome hclient rfl rfl rfl rfl
  | existsProperty id =>
      cases hclient
      cases hhear
      exact h.same rfl rfl rfl h.mirrored fun _ => rfl
  | getProperty id =>
      cases hproperty : s.client.properties id with
      | some p =>
          have hs := hclient
          simp only [Client.step, Client.getProperty, hproperty, Option.some.injEq, Except.ok.injEq] at hs
          cases hs
          cases hhear
          exact h.same hclient rfl rfl h.mirrored fun _ => rfl
      | none =>
          have hs := hclient
          simp only [Client.step, Client.getProperty, hproperty, Option.some.injEq, Except.ok.injEq] at hs
          cases hs
          cases hhear
          exact h.same hclient rfl rfl (h.mirrored.insert hproperty) fun _ => rfl

end

/-! ## Along a run -/

/-- A run of the client with its listener. -/
abbrev SystemRun (N : Type) [Number N] := Run (fun (s : System N) e s' => step s e = some s')

section

variable {s : System N} {tr : Record N}

theorem sound_of_run (h : SystemRun N {} tr s) (htruthful : Truthful tr) : Sound tr s := by
  induction h with
  | init => exact sound_init
  | step hrun hstep ih => exact (ih htruthful.2).step hstep htruthful.1

/-- Only the loop connects. -/
theorem connected_of_not_iteration {s s' : System N} {e : Event N} (hstep : step s e = some s')
    (he : isIteration e = false) (hconnected : s'.client.httpClient ≠ none) :
    s.client.httpClient ≠ none ∧ s'.client.taken e = [] := by
  obtain ⟨calls, hclient, -⟩ := step_eq_some hstep
  obtain ⟨client', thread'⟩ := s'
  cases e with
  | poll response => cases he
  | search order response => cases he
  | serviceAdded name ip port =>
      cases hclient
      exact ⟨hconnected, rfl⟩
  | serviceRemoved name =>
      refine ⟨fun hnone => ?_, rfl⟩
      simp only [Client.step, Client.serviceRemoved, if_pos hnone] at hclient
      cases hclient
      exact hconnected hnone
  | existsProperty id =>
      cases hclient
      exact ⟨hconnected, rfl⟩
  | getProperty id =>
      refine ⟨fun hnone => hconnected ?_, rfl⟩
      simp only [Client.step, Client.getProperty, Option.some.injEq, Except.ok.injEq] at hclient
      split at hclient <;> cases hclient <;> exact hnone

/-- The last entry of the last reply is the last one of the connection. -/
theorem getLast?_listings (h : SystemRun N {} tr s) {property : Object N}
    (hconnected : s.client.httpClient ≠ none) (hlast : lastListed tr = some property) :
    (listings tr).getLast? = some property := by
  induction h with
  | init => cases hlast
  | step hrun hstep ih =>
      rw [listings_cons, if_neg hconnected]
      unfold lastListed at hlast
      split at hlast
      · rw [List.getLast?_append, hlast]
        rfl
      · next he =>
          obtain ⟨hpre, htaken⟩ :=
            connected_of_not_iteration hstep (Bool.not_eq_true _ ▸ he) hconnected
          rw [htaken, List.filter_nil, List.append_nil]
          exact ih hpre hlast

/-- With a connection the thread has the belt running if it moves and the thread has been told. -/
theorem running_iff (h : SystemRun N {} tr s) (hsound : Sound tr s)
    (hconnected : isConnected s.client = true) {property : Object N} {v : Int64}
    (hlast : lastListed tr = some property) (htype : typeOf property = .ok "long")
    (hv : longOf property = .ok v) :
    s.thread.running = true ↔ Stamped (listings tr) ∧ v ≠ 0 := by
  have hfollows := hsound.mirrored.follows
  rw [Follows, getLast?_listings h (Option.isSome_iff_ne_none.mp hconnected) hlast] at hfollows
  obtain ⟨p, hp, -, hdescribes⟩ := hfollows
  have hvalue : v = asLong p.held := by
    have hlong := hdescribes.value (hdescribes.type.mp htype)
    rw [hv] at hlong
    exact Except.ok.inj hlong
  rw [hsound.mirrored.kept nofun, hvalue, ← asLong_iff_moves hp, decide_eq_true_iff]

/-- **The thread mirrors the device** if, and only if, it has been told of the current speed where
the last reply has the belt moving. -/
theorem mirrors_iff (h : SystemRun N {} tr s) (htruthful : Truthful tr) :
    Mirrors tr s ↔ (isConnected s.client = true → Told tr) := by
  have hsound := sound_of_run h htruthful
  constructor
  · intro hmirrors hconnected property v hlast htype hv hmoves
    have hrunning := (hmirrors.speed hconnected property v hlast htype hv).mpr hmoves
    exact ((running_iff h hsound hconnected hlast htype hv).mp hrunning).1
  · intro htold
    refine ⟨hsound.connected, hsound.alternated, ?_, ?_⟩
    · intro hrunning
      rw [hsound.connected]
      by_contra hnot
      have hnil := hsound.closed (Option.not_isSome_iff_eq_none.mp hnot)
      have hmirrored := hsound.mirrored
      rw [hnil] at hmirrored
      rw [hmirrored.running_eq_false] at hrunning
      cases hrunning
    · intro hconnected property v hlast htype hv
      rw [running_iff h hsound hconnected hlast htype hv]
      exact and_iff_right_of_imp (htold hconnected property v hlast htype hv)

end

/-! ## Two runs -/

instance (before after : Object N) : Decidable (Keeps before after) :=
  inferInstanceAs (Decidable (_ ∧ (_ → _)))

instance (listed : List (Object N)) : Decidable (Stamped listed) :=
  inferInstanceAs (Decidable (∃ property ∈ listed, _))

instance (tr : Record N) : Decidable (Truthful tr) :=
  inferInstanceAs (Decidable (AllSteps _ tr))

/-- The current speed of a conveyor belt. -/
def currentSpeed (timestamp value : Int) : Value Int :=
  .object [("id", .string "current_speed"), ("name", .string "current speed"),
    ("uri", .string "/properties/current_speed"), ("description", .string ""),
    ("readonly", .boolean true), ("type", .string "long"), ("timestamp", .number timestamp),
    ("value", .number value), ("min", .number 0), ("max", .number 100)]

/-- The belt starts, stops at timestamp 0, and starts again after the server was away. -/
theorem mirrors_of_startAgain :
    ∃ tr s, SystemRun Int {} tr s ∧ tr.length = 6 ∧ s.thread.running = true ∧ Mirrors tr s := by
  have hrun : (trace step {} (Client.found [currentSpeed 7 100] ++
      [.poll (Client.device [currentSpeed 0 0]), .serviceRemoved "belt"] ++
      Client.found [currentSpeed 9 80])).any (fun r => decide (Truthful r.1 ∧ r.1.length = 6 ∧
        r.2.thread.running = true ∧ Stamped (listings r.1))) = true := by decide +kernel
  obtain ⟨⟨tr, s⟩, htrace, hr⟩ := (Option.any_eq_true _ _).mp hrun
  obtain ⟨htruthful, hlength, hrunning, hstamped⟩ := of_decide_eq_true hr
  have hrun := run_of_trace htrace
  exact ⟨tr, s, hrun, hlength, hrunning,
    (mirrors_iff hrun htruthful).mpr fun _ _ _ _ _ _ _ => hstamped⟩

/-- The belt moves when the server is found, and the timestamp of its speed is still 0. -/
theorem not_mirrors_of_timestampZero :
    ∃ tr s, SystemRun Int {} tr s ∧ Truthful tr ∧ ¬ Mirrors tr s := by
  have hrun : (trace step {} (Client.found [currentSpeed 0 100])).any (fun r =>
      decide (Truthful r.1 ∧ r.2.thread.running = false ∧ isConnected r.2.client = true) &&
        (lastListed r.1).any fun property =>
          decide (typeOf property = .ok "long" ∧ longOf property = .ok 100)) = true := by
    decide +kernel
  obtain ⟨⟨tr, s⟩, htrace, hr⟩ := (Option.any_eq_true _ _).mp hrun
  obtain ⟨hstate, hlisted⟩ := (Bool.and_eq_true _ _).mp hr
  obtain ⟨htruthful, hrunning, hconnected⟩ := of_decide_eq_true hstate
  obtain ⟨property, hlast, hproperty⟩ := (Option.any_eq_true _ _).mp hlisted
  obtain ⟨htype, hv⟩ := of_decide_eq_true hproperty
  refine ⟨tr, s, run_of_trace htrace, htruthful, fun hmirrors => ?_⟩
  have hiff := hmirrors.speed hconnected property 100 hlast htype hv
  rw [hrunning] at hiff
  simp at hiff

end FactoryHub.AtWork.ConveyorBelt
