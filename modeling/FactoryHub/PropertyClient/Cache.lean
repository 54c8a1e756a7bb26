import FactoryHub.PropertyClient.Client
import FactoryHub.Lib.Outcome

/-!
# The cache of the property client

* `processProperty_meets` — processing an entry of the server keeps a cache that has properties of
  the server's entries only, and dereferences no null pointer.
* `cache_clean_iff` — the cache has no other entries, and none without a connection, along the runs
  in which `get_property` is asked for what is there, and only along these.
-/

namespace FactoryHub.PropertyClient

open Lib

variable {N : Type}

/-- An exception of the JSON library. -/
def NotNull (fault : Fault) : Prop := fault ≠ .nullDereference

theorem asString_meets (value : Value N) :
    Meets (fun s => value = .string s) NotNull value.asString := by
  cases value with
  | string s => exact .ok rfl
  | _ => exact .error (by simp [NotNull])

theorem asBool_meets (value : Value N) : Meets (fun _ => True) NotNull value.asBool := by
  cases value with
  | boolean b => exact .ok trivial
  | _ => exact .error (by simp [NotNull])

theorem numberField_meets {α : Type} (convert : N → α) (property : Object N) (key : String) :
    Meets (fun _ => True) NotNull (numberField convert property key) := by
  unfold numberField
  cases property.get key with
  | number n => exact .ok trivial
  | _ => exact .error (by simp [NotNull])

variable [Number N]

/-! ## What an entry of the server creates -/

inductive ValueType where
  | bool | string | long | ulong | double | unknown
  deriving DecidableEq, Repr

/-- `type_`. -/
def Held.type : Held N → ValueType
  | .bool _ => .bool
  | .string => .string
  | .long .. => .long
  | .ulong .. => .ulong
  | .double .. => .double
  | .unknown => .unknown

/-- The constant fields are those of the property created from an entry of the server. -/
def Property.CreatedFrom (p : Property N) (property : Object N) : Prop :=
  ∃ c, createProperty property = .ok c ∧ p.uri = c.uri ∧ p.id = c.id ∧ p.name = c.name ∧
    p.description = c.description ∧ p.readonly = c.readonly ∧ p.held.type = c.held.type

/-- Every entry is a property with this id, created from one of the entries of the server. -/
def Cached (objects : List (Object N)) (properties : Cache N) : Prop :=
  ∀ id entry, properties id = some entry →
    ∃ p, entry = some p ∧ p.id = id ∧ ∃ property ∈ objects, p.CreatedFrom property

/-- Three number fields. -/
theorem threeFields_meets {α : Type} (convert : N → α) (property : Object N)
    (f : α → α → α → Held N) (type : ValueType) (hf : ∀ a b c, (f a b c).type = type) :
    Meets (fun held : Held N => held.type = type) NotNull (do
      let value ← numberField convert property "value"
      let min ← numberField convert property "min"
      let max ← numberField convert property "max"
      return f value min max) := by
  refine (numberField_meets convert property "value").bind fun value _ => ?_
  refine (numberField_meets convert property "min").bind fun min _ => ?_
  refine (numberField_meets convert property "max").bind fun max _ => ?_
  exact .ok (hf value min max)

theorem longFields_meets (property : Object N) :
    Meets (fun held => held.type = .long) NotNull (longFields property) :=
  threeFields_meets _ property .long .long fun _ _ _ => rfl

theorem ulongFields_meets (property : Object N) :
    Meets (fun held => held.type = .ulong) NotNull (ulongFields property) :=
  threeFields_meets _ property .ulong .ulong fun _ _ _ => rfl

theorem doubleFields_meets (property : Object N) :
    Meets (fun held => held.type = .double) NotNull (doubleFields property) :=
  threeFields_meets _ property .double .double fun _ _ _ => rfl

theorem boolField_meets (property : Object N) :
    Meets (fun held => held.type = .bool) NotNull (boolField property) :=
  (asBool_meets _).bind fun _ _ => .ok rfl

theorem stringField_meets (property : Object N) :
    Meets (fun held => held.type = .string) NotNull (stringField property) :=
  (asString_meets _).bind fun _ _ => .ok rfl

theorem heldOfType_meets (type : String) (property : Object N) :
    Meets (fun _ => True) NotNull (heldOfType type property) := by
  unfold heldOfType
  split
  · exact (boolField_meets property).mono fun _ _ => trivial
  split
  · exact (longFields_meets property).mono fun _ _ => trivial
  split
  · exact (ulongFields_meets property).mono fun _ _ => trivial
  split
  · exact (stringField_meets property).mono fun _ _ => trivial
  split
  · exact (doubleFields_meets property).mono fun _ _ => trivial
  · exact .ok trivial

theorem createProperty_meets (property : Object N) :
    Meets (fun p => property.get "id" = .string p.id) NotNull (createProperty property) := by
  unfold createProperty
  refine (asString_meets _).bind fun id hid => ?_
  refine (asString_meets _).bind fun name _ => ?_
  refine (asString_meets _).bind fun uri _ => ?_
  refine (asString_meets _).bind fun description _ => ?_
  refine (asBool_meets _).bind fun readonly _ => ?_
  refine (asString_meets _).bind fun type _ => ?_
  refine (heldOfType_meets type property).bind fun held _ => ?_
  exact .ok hid

theorem update_meets (property : Object N) (held : Held N) :
    Meets (fun held' => held'.type = held.type) NotNull (held.update property) := by
  cases held with
  | long => exact longFields_meets property
  | ulong => exact ulongFields_meets property
  | double => exact doubleFields_meets property
  | bool => exact boolField_meets property
  | string => exact stringField_meets property
  | unknown => exact .ok rfl

/-! ## Processing entries -/

section

variable {objects : List (Object N)} {properties : Cache N} {property : Object N}

theorem cached_empty (objects : List (Object N)) : Cached objects (.empty : Cache N) := nofun

theorem Cached.mono {objects' : List (Object N)} (h : Cached objects properties)
    (hsub : ∀ property ∈ objects, property ∈ objects') : Cached objects' properties := by
  intro id entry hentry
  obtain ⟨p, hp, hid, property, hproperty, hcreated⟩ := h id entry hentry
  exact ⟨p, hp, hid, property, hsub property hproperty, hcreated⟩

theorem Cached.set {p : Property N} (h : Cached objects properties) (hproperty : property ∈ objects)
    (hcreated : p.CreatedFrom property) : Cached objects (properties.set p.id (some p)) := by
  intro id entry hentry
  unfold Cache.set at hentry
  split at hentry
  · next heq =>
      cases hentry
      exact ⟨p, rfl, heq.symm, property, hproperty, hcreated⟩
  · exact h id entry hentry

theorem findOrCreate_meets (h : Cached objects properties) (hproperty : property ∈ objects)
    {id : String} (hid : property.get "id" = .string id) :
    Meets (fun entry => ∃ p, entry = some p ∧ p.id = id ∧
      ∃ property ∈ objects, p.CreatedFrom property) NotNull
      (findOrCreate property properties id) := by
  unfold findOrCreate
  split
  · next entry hfound => exact .ok (h id entry hfound)
  · refine (createProperty_meets property).with_eq.map ?_
    rintro p ⟨hpid, hcreate⟩
    have hidp : p.id = id := by
      rw [hid] at hpid
      cases hpid
      rfl
    exact ⟨p, rfl, hidp, property, hproperty, p, hcreate, rfl, rfl, rfl, rfl, rfl, rfl⟩

/-- **One entry of the server** leaves a cache of properties, and no null pointer is dereferenced. -/
theorem processProperty_meets (h : Cached objects properties) (hproperty : property ∈ objects)
    (changed : List String) :
    Meets (fun r => Cached objects r.1) NotNull (processProperty property properties changed) := by
  unfold processProperty
  refine (asString_meets _).bind fun id hid => ?_
  refine (findOrCreate_meets h hproperty hid).bind ?_
  rintro entry ⟨p, rfl, rfl, origin, horigin, hcreated⟩
  refine (numberField_meets _ property "timestamp").bind fun newTimestamp _ => ?_
  split
  · refine (update_meets property p.held).bind fun held htype => ?_
    obtain ⟨c, hc, huri, hpid, hname, hdescription, hreadonly, hheld⟩ := hcreated
    refine .ok (Cached.set (p := { p with timestamp := newTimestamp, held }) h horigin ?_)
    exact ⟨c, hc, huri, hpid, hname, hdescription, hreadonly, htype.trans hheld⟩
  · exact .ok (h.set horigin hcreated)

theorem processAll_meets {listed : List (Object N)} (h : Cached objects properties)
    (hlisted : ∀ property ∈ listed, property ∈ objects) (changed : List String) :
    Meets (fun r => Cached objects r.1) NotNull (processAll properties changed listed) := by
  induction listed generalizing properties changed with
  | nil => exact .ok h
  | cons property rest ih =>
      have hhead := hlisted property (List.mem_cons_self ..)
      refine (processProperty_meets h hhead changed).bind ?_
      intro r hr
      exact ih hr (fun p hp => hlisted p (List.mem_cons_of_mem _ hp)) r.2

theorem processPropertyList_meets {value : Value N} (h : Cached objects properties)
    (hlisted : ∀ property ∈ listed value, property ∈ objects) :
    Meets (fun r => Cached objects r.1) NotNull (processPropertyList value properties) :=
  (processAll_meets h hlisted []).bind fun _ hr => .ok hr

end

/-! ## One operation -/

/-- The entries of a response. -/
def Response.listed : Response N → List (Object N)
  | .answered _ (some value) => PropertyClient.listed value
  | _ => []

namespace Client

variable {s s' : Client N} {objects : List (Object N)} {calls : List (Call N)} {e : Event N}

/-- Without a connection there are no properties. -/
def Closed (s : Client N) : Prop := s.httpClient = none → s.properties = .empty

/-- The entries of the response that an operation processes. -/
def taken (s' : Client N) : Event N → List (Object N)
  | .poll response => response.listed
  | .search _ response => (response s'.serverName).listed
  | _ => []

theorem pollProperties_meets {response : Response N} (hconnected : s.httpClient.isSome = true)
    (h : Cached objects s.properties) (hlisted : ∀ property ∈ response.listed, property ∈ objects) :
    Meets (fun r => r.1.httpClient = none ∧ r.1.properties = .empty ∨
      r.1.httpClient.isSome = true ∧ Cached objects r.1.properties) NotNull
      (s.pollProperties response) := by
  unfold pollProperties
  split
  · exact (processPropertyList_meets h hlisted).bind fun _ hr => .ok (Or.inr ⟨hconnected, hr⟩)
  · exact .ok (Or.inl ⟨rfl, rfl⟩)

theorem testServer_meets {name url : String} {response : Response N}
    (hempty : s.properties = .empty) :
    Meets (fun r => ∀ s' calls, r = some (s', calls) → s'.serverName = name ∧
      s'.httpClient.isSome = true ∧ Cached response.listed s'.properties) NotNull
      (s.testServer name url response) := by
  unfold testServer
  split
  · next value =>
      have hcached : Cached (listed value) s.properties := by
        rw [hempty]
        exact cached_empty _
      refine (processPropertyList_meets hcached fun _ hp => hp).bind ?_
      rintro r hr
      refine .ok ?_
      rintro s' calls heq
      cases heq
      exact ⟨rfl, rfl, hr⟩
  · exact .ok nofun

/-- The search goes on as long as the client is as it was. -/
theorem searchServer_meets {response : String → Response N} {order : List (String × String)}
    (hempty : s.properties = .empty) :
    Meets (fun r => r.1 = s ∨ r.1.httpClient.isSome = true ∧
      Cached (response r.1.serverName).listed r.1.properties) NotNull
      (s.searchServer response order) := by
  induction order with
  | nil => exact .ok (Or.inl rfl)
  | cons server rest ih =>
      obtain ⟨name, url⟩ := server
      unfold searchServer
      refine (testServer_meets hempty).bind ?_
      intro r hr
      cases r with
      | none => exact ih
      | some r =>
          obtain ⟨hname, hconnected, hcached⟩ := hr r.1 r.2 rfl
          refine .ok (Or.inr ⟨hconnected, ?_⟩)
          rw [hname]
          exact hcached

/-- `get_property` is asked for what is there. -/
def Finds (s : Client N) : Event N → Prop
  | .getProperty id => (s.properties id).isSome = true
  | _ => True

instance (s : Client N) (e : Event N) : Decidable (s.Finds e) := by
  cases e <;> (dsimp only [Finds]; infer_instance)

/-- No operation dereferences a null pointer. -/
theorem step_notNull (hcached : Cached objects s.properties) (hclosed : s.Closed) (e : Event N) :
    s.step e ≠ some (.error .nullDereference) := by
  intro hstep
  cases e with
  | poll response =>
      obtain ⟨hconnected, hs⟩ := Option.ite_none_right_eq_some.mp hstep
      rw [Option.some.injEq] at hs
      have hcached' : Cached (objects ++ response.listed) s.properties :=
        hcached.mono fun _ hp => List.mem_append_left _ hp
      exact (pollProperties_meets hconnected hcached'
        (fun _ hp => List.mem_append_right _ hp)).of_eq_error hs rfl
  | search order response =>
      obtain ⟨⟨hnone, -⟩, hs⟩ := Option.ite_none_right_eq_some.mp hstep
      rw [Option.some.injEq] at hs
      exact (searchServer_meets (hclosed hnone)).of_eq_error hs rfl
  | serviceAdded name ip port => cases hstep
  | serviceRemoved name => cases hstep
  | existsProperty id => cases hstep
  | getProperty id => cases hstep

/-- **One operation** keeps the cache, with the entries taken since the connection was made. -/
theorem step_cached (hcached : Cached objects s.properties) (hclosed : s.Closed) (hfinds : s.Finds e)
    (hstep : s.step e = some (.ok (s', calls))) :
    s'.Closed ∧ (s'.httpClient.isSome = true →
      Cached (s'.taken e ++ if s.httpClient = none then [] else objects) s'.properties) := by
  -- the operations that touch neither the connection nor the cache
  have hkept : s.Closed ∧ (s.httpClient.isSome = true →
      Cached ([] ++ if s.httpClient = none then [] else objects) s.properties) := by
    refine ⟨hclosed, fun hsome => ?_⟩
    rw [if_neg (Option.isSome_iff_ne_none.mp hsome)]
    exact hcached
  cases e with
  | poll response =>
      obtain ⟨hconnected, hs⟩ := Option.ite_none_right_eq_some.mp hstep
      rw [Option.some.injEq] at hs
      have hsome : s.httpClient ≠ none := Option.isSome_iff_ne_none.mp hconnected
      rw [if_neg hsome]
      have hcached' : Cached (response.listed ++ objects) s.properties :=
        hcached.mono fun _ hp => List.mem_append_right _ hp
      rcases (pollProperties_meets hconnected hcached'
        (fun _ hp => List.mem_append_left _ hp)).of_eq_ok hs with ⟨hnone, hempty⟩ | ⟨hsome', hprops⟩
      · exact ⟨fun _ => hempty, fun hsome' => absurd hnone (Option.isSome_iff_ne_none.mp hsome')⟩
      · exact ⟨fun hnone => absurd hnone (Option.isSome_iff_ne_none.mp hsome'), fun _ => hprops⟩
  | search order response =>
      obtain ⟨⟨hnone, -⟩, hs⟩ := Option.ite_none_right_eq_some.mp hstep
      rw [Option.some.injEq] at hs
      rw [if_pos hnone, List.append_nil]
      rcases (searchServer_meets (hclosed hnone)).of_eq_ok hs with rfl | ⟨hsome', hprops⟩
      · exact ⟨hclosed, fun hsome' => absurd hnone (Option.isSome_iff_ne_none.mp hsome')⟩
      · exact ⟨fun hnone' => absurd hnone' (Option.isSome_iff_ne_none.mp hsome'), fun _ => hprops⟩
  | serviceAdded name ip port =>
      cases hstep
      exact hkept
  | serviceRemoved name =>
      simp only [step, serviceRemoved, Option.some.injEq, Except.ok.injEq] at hstep
      split at hstep
      · next hnone =>
          cases hstep
          exact ⟨hclosed, fun hsome => absurd hnone (Option.isSome_iff_ne_none.mp hsome)⟩
      · split at hstep <;> cases hstep
        · exact hkept
        · exact ⟨fun _ => rfl, nofun⟩
  | existsProperty id =>
      cases hstep
      exact hkept
  | getProperty id =>
      obtain ⟨entry, hentry⟩ := Option.isSome_iff_exists.mp hfinds
      simp only [step, getProperty, hentry] at hstep
      cases hstep
      exact hkept

/-- What `get_property` leaves of what is not there. -/
theorem step_not_finds (hfinds : ¬ s.Finds e) (hstep : s.step e = some (.ok (s', calls))) :
    ¬ Cached objects s'.properties := by
  cases e with
  | getProperty id =>
      have hnone : s.properties id = none := by
        simpa [Finds] using hfinds
      simp only [step, getProperty, hnone] at hstep
      cases hstep
      intro hcached
      obtain ⟨p, hp, -⟩ := hcached id none (if_pos rfl)
      cases hp
  | _ => exact absurd trivial hfinds

/-! ## Along a run -/

/-- The entries of the server processed since the connection was made. -/
def received : List (Step (Client N) (Event N)) → List (Object N)
  | [] => []
  | t :: tr =>
      if t.post.httpClient = none then []
      else t.post.taken t.label ++ if t.pre.httpClient = none then [] else received tr

/-- The client after a record of operations. -/
def reached : List (Step (Client N) (Event N)) → Client N
  | [] => {}
  | t :: _ => t.post

/-- The state after a record is as it should be: all entries are properties created from entries of
the server, there are none without a connection, and no operation dereferences a null pointer. -/
structure Clean (tr : List (Step (Client N) (Event N))) : Prop where
  cached : Cached (received tr) (reached tr).properties
  closed : (reached tr).Closed
  notNull : ∀ e, (reached tr).step e ≠ some (.error .nullDereference)

theorem reached_eq {tr : List (Step (Client N) (Event N))} (h : ClientRun N {} tr s) :
    reached tr = s := by
  cases h with
  | init => rfl
  | step _ _ => rfl

theorem clean_of_run {tr : List (Step (Client N) (Event N))} (h : ClientRun N {} tr s)
    (hfinds : ∀ t ∈ tr, t.pre.Finds t.label) : Clean tr := by
  have hinv : Cached (received tr) s.properties ∧ s.Closed := by
    refine @Run.history_invariant_of _ _ _ _ _ _ (fun s e => s.Finds e)
      (fun tr s => Cached (received tr) s.properties ∧ s.Closed) ?_ ?_ h hfinds
    · exact ⟨cached_empty _, fun _ => rfl⟩
    · rintro tr s e s' ⟨hcached, hclosed⟩ hfinds hafter
      obtain ⟨calls, hstep⟩ := after_eq_some_iff.mp hafter
      obtain ⟨hclosed', hcached'⟩ := step_cached hcached hclosed hfinds hstep
      refine ⟨?_, hclosed'⟩
      unfold received
      split
      · next hnone =>
          rw [hclosed' hnone]
          exact cached_empty _
      · next hsome => exact hcached' (Option.isSome_iff_ne_none.mpr hsome)
  rw [← reached_eq h] at hinv
  exact ⟨hinv.1, hinv.2, step_notNull hinv.1 hinv.2⟩

/-- Each part of a record, from the start, is a run. -/
theorem run_of_append {later earlier : List (Step (Client N) (Event N))}
    (h : ClientRun N {} (later ++ earlier) s) : ClientRun N {} earlier (reached earlier) := by
  cases earlier with
  | nil => exact .init
  | cons t earlier =>
      obtain ⟨hrun, hstep⟩ := h.split
      exact hrun.step hstep

/-- **The cache is clean in every state of a run** if, and only if, `get_property` is only asked for
properties that are there. -/
theorem cache_clean_iff {tr : List (Step (Client N) (Event N))} (h : ClientRun N {} tr s) :
    (∀ later earlier, tr = later ++ earlier → Clean earlier) ↔
      ∀ t ∈ tr, t.pre.Finds t.label := by
  constructor
  · intro hclean t ht
    by_contra hnot
    obtain ⟨later, earlier, rfl⟩ := List.append_of_mem ht
    obtain ⟨-, hafter⟩ := h.split
    obtain ⟨calls, hstep⟩ := after_eq_some_iff.mp hafter
    exact step_not_finds hnot hstep (hclean later (t :: earlier) rfl).cached
  · rintro hfinds later earlier rfl
    exact clean_of_run (run_of_append h) fun t ht => hfinds t (List.mem_append_right _ ht)

/-! ## Two runs -/

/-- Numbers that are integers. -/
instance : Number Int where
  Double := ℚ
  toInt64 := Int64.ofInt
  toUInt64 := UInt64.ofInt
  toDouble n := n

/-- The target speed of a conveyor belt. -/
def targetSpeed (timestamp : Int) : Value Int :=
  .object [("id", .string "target_speed"), ("name", .string "target speed"),
    ("uri", .string "/properties/target_speed"), ("description", .string ""),
    ("readonly", .boolean false), ("type", .string "long"), ("timestamp", .number timestamp),
    ("value", .number 0), ("min", .number 0), ("max", .number 100)]

/-- The device with these properties. -/
def device (properties : List (Value Int)) : Response Int :=
  .answered true (some (.object [("properties", .array properties)]))

/-- The server of the belt, which offers these properties, is found and connected. -/
def found (properties : List (Value Int)) : List (Event Int) :=
  [.serviceAdded "belt" "10.0.0.2" 80,
    .search [("belt", "http://10.0.0.2:80")] fun _ => device properties]

/-- A server that offers the target speed: it can be asked for, and the cache stays clean. -/
theorem cache_clean_of_found :
    ∃ tr s, ClientRun Int {} tr s ∧ tr.length = 4 ∧
      ∀ later earlier, tr = later ++ earlier → Clean earlier := by
  have hrun : (trace after {} (found [targetSpeed 5] ++
      [.getProperty "target_speed", .poll (device [targetSpeed 6])])).any (fun r =>
        decide (r.1.length = 4 ∧ ∀ t ∈ r.1, t.pre.Finds t.label)) = true := by decide +kernel
  obtain ⟨⟨tr, s⟩, htrace, hr⟩ := (Option.any_eq_true _ _).mp hrun
  obtain ⟨hlength, hfinds⟩ := of_decide_eq_true hr
  have hrun := run_of_trace htrace
  exact ⟨tr, s, hrun, hlength, (cache_clean_iff hrun).mpr hfinds⟩

/-- The fault an operation ends in. -/
def faultOf (s : Client Int) (e : Event Int) : Option Fault :=
  match s.step e with
  | some (.error fault) => some fault
  | _ => none

theorem step_of_faultOf {s : Client Int} {e : Event Int} {fault : Fault}
    (h : s.faultOf e = some fault) : s.step e = some (.error fault) := by
  unfold faultOf at h
  split at h
  · next hstep =>
    cases h
    exact hstep
  · cases h

/-- The server does not offer the target speed yet when the belt is started: the cache has a null
pointer for it, which is dereferenced when the server lists the property. -/
theorem cache_null_of_start :
    ∃ tr s, ClientRun Int {} tr s ∧ ¬ Clean tr ∧
      s.step (.poll (device [targetSpeed 5])) = some (.error .nullDereference) := by
  have hrun : (trace after {} (found [] ++ [.getProperty "target_speed"])).any (fun r =>
      decide (r.2.faultOf (.poll (device [targetSpeed 5])) = some .nullDereference)) = true := by
    decide +kernel
  obtain ⟨⟨tr, s⟩, htrace, hr⟩ := (Option.any_eq_true _ _).mp hrun
  have hrun := run_of_trace htrace
  have hnull : s.step (.poll (device [targetSpeed 5])) = some (.error .nullDereference) :=
    step_of_faultOf (of_decide_eq_true hr)
  refine ⟨tr, s, hrun, ?_, hnull⟩
  intro hclean
  have hnot := hclean.notNull (.poll (device [targetSpeed 5]))
  rw [reached_eq hrun] at hnot
  exact hnot hnull

end Client

end FactoryHub.PropertyClient
