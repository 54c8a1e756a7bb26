import Mathlib.Data.List.Nodup

/-!
# Logging protobuf messages as BSON documents

`src/src/libs/mongodb_log/mongodb_log_protobuf.cpp`: the values of the fields are appended to a
document under the names of the fields, those of a repeated field all under the same name.

* `addMessage_eq` — the elements of the document.
* `keepsEveryField_iff` — keys are distinct and values can be read back if, and only if, nothing is
  repeated more than once.
-/

namespace FactoryHub.MongoLog

/-! ## Messages -/

/-- The numbers of type float and double. -/
class FloatFormats (S D : Type) where
  widen : S → D
  narrow : D → S
  narrow_widen : ∀ x, narrow (widen x) = x

/-- The types of `HANDLE_PRIMITIVE_TYPE`. -/
inductive PrimitiveType where
  | int32 | int64 | sint32 | sint64 | uint32 | uint64 | fixed32 | fixed64 | sfixed32 | sfixed64
  | float | double | bool
  deriving DecidableEq, Repr

/-- What the reflection has for a value of the type. -/
def PrimitiveType.Rep (S D : Type) : PrimitiveType → Type
  | .int32 | .sint32 | .sfixed32 => Int32
  | .int64 | .sint64 | .sfixed64 => Int64
  | .uint32 | .fixed32 => UInt32
  | .uint64 | .fixed64 => UInt64
  | .float => S
  | .double => D
  | .bool => Bool

mutual

/-- A `Message`, with all the fields of its type. -/
inductive Message (S D : Type) where
  | mk (typeName : String) (fields : List (Field S D))

/-- A field, which may have a value, or is repeated. -/
inductive Field (S D : Type) where
  | single (name : String) (value : Option (Value S D))
  | repeated (name : String) (values : List (Value S D))

inductive Value (S D : Type) where
  | primitive (type : PrimitiveType) (value : type.Rep S D)
  | message (m : Message S D)
  | enum (name : String)
  | string (value : String)
  | bytes (value : List UInt8)

end

section

variable {S D : Type}

def Message.fields : Message S D → List (Field S D)
  | .mk _ fields => fields

def Field.name : Field S D → String
  | .single name _ => name
  | .repeated name _ => name

def Field.values : Field S D → List (Value S D)
  | .single _ value => value.toList
  | .repeated _ values => values

/-- `ListFields` has the field. -/
def Field.isSet (f : Field S D) : Bool := !f.values.isEmpty

theorem isSet_iff {f : Field S D} : f.isSet = true ↔ f.values.length ≠ 0 := by
  simp [Field.isSet]

/-- What holds of a message if it holds of the messages in it, holds of all messages. -/
theorem Message.induction {P : Message S D → Prop}
    (h : ∀ m : Message S D, (∀ f ∈ m.fields, ∀ sub, .message sub ∈ f.values → P sub) → P m)
    (m : Message S D) : P m :=
  h m fun f hf sub hsub =>
    have hsize : sizeOf sub < sizeOf m := by
      obtain ⟨typeName, fields⟩ := m
      have hf : sizeOf f < sizeOf fields := List.sizeOf_lt_of_mem hf
      have hsub : sizeOf sub < sizeOf f := by
        cases f with
        | single name value =>
            cases value with
            | none => cases hsub
            | some v =>
                cases List.mem_singleton.mp hsub
                simp
                omega
        | repeated name values =>
            have hlt := List.sizeOf_lt_of_mem (show Value.message sub ∈ values from hsub)
            simp at hlt ⊢
            omega
      simp
      omega
    Message.induction h sub
termination_by sizeOf m

end

/-! ## Documents -/

/-- An element of a BSON document. -/
inductive Bson (D : Type) where
  | int (n : Int32)
  | long (n : Int64)
  | double (x : D)
  | bool (b : Bool)
  | string (s : String)
  | binData (data : List UInt8)
  | object (elements : List (String × Bson D))
  | array (items : List (Bson D))

/-- A document is what a `BSONObjBuilder` has appended, in this order. -/
abbrev Doc (D : Type) := List (String × Bson D)

variable {S D : Type} [FloatFormats S D]

/-- `append` of the C++ type that the value of a primitive type is converted to. An unsigned int is
appended as an int. -/
def PrimitiveType.toBson : (type : PrimitiveType) → type.Rep S D → Bson D
  | .int32, v | .sint32, v | .sfixed32, v => .int v
  | .int64, v | .sint64, v | .sfixed64, v => .long v
  | .uint32, v | .fixed32, v => .int (UInt32.toInt32 v)
  | .uint64, v | .fixed64, v => .long (UInt64.toInt64 v)
  | .float, v => .double (FloatFormats.widen (S := S) v)
  | .double, v => .double v
  | .bool, v => .bool v

mutual

/-- `add_message`. -/
def addMessage (serialize : Message S D → List UInt8) : Message S D → Doc D → Doc D
  | .mk typeName fields, b =>
      let b := b ++ [("_type", .string typeName)]
      let b := b ++ [("_protobuf", .binData (serialize (.mk typeName fields)))]
      addFields serialize fields b

/-- The loop over the fields that are set. -/
def addFields (serialize : Message S D → List UInt8) : List (Field S D) → Doc D → Doc D
  | [], b => b
  | f :: fields, b => addFields serialize fields (if f.isSet then addField serialize f b else b)

/-- `add_field`. -/
def addField (serialize : Message S D → List UInt8) : Field S D → Doc D → Doc D
  | .single _ none, b => b
  | .single name (some v), b => addValue serialize name v b
  | .repeated name values, b => addValues serialize name values b

/-- The loop over the elements of a repeated field. -/
def addValues (serialize : Message S D → List UInt8) (name : String) :
    List (Value S D) → Doc D → Doc D
  | [], b => b
  | v :: values, b => addValues serialize name values (addValue serialize name v b)

/-- The cases for the type of the field. -/
def addValue (serialize : Message S D → List UInt8) (name : String) : Value S D → Doc D → Doc D
  | .primitive type v, b => b ++ [(name, type.toBson v)]
  | .message sub, b => b ++ [(name, .object (addMessage serialize sub []))]
  | .enum value, b => b ++ [(name, .string value)]
  | .string value, b => b ++ [(name, .string value)]
  | .bytes value, b => b ++ [(name, .binData value)]

end

/-! ## What is kept -/

/-- The keys of the document, and of all documents in it, are pairwise distinct. -/
inductive DistinctKeys : Doc D → Prop where
  | mk {d : Doc D} (nodup : (d.map Prod.fst).Nodup)
      (object : ∀ key sub, (key, .object sub) ∈ d → DistinctKeys sub)
      (array : ∀ key items sub, (key, .array items) ∈ d → .object sub ∈ items → DistinctKeys sub) :
      DistinctKeys d

/-- The value of a primitive type that an element has. -/
def PrimitiveType.ofBson : (type : PrimitiveType) → Bson D → Option (type.Rep S D)
  | .int32, .int n | .sint32, .int n | .sfixed32, .int n => some n
  | .int64, .long n | .sint64, .long n | .sfixed64, .long n => some n
  | .uint32, .int n | .fixed32, .int n => some n.toUInt32
  | .uint64, .long n | .fixed64, .long n => some n.toUInt64
  | .float, .double x => some (FloatFormats.narrow (S := S) x)
  | .double, .double x => some x
  | .bool, .bool b => some b
  | _, _ => none

/-- The values found under a name: those of the array, if it is one. -/
def valuesUnder (d : Doc D) (name : String) : List (Bson D) :=
  match d.lookup name with
  | some (.array items) => items
  | some value => [value]
  | none => []

/-- The element has the value. Of a message it is a document. -/
def ReadsAs : Value S D → Bson D → Prop
  | .primitive type v, b => type.ofBson b = some v
  | .message _, .object _ => True
  | .enum value, .string s => s = value
  | .string value, .string s => s = value
  | .bytes value, .binData data => data = value
  | _, _ => False

/-- The values of all set fields of the message, and of the messages in it, can be read back. -/
inductive ReadsBack : Message S D → Doc D → Prop where
  | mk {m : Message S D} {d : Doc D}
      (values : ∀ f ∈ m.fields, f.isSet = true →
        List.Forall₂ ReadsAs f.values (valuesUnder d f.name))
      (messages : ∀ f ∈ m.fields, ∀ sub doc,
        (.message sub, .object doc) ∈ f.values.zip (valuesUnder d f.name) → ReadsBack sub doc) :
      ReadsBack m d

/-- The document has every field of the message. -/
def KeepsEveryField (serialize : Message S D → List UInt8) (m : Message S D) : Prop :=
  DistinctKeys (addMessage serialize m []) ∧ ReadsBack m (addMessage serialize m [])

/-- No field has one of the names that `add_message` uses itself. -/
inductive NamesFree : Message S D → Prop where
  | mk {m : Message S D} (names : ∀ f ∈ m.fields, f.name ≠ "_type" ∧ f.name ≠ "_protobuf")
      (messages : ∀ f ∈ m.fields, ∀ sub, .message sub ∈ f.values → NamesFree sub) : NamesFree m

/-- In the message, and in all messages in it, no field has more than one value, and the set fields
have distinct names. -/
inductive AtMostOne : Message S D → Prop where
  | mk {m : Message S D} (names : ((m.fields.filter Field.isSet).map Field.name).Nodup)
      (values : ∀ f ∈ m.fields, f.values.length ≤ 1)
      (messages : ∀ f ∈ m.fields, ∀ sub, .message sub ∈ f.values → AtMostOne sub) : AtMostOne m

/-! ## The elements of the document -/

section

variable (serialize : Message S D → List UInt8)

/-- The value of the element that a value is appended as. -/
def Value.toBson : Value S D → Bson D
  | .primitive type v => type.toBson v
  | .message sub => .object (addMessage serialize sub [])
  | .enum value => .string value
  | .string value => .string value
  | .bytes value => .binData value

def Field.elements (f : Field S D) : Doc D := f.values.map fun v => (f.name, v.toBson serialize)

theorem addValue_eq (name : String) (v : Value S D) (b : Doc D) :
    addValue serialize name v b = b ++ [(name, v.toBson serialize)] := by
  cases v <;> rfl

theorem addValues_eq (name : String) (values : List (Value S D)) (b : Doc D) :
    addValues serialize name values b =
      b ++ values.map fun v => (name, v.toBson serialize) := by
  induction values generalizing b with
  | nil => simp [addValues]
  | cons v values ih =>
      rw [addValues, ih, addValue_eq, List.append_assoc]
      rfl

theorem addField_eq (f : Field S D) (b : Doc D) :
    addField serialize f b = b ++ f.elements serialize := by
  cases f with
  | single name value =>
      cases value with
      | none => simp [addField, Field.elements, Field.values]
      | some v => exact addValue_eq serialize name v b
  | repeated name values => exact addValues_eq serialize name values b

theorem elements_of_not_isSet {f : Field S D} (h : ¬ f.isSet = true) : f.elements serialize = [] := by
  have hempty : f.values = [] := by simpa [Field.isSet] using h
  rw [Field.elements, hempty, List.map_nil]

theorem addFields_eq (fields : List (Field S D)) (b : Doc D) :
    addFields serialize fields b = b ++ fields.flatMap (Field.elements serialize) := by
  induction fields generalizing b with
  | nil => simp [addFields]
  | cons f fields ih =>
      rw [addFields, ih, List.flatMap_cons]
      split
      · rw [addField_eq, List.append_assoc]
      · next hset => rw [elements_of_not_isSet serialize hset, List.nil_append]

/-- **The elements of the document** of a message. -/
theorem addMessage_eq (m : Message S D) : ∃ typeName,
    addMessage serialize m [] = ("_type", .string typeName) :: ("_protobuf", .binData (serialize m)) ::
      m.fields.flatMap (Field.elements serialize) := by
  obtain ⟨typeName, fields⟩ := m
  refine ⟨typeName, ?_⟩
  rw [addMessage, addFields_eq]
  rfl

variable {serialize}

theorem mem_elements {f : Field S D} {key : String} {b : Bson D} :
    (key, b) ∈ f.elements serialize ↔ ∃ v ∈ f.values, f.name = key ∧ v.toBson serialize = b := by
  simp [Field.elements]

/-- Documents and arrays are values of fields. -/
theorem mem_addMessage {m : Message S D} {key : String} {b : Bson D}
    (h : (key, b) ∈ addMessage serialize m []) (hstring : ∀ s, b ≠ .string s)
    (hdata : ∀ data, b ≠ .binData data) :
    ∃ f ∈ m.fields, ∃ v ∈ f.values, f.name = key ∧ v.toBson serialize = b := by
  obtain ⟨typeName, heq⟩ := addMessage_eq serialize m
  rw [heq, List.mem_cons, List.mem_cons] at h
  rcases h with h | h | h
  · cases h
    exact absurd rfl (hstring typeName)
  · cases h
    exact absurd rfl (hdata _)
  · obtain ⟨f, hf, hmem⟩ := List.mem_flatMap.mp h
    exact ⟨f, hf, mem_elements.mp hmem⟩

theorem toBson_eq_object {v : Value S D} {d : Doc D} (h : v.toBson serialize = .object d) :
    ∃ sub, v = .message sub ∧ d = addMessage serialize sub [] := by
  cases v with
  | message sub =>
      cases h
      exact ⟨sub, rfl, rfl⟩
  | primitive type v => cases type <;> cases h
  | enum value => cases h
  | string value => cases h
  | bytes value => cases h

theorem toBson_ne_array (v : Value S D) (items : List (Bson D)) : v.toBson serialize ≠ .array items := by
  intro h
  cases v with
  | primitive type v => cases type <;> cases h
  | message sub => cases h
  | enum value => cases h
  | string value => cases h
  | bytes value => cases h

/-- What is appended for a primitive value is read as this value. -/
theorem ofBson_toBson (type : PrimitiveType) (v : type.Rep S D) : type.ofBson (type.toBson v) = some v := by
  cases type with
  | float => exact congrArg some (FloatFormats.narrow_widen (S := S) (D := D) v)
  | uint32 | fixed32 => exact congrArg some (UInt32.toUInt32_toInt32 v)
  | uint64 | fixed64 => exact congrArg some (UInt64.toUInt64_toInt64 v)
  | _ => rfl

theorem readsAs_toBson (v : Value S D) : ReadsAs v (v.toBson serialize) := by
  cases v with
  | primitive type v => exact ofBson_toBson type v
  | message sub => trivial
  | enum value => rfl
  | string value => rfl
  | bytes value => rfl

/-! ## The keys -/

theorem map_fst_elements (f : Field S D) :
    (f.elements serialize).map Prod.fst = List.replicate f.values.length f.name := by
  simp [Field.elements, Function.comp_def]

theorem mem_keys {fields : List (Field S D)} {key : String} :
    key ∈ (fields.flatMap (Field.elements serialize)).map Prod.fst ↔
      key ∈ (fields.filter Field.isSet).map Field.name := by
  simp only [List.map_flatMap, map_fst_elements, List.mem_flatMap, List.mem_replicate, List.mem_map,
    List.mem_filter, isSet_iff]
  grind

/-- Keys are distinct if no set field has more than one value, and their names are distinct. -/
theorem nodup_keys_iff {fields : List (Field S D)} :
    ((fields.flatMap (Field.elements serialize)).map Prod.fst).Nodup ↔
      ((fields.filter Field.isSet).map Field.name).Nodup ∧ ∀ f ∈ fields, f.values.length ≤ 1 := by
  induction fields with
  | nil => simp
  | cons f fields ih =>
      have hdisjoint : List.Disjoint ((f.elements serialize).map Prod.fst)
          ((fields.flatMap (Field.elements serialize)).map Prod.fst) ↔
            (f.isSet = true → f.name ∉ (fields.filter Field.isSet).map Field.name) := by
        rw [map_fst_elements, isSet_iff]
        simp only [List.Disjoint, List.mem_replicate, mem_keys]
        grind
      rw [List.flatMap_cons, List.map_append, List.nodup_append', ih, hdisjoint, map_fst_elements,
        List.nodup_replicate, List.forall_mem_cons, List.filter_cons]
      split
      · next hset =>
          rw [List.map_cons, List.nodup_cons]
          tauto
      · next hset => tauto

/-- The fields do not get in the way of `_type` and `_protobuf`. -/
theorem nodup_addMessage_iff {m : Message S D}
    (hnames : ∀ f ∈ m.fields, f.name ≠ "_type" ∧ f.name ≠ "_protobuf") :
    ((addMessage serialize m []).map Prod.fst).Nodup ↔
      ((m.fields.filter Field.isSet).map Field.name).Nodup ∧ ∀ f ∈ m.fields, f.values.length ≤ 1 := by
  obtain ⟨typeName, heq⟩ := addMessage_eq serialize m
  have hfree : ∀ key ∈ (m.fields.flatMap (Field.elements serialize)).map Prod.fst,
      key ≠ "_type" ∧ key ≠ "_protobuf" := by
    intro key hkey
    obtain ⟨f, hf, rfl⟩ := List.mem_map.mp (mem_keys.mp hkey)
    exact hnames f (List.mem_filter.mp hf).1
  rw [heq, List.map_cons, List.map_cons, List.nodup_cons, List.nodup_cons, ← nodup_keys_iff]
  constructor
  · intro h
    exact h.2.2
  · intro h
    refine ⟨?_, fun hmem => (hfree _ hmem).2 rfl, h⟩
    rw [List.mem_cons, not_or]
    exact ⟨by simp, fun hmem => (hfree _ hmem).1 rfl⟩

/-- With distinct keys the element under a key is the one that has it. -/
theorem lookup_of_mem {d : Doc D} {key : String} {b : Bson D} (hnodup : (d.map Prod.fst).Nodup)
    (hmem : (key, b) ∈ d) : d.lookup key = some b := by
  obtain ⟨before, after, rfl⟩ := List.append_of_mem hmem
  rw [List.lookup_eq_some_iff]
  refine ⟨before, after, rfl, fun p hp => ?_⟩
  rw [List.map_append, List.map_cons, List.nodup_append'] at hnodup
  have hne : p.1 ≠ key := by
    intro heq
    exact hnodup.2.2 (List.mem_map_of_mem hp) (heq ▸ List.mem_cons_self ..)
  simpa using Ne.symm hne

theorem mem_addMessage_of_value {m : Message S D} {f : Field S D} {v : Value S D} (hf : f ∈ m.fields)
    (hv : v ∈ f.values) : (f.name, v.toBson serialize) ∈ addMessage serialize m [] := by
  obtain ⟨typeName, heq⟩ := addMessage_eq serialize m
  rw [heq]
  refine List.mem_cons_of_mem _ (List.mem_cons_of_mem _ ?_)
  exact List.mem_flatMap.mpr ⟨f, hf, mem_elements.mpr ⟨v, hv, rfl, rfl⟩⟩

theorem valuesUnder_of_value {m : Message S D} {f : Field S D} {v : Value S D}
    (hnodup : ((addMessage serialize m []).map Prod.fst).Nodup) (hf : f ∈ m.fields)
    (hv : v ∈ f.values) : valuesUnder (addMessage serialize m []) f.name = [v.toBson serialize] := by
  rw [valuesUnder, lookup_of_mem hnodup (mem_addMessage_of_value hf hv)]
  split
  · next items h =>
      rw [Option.some.injEq] at h
      exact absurd h (toBson_ne_array v items)
  · next h =>
      rw [Option.some.injEq] at h
      rw [h]
  · next h => cases h

/-! ## Over the tree of messages -/

theorem atMostOne_of_distinctKeys {m : Message S D} (hnames : NamesFree m)
    (h : DistinctKeys (addMessage serialize m [])) : AtMostOne m := by
  induction m using Message.induction with
  | h m ih =>
    obtain ⟨hfree, hsubs⟩ := hnames
    obtain ⟨hnodup, hobject, -⟩ := h
    obtain ⟨hset, hvalues⟩ := (nodup_addMessage_iff hfree).mp hnodup
    refine ⟨hset, hvalues, fun f hf sub hsub => ?_⟩
    apply ih f hf sub hsub (hsubs f hf sub hsub)
    exact hobject f.name _ (mem_addMessage_of_value hf hsub)

theorem distinctKeys_of_atMostOne {m : Message S D} (hnames : NamesFree m) (h : AtMostOne m) :
    DistinctKeys (addMessage serialize m []) := by
  induction m using Message.induction with
  | h m ih =>
    obtain ⟨hfree, hsubs⟩ := hnames
    obtain ⟨hset, hvalues, hmessages⟩ := h
    refine ⟨(nodup_addMessage_iff hfree).mpr ⟨hset, hvalues⟩, ?_, ?_⟩
    · intro key doc hmem
      obtain ⟨f, hf, v, hv, -, hdoc⟩ := mem_addMessage hmem nofun nofun
      obtain ⟨sub, rfl, rfl⟩ := toBson_eq_object hdoc
      exact ih f hf sub hv (hsubs f hf sub hv) (hmessages f hf sub hv)
    · intro key items doc hmem
      obtain ⟨f, hf, v, hv, -, hitems⟩ := mem_addMessage hmem nofun nofun
      exact absurd hitems (toBson_ne_array v items)

theorem readsBack_of_atMostOne {m : Message S D} (hnames : NamesFree m) (h : AtMostOne m) :
    ReadsBack m (addMessage serialize m []) := by
  induction m using Message.induction with
  | h m ih =>
    have hdistinct : DistinctKeys (addMessage serialize m []) := distinctKeys_of_atMostOne hnames h
    obtain ⟨hnodup, -, -⟩ := hdistinct
    obtain ⟨hfree, hsubs⟩ := hnames
    obtain ⟨hset, hvalues, hmessages⟩ := h
    -- a set field has one value, which is the one under its name
    have hone : ∀ f ∈ m.fields, ∀ v ∈ f.values, f.values = [v] ∧
        valuesUnder (addMessage serialize m []) f.name = [v.toBson serialize] := by
      intro f hf v hv
      refine ⟨?_, valuesUnder_of_value hnodup hf hv⟩
      obtain ⟨u, hu⟩ := List.length_eq_one_iff.mp
        (Nat.le_antisymm (hvalues f hf) (List.length_pos_of_mem hv))
      rw [hu, List.mem_singleton] at hv
      rw [hu, hv]
    refine ⟨fun f hf hfset => ?_, fun f hf sub doc hmem => ?_⟩
    · obtain ⟨v, hv⟩ := List.exists_mem_of_length_pos (Nat.pos_of_ne_zero (isSet_iff.mp hfset))
      obtain ⟨hvalues, hunder⟩ := hone f hf v hv
      rw [hvalues, hunder]
      exact .cons (readsAs_toBson v) .nil
    · have hsub : Value.message sub ∈ f.values := (List.of_mem_zip hmem).1
      obtain ⟨hvalues, hunder⟩ := hone f hf _ hsub
      rw [hvalues, hunder] at hmem
      cases List.mem_singleton.mp hmem
      exact ih f hf sub hsub (hsubs f hf sub hsub) (hmessages f hf sub hsub)

end

/-- **The document keeps every field** of a message if, and only if, no field has more than one
value. -/
theorem keepsEveryField_iff (serialize : Message S D → List UInt8) {m : Message S D}
    (hnames : NamesFree m) : KeepsEveryField serialize m ↔ AtMostOne m := by
  constructor
  · intro h
    exact atMostOne_of_distinctKeys hnames h.1
  · intro h
    exact ⟨distinctKeys_of_atMostOne hnames h, readsBack_of_atMostOne hnames h⟩

/-! ## Two messages -/

instance : FloatFormats Int Int where
  widen := id
  narrow := id
  narrow_widen _ := rfl

/-- A small nut. -/
def smallNut : Message Int Int :=
  .mk "atwork_pb_msgs.ObjectIdentifier" [.single "type" (some (.enum "M20")), .single "type_id" none,
    .single "instance_id" none, .single "description" none]

/-- Three of them. -/
def item : Message Int Int :=
  .mk "atwork_pb_msgs.Inventory.Item" [.single "object" (some (.message smallNut)),
    .single "quantity" (some (.primitive .uint64 (3 : UInt64))), .single "container" none,
    .single "location" none]

def inventory (items : List (Message Int Int)) : Message Int Int :=
  .mk "atwork_pb_msgs.Inventory" [.repeated "items" (items.map .message)]

/-- The wire format of these messages. -/
def wire : Message Int Int → List UInt8
  | .mk "atwork_pb_msgs.ObjectIdentifier" _ => [0x08, 6]
  | .mk "atwork_pb_msgs.Inventory.Item" _ => [0x0A, 2, 0x08, 6, 0x10, 3]
  | .mk _ fields => (fields.flatMap Field.values).flatMap fun _ => [0x0A, 6, 0x0A, 2, 0x08, 6, 0x10, 3]

theorem namesFree_smallNut : NamesFree smallNut := by
  constructor <;> simp [smallNut, Message.fields, Field.name, Field.values]

theorem namesFree_item : NamesFree item := by
  constructor
  · simp [item, Message.fields, Field.name]
  · simp [item, Message.fields, Field.values, namesFree_smallNut]

theorem namesFree_inventory {items : List (Message Int Int)} (h : ∀ m ∈ items, NamesFree m) :
    NamesFree (inventory items) := by
  constructor
  · simp [inventory, Message.fields, Field.name]
  · simpa [inventory, Message.fields, Field.values] using h

/-- An inventory with one item. -/
theorem keepsEveryField_of_oneItem : KeepsEveryField wire (inventory [item]) := by
  apply (keepsEveryField_iff wire (namesFree_inventory (by simp [namesFree_item]))).mpr
  have hnut : AtMostOne smallNut := by
    constructor <;> simp [smallNut, Message.fields, Field.name, Field.values, Field.isSet]
  have hitem : AtMostOne item := by
    constructor
    · simp [item, Message.fields, Field.name, Field.values, Field.isSet]
    · simp [item, Message.fields, Field.values]
    · simp [item, Message.fields, Field.values, hnut]
  constructor
  · simp [inventory, Message.fields, Field.name, Field.values, Field.isSet]
  · simp [inventory, Message.fields, Field.values]
  · simp [inventory, Message.fields, Field.values, hitem]

/-- With two items the document has the key `items` twice. -/
theorem not_keepsEveryField_of_twoItems :
    NamesFree (inventory [item, item]) ∧ ¬ KeepsEveryField wire (inventory [item, item]) := by
  refine ⟨namesFree_inventory (by simp [namesFree_item]), ?_⟩
  rintro ⟨⟨hnodup, -, -⟩, -⟩
  have hkeys : (addMessage wire (inventory [item, item]) []).map Prod.fst =
      ["_type", "_protobuf", "items", "items"] := rfl
  rw [hkeys] at hnodup
  simp at hnodup

end FactoryHub.MongoLog
