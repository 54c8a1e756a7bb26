import Mathlib.Algebra.Ring.Int.Defs
import Mathlib.Algebra.Ring.Nat
import FactoryHub.Lib.Handles

/-!
# Messages for CLIPS

The functions of `communicator.cpp` of protobuf_clips by which rules make messages, read and set their
fields, and send them. A rule holds a message by a handle, the address of a `shared_ptr` on the heap;
that of an unknown type is empty. Misuse that makes protobuf fail fatally has no result either. Floats
that are no integers, and fields of type double and bytes and of the other sizes of integers, are left
out.

* `builds_clipsPbCreate` — what makes a message.
* `fills_setField`, `fills_setMessage`, `fills_addMessage` — what setting a field does to the message,
  and to the handle of the value.
* `endsIn_sendTo` — what is made, sent and destroyed.
-/

namespace FactoryHub.Comm.Pb

open Lib Handles

/-! ## Types -/

inductive FieldType where
  | int64 | uint64 | uint32 | bool | float | string
  | enum (values : List String)
  | message (type : String)
  deriving DecidableEq, Repr

structure FieldDescriptor where
  name : String
  type : FieldType
  isRepeated : Bool := false
  deriving DecidableEq, Repr

/-- The fields of the message types that are registered, by the full names of the types. -/
abbrev Types := String → Option (List FieldDescriptor)

/-- `FindFieldByName`. -/
def Types.findFieldByName (types : Types) (type name : String) : Option FieldDescriptor :=
  (types type).bind fun fields => fields.find? fun field => field.name = name

/-! ## Messages -/

inductive FieldValue where
  | integer (i : Int)
  | bool (b : Bool)
  /-- The float nearest to an integer. -/
  | float (i : Int)
  | string (s : String)
  | enum (name : String)
  | message (type : String) (fields : List (String × FieldValue))
  deriving Repr

/-- An integer as a `long`. -/
def long (i : Int) : Int := i.bmod (2 ^ 64)

/-- An integer as an unsigned one of 64 bits. -/
def ulong (i : Int) : Int := i % 2 ^ 64

/-- An integer as an unsigned one of 32 bits. -/
def uint (i : Int) : Int := i % 2 ^ 32

namespace FieldValue

def long? : FieldValue → Option Int
  | .integer i => some (long i)
  | _ => none

def string? : FieldValue → Option String
  | .string s => some s
  | _ => none

def enum? : FieldValue → Option String
  | .enum name => some name
  | _ => none

end FieldValue

/-- A message. A field that is repeated has an entry for each of its values. -/
structure PbMessage where
  type : String
  fields : List (String × FieldValue) := []
  deriving Repr

namespace PbMessage

def toValue (m : PbMessage) : FieldValue := .message m.type m.fields

/-- The value of a field that is not repeated, if it is set. -/
def find (m : PbMessage) (name : String) : Option FieldValue := m.fields.lookup name

/-- The values of a field. -/
def findAll (m : PbMessage) (name : String) : List FieldValue :=
  (m.fields.filter fun entry => entry.1 = name).map Prod.snd

/-- The message that is the value of a field, or the default instance of its type. -/
def child (m : PbMessage) (name type : String) : PbMessage :=
  match m.find name with
  | some (.message type fields) => { type, fields }
  | _ => { type }

def set (name : String) (value : FieldValue) (m : PbMessage) : PbMessage :=
  { m with
    fields :=
      if (m.find name).isSome then
        m.fields.map fun entry => if entry.1 = name then (name, value) else entry
      else m.fields ++ [(name, value)] }

def add (name : String) (value : FieldValue) (m : PbMessage) : PbMessage :=
  { m with fields := m.fields ++ [(name, value)] }

def addAll (name : String) (values : List FieldValue) (m : PbMessage) : PbMessage :=
  { m with fields := m.fields ++ values.map fun value => (name, value) }

/-- A field that is set if there is a value. -/
def setOption (name : String) (value : Option FieldValue) (m : PbMessage) : PbMessage :=
  { m with fields := (value.map fun value => (m.set name value).fields).getD m.fields }

section

variable {m : PbMessage} {name name' : String} {value : FieldValue}

@[simp] theorem setOption_some : m.setOption name (some value) = m.set name value := rfl

@[simp] theorem setOption_none : m.setOption name none = m := rfl

@[simp] theorem child_mk (type : String) (name type' : String) :
    child { type } name type' = { type := type' } := rfl

theorem lookup_map_set (fields : List (String × FieldValue)) :
    (fields.map fun entry => if entry.1 = name then (name, value) else entry).lookup name' =
      if name = name' ∧ (fields.lookup name).isSome then some value else fields.lookup name' := by
  induction fields with
  | nil => simp
  | cons entry fields ih =>
      obtain ⟨key, old⟩ := entry
      by_cases hkey : key = name
      · subst hkey
        by_cases hname : key = name'
        · simp [hname]
        · have hne : (name' == key) = false := by simpa using Ne.symm hname
          simp [List.lookup_cons, hne, hname, ih]
      · have hne : (name == key) = false := by simpa using Ne.symm hkey
        have hlookup : ((key, old) :: fields).lookup name = fields.lookup name := by
          rw [List.lookup_cons, hne]
        rw [hlookup]
        by_cases hname : name' = key
        · simp [hkey, hname, Ne.symm hkey]
        · have hne' : (name' == key) = false := by simpa using hname
          simp [List.lookup_cons, hkey, hne', ih]

/-- What was set is found, and the other fields are as before. -/
theorem find_set :
    (m.set name value).find name' = if name = name' then some value else m.find name' := by
  by_cases h : (m.find name).isSome = true
  · simp only [find] at h
    simp [set, find, lookup_map_set, h]
  · have hnone : m.fields.lookup name = none := Option.not_isSome_iff_eq_none.mp h
    by_cases heq : name = name'
    · subst heq
      simp [set, find, List.lookup_append, hnone]
    · have hne : (name' == name) = false := by simpa using Ne.symm heq
      simp [set, find, List.lookup_append, List.lookup_cons, hnone, hne, heq]

theorem find_setOption {value : Option FieldValue} :
    (m.setOption name value).find name' =
      if name = name' then value.or (m.find name') else m.find name' := by
  cases value with
  | none => simp
  | some value => simp [find_set]

@[simp] theorem findAll_addAll (type : String) (values : List FieldValue) :
    findAll (addAll name values { type }) name = values := by
  simp [findAll, addAll, List.filter_map, Function.comp_def]

@[simp] theorem find_mk (type : String) (name : String) : find { type } name = none := rfl

end

/-! ### Reading the value of a field -/

def ofValue : FieldValue → Option PbMessage
  | .message type fields => some { type, fields }
  | _ => none

/-- An integer field, as a `long`. -/
def readLong (m : PbMessage) (name : String) : Option Int := (m.find name).bind FieldValue.long?

def readString (m : PbMessage) (name : String) : Option String :=
  (m.find name).bind FieldValue.string?

def readEnum (m : PbMessage) (name : String) : Option String := (m.find name).bind FieldValue.enum?

def readMessage (m : PbMessage) (name : String) : Option PbMessage := (m.find name).bind ofValue

@[simp] theorem ofValue_toValue (m : PbMessage) : ofValue m.toValue = some m := rfl

end PbMessage

/-! ## Values -/

/-- `CLIPS::Value`. Integers are those of type `long`. -/
inductive Value where
  | integer (i : Int)
  | float (i : Int)
  | string (s : String)
  | symbol (s : String)
  | address (handle : ℕ)
  deriving DecidableEq, Repr

/-- What is set for a value of a type that is no message. A value of another type makes a conversion
throw, which is caught, and so does not set anything. -/
def FieldType.ofValue : FieldType → Value → Option FieldValue
  | .int64, .integer i => some (.integer (long i))
  | .uint64, .integer i => some (.integer (ulong i))
  | .uint32, .integer i => some (.integer (uint i))
  | .bool, .string s | .bool, .symbol s => some (.bool (s = "TRUE"))
  | .float, .integer i => some (.float i)
  | .string, .string s | .string, .symbol s => some (.string s)
  | .enum values, .string s | .enum values, .symbol s =>
      -- an unknown name is not set
      if s ∈ values then some (.enum s) else none
  | _, _ => none

@[simp] theorem FieldType.ofValue_message (type : String) (value : Value) :
    (FieldType.message type).ofValue value = none := by
  cases value <;> rfl

/-- What is read of a field that is no message. -/
def FieldType.toValue : FieldType → FieldValue → Value
  | .uint64, .integer i => .integer (long i)
  | _, .integer i => .integer i
  | _, .bool b => .integer (if b then 1 else 0)
  | _, .float i => .float i
  | _, .string s => .string s
  | _, .enum name => .symbol name
  | _, .message .. => .symbol "UNKNOWN"

/-! ## Functions for CLIPS -/

/-- Programs over the handles of messages. -/
abbrev Program (α : Type) := HandleProgram (Option PbMessage) α

section

variable (types : Types)

/-- `clips_pb_create`. -/
def clipsPbCreate (fullName : String) : Program ℕ :=
  HandleProgram.new ((types fullName).map fun _ => { type := fullName })

/-- `clips_pb_destroy`. The handle of an empty pointer stays. -/
def clipsPbDestroy (handle : ℕ) : Program Unit := do
  match ← HandleProgram.read handle with
  | some _ => HandleProgram.delete handle
  | none => return ()

/-- `clips_pb_has_field`. -/
def clipsPbHasField (handle : ℕ) (name : String) : Program Bool := do
  match ← HandleProgram.read handle with
  | none => return false
  | some m => return (types.findFieldByName m.type name).isSome && (m.find name).isSome

/-- `clips_pb_field_value`. -/
def clipsPbFieldValue (handle : ℕ) (name : String) : Program Value := do
  match ← HandleProgram.read handle with
  | none => return .symbol "INVALID-MESSAGE"
  | some m =>
      match types.findFieldByName m.type name with
      | none => return .symbol "DOES-NOT-EXIST"
      | some field =>
          if field.isRepeated then failure
          else match field.type, m.find name with
            -- a copy
            | .message type, _ =>
                return .address (← HandleProgram.new (some (m.child name type)))
            | _, none => return .symbol "NOT-SET"
            | type, some value => return type.toValue value

/-- The part of `clips_pb_set_field` and `clips_pb_add_list` that is the same: the value is put into
the message, and the handle of a message that is the value is deleted. -/
def putField (isList : Bool) (handle : ℕ) (name : String) (value : Value) : Program Unit := do
  match ← HandleProgram.read handle with
  | none => return ()
  | some m =>
      match types.findFieldByName m.type name with
      | none => return ()
      | some field =>
          let put := if isList then PbMessage.add name else PbMessage.set name
          if field.isRepeated ≠ isList then failure
          else match field.type, value with
            | .message type, .address «from» =>
                match ← HandleProgram.read «from» with
                | none => failure
                | some mfrom =>
                    if mfrom.type ≠ type then failure
                    else
                      HandleProgram.write handle (some (put mfrom.toValue m))
                      HandleProgram.delete «from»
            | .message _, _ => return ()
            | type, value =>
                match type.ofValue value with
                | some value => HandleProgram.write handle (some (put value m))
                | none => return ()

/-- `clips_pb_set_field`. -/
def clipsPbSetField (handle : ℕ) (name : String) (value : Value) : Program Unit :=
  putField types false handle name value

/-- `clips_pb_add_list`. -/
def clipsPbAddList (handle : ℕ) (name : String) (value : Value) : Program Unit :=
  putField types true handle name value

/-- `clips_pb_field_list`. -/
def clipsPbFieldList (handle : ℕ) (name : String) : Program (List Value) := do
  match ← HandleProgram.read handle with
  | none => return [.symbol "INVALID-MESSAGE"]
  | some m =>
      match types.findFieldByName m.type name with
      | none => return [.symbol "DOES-NOT-EXIST"]
      | some field =>
          if field.isRepeated then
            (m.findAll name).mapM fun value =>
              match value with
              | .message type fields =>
                  return .address (← HandleProgram.new (some { type, fields }))
              | value => return field.type.toValue value
          else return [← clipsPbFieldValue types handle name]

/-- `clips_pb_send` and `clips_pb_broadcast`: the message that goes to a client or a peer. -/
def clipsPbSend (id : ℕ) (handle : ℕ) : Program (Option (ℕ × PbMessage)) := do
  return (← HandleProgram.read handle).map fun m => (id, m)

end

/-! ## Building messages -/

section

variable {types : Types} {P : Handles (Option PbMessage) → Prop} {m m₁ m₁' m' sub : PbMessage}
  {name : String} {field : FieldDescriptor} {isList : Bool}

theorem builds_clipsPbCreate {fullName : String} (h : (types fullName).isSome = true) :
    Builds P (clipsPbCreate types fullName) (some { type := fullName }) := by
  obtain ⟨fields, hfields⟩ := Option.isSome_iff_exists.mp h
  simpa [clipsPbCreate, hfields] using builds_new (P := P) (some { type := fullName : PbMessage })

/-- A field that is no message. -/
theorem fills_putField {value : Value} {v : FieldValue}
    (hfield : types.findFieldByName m.type name = some field) (hlist : field.isRepeated = isList)
    (hvalue : field.type.ofValue value = some v) :
    Fills (fun h => putField types isList h name value) (some m)
      (some ((if isList then PbMessage.add name else PbMessage.set name) v m)) := by
  intro H₀ h
  unfold putField
  apply EndsIn.bind_read fun H hH => hH.object_eq
  simp only [hfield, hlist, ne_eq, not_true_eq_false, if_false]
  split
  · next htype => simp [htype] at hvalue
  · next htype _ => simp [htype] at hvalue
  · simp only [hvalue]
    exact EndsIn.write (fun H hH => hH.object_eq) fun H hH => hH.put

/-- A field that is a message: it is copied, and its handle is deleted. -/
theorem consumes_putField (hfield : types.findFieldByName m.type name = some field)
    (hlist : field.isRepeated = isList) (htype : field.type = .message m₁.type) :
    Consumes (fun h h' => putField types isList h name (.address h')) (some m) (some m₁)
      (some ((if isList then PbMessage.add name else PbMessage.set name) m₁.toValue m)) := by
  intro H₀ H₁ h h' hown
  unfold putField
  apply EndsIn.bind_read (m := some m)
  · intro H hH
    rw [hH.object_of_lt hown.lt_next, hown.object_eq]
  simp only [hfield, hlist, htype, ne_eq, not_true_eq_false, if_false]
  apply EndsIn.bind_read fun H hH => hH.object_eq
  simp only [not_true_eq_false, if_false]
  exact endsIn_write_delete hown

/-- A copy of a message that is a field. -/
theorem endsIn_fieldValue_message {H₀ : Handles (Option PbMessage)} {h : ℕ} {type : String}
    (hm : H₀.object h = some (some m)) (hfield : types.findFieldByName m.type name = some field)
    (hlist : field.isRepeated = false) (htype : field.type = .message type) :
    EndsIn (fun H => H = H₀) (clipsPbFieldValue types h name) fun value H =>
      ∃ h', value = .address h' ∧ H₀.Owns h' (some (m.child name type)) H := by
  unfold clipsPbFieldValue
  apply EndsIn.bind_read (m := some m)
  · rintro H rfl
    exact hm
  simp only [hfield, hlist, htype, Bool.false_eq_true, if_false]
  refine (builds_new (P := fun _ => True) _ H₀ trivial).bind fun h' => ?_
  exact .pure fun H hH => ⟨h', rfl, hH⟩

/-- What is done with a copy of a field of the message that is built. -/
theorem fills_fieldValue_message {c : ℕ → Value → Program Unit} {type : String}
    (hfield : types.findFieldByName m.type name = some field) (hlist : field.isRepeated = false)
    (htype : field.type = .message type)
    (hc : Consumes (fun h h' => c h (.address h')) (some m) (some (m.child name type)) (some m')) :
    Fills (fun h => do c h (← clipsPbFieldValue types h name)) (some m) (some m') := by
  intro H₀ h H hown
  have hread := endsIn_fieldValue_message hown.object_eq hfield hlist htype
  refine (hread.bind fun value => ?_) H rfl
  rintro H' ⟨h', rfl, hown'⟩
  exact hc H₀ H h h' hown H' hown'

/-! ### By the name of the type -/

variable {type : String} {ft : FieldType} {x : Program ℕ}

theorem fills_setField {value : Value} {v : FieldValue} (hm : m.type = type)
    (hfield : types.findFieldByName type name = some ⟨name, ft, false⟩)
    (hvalue : ft.ofValue value = some v) :
    Fills (fun h => clipsPbSetField types h name value) (some m) (some (m.set name v)) :=
  fills_putField (hm ▸ hfield) rfl hvalue

theorem fills_addField {value : Value} {v : FieldValue} (hm : m.type = type)
    (hfield : types.findFieldByName type name = some ⟨name, ft, true⟩)
    (hvalue : ft.ofValue value = some v) :
    Fills (fun h => clipsPbAddList types h name value) (some m) (some (m.add name v)) :=
  fills_putField (hm ▸ hfield) rfl hvalue

/-- A field that is a message, made for it. -/
theorem fills_setMessage (hm : m.type = type)
    (hfield : types.findFieldByName type name = some ⟨name, .message m₁.type, false⟩)
    (hx : ∀ P, Builds P x (some m₁)) :
    Fills (fun h => do clipsPbSetField types h name (.address (← x))) (some m)
      (some (m.set name m₁.toValue)) :=
  Fills.consume (fun _ => hx _) (consumes_putField (hm ▸ hfield) rfl rfl)

/-- The same at the beginning of the rest of a program. -/
theorem finishes_setMessage {h : ℕ} {k : Program ℕ} {r : Option PbMessage} (hm : m.type = type)
    (hfield : types.findFieldByName type name = some ⟨name, .message m₁.type, false⟩)
    (hx : ∀ P, Builds P x (some m₁)) (hk : Finishes h (some (m.set name m₁.toValue)) k r) :
    Finishes h (some m)
      (x >>= fun h' => clipsPbSetField types h name (.address h') >>= fun _ => k) r :=
  Consumes.finish (hx _) (consumes_putField (hm ▸ hfield) rfl rfl) hk

theorem fills_addMessage (hm : m.type = type)
    (hfield : types.findFieldByName type name = some ⟨name, .message m₁.type, true⟩)
    (hx : ∀ P, Builds P x (some m₁)) :
    Fills (fun h => do clipsPbAddList types h name (.address (← x))) (some m)
      (some (m.add name m₁.toValue)) :=
  Fills.consume (fun _ => hx _) (consumes_putField (hm ▸ hfield) rfl rfl)

/-- A field that is set if there is a value. -/
theorem fills_option {α : Type} {o : Option α} {f : α → ℕ → Program Unit} {v : α → FieldValue}
    (hf : ∀ a, Fills (f a) (some m) (some (m.set name (v a)))) :
    Fills (fun h => o.forM fun a => f a h) (some m) (some (m.setOption name (o.map v))) := by
  cases o with
  | none => exact Fills.skip _
  | some a => exact hf a

/-- A list of messages, each made for it. -/
theorem fills_addMessages {ι : Type} {x : ι → Program ℕ} {sub : String} (message : ι → PbMessage)
    (l : List ι) (hm : m.type = type)
    (hfield : types.findFieldByName type name = some ⟨name, .message sub, true⟩)
    (hsub : ∀ i, (message i).type = sub) (hx : ∀ i P, Builds P (x i) (some (message i))) :
    Fills (fun h => l.forM fun i => do clipsPbAddList types h name (.address (← x i))) (some m)
      (some (m.addAll name (l.map fun i => (message i).toValue))) := by
  induction l generalizing m with
  | nil => simpa [PbMessage.addAll] using Fills.skip (some m)
  | cons i l ih =>
      have hadd : Fills (fun h => do clipsPbAddList types h name (.address (← x i))) (some m)
          (some (m.add name (message i).toValue)) :=
        fills_addMessage hm (by rw [hsub, hfield]) (hx i)
      have hrest := ih (m := m.add name (message i).toValue) hm
      simpa [PbMessage.add, PbMessage.addAll] using hadd.seq hrest

/-- A list of values that are no messages. -/
theorem fills_addFields {ι : Type} {value : ι → Value} {v : ι → FieldValue} (l : List ι)
    (hm : m.type = type) (hfield : types.findFieldByName type name = some ⟨name, ft, true⟩)
    (hvalue : ∀ i, ft.ofValue (value i) = some (v i)) :
    Fills (fun h => l.forM fun i => clipsPbAddList types h name (value i)) (some m)
      (some (m.addAll name (l.map v))) := by
  induction l generalizing m with
  | nil => simpa [PbMessage.addAll] using Fills.skip (some m)
  | cons i l ih =>
      have hadd : Fills (fun h => clipsPbAddList types h name (value i)) (some m)
          (some (m.add name (v i))) :=
        fills_addField hm hfield (hvalue i)
      have hrest := ih (m := m.add name (v i)) hm
      simpa [PbMessage.add, PbMessage.addAll] using hadd.seq hrest

/-! ## Sending messages -/

/-- The message goes to each of the clients, and is deleted. -/
def sendTo (x : Program ℕ) (ids : List ℕ) : Program (List (Option (ℕ × PbMessage))) := do
  let handle ← x
  let sent ← ids.mapM fun id => clipsPbSend id handle
  clipsPbDestroy handle
  return sent

/-- Each client gets the message, and no handle stays. -/
theorem endsIn_sendTo {x : Program ℕ} {H₀ : Handles (Option PbMessage)} (hx : Builds P x (some m))
    (h₀ : P H₀) (ids : List ℕ) :
    EndsIn (fun H => H = H₀) (sendTo x ids) fun sent H =>
      sent = ids.map (fun id => some (id, m)) ∧ Grows [] H₀ H := by
  refine (hx H₀ h₀).bind fun h => ?_
  apply EndsIn.bind_eq (S := H₀.Owns h (some m))
  · apply EndsIn.mapM
    intro id
    unfold clipsPbSend
    apply EndsIn.bind_read (m := some m) fun H hH => hH.object_eq
    exact .pure fun H hH => ⟨rfl, hH⟩
  · have hdestroy : EndsIn (H₀.Owns h (some m)) (clipsPbDestroy h) fun _ => Grows [] H₀ := by
      apply EndsIn.bind_read (m := some m) fun H hH => hH.object_eq
      exact EndsIn.delete (m := some m) (fun H hH => hH.object_eq) fun H hH => hH.grows_drop
    exact hdestroy.bind fun _ => .pure fun H hH => ⟨rfl, hH⟩

/-! ## Reading messages -/

/-- The copies that a look at a field makes: a field that is a message gets a handle of its own. -/
def Types.copies (types : Types) (m : PbMessage) (name : String) : List (Option PbMessage) :=
  match (types.findFieldByName m.type name).map FieldDescriptor.type with
  | some (.message type) => [some (m.child name type)]
  | _ => []

/-- A look at a field, be it set or not. -/
theorem leaks_fieldValue {h : ℕ} (hm : ∀ H, P H → H.object h = some (some m))
    (hlist : ∀ field ∈ types.findFieldByName m.type name, field.isRepeated = false) :
    Leaks P (clipsPbFieldValue types h name) (types.copies m name) := by
  apply Leaks.bind_read hm
  cases hfield : types.findFieldByName m.type name with
  | none => simpa [Types.copies, hfield] using Leaks.pure _
  | some field =>
      simp only [hlist field hfield, Bool.false_eq_true, if_false, Types.copies, hfield]
      obtain ⟨_, type, _⟩ := field
      cases type with
      | message type => exact Leaks.bind_return (builds_new _).leaks
      | _ => cases m.find name <;> exact Leaks.pure _

/-- A look at a field that is a message: the rest starts with a handle on it. -/
theorem leaks_fieldValue_message {h : ℕ} {type : String} (hP : ∀ H, P H → H.object h = some (some m))
    (hfield : types.findFieldByName m.type name = some field) (hlist : field.isRepeated = false)
    (htype : field.type = .message type) :
    LeaksTo P (clipsPbFieldValue types h name) [some (m.child name type)] fun value H =>
      ∃ h', value = .address h' ∧ H.object h' = some (some (m.child name type)) := by
  intro H₀ h₀
  refine (endsIn_fieldValue_message (hP H₀ h₀) hfield hlist htype).mono (fun _ h => h) ?_
  rintro value H ⟨h', rfl, hown⟩
  exact ⟨hown.grows, h', rfl, hown.object_eq⟩

theorem leaks_hasField {h : ℕ} (hm : ∀ H, P H → H.object h = some (some m)) :
    Leaks P (clipsPbHasField types h name) [] :=
  Leaks.bind_read hm (Leaks.pure _)

/-- A list of messages: each gets a handle. -/
theorem leaks_fieldList {h : ℕ} {l : List PbMessage} {type : String}
    (hm : ∀ H, P H → H.object h = some (some m))
    (hfield : types.findFieldByName m.type name = some ⟨name, .message type, true⟩)
    (hall : m.findAll name = l.map PbMessage.toValue) (htype : ∀ sub ∈ l, sub.type = type) :
    LeaksTo P (clipsPbFieldList types h name) (l.map some) fun values H =>
      ∀ value ∈ values, ∃ h' sub, value = .address h' ∧ H.object h' = some (some sub) ∧
        sub.type = type := by
  intro H₀ h₀
  unfold clipsPbFieldList
  apply EndsIn.bind_read (m := some m)
  · rintro H rfl
    exact hm H h₀
  simp only [hfield, hall, if_true, List.mapM_map]
  have hnew : ∀ sub ∈ l, LeaksTo (fun _ => True)
      (do return Value.address (← HandleProgram.new (some sub))) [some sub]
      fun value H => ∃ h' sub, value = .address h' ∧ H.object h' = some (some sub) ∧
        sub.type = type := by
    intro sub hsub H₁ _
    refine ((builds_new (P := fun _ => True) (some sub)).leaks H₁ trivial).bind fun h' => .pure ?_
    rintro H ⟨hgrows, hobject⟩
    exact ⟨hgrows, h', sub, rfl, hobject, htype sub hsub⟩
  have hmapM := LeaksTo.mapM stable_true ?_ (fun sub => [some sub]) l hnew H₀ trivial
  · rwa [← List.map_eq_flatMap] at hmapM
  · rintro _ H H' n hgrows ⟨h', sub, rfl, hobject, hsub⟩
    exact ⟨h', sub, rfl, hgrows.object_eq hobject, hsub⟩

end

end FactoryHub.Comm.Pb
