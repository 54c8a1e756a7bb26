import FactoryHub.Comm.Frame
import FactoryHub.Lib.Run
import FactoryHub.Lib.Triple
import FactoryHub.Lib.TwoWay

/-!
# The two indexes of the message register

`MessageRegister` finds messages by component ID and message type, and by the name of their type. The
same type may be registered under several keys; `remove_message_type` takes the name out with the first
of them that is removed.

* `Register.step_agree_iff` — what one call does to the indexes.
* `Register.indexesAgree_iff` — when the indexes agree throughout a sequence of calls.
-/

namespace FactoryHub.Comm

open Lib

/-! ## Descriptors -/

/-- An `EnumDescriptor`: names and numbers of its values. -/
structure EnumDescriptor where
  values : List (String × Int)
  deriving DecidableEq, Repr

/-- `FindValueByName`. -/
def EnumDescriptor.findValueByName (d : EnumDescriptor) (name : String) : Option Int :=
  d.values.lookup name

/-- A message `Descriptor`: its full name, and the enums nested in it. -/
structure Descriptor where
  fullName : String
  enumTypes : List (String × EnumDescriptor)
  deriving DecidableEq, Repr

/-- `FindEnumTypeByName`. -/
def Descriptor.findEnumTypeByName (d : Descriptor) (name : String) : Option EnumDescriptor :=
  d.enumTypes.lookup name

/-- A message to make others of the same type from. -/
structure Prototype where
  descriptor : Descriptor
  deriving DecidableEq, Repr

/-- `GetTypeName`. -/
def Prototype.typeName (m : Prototype) : String := m.descriptor.fullName

abbrev KeyType := UInt16 × UInt16

/-- `key_from_desc`. -/
def keyFromDesc (desc : Descriptor) : Except String KeyType :=
  match desc.findEnumTypeByName "CompType" with
  | none => .error "Message does not have CompType enum"
  | some enumdesc =>
      match enumdesc.findValueByName "COMP_ID", enumdesc.findValueByName "MSG_TYPE" with
      | some compId, some msgType =>
          if compId < 0 ∨ compId > 65535 then .error "Message has invalid COMP_ID"
          else if msgType < 0 ∨ msgType > 65535 then .error "Message has invalid MSG_TYPE"
          else .ok (UInt16.ofNat compId.toNat, UInt16.ofNat msgType.toNat)
      | _, _ => .error "Message CompType enum hs no COMP_ID or MSG_TYPE value"

/-- The descriptors of the generated pool, and of the pool of the importer if there is one. -/
structure Pools where
  generatedPool : String → Option Descriptor
  importerPool : Option (String → Option Descriptor)

/-- `create_msg`. -/
def Pools.createMsg (pools : Pools) (msgType : String) : Option Prototype :=
  match pools.generatedPool msgType with
  | some desc => some ⟨desc⟩
  | none => pools.importerPool.bind fun pool => (pool msgType).map Prototype.mk

/-! ## The register -/

/-- The register with both maps. -/
structure Register extends MessageRegister Prototype where
  messageByTypename : String → Option Prototype

namespace Register

/-- The register after its first constructor. -/
def empty : Register := { messageByCompType := fun _ => none, messageByTypename := fun _ => none }

/-- A call, which throws or goes through with what it did to the register. -/
abbrev Call := ExceptT String (StateM Register) Unit

/-- Throw if there is a message under the key. -/
def checkKey (key : KeyType) : Call := do
  if ((← get).messageByCompType key).isSome then
    throw ("Message type " ++ toString key.1.toNat ++ ":" ++ toString key.2.toNat ++
      " already registered")

/-- The assignments to the two maps. -/
def register (key : KeyType) (m : Prototype) : Call := do
  modify fun r => { r with messageByCompType := Function.update r.messageByCompType key (some m) }
  modify fun r =>
    { r with messageByTypename := Function.update r.messageByTypename m.typeName (some m) }

/-- `add_message_type` by name. -/
def addMessageTypeByName (pools : Pools) (msgType : String) : Call := do
  match pools.createMsg msgType with
  | some m =>
      let key ← liftExcept (keyFromDesc m.descriptor)
      checkKey key
      register key m
  | none => throw "Unknown message type"

/-- `add_message_type` of a type, with component ID and message type. -/
def addMessageTypeAs (m : Prototype) (componentId msgType : UInt16) : Call := do
  checkKey (componentId, msgType)
  register (componentId, msgType) m

/-- `add_message_type` of a type. -/
def addMessageType (m : Prototype) : Call := do
  let key ← liftExcept (keyFromDesc m.descriptor)
  checkKey key
  register key m

/-- `remove_message_type`. -/
def removeMessageType (componentId msgType : UInt16) : Call := do
  match (← get).messageByCompType (componentId, msgType) with
  | some m =>
      modify fun r =>
        { r with messageByTypename := Function.update r.messageByTypename m.typeName none }
      modify fun r =>
        { r with messageByCompType := Function.update r.messageByCompType (componentId, msgType) none }
  | none => pure ()

end Register

/-- The calls that change the register. -/
inductive RegisterCall where
  | addMessageTypeByName (msgType : String)
  | addMessageTypeAs (m : Prototype) (componentId msgType : UInt16)
  | addMessageType (m : Prototype)
  | removeMessageType (componentId msgType : UInt16)
  deriving DecidableEq, Repr

def RegisterCall.call (pools : Pools) : RegisterCall → Register.Call
  | .addMessageTypeByName msgType => Register.addMessageTypeByName pools msgType
  | .addMessageTypeAs m componentId msgType => Register.addMessageTypeAs m componentId msgType
  | .addMessageType m => Register.addMessageType m
  | .removeMessageType componentId msgType => Register.removeMessageType componentId msgType

/-- The call is one of `add_message_type`. -/
def RegisterCall.isAdd : RegisterCall → Bool
  | .removeMessageType .. => false
  | _ => true

namespace Register

/-- What a call comes to, and the register after it, thrown or not. -/
def outcome (pools : Pools) (r : Register) (c : RegisterCall) : Except String Unit × Register :=
  (c.call pools).run r

/-- A type name is in the one map iff a key of the other one has a message of that type. -/
def Agree (r : Register) : Prop :=
  Indexes r.messageByCompType Prototype.typeName r.messageByTypename

/-- What is removed is registered under no other key. -/
def OnlyKey (r : Register) : RegisterCall → Prop
  | .removeMessageType componentId msgType =>
      ∀ m, r.messageByCompType (componentId, msgType) = some m →
        ∀ key m', key ≠ (componentId, msgType) → r.messageByCompType key = some m' →
          m'.typeName ≠ m.typeName
  | _ => True

/-- The calls keep the maps in agreement, and where adding fails both stay as they were. -/
structure IndexesAgree (pools : Pools) (tr : List (Step Register RegisterCall)) : Prop where
  agree : ∀ t ∈ tr, t.post.Agree
  failed : ∀ t ∈ tr, t.label.isAdd = true → ∀ msg,
    (t.pre.outcome pools t.label).1 = .error msg → t.post = t.pre

/-! ## One call -/

section

variable {pools : Pools} {r : Register} {c : RegisterCall}

/-- The register with one more message. -/
def registered (key : KeyType) (m : Prototype) (r : Register) : Register where
  messageByCompType := Function.update r.messageByCompType key (some m)
  messageByTypename := Function.update r.messageByTypename m.typeName (some m)

/-- An added message has a new key, or nothing happens. -/
inductive Added (r : Register) : Except String Unit × Register → Prop
  | failed (msg : String) : Added r (.error msg, r)
  | added (key : KeyType) (m : Prototype) (hnew : r.messageByCompType key = none) :
      Added r (.ok (), r.registered key m)

theorem run_checkKey (key : KeyType) : (checkKey key).run.run r =
    if (r.messageByCompType key).isSome then
      (.error ("Message type " ++ toString key.1.toNat ++ ":" ++ toString key.2.toNat ++
        " already registered"), r)
    else (.ok (), r) := by
  show (if (r.messageByCompType key).isSome then throw _ else pure () : Call).run.run r = _
  split
  · rfl
  · rfl

theorem added_checkKey_register (key : KeyType) (m : Prototype) :
    Added r ((checkKey key >>= fun _ => register key m).run r) := by
  show Added r ((checkKey key >>= fun _ => register key m).run.run r)
  have hcheck := run_checkKey (r := r) key
  cases hkey : r.messageByCompType key with
  | none =>
      rw [hkey, Option.isSome_none, if_neg Bool.false_ne_true] at hcheck
      rw [run_except_bind, hcheck]
      exact .added key m hkey
  | some old =>
      rw [hkey, Option.isSome_some, if_pos rfl] at hcheck
      rw [run_except_bind, hcheck]
      exact .failed _

/-- Adding fails before it changes anything. -/
theorem added_outcome (hadd : c.isAdd = true) : Added r (r.outcome pools c) := by
  have hdesc : ∀ m : Prototype, Added r ((do
      let key ← liftExcept (keyFromDesc m.descriptor)
      checkKey key
      register key m : Call).run r) := by
    intro m
    cases hkey : keyFromDesc m.descriptor with
    | error msg => exact .failed msg
    | ok key => exact added_checkKey_register key m
  cases c with
  | addMessageTypeByName msgType =>
      unfold outcome RegisterCall.call addMessageTypeByName
      dsimp only
      cases pools.createMsg msgType with
      | none => exact .failed _
      | some m => exact hdesc m
  | addMessageTypeAs m componentId msgType => exact added_checkKey_register _ m
  | addMessageType m => exact hdesc m
  | removeMessageType componentId msgType => cases hadd

/-- Removing never throws. -/
theorem outcome_remove (componentId msgType : UInt16) :
    (r.outcome pools (.removeMessageType componentId msgType)).2 =
      match r.messageByCompType (componentId, msgType) with
      | some m =>
          { messageByCompType := Function.update r.messageByCompType (componentId, msgType) none
            messageByTypename := Function.update r.messageByTypename m.typeName none }
      | none => r := by
  show ((match r.messageByCompType (componentId, msgType) with
    | some m => _
    | none => pure () : Call).run r).2 = _
  cases r.messageByCompType (componentId, msgType) with
  | some m => rfl
  | none => rfl

/-- What is added agrees with maps that agree. -/
theorem Added.agree {result : Except String Unit × Register} (h : Added r result) (hr : r.Agree) :
    result.2.Agree := by
  cases h with
  | failed msg => exact hr
  | added key m hnew => exact hr.insert hnew m m

/-- From maps that agree, a call leads to maps that agree iff it does not remove one of several keys of
a type. -/
theorem agree_outcome_iff (hr : r.Agree) : (r.outcome pools c).2.Agree ↔ r.OnlyKey c := by
  cases c with
  | removeMessageType componentId msgType =>
      rw [outcome_remove, OnlyKey]
      cases hkey : r.messageByCompType (componentId, msgType) with
      | none => exact ⟨fun _ => nofun, fun _ => hr⟩
      | some m =>
          simp only [Option.some.injEq, forall_eq']
          exact hr.erase_iff hkey
  | _ => exact ⟨fun _ => trivial, fun _ => (added_outcome rfl).agree hr⟩

end

/-! ## Sequences of calls -/

section

variable {pools : Pools} {r : Register} {tr : List (Step Register RegisterCall)}

theorem agree_empty : empty.Agree := by
  intro name
  simp [empty]

/-- Every call starts in maps that agree, if all before it left such. -/
theorem agree_pre (h : Run (fun r c r' => (r.outcome pools c).2 = r') .empty tr r)
    (hagree : ∀ t ∈ tr, t.post.Agree) : r.Agree ∧ ∀ t ∈ tr, t.pre.Agree := by
  induction h with
  | init => exact ⟨agree_empty, by simp⟩
  | @step tr r r' c hrun hstep ih =>
      obtain ⟨hnow, hearlier⟩ := List.forall_mem_cons.mp hagree
      obtain ⟨hr, hpre⟩ := ih hearlier
      exact ⟨hnow, List.forall_mem_cons.mpr ⟨hr, hpre⟩⟩

theorem agree_run (h : Run (fun r c r' => (r.outcome pools c).2 = r') .empty tr r)
    (hkeys : ∀ t ∈ tr, t.pre.OnlyKey t.label) : r.Agree := by
  refine Run.invariant_of (C := OnlyKey) agree_empty ?_ h hkeys
  intro r c r' hr hkey hstep
  rw [← hstep]
  exact (agree_outcome_iff hr).mpr hkey

/-- **The indexes agree** after every call of a sequence iff no call removes one of several keys of a
type; where adding fails the maps are left alone in any case. -/
theorem indexesAgree_iff (h : Run (fun r c r' => (r.outcome pools c).2 = r') .empty tr r) :
    IndexesAgree pools tr ↔ ∀ t ∈ tr, t.pre.OnlyKey t.label := by
  constructor
  · intro hagree t ht
    have hpre := (agree_pre h hagree.agree).2 t ht
    have hpost := hagree.agree t ht
    rw [← (Run.mem_run h ht).1] at hpost
    exact (agree_outcome_iff hpre).mp hpost
  · intro hkeys
    constructor
    · intro t ht
      obtain ⟨hstep, earlier, hrun, hsub⟩ := Run.mem_run h ht
      have hpre := agree_run hrun fun u hu => hkeys u (hsub u hu)
      rw [← hstep]
      exact (agree_outcome_iff hpre).mpr (hkeys t ht)
    · intro t ht hadd msg hmsg
      have hadded := @added_outcome pools t.pre _ hadd
      rw [← (Run.mem_run h ht).1]
      generalize t.pre.outcome pools t.label = result at hadded hmsg
      cases hadded with
      | failed msg => rfl
      | added key m hnew => cases hmsg

/-- A type with component ID 1 and message type 2. -/
def person : Prototype :=
  ⟨{ fullName := "Person", enumTypes := [("CompType", ⟨[("COMP_ID", 1), ("MSG_TYPE", 2)]⟩)] }⟩

/-- Only generated types. -/
def generated : Pools where
  generatedPool name := if name = "Person" then some person.descriptor else none
  importerPool := none

/-- A type is added, once more in vain, and removed. -/
def addAndRemove : List RegisterCall :=
  [.addMessageTypeByName "Person", .addMessageType person, .addMessageTypeByName "Puck",
    .removeMessageType 1 2]

theorem indexesAgree_of_addAndRemove :
    IndexesAgree generated (record (fun r c => (outcome generated r c).2) empty addAndRemove) := by
  have hrun := run_record (fun r c => (outcome generated r c).2) empty addAndRemove
  apply (indexesAgree_iff hrun).mpr
  have hlast : OnlyKey (empty.registered (1, 2) person) (.removeMessageType 1 2) := by
    intro m _ key m' hne hkey
    have hnone : (empty.registered (1, 2) person).messageByCompType key = none :=
      Function.update_of_ne hne ..
    rw [hnone] at hkey
    cases hkey
  refine List.forall_mem_cons.mpr ⟨hlast, ?_⟩
  iterate 3 refine List.forall_mem_cons.mpr ⟨trivial, ?_⟩
  simp

/-- One type is added under two keys, and one of them removed. -/
def addTwice : List RegisterCall :=
  [.addMessageType person, .addMessageTypeAs person 1 3, .removeMessageType 1 2]

theorem not_indexesAgree_of_addTwice :
    ¬ IndexesAgree generated (record (fun r c => (outcome generated r c).2) empty addTwice) := by
  intro h
  have hagree : Agree (addTwice.foldl (fun r c => (outcome generated r c).2) empty) :=
    h.agree _ (List.mem_cons_self ..)
  have hname := (hagree "Person").mpr ⟨(1, 3), person, rfl, rfl⟩
  have hnone : (addTwice.foldl (fun r c => (outcome generated r c).2) empty).messageByTypename
      "Person" = none := rfl
  rw [hnone] at hname
  cases hname

end

end Register

end FactoryHub.Comm
