import FactoryHub.Config.Node
import FactoryHub.Lib.Simulation

/-!
# What a configuration is for

A configuration holds a value, a text or a list of texts, under some paths, none of which goes on to
another. To set a value takes away those that stand in its way, and nothing is set above another value.

* `operations_refine` — a tree of nodes is such a configuration, whatever is set and erased.
* `getValueAs_eq` — what is read under a path is what is set there.
-/

namespace FactoryHub.Config

open Lib

/-- What is set under a path. -/
inductive Value where
  | scalar (text : String)
  | list (texts : List String)
  deriving DecidableEq, Repr

/-- The value that is read as one of a type. A list is none. -/
def Value.read {α : Type} (convert : String → Option α) : Value → Option α
  | .scalar text => convert text
  | .list _ => none

/-- What is set under each path. -/
abbrev Settings := List String → Option Value

namespace Settings

variable (S : Settings)

/-- A value is set. Those on the way to it go. -/
def put (p : List String) (v : Value) : Settings :=
  fun q => if q = p then some v else if q <+: p then none else S q

def remove (p : List String) : Settings := fun q => if q = p then none else S q

/-- Something is set below the path. -/
def Blocked (p : List String) : Prop := ∃ q, q ≠ [] ∧ S (p ++ q) ≠ none

end Settings

/-! ## Operations -/

/-- What the setters and `erase` are called with. -/
inductive Op where
  | setValue (path text : String)
  | setList (path : String) (texts : List String)
  | erase (path : String)
  deriving DecidableEq, Repr

namespace Op

variable (conv : Conversions)

/-- The elements of the path. -/
def pel : Op → List String
  | .setValue path _ | .setList path _ | .erase path => strSplit path

/-- The type of a text can be determined: an unsigned int is an int, which those from 2^31 on are not. -/
def Typed : Op → Prop
  | .setValue _ text => conv.uint text ≠ none → conv.int text ≠ none
  | _ => True

instance (op : Op) : Decidable (op.Typed conv) := by
  unfold Typed
  split <;> infer_instance

/-- The operation on a tree of nodes. -/
def onNode (n : YamlConfigurationNode) : Op → YamlConfigurationNode × Option Error
  | .setValue path text => n.setValue conv path text
  | .setList path texts => n.setList path texts
  | .erase path => n.erase path

/-- The operation is possible. A list whose first text is an unsigned int is not set to a scalar. -/
def Possible (S : Settings) : Op → Prop
  | .setValue path _ =>
      ¬ S.Blocked (strSplit path) ∧
        ∀ text texts, S (strSplit path) = some (.list (text :: texts)) → conv.uint text = none
  | .setList path _ => ¬ S.Blocked (strSplit path)
  | .erase path => S (strSplit path) ≠ none

/-- The operation returns if it is possible. The type of a text that is set over a list is determined by
the list; otherwise the text is set before its type is determined. -/
def Returns (S : Settings) : Op → Prop
  | .setValue path text =>
      (∃ texts, S (strSplit path) = some (.list texts)) ∨ (Op.setValue path text).Typed conv
  | _ => True

/-- The operation on what is set. -/
def onSettings (S : Settings) : Op → Settings
  | .setValue path text => S.put (strSplit path) (.scalar text)
  | .setList path texts => S.put (strSplit path) (.list texts)
  | .erase path => S.remove (strSplit path)

end Op

/-! ## Inclusion -/

namespace Settings

variable {H S : Settings} {p : List String} {v : Value}

/-- What the first sets, the second sets to the same. -/
def Included (H S : Settings) : Prop := ∀ p v, H p = some v → S p = some v

theorem Included.blocked (h : H.Included S) (hb : H.Blocked p) : S.Blocked p := by
  obtain ⟨q, hq, hne⟩ := hb
  obtain ⟨v, hv⟩ := Option.ne_none_iff_exists'.mp hne
  exact ⟨q, hq, by simp [h _ v hv]⟩

theorem Included.put (h : H.Included S) : (H.put p v).Included (S.put p v) := by
  intro q w hq
  unfold Settings.put at hq ⊢
  split
  · next heq => rwa [if_pos heq] at hq
  · next hne =>
      rw [if_neg hne] at hq
      split
      · next hpre =>
          rw [if_pos hpre] at hq
          cases hq
      · next hpre =>
          rw [if_neg hpre] at hq
          exact h q w hq

theorem Included.remove (h : H.Included S) : (H.remove p).Included (S.remove p) := by
  intro q w hq
  unfold Settings.remove at hq ⊢
  split
  · next heq =>
      rw [if_pos heq] at hq
      cases hq
  · next hne =>
      rw [if_neg hne] at hq
      exact h q w hq

theorem Included.onSettings (h : H.Included S) (op : Op) :
    (op.onSettings H).Included (op.onSettings S) := by
  cases op with
  | setValue path text => exact h.put
  | setList path texts => exact h.put
  | erase path => exact h.remove

/-- What can be set among more can be set among less. -/
theorem Included.possible {conv : Conversions} {op : Op} (h : H.Included S)
    (hset : ∀ path, op ≠ .erase path) (hop : op.Possible conv S) : op.Possible conv H := by
  cases op with
  | setValue path text =>
      refine ⟨fun hb => hop.1 (h.blocked hb), fun text' texts hlist => ?_⟩
      exact hop.2 text' texts (h _ _ hlist)
  | setList path texts => exact fun hb => hop (h.blocked hb)
  | erase path => exact absurd rfl (hset path)

end Settings

/-- The value of a node without children. -/
def NodeData.value (d : NodeData) : Value :=
  if d.type = .sequence then .list d.listValues else .scalar d.scalarValue

namespace YamlConfigurationNode

/-- What a tree of nodes has under the paths below its root. -/
def settings (n : YamlConfigurationNode) : Settings :=
  fun p => if p = [] then none else (n.get p).map NodeData.value

end YamlConfigurationNode

namespace NodeData

variable {conv : Conversions} {name s : String} {d : NodeData}

theorem determineScalarType_ne_sequence {type : NodeType}
    (h : d.determineScalarType conv name = .ok type) : type ≠ .sequence := by
  unfold determineScalarType at h
  repeat' split at h
  all_goals
    cases h
  all_goals decide

theorem exists_determined (hd : d.type ≠ .sequence)
    (hs : conv.uint d.scalarValue ≠ none → conv.int d.scalarValue ≠ none) :
    ∃ type, d.determineScalarType conv name = .ok type := by
  unfold determineScalarType
  split
  · next huint =>
      have hint : conv.int d.scalarValue ≠ none :=
        hs (by simpa [isType, hd, Option.ne_none_iff_isSome] using huint)
      obtain ⟨v, hv⟩ := Option.ne_none_iff_exists'.mp hint
      simp [getValue, hd, hv]
  · repeat' split
    all_goals exact ⟨_, rfl⟩

/-- A text is set, whether its type can be determined or not. -/
theorem setScalar_of_scalar (conv : Conversions) (name s : String) (hd : d.type ≠ .sequence) :
    ((d.setScalar conv name s).2 = none ↔ (conv.uint s ≠ none → conv.int s ≠ none)) ∧
      (d.setScalar conv name s).1.value = .scalar s := by
  by_cases hs : conv.uint s ≠ none → conv.int s ≠ none
  · obtain ⟨type, htype⟩ : ∃ type,
        ({ d with scalarValue := s } : NodeData).determineScalarType conv name = .ok type :=
      exists_determined hd hs
    have hset : d.setScalar conv name s = ({ d with scalarValue := s, type }, none) := by
      simp [setScalar, htype]
    rw [hset]
    exact ⟨iff_of_true rfl hs, if_neg (determineScalarType_ne_sequence htype)⟩
  · obtain ⟨huint, hint⟩ := Classical.not_imp.mp hs
    have herror : ({ d with scalarValue := s } : NodeData).determineScalarType conv name =
        .error (.valueOrType name) := by
      have hisType : ({ d with scalarValue := s } : NodeData).isType conv.uint = true := by
        simpa [isType, hd, Option.ne_none_iff_isSome] using huint
      rw [determineScalarType, if_pos hisType]
      simp [getValue, hd, not_not.mp hint]
    have hset : d.setScalar conv name s =
        ({ d with scalarValue := s }, some (.valueOrType name)) := by
      simp only [setScalar, herror]
    rw [hset]
    exact ⟨iff_of_false (by simp) hs, if_neg hd⟩

/-- The type of what was a list is that of its first text. -/
theorem setScalar_of_list (conv : Conversions) (name s : String) (hd : d.type = .sequence) :
    ((d.setScalar conv name s).2 = none ↔
        ∀ text texts, d.listValues = text :: texts → conv.uint text = none) ∧
      (d.setScalar conv name s).1.value =
        if (d.setScalar conv name s).2 = none then .scalar s else d.value := by
  have huint : ({ d with scalarValue := s } : NodeData).isType conv.uint = true ↔
      ∃ text texts, d.listValues = text :: texts ∧ conv.uint text ≠ none := by
    cases d.listValues with
    | nil => simp [isType, hd]
    | cons text texts => simp [isType, hd, Option.ne_none_iff_isSome]
  by_cases h : ({ d with scalarValue := s } : NodeData).isType conv.uint = true
  · obtain ⟨text, texts, hlist, htext⟩ := huint.mp h
    have herror : ({ d with scalarValue := s } : NodeData).determineScalarType conv name =
        .error (.isList name) := by
      rw [determineScalarType, if_pos h, getValue, if_pos hd]
    have hset : d.setScalar conv name s = ({ d with scalarValue := s }, some (.isList name)) := by
      simp only [setScalar, herror]
    rw [hset]
    refine ⟨iff_of_false (by simp) fun hall => htext (hall text texts hlist), ?_⟩
    simp [value, hd]
  · have htype : ∃ type,
        ({ d with scalarValue := s } : NodeData).determineScalarType conv name = .ok type := by
      unfold determineScalarType
      rw [if_neg h]
      repeat' split
      all_goals exact ⟨_, rfl⟩
    obtain ⟨type, htype⟩ := htype
    have hset : d.setScalar conv name s = ({ d with scalarValue := s, type }, none) := by
      simp [setScalar, htype]
    rw [hset]
    refine ⟨iff_of_true rfl ?_, ?_⟩
    · intro text texts hlist
      by_contra htext
      exact h (huint.mpr ⟨text, texts, hlist, htext⟩)
    · simp [value, determineScalarType_ne_sequence htype]

end NodeData

namespace YamlConfigurationNode

variable {conv : Conversions} {n : YamlConfigurationNode} {path : String} {p q : List String}

theorem settings_of_ne (hp : p ≠ []) : n.settings p = (n.get p).map NodeData.value := if_neg hp

theorem blocked_iff (hp : p ≠ []) : n.settings.Blocked p ↔ n.Inner p := by
  have hne : ∀ q, p ++ q ≠ [] := fun q => List.append_ne_nil_of_left_ne_nil hp q
  rw [KeyTree.inner_iff]
  constructor
  · rintro ⟨q, hq, hset⟩
    rw [settings_of_ne (hne q), Option.ne_none_iff_isSome, Option.isSome_map] at hset
    obtain ⟨d, hd⟩ := Option.isSome_iff_exists.mp hset
    exact ⟨q, d, hq, hd⟩
  · rintro ⟨q, d, hq, hget⟩
    refine ⟨q, hq, ?_⟩
    simp [settings_of_ne (hne q), hget]

theorem findFrom_eq_ok_iff {m : YamlConfigurationNode} (from_path : String) :
    findFrom from_path p n = .ok m ↔ KeyTree.find p n = some m := by
  induction p generalizing n from_path with
  | nil => simp [findFrom, KeyTree.find]
  | cons k p ih =>
      obtain ⟨d, cs⟩ := n
      rw [findFrom, KeyTree.find_cons]
      cases hk : SortedMap.get k cs with
      | none => simp
      | some c => simp [ih]

/-- No value is set on the way to another. -/
theorem settings_eq_of_isPrefix {v w : Value} (hp : n.settings p = some v) (hq : n.settings q = some w)
    (h : p <+: q) : p = q := by
  by_cases hp' : p = []
  · simp [settings, hp'] at hp
  by_cases hq' : q = []
  · simp [settings, hq'] at hq
  rw [settings_of_ne hp', Option.map_eq_some_iff] at hp
  rw [settings_of_ne hq', Option.map_eq_some_iff] at hq
  obtain ⟨d, hd, -⟩ := hp
  obtain ⟨d', hd', -⟩ := hq
  exact KeyTree.eq_of_isPrefix hd hd' h

/-- The data that `setLeaf` changes. -/
def leafData (n : YamlConfigurationNode) (p : List String) : NodeData := (n.get p).getD {}

theorem find_getD_leaf (h : ¬ n.Inner p) :
    (KeyTree.find p n).getD (.leaf {}) = .leaf (n.leafData p) := by
  cases hfind : KeyTree.find p n with
  | none => simp [leafData, KeyTree.get, hfind]
  | some m =>
      have hm : m.hasChildren = false := by
        rw [← Bool.not_eq_true]
        exact fun hchildren => h ⟨m, hfind, hchildren⟩
      have hget : n.get p = some m.data := by simp [KeyTree.get, hfind, hm]
      rw [leafData, hget, Option.getD_some, Option.getD_some]
      exact KeyTree.hasChildren_eq_false.mp hm

/-- What `setLeaf` does. -/
theorem setLeaf_eq (path : String) (set : NodeData → NodeData × Option Error) (n : YamlConfigurationNode) :
    (n.Inner (strSplit path) ∧ setLeaf path set n = (findOrInsert path n, some (.nonLeaf path))) ∨
      ¬ n.Inner (strSplit path) ∧
        setLeaf path set n =
          (n.put {} NodeData.addsChild (fun d => (set d).1) (strSplit path),
            (set (n.leafData (strSplit path))).2) := by
  by_cases h : n.Inner (strSplit path)
  · left
    obtain ⟨m, hfind, hchildren⟩ := h
    refine ⟨⟨m, hfind, hchildren⟩, ?_⟩
    simp [setLeaf, findOrInsert, KeyTree.find_insertPath, hfind, hchildren]
  · right
    refine ⟨h, ?_⟩
    have hleaf := find_getD_leaf h
    simp only [setLeaf, findOrInsert, KeyTree.find_insertPath, Option.getD_some, hleaf]
    rfl

/-- What is set after `setLeaf`. -/
theorem settings_setLeaf (set : NodeData → NodeData × Option Error) (hp : strSplit path ≠ []) :
    (n.settings.Blocked (strSplit path) ∧ (setLeaf path set n).2 ≠ none ∧
        (setLeaf path set n).1.settings = n.settings) ∨
      ¬ n.settings.Blocked (strSplit path) ∧
        (setLeaf path set n).2 = (set (n.leafData (strSplit path))).2 ∧
        (setLeaf path set n).1.settings =
          n.settings.put (strSplit path) (set (n.leafData (strSplit path))).1.value := by
  rw [blocked_iff hp]
  rcases setLeaf_eq path set n with ⟨hinner, heq⟩ | ⟨hinner, heq⟩
  · refine .inl ⟨hinner, by simp [heq], ?_⟩
    obtain ⟨m, hfind, -⟩ := hinner
    funext q
    simp only [settings, heq, findOrInsert, KeyTree.get_insertPath (h := Option.isSome_of_eq_some hfind) q]
  · refine .inr ⟨hinner, by simp [heq], ?_⟩
    funext q
    by_cases hq : q = []
    · subst hq
      simp [settings, Settings.put, Ne.symm hp]
    · rw [settings_of_ne hq, heq, KeyTree.get_put hinner, Settings.put]
      split
      · simp [leafData]
      · split
        · rfl
        · rw [settings_of_ne hq]

theorem settings_eq_leafData {v : Value} (hp : p ≠ []) (h : n.settings p = some v) :
    (n.leafData p).value = v := by
  rw [settings_of_ne hp, Option.map_eq_some_iff] at h
  obtain ⟨d, hget, rfl⟩ := h
  rw [leafData, hget, Option.getD_some]

/-- A list is set where the node is one. -/
theorem settings_of_sequence (hp : p ≠ []) (h : (n.leafData p).type = .sequence) :
    n.settings p = some (.list (n.leafData p).listValues) := by
  rw [settings_of_ne hp]
  unfold leafData at h ⊢
  cases hget : n.get p with
  | none => simp [hget] at h
  | some d =>
      rw [hget, Option.getD_some] at h
      simp [NodeData.value, h]

/-- To set what is set changes nothing. -/
theorem put_self {v : Value} (h : n.settings p = some v) : n.settings.put p v = n.settings := by
  funext q
  rw [Settings.put]
  split
  · next heq => rw [heq, h]
  · next hne =>
      split
      · next hpre =>
          cases hq : n.settings q with
          | none => rfl
          | some w => exact absurd (settings_eq_of_isPrefix hq h hpre) hne
      · rfl

theorem settings_of_find_error {e : Error} (h : find path n = .error e) :
    n.settings (strSplit path) = none := by
  have hnone : KeyTree.find (strSplit path) n = none := by
    cases hfind : KeyTree.find (strSplit path) n with
    | none => rfl
    | some m =>
        rw [← findFrom_eq_ok_iff ""] at hfind
        cases h.symm.trans hfind
  simp [settings, KeyTree.get, hnone]

theorem settings_of_find_ok {m : YamlConfigurationNode} (hp : strSplit path ≠ [])
    (h : find path n = .ok m) :
    n.settings (strSplit path) = if m.hasChildren then none else some m.data.value := by
  rw [settings_of_ne hp, KeyTree.get, findFrom_eq_ok_iff _ |>.mp h]
  cases hchildren : m.hasChildren <;> simp [hchildren]

/-- What is read under a path is what is set there. -/
theorem getValueAs_eq {α : Type} (hp : strSplit path ≠ []) (convert : String → Option α) :
    (getValueAs path convert n).toOption = (n.settings (strSplit path)).bind (Value.read convert) := by
  unfold getValueAs
  cases hfind : find path n with
  | error e => simp [settings_of_find_error hfind, Except.toOption]
  | ok m =>
      rw [settings_of_find_ok hp hfind]
      cases hchildren : m.hasChildren with
      | true => simp [hchildren, Except.toOption]
      | false =>
          simp only [hchildren, Bool.false_eq_true, if_false, Option.bind_some, NodeData.getValue,
            NodeData.value]
          split
          · rfl
          · cases hconvert : convert m.data.scalarValue <;> simp [Value.read, hconvert, Except.toOption]

/-- The operation is done, and may throw then, or it throws and leaves alone what is set. -/
def Refines (r : YamlConfigurationNode × Option Error) (possible returns : Prop) (S S' : Settings) :
    Prop :=
  (possible → (r.2 = none ↔ returns) ∧ r.1.settings = S') ∧
    (¬ possible → r.2 ≠ none ∧ r.1.settings = S)

theorem setValue_refines {text : String} (hp : strSplit path ≠ []) :
    Refines (n.setValue conv path text) ((Op.setValue path text).Possible conv n.settings)
      ((Op.setValue path text).Returns conv n.settings) n.settings
      (n.settings.put (strSplit path) (.scalar text)) := by
  rw [setValue]
  rcases settings_setLeaf (n := n) (fun d => d.setScalar conv (nameAt (strSplit path)) text) hp
    with ⟨hblocked, herror, hsettings⟩ | ⟨hblocked, herror, hsettings⟩
  · exact ⟨fun h => absurd hblocked h.1, fun _ => ⟨herror, hsettings⟩⟩
  · by_cases hd : (n.leafData (strSplit path)).type = .sequence
    · have hset := settings_of_sequence hp hd
      obtain ⟨hiff, hvalue⟩ := NodeData.setScalar_of_list conv (nameAt (strSplit path)) text hd
      rw [hvalue, ← herror] at hsettings
      rw [← herror] at hiff
      constructor
      · rintro ⟨-, hlist⟩
        have hnone := hiff.mpr fun x l heq => hlist x l (heq ▸ hset)
        rw [if_pos hnone] at hsettings
        exact ⟨iff_of_true hnone (.inl ⟨_, hset⟩), hsettings⟩
      · intro himpossible
        have herror' : (setLeaf path
            (fun d => d.setScalar conv (nameAt (strSplit path)) text) n).2 ≠ none := by
          intro hnone
          refine himpossible ⟨hblocked, fun x l heq => ?_⟩
          rw [hset, Option.some.injEq, Value.list.injEq] at heq
          exact hiff.mp hnone x l heq
        rw [if_neg herror'] at hsettings
        refine ⟨herror', hsettings.trans (put_self ?_)⟩
        rw [hset, NodeData.value, if_pos hd]
    · have hscalar : ∀ texts, n.settings (strSplit path) ≠ some (.list texts) := by
        intro texts heq
        have hlist := settings_eq_leafData hp heq
        simp [NodeData.value, hd] at hlist
      obtain ⟨hiff, hvalue⟩ := NodeData.setScalar_of_scalar conv (nameAt (strSplit path)) text hd
      rw [hvalue] at hsettings
      rw [← herror] at hiff
      have hreturns : (Op.setValue path text).Returns conv n.settings ↔
          (Op.setValue path text).Typed conv :=
        or_iff_right fun ⟨texts, heq⟩ => hscalar texts heq
      refine ⟨fun _ => ⟨hiff.trans hreturns.symm, hsettings⟩, fun himpossible => ?_⟩
      exact absurd ⟨hblocked, fun x l heq => absurd heq (hscalar _)⟩ himpossible

theorem setList_refines {texts : List String} (hp : strSplit path ≠ []) :
    Refines (n.setList path texts) ((Op.setList path texts).Possible conv n.settings)
      ((Op.setList path texts).Returns conv n.settings) n.settings
      (n.settings.put (strSplit path) (.list texts)) := by
  rcases settings_setLeaf (n := n) (fun d => (d.setScalarList texts, none)) hp
    with ⟨hblocked, herror, hsettings⟩ | ⟨hblocked, herror, hsettings⟩
  · exact ⟨fun h => absurd hblocked h, fun _ => ⟨herror, hsettings⟩⟩
  · exact ⟨fun _ => ⟨iff_of_true herror trivial, hsettings⟩, fun h => absurd hblocked h⟩

theorem erase_refines (hp : strSplit path ≠ []) :
    Refines (n.erase path) ((Op.erase path).Possible conv n.settings)
      ((Op.erase path).Returns conv n.settings) n.settings
      (n.settings.remove (strSplit path)) := by
  unfold erase
  cases hfind : find path n with
  | error e =>
      have hset := settings_of_find_error hfind
      exact ⟨fun h => absurd hset h, fun _ => ⟨by simp, rfl⟩⟩
  | ok m =>
      have hset := settings_of_find_ok hp hfind
      cases hchildren : m.hasChildren with
      | true =>
          rw [hchildren, if_pos rfl] at hset
          exact ⟨fun h => absurd hset h, fun _ => by simp [hchildren]⟩
      | false =>
          have hget : n.get (strSplit path) = some m.data := by
            simp [KeyTree.get, (findFrom_eq_ok_iff _).mp hfind, hchildren]
          have hpossible : (Op.erase path).Possible conv n.settings := by
            simp [Op.Possible, hset, hchildren]
          refine ⟨fun _ => ⟨iff_of_true (by simp [hchildren]) trivial, ?_⟩,
            fun h => absurd hpossible h⟩
          funext q
          by_cases hq : q = []
          · simp [settings, Settings.remove, hq, Ne.symm hp]
          · simp only [hchildren, settings_of_ne hq, KeyTree.get_erase hget hp hq, Settings.remove,
              Bool.false_eq_true, if_false]
            split <;> rfl

/-- An `erase` that throws leaves the tree as it is. -/
theorem erase_thrown {m : YamlConfigurationNode} {e : Error} (h : n.erase path = (m, some e)) : m = n := by
  unfold erase at h
  split at h
  · cases h
    rfl
  · split at h
    · cases h
      rfl
    · cases h

/-- What an operation does. -/
theorem onNode_refines {op : Op} (hp : op.pel ≠ []) :
    Refines (op.onNode conv n) (op.Possible conv n.settings) (op.Returns conv n.settings) n.settings
      (op.onSettings n.settings) := by
  cases op with
  | setValue path text => exact setValue_refines hp
  | setList path texts => exact setList_refines hp
  | erase path => exact erase_refines hp

end YamlConfigurationNode

/-! ## Along a run -/

/-- What a call gets. -/
structure Call where
  op : Op
  error : Option Error
  deriving DecidableEq

/-- A call of the operations `f`, with a path that has an element. -/
def CallStep {σ : Type} (f : σ → Op → σ × Option Error) (s : σ) (call : Call) (s' : σ) : Prop :=
  call.op.pel ≠ [] ∧ f s call.op = (s', call.error)

/-- A call on a tree of nodes. -/
abbrev NodeStep (conv : Conversions) := CallStep (Op.onNode conv)

/-- A call on what is set, with whether it returns. -/
structure SettingsStep (conv : Conversions) (S : Settings) (call : Op × Bool) (S' : Settings) : Prop where
  returns : call.2 = true ↔ call.1.Possible conv S ∧ call.1.Returns conv S
  possible : call.1.Possible conv S → S' = call.1.onSettings S
  impossible : ¬ call.1.Possible conv S → S' = S

theorem Op.Typed.returns {conv : Conversions} {op : Op} (h : op.Typed conv) (S : Settings) :
    op.Returns conv S := by
  cases op with
  | setValue path text => exact .inr h
  | _ => trivial

theorem onNode_done {conv : Conversions} {op : Op} (hp : op.pel ≠ []) (htyped : op.Typed conv)
    {n : YamlConfigurationNode} (h : op.Possible conv n.settings) :
    ∃ n', op.onNode conv n = (n', none) ∧ n'.settings = op.onSettings n.settings := by
  obtain ⟨hdone, -⟩ := @YamlConfigurationNode.onNode_refines conv n _ hp
  obtain ⟨hnone, hsettings⟩ := hdone h
  exact ⟨_, Prod.ext rfl (hnone.mpr (htyped.returns _)), hsettings⟩

theorem onNode_thrown {conv : Conversions} {op : Op} (hp : op.pel ≠ []) {n : YamlConfigurationNode}
    (h : ¬ op.Possible conv n.settings) :
    ∃ n' e, op.onNode conv n = (n', some e) ∧ n'.settings = n.settings := by
  obtain ⟨-, hthrown⟩ := @YamlConfigurationNode.onNode_refines conv n _ hp
  obtain ⟨hsome, hsettings⟩ := hthrown h
  obtain ⟨e, he⟩ := Option.ne_none_iff_exists'.mp hsome
  exact ⟨_, e, Prod.ext rfl he, hsettings⟩

/-- The calls of the operations `f`. -/
def callsOf {σ : Type} (f : σ → Op → σ × Option Error) (s : σ) : List Op → List Call
  | [] => []
  | op :: ops => ⟨op, (f s op).2⟩ :: callsOf f (f s op).1 ops

section

variable {conv : Conversions}

theorem simulation : Simulation (fun (n : YamlConfigurationNode) S => n.settings = S) (NodeStep conv)
    (SettingsStep conv) (fun call => [(call.op, call.error.isNone)]) fun call => [call] where
  step := by
    rintro n _ ⟨op, error⟩ n' rfl ⟨hp, heq⟩
    obtain ⟨hdone, hthrown⟩ := @YamlConfigurationNode.onNode_refines conv n _ hp
    rw [show op.onNode conv n = (n', error) from heq] at hdone hthrown
    have hstep : SettingsStep conv n.settings (op, error.isNone) n'.settings := by
      refine ⟨?_, fun hpossible => (hdone hpossible).2, fun hpossible => (hthrown hpossible).2⟩
      rw [Option.isNone_iff_eq_none]
      by_cases hpossible : op.Possible conv n.settings
      · exact (hdone hpossible).1.trans (and_iff_right hpossible).symm
      · exact iff_of_false (hthrown hpossible).1 fun h => hpossible h.1
    exact ⟨_, _, Run.init.step hstep, rfl, rfl⟩

/-- **A tree of nodes is a configuration**: along every run of calls it has what is set when the same
operations are done where they are possible. A call throws exactly when its operation is not possible, or
when the type of the text that it has set cannot be determined. -/
theorem operations_refine {n n' : YamlConfigurationNode} {tr : List (Step YamlConfigurationNode Call)}
    (hrun : Run (NodeStep conv) n tr n') :
    ∃ tr', Run (SettingsStep conv) n.settings tr' n'.settings ∧
      shown (fun call => [call]) tr' = shown (fun call => [(call.op, call.error.isNone)]) tr := by
  obtain ⟨tr', _, hrun', rfl, hshown⟩ := simulation.run rfl hrun
  exact ⟨tr', hrun', hshown⟩

/-- Operations are called, and get what they get. -/
theorem exists_run {σ : Type} {f : σ → Op → σ × Option Error} (ops : List Op) (s : σ)
    (h : ∀ op ∈ ops, op.pel ≠ []) :
    ∃ tr s', Run (CallStep f) s tr s' ∧ tr.reverse.map (fun t => t.label) = callsOf f s ops := by
  induction ops generalizing s with
  | nil => exact ⟨[], s, .init, rfl⟩
  | cons op ops ih =>
      obtain ⟨hop, hops⟩ := List.forall_mem_cons.mp h
      obtain ⟨tr, s', hrun, hcalls⟩ := ih (f s op).1 hops
      have hstep : CallStep f s ⟨op, (f s op).2⟩ (f s op).1 := ⟨hop, rfl⟩
      refine ⟨_, s', (Run.init.step hstep).append hrun, ?_⟩
      simp [callsOf, hcalls]

end

/-- The decimal number that a text is, if it is below the limit. -/
def decimalBelow (limit : ℕ) (s : String) : Option ℕ :=
  if s.toList.isEmpty || !s.toList.all Char.isDigit then none
  else
    some (s.toList.foldl (fun n c => 10 * n + (c.toNat - '0'.toNat)) 0) |>.filter (· < limit)

/-- Decimal numbers of 32 bits. -/
def decimal : Conversions where
  uint := decimalBelow (2 ^ 32)
  int s := (decimalBelow (2 ^ 31) s).map Int.ofNat
  float s := !s.toList.isEmpty && s.toList.all Char.isDigit

/-- A value is set and erased, another stands in its way, and a third is no int. -/
theorem operations_refine_of_values :
    ∃ tr n tr', Run (NodeStep decimal) YamlConfigurationNode.new tr n ∧
      Run (SettingsStep decimal) YamlConfigurationNode.new.settings tr' n.settings ∧
      shown (fun call => [call]) tr' =
        [(.setValue "/a/b" "5", true), (.setValue "/a" "on", false), (.erase "/a/b", true),
          (.setValue "/a/d" "4294967295", false), (.erase "/a/d", true)] := by
  have hpaths : ∀ op ∈ [Op.setValue "/a/b" "5", .setValue "/a" "on", .erase "/a/b",
      .setValue "/a/d" "4294967295", .erase "/a/d"], op.pel ≠ [] := by
    decide +kernel
  obtain ⟨tr, n, hrun, hcalls⟩ := @exists_run _ (Op.onNode decimal) _ YamlConfigurationNode.new hpaths
  obtain ⟨tr', hrun', hshown⟩ := operations_refine hrun
  refine ⟨tr, n, tr', hrun, hrun', hshown.trans ?_⟩
  have hcalled : shown (fun call : Call => [(call.op, call.error.isNone)]) tr =
      (tr.reverse.map fun t => t.label).map fun call => (call.op, call.error.isNone) := by
    rw [shown, ← List.map_eq_flatMap, List.map_map]
    rfl
  rw [hcalled, hcalls]
  decide +kernel

end FactoryHub.Config
