import FactoryHub.Config.Store

/-!
# Settings survive a restart

What is set while the program runs is written to the host file, and added to the other files when they
are read again. It is there again unless the other files stand against it: `operator+=` keeps a list that
they have, and throws where they have a scalar on the way; and a node named "root" is not added under its
name. Of a list, nothing but an empty text is emitted.

The host file is the document that was emitted last. `loads` stands for `yaml-cpp`: the document that it
loads of the text that it has emitted of one.

* `readConfigDoc_emit` — the tree that is read of what was emitted.
* `restart_keeps` — what was set is set after a restart.
-/

namespace FactoryHub.Config

open Lib

/-! ## Scalars -/

namespace NodeData

variable {conv : Conversions} {name name' s : String} {d d' : NodeData}

/-- A scalar of the type of its text. -/
structure Plain (conv : Conversions) (d : NodeData) : Prop where
  isScalar : d.isScalar = true
  listValues : d.listValues = []
  type : ∀ name, d.determineScalarType conv name = .ok d.type

theorem isScalar_ne_sequence (h : d.isScalar = true) : d.type ≠ .sequence := by
  rintro heq
  simp [NodeData.isScalar, heq] at h

/-- But for a list, only the text says what the type is. -/
theorem determineScalarType_congr (hd : d.type ≠ .sequence) (hd' : d'.type ≠ .sequence)
    (hs : d.scalarValue = d'.scalarValue) {type : NodeType}
    (h : d.determineScalarType conv name = .ok type) :
    d'.determineScalarType conv name' = .ok type := by
  unfold determineScalarType at h ⊢
  simp only [isType, getValue, hd, hd', hs, if_false] at h ⊢
  split at h
  · next huint =>
      rw [if_pos huint]
      cases hint : conv.int d'.scalarValue with
      | none => simp [hint] at h
      | some v => simpa [hint] using h
  · next huint =>
      rw [if_neg huint]
      exact h

theorem isScalar_of_determined {type : NodeType} (hd : d.type ≠ .sequence)
    (h : d.determineScalarType conv name = .ok type) :
    type ∈ [.uint32, .int32, .float, .bool, .string] := by
  have hstring : d.isType some = true := by simp [isType, hd]
  unfold determineScalarType at h
  repeat' split at h
  all_goals
    cases h
  all_goals decide

/-- A text whose type can be determined makes a plain scalar. -/
theorem plain_setScalar (hd : d.type ≠ .sequence) (hlist : d.listValues = [])
    (hs : conv.uint s ≠ none → conv.int s ≠ none) : Plain conv (d.setScalar conv name s).1 := by
  obtain ⟨type, htype⟩ : ∃ type, ({ d with scalarValue := s } : NodeData).determineScalarType conv name =
      .ok type := exists_determined hd hs
  have hset : d.setScalar conv name s = ({ d with scalarValue := s, type }, none) := by
    simp [setScalar, htype]
  rw [hset]
  have hscalar := isScalar_of_determined (d := { d with scalarValue := s }) hd htype
  refine ⟨decide_eq_true hscalar, hlist, fun name' => ?_⟩
  refine determineScalarType_congr ?_ (determineScalarType_ne_sequence htype) ?_ htype
  · exact hd
  · rfl

/-- A plain scalar is read of its text. -/
theorem Plain.ofDoc (h : Plain conv d) :
    YamlConfigurationNode.ofDoc conv name (.scalar .other d.scalarValue) = .ok d := by
  have htype : ({ type := .unknown, scalarValue := d.scalarValue } : NodeData).determineScalarType
      conv name = .ok d.type := by
    refine determineScalarType_congr (isScalar_ne_sequence h.isScalar) ?_ ?_ (h.type name)
    · simp
    · rfl
  obtain ⟨type, scalarValue, listValues⟩ := d
  cases h.listValues
  simp [YamlConfigurationNode.ofDoc, htype]

/-- A plain scalar is added to a scalar. -/
theorem Plain.setScalar (h : Plain conv d) (hd' : d'.isScalar = true) :
    (d'.setScalar conv name d.scalarValue).2 = none ∧
      (d'.setScalar conv name d.scalarValue).1.value = d.value := by
  have hne := isScalar_ne_sequence h.isScalar
  have htype : ({ d' with scalarValue := d.scalarValue } : NodeData).determineScalarType conv name =
      .ok d.type := by
    refine determineScalarType_congr hne ?_ ?_ (h.type name)
    · exact isScalar_ne_sequence hd'
    · rfl
  simp [NodeData.setScalar, htype, value, hne]

end NodeData

namespace YamlConfigurationNode

/-! ## Reading what was emitted -/

mutual

/-- A tree, with the data of its nodes as they are when it is read. -/
def reread : YamlConfigurationNode → YamlConfigurationNode
  | .node d children =>
      if children.isEmpty then .node d [] else .node { type := .map } (rereadChildren children)

def rereadChildren : List (String × YamlConfigurationNode) → List (String × YamlConfigurationNode)
  | [] => []
  | (key, n) :: children => (key, reread n) :: rereadChildren children

end

section

variable {conv : Conversions} {n : YamlConfigurationNode} {d : NodeData} {key : String}
  {children acc : List (String × YamlConfigurationNode)} {p : List String}

theorem rereadChildren_eq (children : List (String × YamlConfigurationNode)) :
    rereadChildren children = children.map fun e => (e.1, reread e.2) := by
  induction children with
  | nil => rfl
  | cons e children ih =>
      obtain ⟨key, n⟩ := e
      rw [rereadChildren, ih, List.map_cons]

theorem get_rereadChildren :
    SortedMap.get key (rereadChildren children) = (SortedMap.get key children).map reread := by
  rw [rereadChildren_eq, SortedMap.get_map]

@[simp] theorem hasChildren_reread (n : YamlConfigurationNode) : (reread n).hasChildren = n.hasChildren := by
  obtain ⟨d, children⟩ := n
  cases children with
  | nil => rfl
  | cons e children =>
      obtain ⟨key, n⟩ := e
      rfl

theorem reread_of_leaf (h : n.hasChildren = false) : reread n = n := by
  rw [KeyTree.hasChildren_eq_false] at h
  rw [h]
  rfl

theorem reread_node (h : children ≠ []) :
    reread (.node d children) = .node { type := .map } (rereadChildren children) := by
  rw [reread, if_neg (by simpa using h)]

theorem find_reread (p : List String) (n : YamlConfigurationNode) :
    KeyTree.find p (reread n) = (KeyTree.find p n).map reread := by
  induction p generalizing n with
  | nil => rfl
  | cons key p ih =>
      obtain ⟨d, children⟩ := n
      cases children with
      | nil => rfl
      | cons e children =>
          rw [reread_node (List.cons_ne_nil _ _), KeyTree.find_cons, get_rereadChildren, KeyTree.find_cons]
          cases SortedMap.get key (e :: children) with
          | none => rfl
          | some c => exact ih c

theorem get_reread (p : List String) (n : YamlConfigurationNode) : (reread n).get p = n.get p := by
  rw [KeyTree.get, find_reread, KeyTree.get]
  cases KeyTree.find p n with
  | none => rfl
  | some m =>
      simp only [Option.map_some, Option.bind_some, hasChildren_reread]
      split
      · rfl
      · next hchildren =>
          rw [Bool.not_eq_true] at hchildren
          rw [reread_of_leaf hchildren]

theorem ordered_reread (h : n.Ordered) : (reread n).Ordered := by
  induction n using KeyTree.induction with
  | node d children ih =>
      obtain ⟨hsorted, hchildren⟩ := h
      cases children with
      | nil => exact KeyTree.ordered_leaf
      | cons e children =>
          rw [reread_node (List.cons_ne_nil _ _), rereadChildren_eq]
          refine .mk (hsorted.map _) ?_
          intro c hc
          obtain ⟨c, hmem, rfl⟩ := List.mem_map.mp hc
          exact ih c hmem (hchildren c hmem)

/-- The inner nodes that are read are maps. -/
theorem data_reread (h : n.hasChildren = true) : (reread n).data = { type := .map } := by
  obtain ⟨d, children⟩ := n
  cases children with
  | nil => cases h
  | cons e children =>
      rw [reread_node (List.cons_ne_nil _ _)]
      rfl

/-- The leaves are plain, and no key is a path. -/
def Written (conv : Conversions) (n : YamlConfigurationNode) : Prop :=
  ∀ p d, p ≠ [] → n.get p = some d → NodeData.Plain conv d ∧ ∀ key ∈ p, '/' ∉ key.toList

theorem Written.child (h : Written conv (.node d children)) (hk : SortedMap.get key children = some n) :
    Written conv n ∧ '/' ∉ key.toList ∧ (n.hasChildren = false → NodeData.Plain conv n.data) := by
  have hget : ∀ p, KeyTree.get (key :: p) (.node d children) = n.get p := fun p => by simp [hk]
  refine ⟨fun p d' hp hd' => ?_, ?_, fun hleaf => ?_⟩
  · obtain ⟨hplain, hkeys⟩ := h (key :: p) d' (by simp) ((hget p).trans hd')
    exact ⟨hplain, fun key hkey => hkeys key (List.mem_cons_of_mem _ hkey)⟩
  · obtain ⟨p, d', hd'⟩ := KeyTree.exists_get n
    exact (h (key :: p) d' (by simp) ((hget p).trans hd')).2 key List.mem_cons_self
  · have hd' : n.get [] = some n.data := by simp [KeyTree.get_nil, hleaf]
    exact (h [key] n.data (by simp) ((hget []).trans hd')).1

/-- One entry is read into a new child. -/
theorem readEntries_cons (entries : List (String × Doc)) {value : Doc} {data : NodeData}
    {child : YamlConfigurationNode} (hkey : '/' ∉ key.toList) (hnew : SortedMap.get key acc = none)
    (hdata : ofDoc conv key value = .ok data) (hread : readConfigDoc conv value (.leaf data) = .ok child) :
    readEntries conv ((key, value) :: entries) (.node d acc) =
      readEntries conv entries (.node d.addsChild (SortedMap.set key child acc)) := by
  simp [readEntries, hkey, insertAt, hnew, hdata, hread]

/-- What is emitted for a child is read as the child. -/
structure Rereads (conv : Conversions) (key : String) (n : YamlConfigurationNode) : Prop where
  key : '/' ∉ key.toList
  leaf : n.hasChildren = false → NodeData.Plain conv n.data
  inner : n.hasChildren = true →
    readConfigDoc conv (emit n) (.leaf { type := .map }) = .ok (reread n)

/-- What `emitChildren` has under the key of a child. -/
def emittedValue (n : YamlConfigurationNode) : Doc :=
  if n.hasChildren then emit n else .scalar .other n.data.scalarValue

theorem Rereads.read (h : Rereads conv key n) :
    ∃ data, ofDoc conv key (emittedValue n) = .ok data ∧
      readConfigDoc conv (emittedValue n) (.leaf data) = .ok (reread n) := by
  unfold emittedValue
  cases hchildren : n.hasChildren with
  | true =>
      refine ⟨{ type := .map }, ?_, h.inner hchildren⟩
      obtain ⟨d, children⟩ := n
      rfl
  | false =>
      refine ⟨n.data, (h.leaf hchildren).ofDoc, ?_⟩
      rw [reread_of_leaf hchildren]
      exact congrArg Except.ok (KeyTree.hasChildren_eq_false.mp hchildren).symm

theorem readEntries_emitChildren (hsorted : SortedMap.Sorted children)
    (hacc : ∀ e ∈ acc, ∀ e' ∈ children, e.1 < e'.1) (hread : ∀ e ∈ children, Rereads conv e.1 e.2)
    (d : NodeData) :
    readEntries conv (emitChildren children) (.node d acc) =
      .ok (.node (if children = [] then d else d.addsChild) (acc ++ rereadChildren children)) := by
  induction children generalizing d acc with
  | nil => simp [emitChildren, readEntries, rereadChildren]
  | cons e children ih =>
      obtain ⟨key, n⟩ := e
      obtain ⟨hlt, hsorted⟩ := List.pairwise_cons.mp hsorted
      obtain ⟨hhead, htail⟩ := List.forall_mem_cons.mp hread
      obtain ⟨data, hdata, hchild⟩ := hhead.read
      have hbefore : ∀ e ∈ acc, e.1 < key := fun e he => hacc e he (key, n) List.mem_cons_self
      have hacc' : ∀ e ∈ acc ++ [(key, reread n)], ∀ e' ∈ children, e.1 < e'.1 := by
        intro e he e' he'
        rcases List.mem_append.mp he with he | he
        · exact hacc e he e' (List.mem_cons_of_mem _ he')
        · rw [List.mem_singleton.mp he]
          exact hlt e' he'
      have hcons := readEntries_cons (d := d) (emitChildren children) hhead.key
        (SortedMap.get_of_lt hbefore) hdata hchild
      rw [emitChildren]
      refine hcons.trans ?_
      rw [SortedMap.set_of_lt hbefore, ih hsorted hacc' htail d.addsChild]
      simp [rereadChildren, NodeData.addsChild]

/-- The tree that is read of what was emitted has the same leaves. -/
theorem readConfigDoc_emit {data : NodeData} (hn : n.Ordered) (hwritten : Written conv n)
    (hchildren : n.hasChildren = true) (hdata : data.addsChild = { type := .map }) :
    readConfigDoc conv (emit n) (.leaf data) = .ok (reread n) := by
  induction n using KeyTree.induction generalizing data with
  | node d children ih =>
      obtain ⟨hsorted, hordered⟩ := hn
      have hne : children ≠ [] := by
        rintro rfl
        cases hchildren
      have hread : ∀ e ∈ children, Rereads conv e.1 e.2 := by
        rintro ⟨key, n⟩ he
        obtain ⟨hn, hkey, hleaf⟩ := hwritten.child ((SortedMap.mem_iff_get hsorted).mp he)
        exact ⟨hkey, hleaf, fun hinner => ih _ he (hordered _ he) hn hinner rfl⟩
      rw [emit, readConfigDoc, KeyTree.leaf, readEntries_emitChildren hsorted (by simp) hread,
        reread_node hne, if_neg hne, hdata, List.nil_append]

end

/-! ## Adding what was read -/

/-- A tree has nothing at a path that stands against a scalar there. -/
structure Open (n : YamlConfigurationNode) (p : List String) : Prop where
  above : ∀ q m, q <+: p → q ≠ p → KeyTree.find q n = some m → m.data.isScalar = false
  scalar : ∀ m, KeyTree.find p n = some m → m.hasChildren = false ∧ m.data.isScalar = true

/-- The result of an addition: what is added is there, and the rest is as before. -/
structure Added (n other result : YamlConfigurationNode) : Prop where
  added : ∀ q d, other.get q = some d → ∃ d', result.get q = some d' ∧ d'.value = d.value
  kept : ∀ q, other.get q = none → ¬ other.Inner q → result.get q = n.get q

/-- What can be added: plain leaves, inner nodes that are no scalars, and no key "root". -/
structure Addable (conv : Conversions) (n : YamlConfigurationNode) : Prop where
  ordered : n.Ordered
  plain : ∀ p d, n.get p = some d → NodeData.Plain conv d
  inner : ∀ p m, KeyTree.find p n = some m → m.hasChildren = true → m.data.isScalar = false
  keys : ∀ p d, n.get p = some d → "root" ∉ p

section

variable {conv : Conversions} {n other c : YamlConfigurationNode} {d : NodeData} {key name : String}
  {children cs : List (String × YamlConfigurationNode)} {p : List String}

theorem Open.child (h : Open (.node d children) (key :: p)) (hk : SortedMap.get key children = some c) :
    Open c p where
  above q m hpre hne hfind := by
    apply h.above (key :: q) m
    · exact List.cons_prefix_cons.mpr ⟨rfl, hpre⟩
    · simpa using hne
    · simpa [hk] using hfind
  scalar m hfind := h.scalar m (by simpa [hk] using hfind)

theorem Addable.child (h : Addable conv (.node d children))
    (hk : SortedMap.get key children = some c) : Addable conv c ∧ key ≠ "root" := by
  have hget : ∀ p, KeyTree.get (key :: p) (.node d children) = c.get p := fun p => by simp [hk]
  refine ⟨⟨h.ordered.child hk, ?_, ?_, ?_⟩, ?_⟩
  · exact fun p d' hd' => h.plain (key :: p) d' ((hget p).trans hd')
  · exact fun p m hfind => h.inner (key :: p) m (by simpa [hk] using hfind)
  · intro p d' hd' hroot
    exact h.keys (key :: p) d' ((hget p).trans hd') (List.mem_cons_of_mem _ hroot)
  · rintro rfl
    obtain ⟨p, d', hd'⟩ := KeyTree.exists_get c
    exact h.keys ("root" :: p) d' ((hget p).trans hd') List.mem_cons_self

/-- A new child takes the data of the node that is added. -/
theorem open_copy {d' : NodeData} (h : Addable conv c) (hp : c.get p = some d') :
    Open (.leaf c.data) p where
  above q m hpre hne hfind := by
    cases q with
    | nil =>
        cases hfind
        obtain ⟨r, rfl⟩ := hpre
        have hinner : c.Inner [] := KeyTree.inner_iff.mpr ⟨_, d', by simpa using Ne.symm hne, hp⟩
        obtain ⟨m, hm, hchildren⟩ := hinner
        cases hm
        exact h.inner [] c rfl hchildren
    | cons key q => simp [KeyTree.leaf] at hfind
  scalar m hfind := by
    cases p with
    | nil =>
        cases hfind
        rw [KeyTree.get_nil, Option.ite_none_left_eq_some] at hp
        obtain ⟨hchildren, hd'⟩ := hp
        cases hd'
        refine ⟨rfl, (h.plain [] c.data ?_).isScalar⟩
        simp [KeyTree.get_nil, hchildren]
    | cons key p => simp [KeyTree.leaf] at hfind

/-- The child that is added to. -/
def childOf (n : YamlConfigurationNode) (key : String) (c : YamlConfigurationNode) :
    YamlConfigurationNode :=
  (SortedMap.get key n.children).getD (.leaf c.data)

theorem open_childOf {d' : NodeData} (h : Addable conv c) (hp : c.get p = some d')
    (hopen : Open n (key :: p)) : Open (n.childOf key c) p := by
  obtain ⟨d, children⟩ := n
  unfold childOf KeyTree.children
  cases hk : SortedMap.get key children with
  | none => exact open_copy h hp
  | some m => exact hopen.child hk

/-- The children are added one after the other. -/
theorem addChildren_added (name : String) (hsorted : SortedMap.Sorted cs) (hroot : ∀ e ∈ cs, e.1 ≠ "root")
    (hadd : ∀ e ∈ cs, ∃ r, addTo conv e.1 (n.childOf e.1 e.2) e.2 = .ok r ∧
      Added (n.childOf e.1 e.2) e.2 r) :
    ∃ result, addChildren conv name n cs = .ok result ∧
      (∀ key, SortedMap.get key cs = none →
        SortedMap.get key result.children = SortedMap.get key n.children) ∧
      ∀ key c, SortedMap.get key cs = some c → ∃ r, SortedMap.get key result.children = some r ∧
        Added (n.childOf key c) c r := by
  induction cs generalizing n with
  | nil => exact ⟨n, rfl, fun _ _ => rfl, fun _ _ hnone => by cases hnone⟩
  | cons e cs ih =>
      obtain ⟨key, c⟩ := e
      obtain ⟨hlt, hsorted⟩ := List.pairwise_cons.mp hsorted
      obtain ⟨⟨r, hr, hadded⟩, htail⟩ := List.forall_mem_cons.mp hadd
      obtain ⟨hne, hroot⟩ := List.forall_mem_cons.mp hroot
      have hchildren : (n.setChild key r).children = SortedMap.set key r n.children := rfl
      have hother : ∀ key', key ≠ key' →
          SortedMap.get key' (n.setChild key r).children = SortedMap.get key' n.children := by
        intro key' hkey
        rw [hchildren, SortedMap.get_set_of_ne hkey]
      have hchildOf : ∀ key' c', key ≠ key' → (n.setChild key r).childOf key' c' = n.childOf key' c' := by
        intro key' c' hkey
        rw [childOf, hother key' hkey, childOf]
      obtain ⟨result, hresult, hnone, hsome⟩ := ih (n := n.setChild key r) hsorted hroot (by
        intro e he
        rw [hchildOf e.1 e.2 (ne_of_lt (hlt e he))]
        exact htail e he)
      have hhead : SortedMap.get key cs = none := by
        cases hget : SortedMap.get key cs with
        | none => rfl
        | some c' => exact absurd (hlt _ (SortedMap.mem_of_get hget)) (lt_irrefl key)
      refine ⟨result, ?_, ?_, ?_⟩
      · rw [addChildren, if_neg hne]
        dsimp only
        rw [show addTo conv key ((SortedMap.get key n.children).getD (.leaf c.data)) c = .ok r from hr]
        exact hresult
      · intro key' hget
        rw [SortedMap.get] at hget
        split at hget
        · cases hget
        · next hkey => rw [hnone key' hget, hother key' hkey]
      · intro key' c' hget
        rw [SortedMap.get] at hget
        split at hget
        · next hkey =>
            subst hkey
            cases hget
            refine ⟨r, ?_, hadded⟩
            rw [hnone key hhead, hchildren, SortedMap.get_set_self]
        · next hkey =>
            rw [← hchildOf key' c' hkey]
            exact hsome key' c' hget

theorem added_of_children {result : YamlConfigurationNode} (hcs : cs ≠ [])
    (hnone : ∀ key, SortedMap.get key cs = none →
      SortedMap.get key result.children = SortedMap.get key n.children)
    (hsome : ∀ key c, SortedMap.get key cs = some c →
      ∃ r, SortedMap.get key result.children = some r ∧ Added (n.childOf key c) c r) :
    Added n (.node d cs) result := by
  have hinner : KeyTree.hasChildren (.node d cs) = true := by
    cases cs with
    | nil => exact absurd rfl hcs
    | cons => rfl
  obtain ⟨dn, nodes⟩ := n
  obtain ⟨dr, results⟩ := result
  constructor
  · intro q d' hd'
    cases q with
    | nil => simp [KeyTree.get_nil, hinner] at hd'
    | cons key q =>
        rw [KeyTree.get_cons] at hd'
        obtain ⟨c, hk, hget⟩ := Option.bind_eq_some_iff.mp hd'
        obtain ⟨r, hr, hadded⟩ := hsome key c hk
        rw [KeyTree.get_cons, show SortedMap.get key results = some r from hr]
        exact hadded.added q d' hget
  · intro q hq hnot
    cases q with
    | nil => exact absurd ⟨_, rfl, hinner⟩ hnot
    | cons key q =>
        rw [KeyTree.get_cons] at hq
        rw [KeyTree.get_cons, KeyTree.get_cons]
        cases hk : SortedMap.get key cs with
        | none => rw [show SortedMap.get key results = SortedMap.get key nodes from hnone key hk]
        | some c =>
            obtain ⟨r, hr, hadded⟩ := hsome key c hk
            rw [hk, Option.bind_some] at hq
            rw [KeyTree.inner_cons hk] at hnot
            rw [show SortedMap.get key results = some r from hr, Option.bind_some, hadded.kept q hq hnot]
            unfold childOf KeyTree.children
            cases hnode : SortedMap.get key nodes with
            | some m => rfl
            | none =>
                -- the new child has no children of its own
                rw [Option.getD_none, Option.bind_none]
                apply KeyTree.get_leaf
                rintro rfl
                rw [KeyTree.get_nil] at hq
                split at hq
                · next hchildren => exact hnot ⟨c, rfl, hchildren⟩
                · cases hq

/-- A leaf is added to a leaf. -/
theorem addTo_leaf_added (name : String) (hplain : NodeData.Plain conv d) (hopen : Open n []) :
    ∃ result, addTo conv name n (.leaf d) = .ok result ∧ Added n (.leaf d) result := by
  obtain ⟨hchildren, hscalar⟩ := hopen.scalar n rfl
  obtain ⟨hnone, hvalue⟩ : (n.data.setScalar conv name d.scalarValue).2 = none ∧
      (n.data.setScalar conv name d.scalarValue).1.value = d.value := hplain.setScalar hscalar
  obtain ⟨dn, nodes⟩ := n
  have hnodes : nodes = [] := by simpa [KeyTree.hasChildren, KeyTree.children] using hchildren
  subst hnodes
  refine ⟨.node (dn.setScalar conv name d.scalarValue).1 [], ?_, ?_, ?_⟩
  · rw [KeyTree.leaf, addTo, if_pos hscalar, if_pos hplain.isScalar,
      show NodeData.setScalar conv name (KeyTree.data (.node dn [])) d.scalarValue = (_, none) from
        Prod.ext rfl hnone]
    rfl
  · intro q d' hd'
    cases q with
    | nil =>
        cases hd'
        exact ⟨_, rfl, hvalue⟩
    | cons key q => simp [KeyTree.leaf] at hd'
  · intro q hq hinner
    cases q with
    | nil => cases hq
    | cons key q => simp

/-- A plain tree is added where nothing stands against it. -/
theorem addTo_added (name : String) (other : YamlConfigurationNode) (hother : Addable conv other)
    (hopen : ∀ p d, other.get p = some d → Open n p) :
    ∃ result, addTo conv name n other = .ok result ∧ Added n other result := by
  induction other using KeyTree.induction generalizing n name with
  | node d cs ih =>
      cases cs with
      | nil =>
          have hget : KeyTree.get [] (.node d ([] : List (String × YamlConfigurationNode))) = some d := rfl
          exact addTo_leaf_added name (hother.plain [] d hget) (hopen [] d hget)
      | cons e cs =>
          have hscalar : n.data.isScalar = false := by
            obtain ⟨p, d', hd'⟩ := KeyTree.exists_get e.2
            have hget : KeyTree.get (e.1 :: p) (.node d (e :: cs)) = some d' := by
              simpa [SortedMap.get] using hd'
            exact (hopen _ d' hget).above [] n List.nil_prefix (by simp) rfl
          have hsorted : SortedMap.Sorted (e :: cs) := by
            obtain ⟨hsorted, -⟩ := hother.ordered
            exact hsorted
          have hchild : ∀ e' ∈ e :: cs, Addable conv e'.2 ∧ e'.1 ≠ "root" := fun e' he' =>
            hother.child ((SortedMap.mem_iff_get hsorted).mp he')
          obtain ⟨result, hresult, hnone, hsome⟩ := addChildren_added (n := n) name hsorted
            (fun e' he' => (hchild e' he').2) (by
              intro e' he'
              refine ih e' he' e'.1 (hchild e' he').1 fun p d' hd' => ?_
              have hget : KeyTree.get (e'.1 :: p) (.node d (e :: cs)) = some d' := by
                rw [KeyTree.get_cons, (SortedMap.mem_iff_get hsorted).mp he', Option.bind_some, hd']
              exact open_childOf (hchild e' he').1 hd' (hopen _ d' hget))
          refine ⟨result, ?_, added_of_children (List.cons_ne_nil _ _) hnone hsome⟩
          rw [addTo, hscalar]
          exact hresult

end

end YamlConfigurationNode

/-! ## Restarts -/

theorem not_mem_of_mem_splitOn {α : Type} [DecidableEq α] {a : α} {xs l : List α}
    (h : l ∈ xs.splitOn a) : a ∉ l := by
  induction xs generalizing l with
  | nil =>
      rw [List.splitOn_nil, List.mem_singleton] at h
      simp [h]
  | cons x xs ih =>
      rw [List.splitOn_cons_eq_if_modifyHead] at h
      split at h
      · rcases List.mem_cons.mp h with rfl | h
        · simp
        · exact ih h
      · next hne =>
          cases hsplit : xs.splitOn a with
          | nil => simp [hsplit] at h
          | cons head tail =>
              rw [hsplit, List.modifyHead_cons] at h
              rw [hsplit] at ih
              rcases List.mem_cons.mp h with rfl | h
              · rw [List.mem_cons, not_or]
                exact ⟨fun heq => hne (by simp [heq]), ih List.mem_cons_self⟩
              · exact ih (List.mem_cons_of_mem _ h)

/-- The elements of a path have no delimiter. -/
theorem slash_not_mem_strSplit {path key : String} (h : key ∈ strSplit path) : '/' ∉ key.toList := by
  obtain ⟨hkey, -⟩ := List.mem_filter.mp h
  obtain ⟨l, hl, rfl⟩ := List.mem_map.mp hkey
  rw [String.toList_ofList]
  exact not_mem_of_mem_splitOn hl

open YamlConfigurationNode

/-- Nothing in the other files stands against a scalar at this path. -/
structure Free (base : YamlConfigurationNode) (p : List String) : Prop where
  isOpen : Open base p
  keys : "root" ∉ p

/-- What can be set to survive: a scalar that the other files have nothing against. -/
def Op.Survives (base : YamlConfigurationNode) : Op → Prop
  | .setValue path _ => Free base (strSplit path)
  | .setList _ _ => False
  | .erase _ => True

/-- `yaml-cpp` loads of the host file the keys and texts that it emitted there. -/
def YamlConfiguration.Reloads (loads : Doc → Doc) (c : YamlConfiguration) : Prop :=
  c.hostDoc.map loads = c.hostDoc

/-- A call, or a restart of the program. -/
inductive ConfigEvent where
  | call (call : Call)
  | restart

/-- The call is one of an operation that is to survive, with a text whose type can be determined. -/
def ConfigEvent.Survives (conv : Conversions) (base : YamlConfigurationNode) : ConfigEvent → Prop
  | .call c => c.op.Typed conv ∧ c.op.Survives base
  | .restart => True

/-- A step of the program over its restarts. -/
def ProgramStep (conv : Conversions) (loads : Doc → Doc) (base : YamlConfigurationNode)
    (c : YamlConfiguration) : ConfigEvent → YamlConfiguration → Prop
  | .call call, c' => ConfigStep conv c call c'
  | .restart, c' =>
      YamlConfiguration.readYamlConfig conv base c.hostFile c.writable (c.hostDoc.map loads) = .ok c'

/-- What holds of the program over its restarts. -/
structure Kept (conv : Conversions) (base : YamlConfigurationNode) (c : YamlConfiguration) : Prop where
  ordered : c.hostRoot.Ordered
  leaves : ∀ p d, p ≠ [] → c.hostRoot.get p = some d →
    NodeData.Plain conv d ∧ Free base p ∧ ∀ key ∈ p, '/' ∉ key.toList
  hostIn : c.HostIn
  writes : c.Writes
  /-- The host file has the leaves of its tree. -/
  written : ∃ h : YamlConfigurationNode, h.Ordered ∧ (∀ p, p ≠ [] → h.get p = c.hostRoot.get p) ∧
    c.hostDoc = YamlConfiguration.emitted h

section

variable {conv : Conversions} {loads : Doc → Doc} {base n n' : YamlConfigurationNode}
  {c c' : YamlConfiguration}

theorem get_new {p : List String} (hp : p ≠ []) : KeyTree.get p YamlConfigurationNode.new = none :=
  KeyTree.get_leaf hp

/-- A setter that returns has put the scalar. -/
theorem onNode_setValue {path text : String}
    (h : Op.onNode conv n (.setValue path text) = (n', none)) :
    ¬ n.Inner (strSplit path) ∧ n' = n.put {} NodeData.addsChild
      (fun d => (d.setScalar conv (nameAt (strSplit path)) text).1) (strSplit path) := by
  rcases setLeaf_eq path (fun d => d.setScalar conv (nameAt (strSplit path)) text) n with
    ⟨-, heq⟩ | ⟨hinner, heq⟩
  · cases (show setLeaf path _ n = (n', none) from h).symm.trans heq
  · have hn' := (show setLeaf path _ n = (n', none) from h).symm.trans heq
    exact ⟨hinner, congrArg Prod.fst hn'⟩

/-- An `erase` that returns has erased a leaf. -/
theorem onNode_erase {path : String} (h : Op.onNode conv n (.erase path) = (n', none)) :
    n' = KeyTree.erase (strSplit path) n ∧ ∃ d, n.get (strSplit path) = some d := by
  change n.erase path = (n', none) at h
  unfold YamlConfigurationNode.erase at h
  split at h
  · cases h
  · next m hfind =>
      split at h
      · cases h
      · next hchildren =>
          cases h
          refine ⟨rfl, m.data, ?_⟩
          rw [KeyTree.get, (findFrom_eq_ok_iff _).mp hfind, Option.bind_some, if_neg hchildren]

theorem kept_of_setValue {path text : String} (h : Kept conv base c)
    (htyped : (Op.setValue path text).Typed conv) (hfree : Free base (strSplit path))
    (hstep : Op.onNode conv c.hostRoot (.setValue path text) = (n', none)) :
    n'.Ordered ∧ ∀ p d, p ≠ [] → n'.get p = some d →
      NodeData.Plain conv d ∧ Free base p ∧ ∀ key ∈ p, '/' ∉ key.toList := by
  obtain ⟨hinner, rfl⟩ := onNode_setValue hstep
  refine ⟨h.ordered.insertPath.modify, fun p d hp hget => ?_⟩
  rw [KeyTree.get_put hinner] at hget
  split at hget
  · next heq =>
      subst heq
      cases hget
      refine ⟨?_, hfree, fun key hkey => slash_not_mem_strSplit hkey⟩
      cases hold : c.hostRoot.get (strSplit path) with
      | none => exact NodeData.plain_setScalar (by decide) rfl htyped
      | some d =>
          obtain ⟨hplain, -⟩ := h.leaves _ d hp hold
          exact NodeData.plain_setScalar (NodeData.isScalar_ne_sequence hplain.isScalar)
            hplain.listValues htyped
  · split at hget
    · cases hget
    · exact h.leaves p d hp hget

theorem kept_of_erase {path : String} (h : Kept conv base c) (hp : strSplit path ≠ [])
    (hstep : Op.onNode conv c.hostRoot (.erase path) = (n', none)) :
    n'.Ordered ∧ ∀ p d, p ≠ [] → n'.get p = some d →
      NodeData.Plain conv d ∧ Free base p ∧ ∀ key ∈ p, '/' ∉ key.toList := by
  obtain ⟨rfl, d, hget⟩ := onNode_erase hstep
  refine ⟨h.ordered.erase, fun p d' hne hget' => ?_⟩
  rw [KeyTree.get_erase hget hp hne] at hget'
  split at hget'
  · cases hget'
  · exact h.leaves p d' hne hget'

/-- A call keeps it. -/
theorem Kept.call {call : Call} (h : Kept conv base c) (htyped : call.op.Typed conv)
    (hsurvives : call.op.Survives base) (hstep : ConfigStep conv c call c') : Kept conv base c' := by
  obtain ⟨hp, hcall⟩ := hstep
  have hatomic := YamlConfiguration.call_atomic hp htyped h.hostIn h.writes
  have hin := YamlConfiguration.hostIn_of_atomic hatomic h.hostIn
  have hfile := YamlConfiguration.call_file conv c call.op
  rw [hcall] at hatomic hin hfile
  have hwrites : c'.Writes := ⟨hfile.1 ▸ h.writes.1, hfile.2.trans h.writes.2⟩
  rcases hatomic with ⟨-, hdone⟩ | ⟨-, hunchanged⟩
  · obtain ⟨hordered, hleaves⟩ : c'.hostRoot.Ordered ∧ ∀ p d, p ≠ [] → c'.hostRoot.get p = some d →
        NodeData.Plain conv d ∧ Free base p ∧ ∀ key ∈ p, '/' ∉ key.toList := by
      obtain ⟨op, error⟩ := call
      cases op with
      | setValue path text => exact kept_of_setValue h htyped hsurvives hdone.hostRoot
      | setList path texts => cases hsurvives
      | erase path => exact kept_of_erase h hp hdone.hostRoot
    exact ⟨hordered, hleaves, hin, hwrites, c'.hostRoot, hordered, fun _ _ => rfl, hdone.hostDoc⟩
  · refine ⟨?_, ?_, hin, hwrites, ?_⟩
    · rw [hunchanged.hostRoot]
      exact h.ordered
    · rw [hunchanged.hostRoot]
      exact h.leaves
    · rw [hunchanged.hostRoot, hunchanged.hostDoc]
      exact h.written

/-- What a restart reads. -/
structure Restarted (base : YamlConfigurationNode) (c c' : YamlConfiguration) : Prop where
  hostRoot : c'.hostRoot.settings = c.hostRoot.settings
  root : c.hostRoot.settings.Included c'.root.settings
  base : ∀ p, c.hostRoot.settings p = none → ¬ c.hostRoot.settings.Blocked p →
    c'.root.settings p = base.settings p

/-- Without settings in the host file, there is nothing to add. -/
theorem restart_empty (h : Kept conv base c) (hdoc : c.hostDoc = none)
    (hnone : ∀ p, p ≠ [] → c.hostRoot.get p = none) :
    ∃ c', YamlConfiguration.readYamlConfig conv base c.hostFile c.writable c.hostDoc = .ok c' ∧
      Kept conv base c' ∧ Restarted base c c' := by
  have hsettings : c.hostRoot.settings = fun _ => none := by
    funext p
    by_cases hp : p = []
    · simp [settings, hp]
    · simp [settings_of_ne hp, hnone p hp]
  have hnew : settings .new = fun _ => none := by
    funext p
    by_cases hp : p = []
    · simp [settings, hp]
    · simp [settings_of_ne hp, get_new hp]
  refine ⟨{ c with root := base, hostRoot := .new }, ?_, ⟨KeyTree.ordered_leaf, ?_, ?_, h.writes, ?_⟩, ?_⟩
  · simp [YamlConfiguration.readYamlConfig, h.writes.1, hdoc, YamlConfiguration.readHostFile]
  · intro p d hp hget
    rw [get_new hp] at hget
    cases hget
  · intro p v hv
    simp [hnew] at hv
  · exact ⟨.new, KeyTree.ordered_leaf, fun _ _ => rfl, hdoc⟩
  · refine ⟨hnew.trans hsettings.symm, fun p v hv => ?_, fun _ _ _ => rfl⟩
    simp [hsettings] at hv

/-- What is added is set. -/
theorem included_of_added {result : YamlConfigurationNode} (h : Added n other result) :
    other.settings.Included result.settings := by
  intro p v hv
  by_cases hp : p = []
  · simp [settings, hp] at hv
  · rw [settings_of_ne hp, Option.map_eq_some_iff] at hv
    obtain ⟨d, hget, rfl⟩ := hv
    obtain ⟨d', hget', hvalue⟩ := h.added p d hget
    rw [settings_of_ne hp, hget', Option.map_some, hvalue]

/-- The rest stays set as before. -/
theorem settings_of_added {result : YamlConfigurationNode} {p : List String} (h : Added n other result)
    (hnone : other.settings p = none) (hblocked : ¬ other.settings.Blocked p) :
    result.settings p = n.settings p := by
  by_cases hp : p = []
  · simp [settings, hp]
  · rw [blocked_iff hp] at hblocked
    rw [settings_of_ne hp, Option.map_eq_none_iff] at hnone
    rw [settings_of_ne hp, settings_of_ne hp, h.kept p hnone hblocked]

theorem addable_reread (hn : n.Ordered) (hchildren : n.hasChildren = true)
    (hleaves : ∀ p d, p ≠ [] → n.get p = some d → NodeData.Plain conv d ∧ "root" ∉ p) :
    Addable conv (reread n) := by
  have hleaf : ∀ p d, (reread n).get p = some d → NodeData.Plain conv d ∧ "root" ∉ p := by
    intro p d hget
    rw [get_reread] at hget
    refine hleaves p d ?_ hget
    rintro rfl
    simp [KeyTree.get_nil, hchildren] at hget
  refine ⟨ordered_reread hn, fun p d h => (hleaf p d h).1, ?_, fun p d h => (hleaf p d h).2⟩
  intro p m hfind hm
  rw [find_reread, Option.map_eq_some_iff] at hfind
  obtain ⟨m, -, rfl⟩ := hfind
  rw [data_reread (by rwa [hasChildren_reread] at hm)]
  rfl

/-- The host file is read, and added to the other files. -/
theorem restart_written {w : YamlConfigurationNode} (h : Kept conv base c) (hw : w.Ordered)
    (hsame : ∀ p, p ≠ [] → w.get p = c.hostRoot.get p) (hchildren : w.hasChildren = true)
    (hdoc : c.hostDoc = some (emit w)) :
    ∃ c', YamlConfiguration.readYamlConfig conv base c.hostFile c.writable c.hostDoc = .ok c' ∧
      Kept conv base c' ∧ Restarted base c c' := by
  have hleaves : ∀ p d, p ≠ [] → w.get p = some d →
      NodeData.Plain conv d ∧ Free base p ∧ ∀ key ∈ p, '/' ∉ key.toList := by
    intro p d hp hget
    rw [hsame p hp] at hget
    exact h.leaves p d hp hget
  have hread : YamlConfiguration.readHostFile conv c.hostDoc = .ok (some (reread w)) := by
    have hwritten : Written conv w := fun p d hp hget =>
      ⟨(hleaves p d hp hget).1, (hleaves p d hp hget).2.2⟩
    rw [hdoc, YamlConfiguration.readHostFile, readConfigDoc_emit hw hwritten hchildren rfl]
    rfl
  have haddable : Addable conv (reread w) := addable_reread hw hchildren fun p d hp hget =>
    ⟨(hleaves p d hp hget).1, (hleaves p d hp hget).2.1.keys⟩
  have hopen : ∀ p d, (reread w).get p = some d → Open base p := by
    intro p d hget
    rw [get_reread] at hget
    refine (hleaves p d ?_ hget).2.1.isOpen
    rintro rfl
    simp [KeyTree.get_nil, hchildren] at hget
  obtain ⟨root, hroot, hadded⟩ := addTo_added (n := base) "root" (reread w) haddable hopen
  have hsettings : (reread w).settings = c.hostRoot.settings := by
    funext p
    by_cases hp : p = []
    · simp [settings, hp]
    · rw [settings_of_ne hp, settings_of_ne hp, get_reread, hsame p hp]
  have hin : (reread w).settings.Included root.settings := included_of_added hadded
  refine ⟨{ c with root, hostRoot := reread w }, ?_, ⟨?_, ?_, hin, h.writes, ?_⟩, hsettings, ?_, ?_⟩
  · simp [YamlConfiguration.readYamlConfig, h.writes.1, hread, addAssign, hroot]
  · exact ordered_reread hw
  · intro p d hp hget
    rw [get_reread] at hget
    exact hleaves p d hp hget
  · exact ⟨w, hw, fun p _ => (get_reread p w).symm, by simp [hdoc, YamlConfiguration.emitted, hchildren]⟩
  · rw [← hsettings]
    exact hin
  · intro p hnone hblocked
    rw [← hsettings] at hnone hblocked
    exact settings_of_added hadded hnone hblocked

/-- The program can be restarted. -/
theorem Kept.restart (h : Kept conv base c) (hloads : c.Reloads loads) :
    ∃ c', ProgramStep conv loads base c .restart c' ∧ Kept conv base c' ∧ Restarted base c c' := by
  obtain ⟨w, hw, hsame, hdoc⟩ := h.written
  rw [YamlConfiguration.emitted] at hdoc
  rw [YamlConfiguration.Reloads] at hloads
  simp only [ProgramStep, hloads]
  cases hchildren : w.hasChildren with
  | true => exact restart_written h hw hsame hchildren (by simpa [hchildren] using hdoc)
  | false =>
      refine restart_empty h (by simpa [hchildren] using hdoc) fun p hp => ?_
      rw [← hsame p hp, KeyTree.hasChildren_eq_false.mp hchildren]
      exact KeyTree.get_leaf hp

/-- The first start, without a host file. -/
theorem kept_init {hostFile : String} (hfile : hostFile ≠ "") :
    Kept conv base { root := base, hostRoot := .new, hostFile } where
  ordered := KeyTree.ordered_leaf
  leaves p d hp hget := by
    rw [get_new hp] at hget
    cases hget
  hostIn p v hv := by
    by_cases hp : p = []
    · simp [settings, hp] at hv
    · simp [settings_of_ne hp, get_new hp] at hv
  writes := ⟨hfile, rfl⟩
  written := ⟨.new, KeyTree.ordered_leaf, fun _ _ => rfl, rfl⟩

end

theorem open_cons {d : NodeData} {children : List (String × YamlConfigurationNode)} {key : String}
    {p : List String} (hd : d.isScalar = false)
    (h : ∀ c, SortedMap.get key children = some c → Open c p) :
    Open (.node d children) (key :: p) where
  above q m hpre hne hfind := by
    cases q with
    | nil =>
        cases hfind
        exact hd
    | cons key' q =>
        obtain ⟨rfl, htail⟩ := List.cons_prefix_cons.mp hpre
        obtain ⟨c, hk, hfind⟩ := Option.bind_eq_some_iff.mp hfind
        exact (h c hk).above q m htail (by simpa using hne) hfind
  scalar m hfind := by
    obtain ⟨c, hk, hfind⟩ := Option.bind_eq_some_iff.mp hfind
    exact (h c hk).scalar m hfind

/-- The other files have a number at "/a/b". -/
def filesWithNumber : YamlConfigurationNode :=
  .node { type := .map } [("a", .node { type := .map }
    [("b", .leaf { type := .uint32, scalarValue := "1" })])]

theorem free_filesWithNumber : Free filesWithNumber (strSplit "/a/b") := by
  rw [show strSplit "/a/b" = ["a", "b"] by decide +kernel]
  refine ⟨open_cons rfl ?_, by decide⟩
  rintro a ha
  cases ha
  apply open_cons rfl
  rintro b hb
  cases hb
  constructor
  · intro q m hpre hne
    exact absurd (List.prefix_nil.mp hpre) hne
  · rintro m hm
    cases hm
    exact ⟨rfl, rfl⟩

end FactoryHub.Config
