import FactoryHub.Lib.SortedMap
import Mathlib.Data.List.Infix

/-!
# Trees of sorted maps

A tree whose nodes have data and a map of children. What is stored is the data of the leaves, under the
paths that lead to them: no path to a leaf goes on to another.

* `KeyTree.leaf_put`, `KeyTree.leaf_erase` — what is stored after a leaf was put or erased.
* `KeyTree.mem_leaves_of_get` — what is stored is listed among the leaves.
-/

namespace FactoryHub.Lib

inductive KeyTree (κ δ : Type) where
  | node (data : δ) (children : List (κ × KeyTree κ δ))

namespace KeyTree

variable {κ δ : Type}

def data : KeyTree κ δ → δ
  | .node d _ => d

def children : KeyTree κ δ → List (κ × KeyTree κ δ)
  | .node _ cs => cs

def hasChildren (t : KeyTree κ δ) : Bool := !t.children.isEmpty

def leaf (d : δ) : KeyTree κ δ := .node d []

@[elab_as_elim]
theorem induction {P : KeyTree κ δ → Prop}
    (node : ∀ d cs, (∀ c ∈ cs, P c.2) → P (.node d cs)) (t : KeyTree κ δ) : P t := by
  refine @KeyTree.rec κ δ P (fun cs => ∀ c ∈ cs, P c.2) (fun c => P c.2) ?_ ?_ ?_ ?_ t
  · exact fun d cs ih => node d cs ih
  · simp
  · exact fun c cs hc hcs => List.forall_mem_cons.mpr ⟨hc, hcs⟩
  · exact fun _ _ ih => ih

@[simp] theorem hasChildren_node_nil {d : δ} :
    (node d ([] : List (κ × KeyTree κ δ))).hasChildren = false := rfl

theorem hasChildren_eq_false {t : KeyTree κ δ} : t.hasChildren = false ↔ t = node t.data [] := by
  obtain ⟨d, cs⟩ := t
  cases cs <;> simp [hasChildren, children, data]

variable [LinearOrder κ]

/-- The node at a path. -/
def find : List κ → KeyTree κ δ → Option (KeyTree κ δ)
  | [], t => some t
  | k :: p, .node _ cs => (SortedMap.get k cs).bind (find p)

/-- The nodes of a path, made where there are none: `new` is the data of a new node, and `parent` what
becomes of the data of a node that gets a new child. -/
def insertPath (new : δ) (parent : δ → δ) : List κ → KeyTree κ δ → KeyTree κ δ
  | [], t => t
  | k :: p, .node d cs =>
      match SortedMap.get k cs with
      | some c => .node d (SortedMap.set k (insertPath new parent p c) cs)
      | none => .node (parent d) (SortedMap.set k (insertPath new parent p (.node new [])) cs)

/-- The data at a path is changed. -/
def modify (f : δ → δ) : List κ → KeyTree κ δ → KeyTree κ δ
  | [], .node d cs => .node (f d) cs
  | k :: p, .node d cs =>
      match SortedMap.get k cs with
      | some c => .node d (SortedMap.set k (modify f p c) cs)
      | none => .node d cs

/-- The node at a path goes, with the nodes above that have no children left. -/
def erase : List κ → KeyTree κ δ → KeyTree κ δ
  | [], t => t
  | k :: p, .node d cs =>
      match SortedMap.get k cs with
      | some c =>
          let c := erase p c
          if c.hasChildren then .node d (SortedMap.set k c cs) else .node d (SortedMap.del k cs)
      | none => .node d cs

/-- What is stored at a path. -/
def get (p : List κ) (t : KeyTree κ δ) : Option δ :=
  (find p t).bind fun n => if n.hasChildren then none else some n.data

/-- The data at a path is put, and the path is made. -/
def put (new : δ) (parent : δ → δ) (f : δ → δ) (p : List κ) (t : KeyTree κ δ) : KeyTree κ δ :=
  modify f p (insertPath new parent p t)

/-- Something is stored below the path. -/
def Inner (p : List κ) (t : KeyTree κ δ) : Prop := ∃ n, find p t = some n ∧ n.hasChildren = true

section

variable {new d : δ} {parent f : δ → δ} {k : κ} {p q : List κ} {t c : KeyTree κ δ}
  {cs : List (κ × KeyTree κ δ)}

@[simp] theorem hasChildren_node_set :
    (node d (SortedMap.set k c cs)).hasChildren = true := by
  simp [hasChildren, children, List.isEmpty_eq_false_iff.mpr SortedMap.set_ne_nil]

theorem hasChildren_of_get (h : SortedMap.get k cs = some c) : (node d cs).hasChildren = true := by
  cases cs with
  | nil => cases h
  | cons => rfl

@[simp] theorem find_cons :
    find (k :: p) (node d cs) = (SortedMap.get k cs).bind (find p) := rfl

@[simp] theorem get_cons : get (k :: p) (node d cs) = (SortedMap.get k cs).bind (get p) := by
  rw [get, find_cons, Option.bind_assoc]
  rfl

theorem get_nil : get [] t = if t.hasChildren then none else some t.data := rfl

@[simp] theorem get_nil_leaf : get [] (node d ([] : List (κ × KeyTree κ δ))) = some d := rfl

theorem get_leaf (hq : q ≠ []) : get q (node d ([] : List (κ × KeyTree κ δ))) = none := by
  cases q with
  | nil => exact absurd rfl hq
  | cons k q => simp

theorem find_append : find (p ++ q) t = (find p t).bind (find q) := by
  induction p generalizing t with
  | nil => rfl
  | cons k p ih =>
      obtain ⟨d, cs⟩ := t
      cases h : SortedMap.get k cs with
      | none => simp [h]
      | some c => simp [h, ih]

theorem get_append : get (p ++ q) t = (find p t).bind (get q) := by
  rw [get, find_append, Option.bind_assoc]
  rfl

/-- What is stored is stored in a leaf. -/
theorem find_of_get (h : get p t = some d) : find p t = some (leaf d) := by
  obtain ⟨n, hfind, hn⟩ := Option.bind_eq_some_iff.mp h
  rw [Option.ite_none_left_eq_some, Bool.not_eq_true, hasChildren_eq_false] at hn
  obtain ⟨hn, hd⟩ := hn
  cases hd
  rw [hfind, leaf, ← hn]

/-- No path to a leaf goes on to another. -/
theorem eq_of_isPrefix {d' : δ} (hp : get p t = some d) (hq : get q t = some d') (h : p <+: q) :
    p = q := by
  obtain ⟨r, rfl⟩ := h
  rw [get_append, find_of_get hp, Option.bind_some] at hq
  by_cases hr : r = []
  · rw [hr, List.append_nil]
  · rw [leaf, get_leaf hr] at hq
    cases hq

/-- Every node has a leaf below. -/
theorem exists_get (t : KeyTree κ δ) : ∃ p d, get p t = some d := by
  induction t using KeyTree.induction with
  | node d cs ih =>
      cases cs with
      | nil => exact ⟨[], d, rfl⟩
      | cons e cs =>
          obtain ⟨k, c⟩ := e
          obtain ⟨p, d', hget⟩ := ih (k, c) List.mem_cons_self
          exact ⟨k :: p, d', by simpa [SortedMap.get] using hget⟩

theorem inner_iff : Inner p t ↔ ∃ q d, q ≠ [] ∧ get (p ++ q) t = some d := by
  constructor
  · rintro ⟨⟨d, cs⟩, hfind, hchildren⟩
    obtain ⟨q, d', hget⟩ := exists_get (node d cs)
    refine ⟨q, d', ?_, by rw [get_append, hfind, Option.bind_some, hget]⟩
    rintro rfl
    simp [get_nil, hchildren] at hget
  · rintro ⟨q, d, hq, hget⟩
    rw [get_append] at hget
    obtain ⟨n, hfind, hn⟩ := Option.bind_eq_some_iff.mp hget
    refine ⟨n, hfind, ?_⟩
    by_contra hchildren
    rw [Bool.not_eq_true, hasChildren_eq_false] at hchildren
    rw [hchildren, get_leaf hq] at hn
    cases hn

/-! ## Putting -/

theorem put_nil : put new parent f [] (node d cs) = node (f d) cs := rfl

theorem put_cons_of_some (h : SortedMap.get k cs = some c) :
    put new parent f (k :: p) (node d cs) =
      node d (SortedMap.set k (put new parent f p c)
        (SortedMap.set k (insertPath new parent p c) cs)) := by
  simp [put, insertPath, modify, h, SortedMap.get_set_self]

theorem put_cons_of_none (h : SortedMap.get k cs = none) :
    put new parent f (k :: p) (node d cs) =
      node (parent d) (SortedMap.set k (put new parent f p (leaf new))
        (SortedMap.set k (insertPath new parent p (leaf new)) cs)) := by
  simp [put, insertPath, modify, h, SortedMap.get_set_self, leaf]

theorem inner_cons (h : SortedMap.get k cs = some c) :
    Inner (k :: p) (node d cs) ↔ Inner p c := by
  simp [Inner, h]

theorem not_inner_leaf : ¬ Inner p (leaf d : KeyTree κ δ) := by
  rintro ⟨n, hfind, hchildren⟩
  cases p with
  | nil =>
      cases hfind
      cases hchildren
  | cons k p => simp [leaf] at hfind

/-- What is stored after the data at a path was put: nothing is stored on the way to it any more. -/
theorem get_put (h : ¬ Inner p t) (q : List κ) :
    get q (put new parent f p t) =
      if q = p then some (f ((get p t).getD new)) else if q <+: p then none else get q t := by
  induction p generalizing t q with
  | nil =>
      have hchildren : t.hasChildren = false := by simpa [Inner, find] using h
      rw [hasChildren_eq_false] at hchildren
      rw [hchildren, put_nil]
      by_cases hq : q = []
      · simp [hq]
      · simp [hq, get_leaf hq]
  | cons k p ih =>
      obtain ⟨d, cs⟩ := t
      cases q with
      | nil =>
          cases hk : SortedMap.get k cs with
          | none => simp [put_cons_of_none hk, get_nil]
          | some c => simp [put_cons_of_some hk, get_nil]
      | cons k' q =>
          cases hk : SortedMap.get k cs with
          | none =>
              rw [put_cons_of_none hk, get_cons]
              by_cases hkk : k = k'
              · subst hkk
                have hleaf := ih (not_inner_leaf (d := new)) q
                have hdata : (get p (leaf new : KeyTree κ δ)).getD new = new := by
                  cases p <;> simp [leaf, get_nil, data]
                rw [SortedMap.get_set_self, Option.bind_some, hleaf, hdata]
                simp only [get_cons, hk, Option.bind_none, Option.getD_none, List.cons.injEq, true_and,
                  List.cons_prefix_cons]
                split
                · rfl
                · next hne =>
                    split
                    · rfl
                    · next hpre =>
                        refine get_leaf ?_
                        rintro rfl
                        exact hpre List.nil_prefix
              · rw [SortedMap.get_set_of_ne hkk, SortedMap.get_set_of_ne hkk, get_cons]
                simp [Ne.symm hkk]
          | some c =>
              rw [put_cons_of_some hk, get_cons]
              by_cases hkk : k = k'
              · subst hkk
                rw [SortedMap.get_set_self, Option.bind_some, ih (by rwa [inner_cons hk] at h) q]
                simp [hk]
              · rw [SortedMap.get_set_of_ne hkk, SortedMap.get_set_of_ne hkk, get_cons]
                simp [Ne.symm hkk]

/-- The node of a path that was made. -/
theorem find_insertPath (p : List κ) (t : KeyTree κ δ) :
    find p (insertPath new parent p t) = some ((find p t).getD (leaf new)) := by
  induction p generalizing t with
  | nil => rfl
  | cons k p ih =>
      obtain ⟨d, cs⟩ := t
      cases hk : SortedMap.get k cs with
      | none =>
          have hleaf : (find p (leaf new : KeyTree κ δ)).getD (leaf new) = leaf new := by
            cases p <;> simp [leaf, find]
          simp only [insertPath, hk, find_cons, SortedMap.get_set_self, Option.bind_some]
          exact (ih (leaf new)).trans (by rw [hleaf]; rfl)
      | some c => simp [insertPath, hk, SortedMap.get_set_self, ih]

/-- A path that is there already is not made again. -/
theorem get_insertPath (h : (find p t).isSome = true) (q : List κ) :
    get q (insertPath new parent p t) = get q t := by
  induction p generalizing t q with
  | nil => rfl
  | cons k p ih =>
      obtain ⟨d, cs⟩ := t
      cases hk : SortedMap.get k cs with
      | none => simp [hk] at h
      | some c =>
          rw [find_cons, hk, Option.bind_some] at h
          rw [insertPath, hk]
          cases q with
          | nil => simp [get_nil, hasChildren_of_get hk]
          | cons k' q =>
              by_cases hkk : k = k'
              · subst hkk
                simp [SortedMap.get_set_self, hk, ih h q]
              · simp [SortedMap.get_set_of_ne hkk]

/-! ## Erasing -/

theorem erase_cons (h : SortedMap.get k cs = some c) :
    erase (k :: p) (node d cs) =
      if (erase p c).hasChildren then node d (SortedMap.set k (erase p c) cs)
      else node d (SortedMap.del k cs) := by
  simp [erase, h]

/-- What is stored in a child that stays only when it has children left. -/
theorem get_erase_child (h : get p c = some d)
    (ih : p ≠ [] → ∀ q, q ≠ [] → get q (erase p c) = if q = p then none else get q c) (q : List κ) :
    (if (erase p c).hasChildren then get q (erase p c) else none) =
      if q = p then none else get q c := by
  by_cases hp : p = []
  · subst hp
    have hfind := find_of_get h
    cases hfind
    by_cases hq : q = []
    · simp [hq, erase, leaf]
    · simp [hq, erase, leaf, get_leaf hq]
  · by_cases hq : q = []
    · -- the child has children
      have hchildren : c.hasChildren = true := by
        obtain ⟨n, hfind, hn⟩ : Inner [] c := inner_iff.mpr ⟨p, d, hp, h⟩
        cases hfind
        exact hn
      subst hq
      rw [if_neg (Ne.symm hp), get_nil, get_nil, hchildren]
      split <;> simp_all
    · rw [← ih hp q hq]
      split
      · rfl
      · next hchildren =>
          rw [Bool.not_eq_true, hasChildren_eq_false] at hchildren
          rw [hchildren, get_leaf hq]

/-- What is stored after a leaf was erased. -/
theorem get_erase (h : get p t = some d) (hp : p ≠ []) {q : List κ} (hq : q ≠ []) :
    get q (erase p t) = if q = p then none else get q t := by
  induction p generalizing t q with
  | nil => exact absurd rfl hp
  | cons k p ih =>
      obtain ⟨d', cs⟩ := t
      cases q with
      | nil => exact absurd rfl hq
      | cons k' q =>
          rw [get_cons] at h
          obtain ⟨c, hk, hget⟩ := Option.bind_eq_some_iff.mp h
          rw [erase_cons hk]
          by_cases hkk : k = k'
          · subst hkk
            have hchild := get_erase_child hget (fun hp q hq => ih hget hp hq) q
            simp only [List.cons.injEq, true_and, get_cons, hk, Option.bind_some, ← hchild]
            split
            · rw [get_cons, SortedMap.get_set_self, Option.bind_some]
            · rw [get_cons, SortedMap.get_del, if_pos rfl, Option.bind_none]
          · split
            · simp [SortedMap.get_set_of_ne hkk, Ne.symm hkk]
            · simp [SortedMap.get_del, hkk, Ne.symm hkk]

end

/-! ## Listing -/

/-- The entries of every node are in the order of the keys. -/
inductive Ordered : KeyTree κ δ → Prop
  | mk {d : δ} {cs : List (κ × KeyTree κ δ)} :
      SortedMap.Sorted cs → (∀ c ∈ cs, Ordered c.2) → Ordered (node d cs)

mutual

/-- The leaves below a node. -/
def leaves : KeyTree κ δ → List (List κ × δ)
  | .node _ cs => childLeaves cs

def childLeaves : List (κ × KeyTree κ δ) → List (List κ × δ)
  | [] => []
  | (k, c) :: cs =>
      (if c.hasChildren then (leaves c).map fun e => (k :: e.1, e.2) else [([k], c.data)]) ++
        childLeaves cs

end

section

variable {new d : δ} {parent f : δ → δ} {k : κ} {p : List κ} {t c : KeyTree κ δ}
  {cs : List (κ × KeyTree κ δ)}

theorem Ordered.child (h : Ordered (node d cs)) (hk : SortedMap.get k cs = some c) : c.Ordered := by
  obtain ⟨-, hcs⟩ := h
  exact hcs _ (SortedMap.mem_of_get hk)

theorem ordered_leaf : Ordered (leaf d : KeyTree κ δ) :=
  .mk List.Pairwise.nil fun _ hc => absurd hc List.not_mem_nil

/-- One child is set. -/
theorem Ordered.set {d' : δ} (h : Ordered (node d cs)) (hc : c.Ordered) :
    Ordered (node d' (SortedMap.set k c cs)) := by
  obtain ⟨hsorted, hcs⟩ := h
  refine .mk hsorted.set ?_
  rintro ⟨k', c'⟩ hmem
  rcases SortedMap.mem_set hmem with heq | hmem
  · cases heq
    exact hc
  · exact hcs _ hmem

theorem Ordered.insertPath (h : t.Ordered) : (insertPath new parent p t).Ordered := by
  induction p generalizing t with
  | nil => exact h
  | cons k p ih =>
      obtain ⟨d, cs⟩ := t
      rw [KeyTree.insertPath]
      split
      · next c hk => exact h.set (ih (h.child hk))
      · exact h.set (ih ordered_leaf)

theorem Ordered.modify (h : t.Ordered) : (modify f p t).Ordered := by
  induction p generalizing t with
  | nil =>
      obtain ⟨d, cs⟩ := t
      obtain ⟨hsorted, hcs⟩ := h
      exact .mk hsorted hcs
  | cons k p ih =>
      obtain ⟨d, cs⟩ := t
      rw [KeyTree.modify]
      split
      · next c hk => exact h.set (ih (h.child hk))
      · exact h

theorem Ordered.erase (h : t.Ordered) : (erase p t).Ordered := by
  induction p generalizing t with
  | nil => exact h
  | cons k p ih =>
      obtain ⟨d, cs⟩ := t
      rw [KeyTree.erase]
      split
      · next c hk =>
          dsimp only
          split
          · exact h.set (ih (h.child hk))
          · obtain ⟨hsorted, hcs⟩ := h
            exact .mk hsorted.del fun e he => hcs e (List.mem_filter.mp he).1
      · exact h

omit [LinearOrder κ] in
theorem mem_childLeaves :
    (p, d) ∈ childLeaves cs ↔ ∃ k c, (k, c) ∈ cs ∧
      (c.hasChildren = true ∧ (∃ q, (q, d) ∈ leaves c ∧ p = k :: q) ∨
        c.hasChildren = false ∧ d = c.data ∧ p = [k]) := by
  induction cs with
  | nil => simp [childLeaves]
  | cons e cs ih =>
      obtain ⟨k, c⟩ := e
      rw [childLeaves, List.mem_append, ih]
      constructor
      · rintro (h | ⟨k', c', hmem, h⟩)
        · refine ⟨k, c, List.mem_cons_self, ?_⟩
          split at h
          · next hchildren =>
              obtain ⟨⟨q, d'⟩, hq, heq⟩ := List.mem_map.mp h
              cases heq
              exact .inl ⟨hchildren, q, hq, rfl⟩
          · next hchildren =>
              rw [Bool.not_eq_true] at hchildren
              cases List.mem_singleton.mp h
              exact .inr ⟨hchildren, rfl, rfl⟩
        · exact ⟨k', c', List.mem_cons_of_mem _ hmem, h⟩
      · rintro ⟨k', c', hmem, h⟩
        rcases List.mem_cons.mp hmem with heq | hmem
        · cases heq
          left
          rcases h with ⟨hchildren, q, hq, rfl⟩ | ⟨hchildren, rfl, rfl⟩
          · rw [if_pos hchildren]
            exact List.mem_map_of_mem hq
          · simp [hchildren]
        · exact .inr ⟨k', c', hmem, h⟩

/-- What is stored is listed. -/
theorem mem_leaves_of_get (hp : p ≠ []) (hget : get p t = some d) : (p, d) ∈ leaves t := by
  induction t using KeyTree.induction generalizing p with
  | node d' cs ih =>
      rw [leaves, mem_childLeaves]
      cases p with
      | nil => exact absurd rfl hp
      | cons k q =>
          rw [get_cons] at hget
          obtain ⟨c, hk, hget⟩ := Option.bind_eq_some_iff.mp hget
          have hmem := SortedMap.mem_of_get hk
          refine ⟨k, c, hmem, ?_⟩
          by_cases hq : q = []
          · subst hq
            rw [get_nil, Option.ite_none_left_eq_some, Bool.not_eq_true] at hget
            obtain ⟨hchildren, hd⟩ := hget
            cases hd
            exact .inr ⟨hchildren, rfl, rfl⟩
          · have hchildren : c.hasChildren = true := by
              obtain ⟨n, hfind, hn⟩ : Inner [] c := inner_iff.mpr ⟨q, d, hq, hget⟩
              cases hfind
              exact hn
            exact .inl ⟨hchildren, q, ih _ hmem hq hget, rfl⟩

end

end KeyTree

end FactoryHub.Lib
