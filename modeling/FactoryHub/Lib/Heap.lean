import Mathlib.Data.List.Nodup

/-!
# Objects under names

The live objects of a system that makes and deletes them. A name is given to one object only, also
after that object is gone, so that a name stands for the same object throughout a run.

* `Heap.mem_make`, `Heap.mem_unmake`, `Heap.mem_map` — what is live after each operation.
* `Heap.eq_of_mem`, `Heap.get?_eq_some_iff` — a name stands for one object.
-/

namespace FactoryHub.Lib

/-- The live objects with their names, and the name of the next one. -/
structure Heap (α : Type) where
  next : ℕ
  live : List (ℕ × α)
  name_lt : ∀ o ∈ live, o.1 < next
  nodup : (live.map Prod.fst).Nodup

namespace Heap

variable {α : Type} {h : Heap α} {n : ℕ} {a b : α} {o : ℕ × α}

/-- No objects, and no names given yet. -/
def empty : Heap α where
  next := 0
  live := []
  name_lt := by simp
  nodup := by simp

/-- Make an object under the next name. -/
def make (a : α) (h : Heap α) : Heap α where
  next := h.next + 1
  live := (h.next, a) :: h.live
  name_lt := by
    intro o ho
    rcases List.mem_cons.mp ho with rfl | ho
    · exact Nat.lt_succ_self _
    · exact Nat.lt_succ_of_lt (h.name_lt o ho)
  nodup := by
    rw [List.map_cons, List.nodup_cons]
    refine ⟨?_, h.nodup⟩
    intro hmem
    obtain ⟨o, ho, heq⟩ := List.mem_map.mp hmem
    exact absurd heq (Nat.ne_of_lt (h.name_lt o ho))

/-- Delete the object of a name, if there is one. -/
def unmake (n : ℕ) (h : Heap α) : Heap α where
  next := h.next
  live := h.live.filter fun o => o.1 ≠ n
  name_lt := fun o ho => h.name_lt o (List.mem_of_mem_filter ho)
  nodup := h.nodup.sublist ((List.filter_sublist).map _)

/-- The object of a name. -/
def get? (n : ℕ) (h : Heap α) : Option α := (h.live.find? fun o => o.1 = n).map Prod.snd

/-- Change all objects. -/
def map (f : ℕ → α → α) (h : Heap α) : Heap α where
  next := h.next
  live := h.live.map fun o => (o.1, f o.1 o.2)
  name_lt := by
    intro o ho
    obtain ⟨o, hmem, rfl⟩ := List.mem_map.mp ho
    exact h.name_lt o hmem
  nodup := by
    rw [List.map_map]
    exact h.nodup

@[simp] theorem next_make : (h.make a).next = h.next + 1 := rfl

@[simp] theorem next_unmake : (h.unmake n).next = h.next := rfl

@[simp] theorem next_map {f : ℕ → α → α} : (h.map f).next = h.next := rfl

@[simp] theorem mem_make : o ∈ (h.make a).live ↔ o = (h.next, a) ∨ o ∈ h.live := List.mem_cons

@[simp] theorem mem_unmake : o ∈ (h.unmake n).live ↔ o ∈ h.live ∧ o.1 ≠ n := by
  simp [unmake]

@[simp] theorem mem_map {f : ℕ → α → α} :
    o ∈ (h.map f).live ↔ ∃ a, (o.1, a) ∈ h.live ∧ f o.1 a = o.2 := by
  constructor
  · intro ho
    obtain ⟨⟨n, a⟩, hmem, rfl⟩ := List.mem_map.mp ho
    exact ⟨a, hmem, rfl⟩
  · rintro ⟨a, hmem, heq⟩
    exact List.mem_map.mpr ⟨(o.1, a), hmem, by rw [heq]⟩

theorem eq_of_mem (ha : (n, a) ∈ h.live) (hb : (n, b) ∈ h.live) : a = b := by
  have heq : ((n, a) : ℕ × α) = (n, b) := List.inj_on_of_nodup_map h.nodup ha hb rfl
  exact (Prod.mk.inj heq).2

theorem get?_eq_some_iff : h.get? n = some a ↔ (n, a) ∈ h.live := by
  have hmem : ∀ o ∈ h.live.find? fun o => o.1 = n, (n, o.2) ∈ h.live := by
    intro o ho
    have hname : o.1 = n := by simpa using List.find?_some ho
    exact hname ▸ List.mem_of_find?_eq_some ho
  constructor
  · intro hget
    obtain ⟨o, ho, rfl⟩ := Option.map_eq_some_iff.mp hget
    exact hmem o ho
  · intro ha
    unfold get?
    cases hfind : h.live.find? fun o => o.1 = n with
    | none =>
        have hne := List.find?_eq_none.mp hfind (n, a) ha
        exact absurd (decide_eq_true rfl) hne
    | some o => rw [Option.map_some, eq_of_mem (hmem o hfind) ha]

end Heap

end FactoryHub.Lib
