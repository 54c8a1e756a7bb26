import Mathlib.Data.List.Basic
import Mathlib.Order.Lattice

/-!
# Sorted maps

A map as the list of its entries, in the order of the keys.

* `SortedMap.get_set`, `SortedMap.get_del` — what is found after an entry was set or deleted.
* `SortedMap.mem_iff_get` — in a sorted map, the entries are what is found.
-/

namespace FactoryHub.Lib.SortedMap

variable {κ α : Type} [LinearOrder κ]

/-- What is found under a key. -/
def get (k : κ) : List (κ × α) → Option α
  | [] => none
  | (k', a) :: m => if k' = k then some a else get k m

/-- The entry of the key is replaced, or comes where it belongs. -/
def set (k : κ) (a : α) : List (κ × α) → List (κ × α)
  | [] => [(k, a)]
  | (k', a') :: m =>
      if k' = k then (k, a) :: m
      else if k < k' then (k, a) :: (k', a') :: m
      else (k', a') :: set k a m

def del (k : κ) (m : List (κ × α)) : List (κ × α) := m.filter fun e => e.1 ≠ k

/-- The keys ascend. -/
def Sorted (m : List (κ × α)) : Prop := m.Pairwise fun e e' => e.1 < e'.1

variable {k k' : κ} {a a' : α} {m : List (κ × α)}

@[simp] theorem get_nil : get k ([] : List (κ × α)) = none := rfl

theorem get_set : get k' (set k a m) = if k = k' then some a else get k' m := by
  induction m with
  | nil => rfl
  | cons e m ih =>
      obtain ⟨l, b⟩ := e
      rw [set]
      split
      · next heq =>
          subst heq
          by_cases h : l = k' <;> simp [get, h]
      · split
        · rw [get]
        · rw [get, ih, get]
          by_cases h : l = k'
          · subst h
            simp_all [Ne.symm]
          · simp [h]

theorem get_set_self : get k (set k a m) = some a := by rw [get_set, if_pos rfl]

theorem get_set_of_ne (h : k ≠ k') : get k' (set k a m) = get k' m := by rw [get_set, if_neg h]

theorem set_ne_nil : set k a m ≠ [] := by
  cases m with
  | nil => simp [set]
  | cons e m =>
      rw [set]
      split
      · simp
      · split <;> simp

theorem get_del : get k' (del k m) = if k = k' then none else get k' m := by
  induction m with
  | nil => simp [del]
  | cons e m ih =>
      obtain ⟨l, b⟩ := e
      by_cases hl : l = k
      · subst hl
        have hdel : del l ((l, b) :: m) = del l m := by simp [del]
        rw [hdel, ih, get]
        split <;> rfl
      · have hdel : del k ((l, b) :: m) = (l, b) :: del k m := by simp [del, hl]
        rw [hdel, get, ih, get]
        by_cases h : l = k'
        · subst h
          simp [Ne.symm hl]
        · simp [h]

theorem mem_of_get (h : get k m = some a) : (k, a) ∈ m := by
  induction m with
  | nil => cases h
  | cons e m ih =>
      obtain ⟨l, b⟩ := e
      rw [get] at h
      split at h
      · next heq =>
          subst heq
          cases h
          exact List.mem_cons_self
      · exact List.mem_cons_of_mem _ (ih h)

theorem isSome_get_iff : (get k m).isSome = true ↔ k ∈ m.map Prod.fst := by
  induction m with
  | nil => simp
  | cons e m ih =>
      obtain ⟨l, b⟩ := e
      rw [get, List.map_cons, List.mem_cons]
      by_cases h : l = k
      · simp [h]
      · rw [if_neg h, ih]
        exact (or_iff_right (Ne.symm h)).symm

theorem mem_iff_get (hm : Sorted m) : (k, a) ∈ m ↔ get k m = some a := by
  refine ⟨fun h => ?_, mem_of_get⟩
  induction m with
  | nil => cases h
  | cons e m ih =>
      obtain ⟨l, b⟩ := e
      obtain ⟨hlt, hm⟩ := List.pairwise_cons.mp hm
      rw [get]
      rcases List.mem_cons.mp h with heq | hmem
      · cases heq
        rw [if_pos rfl]
      · rw [if_neg (ne_of_lt (hlt _ hmem))]
        exact ih hm hmem

theorem mem_set (h : (k', a') ∈ set k a m) : (k', a') = (k, a) ∨ (k', a') ∈ m := by
  induction m with
  | nil => simpa [set] using h
  | cons e m ih =>
      obtain ⟨l, b⟩ := e
      rw [set] at h
      split at h
      · rcases List.mem_cons.mp h with h | h
        · exact .inl h
        · exact .inr (List.mem_cons_of_mem _ h)
      · split at h
        · exact List.mem_cons.mp h
        · rcases List.mem_cons.mp h with h | h
          · exact .inr (h ▸ List.mem_cons_self)
          · exact (ih h).imp_right (List.mem_cons_of_mem _)

theorem Sorted.set (hm : Sorted m) : Sorted (set k a m) := by
  induction m with
  | nil => exact List.pairwise_singleton _ _
  | cons e m ih =>
      obtain ⟨l, b⟩ := e
      obtain ⟨hlt, hrest⟩ := List.pairwise_cons.mp hm
      rw [SortedMap.set]
      split
      · next heq =>
          subst heq
          exact List.pairwise_cons.mpr ⟨hlt, hrest⟩
      · next hne =>
          split
          · next hkl =>
              refine List.pairwise_cons.mpr ⟨?_, hm⟩
              intro e he
              rcases List.mem_cons.mp he with rfl | he
              · exact hkl
              · exact lt_trans hkl (hlt e he)
          · next hkl =>
              refine List.pairwise_cons.mpr ⟨?_, ih hrest⟩
              rintro ⟨k', a'⟩ he
              rcases mem_set he with heq | he
              · cases heq
                exact lt_of_le_of_ne (not_lt.mp hkl) hne
              · exact hlt _ he

theorem get_map {β : Type} (f : α → β) :
    get k (m.map fun e => (e.1, f e.2)) = (get k m).map f := by
  induction m with
  | nil => rfl
  | cons e m ih =>
      rw [List.map_cons, get, get]
      split
      · rfl
      · exact ih

theorem Sorted.map {β : Type} (f : α → β) (hm : Sorted m) : Sorted (m.map fun e => (e.1, f e.2)) :=
  List.pairwise_map.mpr hm

/-- A key above the others comes last. -/
theorem set_of_lt (h : ∀ e ∈ m, e.1 < k) : set k a m = m ++ [(k, a)] := by
  induction m with
  | nil => rfl
  | cons e m ih =>
      obtain ⟨l, b⟩ := e
      obtain ⟨hl, hm⟩ := List.forall_mem_cons.mp h
      rw [set, if_neg (ne_of_lt hl), if_neg (not_lt_of_gt hl), ih hm, List.cons_append]

theorem get_of_lt (h : ∀ e ∈ m, e.1 < k) : get k m = none := by
  cases hget : get k m with
  | none => rfl
  | some a => exact absurd (h _ (mem_of_get hget)) (lt_irrefl k)

theorem Sorted.del (hm : Sorted m) : Sorted (del k m) := hm.filter _

/-- A new entry is one more. -/
theorem set_perm (h : get k m = none) : (set k a m).Perm ((k, a) :: m) := by
  induction m with
  | nil => exact .refl _
  | cons e m ih =>
      obtain ⟨l, b⟩ := e
      rw [get] at h
      rw [set]
      split at h
      · cases h
      · next hne =>
          rw [if_neg hne]
          split
          · exact .refl _
          · exact ((ih h).cons _).trans (.swap _ _ _)

/-- A deleted entry is one less. -/
theorem del_perm (hm : Sorted m) (h : get k m = some a) : m.Perm ((k, a) :: del k m) := by
  induction m with
  | nil => cases h
  | cons e m ih =>
      obtain ⟨l, b⟩ := e
      obtain ⟨hlt, hm⟩ := List.pairwise_cons.mp hm
      rw [get] at h
      split at h
      · next heq =>
          subst heq
          cases h
          have hkeep : ∀ e ∈ m, e.1 ≠ l := fun e he => ne_of_gt (hlt e he)
          have hdel : del l ((l, a) :: m) = m := by
            simpa [del] using hkeep
          rw [hdel]
      · next hne =>
          have hdel : del k ((l, b) :: m) = (l, b) :: del k m := by simp [del, hne]
          rw [hdel]
          exact ((ih hm h).cons _).trans (.swap _ _ _)

end FactoryHub.Lib.SortedMap
