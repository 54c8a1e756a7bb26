import Mathlib.Data.List.Basic

/-!
# Loops that store to the entries of a list

A loop over `l` stores the value `v i` to entry `f i`, for those `i` that meet `c`.

* `getElem?_foldl_set_of_mem` — an entry that is stored.
* `getElem?_foldl_set_of_ne` — an entry that is not.
* `getElem?_foldl_set_of_eq` — an entry that has the value that all the others get.
-/

namespace FactoryHub.Lib

variable {ι α : Type} {f : ι → ℕ} {c : ι → Bool} {v : ι → α}

/-- The entries that nothing is stored to. -/
theorem getElem?_foldl_set_of_ne {n : ℕ} {l : List ι} (h : ∀ i ∈ l, c i = true → f i ≠ n)
    (rv : List α) :
    (l.foldl (fun rv i => if c i then rv.set (f i) (v i) else rv) rv)[n]? = rv[n]? := by
  induction l generalizing rv with
  | nil => rfl
  | cons i l ih =>
      obtain ⟨hi, hl⟩ := List.forall_mem_cons.mp h
      rw [List.foldl_cons, ih hl]
      split
      · next hc => exact List.getElem?_set_ne (hi hc)
      · rfl

/-- An entry that is stored, if no two values go to the same entry. -/
theorem getElem?_foldl_set_of_mem (hf : ∀ i j, f i = f j → i = j) {l : List ι} {i : ι} (hi : i ∈ l)
    (hc : c i = true) {rv : List α} (hlt : f i < rv.length) :
    (l.foldl (fun rv i => if c i then rv.set (f i) (v i) else rv) rv)[f i]? = some (v i) := by
  induction l generalizing rv with
  | nil => cases hi
  | cons j l ih =>
      rw [List.foldl_cons]
      by_cases hmem : i ∈ l
      · apply ih hmem
        split
        · rw [List.length_set]
          exact hlt
        · exact hlt
      · -- the last time it is stored
        obtain rfl : i = j := (List.mem_cons.mp hi).resolve_right hmem
        rw [if_pos hc, getElem?_foldl_set_of_ne, List.getElem?_set_self hlt]
        intro k hk _ heq
        exact hmem (hf k i heq ▸ hk)

/-- Where all values are the same, an entry that has it keeps it. -/
theorem getElem?_foldl_set_of_eq {n : ℕ} {a : α} {l : List ι} (hv : ∀ i, v i = a) {rv : List α}
    (hrv : rv[n]? = some a) :
    (l.foldl (fun rv i => if c i then rv.set (f i) (v i) else rv) rv)[n]? = some a := by
  induction l generalizing rv with
  | nil => exact hrv
  | cons i l ih =>
      rw [List.foldl_cons]
      apply ih
      split
      · rw [hv i, List.getElem?_set, hrv]
        have hlt : n < rv.length := (List.getElem?_eq_some_iff.mp hrv).1
        grind
      · exact hrv

theorem length_foldl_set (l : List ι) (rv : List α) :
    (l.foldl (fun rv i => if c i then rv.set (f i) (v i) else rv) rv).length = rv.length := by
  induction l generalizing rv with
  | nil => rfl
  | cons i l ih =>
      rw [List.foldl_cons, ih]
      split
      · exact List.length_set
      · rfl

end FactoryHub.Lib
