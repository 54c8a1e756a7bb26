import Mathlib.Data.List.Nodup

/-!
# The first of each key

A list of items, each with a key, of which only the first one with a key counts. A loop that notes
the keys it has seen computes this list piece by piece (`firsts_append`).

* `filter_firsts` — what is left of one key is the first item with it, if it was not seen before.
-/

namespace FactoryHub.Lib

variable {α κ : Type} [DecidableEq κ] {key : α → κ}

/-- The items whose key was not seen before. -/
def firsts (key : α → κ) : List κ → List α → List α
  | _, [] => []
  | seen, x :: xs =>
      if key x ∈ seen then firsts key seen xs else x :: firsts key (seen ++ [key x]) xs

@[simp] theorem firsts_nil (seen : List κ) : firsts key seen [] = [] := rfl

theorem firsts_cons_of_mem {seen : List κ} {x : α} {xs : List α} (h : key x ∈ seen) :
    firsts key seen (x :: xs) = firsts key seen xs := if_pos h

theorem firsts_cons_of_notMem {seen : List κ} {x : α} {xs : List α} (h : key x ∉ seen) :
    firsts key seen (x :: xs) = x :: firsts key (seen ++ [key x]) xs := if_neg h

theorem firsts_sublist (seen : List κ) (xs : List α) : (firsts key seen xs).Sublist xs := by
  induction xs generalizing seen with
  | nil => exact List.Sublist.refl _
  | cons x xs ih =>
      by_cases hx : key x ∈ seen
      · rw [firsts_cons_of_mem hx]
        exact (ih seen).cons x
      · rw [firsts_cons_of_notMem hx]
        exact (ih _).cons_cons x

/-- After some items, what is still to come counts against their keys as well. -/
theorem firsts_append (seen : List κ) (xs ys : List α) :
    firsts key seen (xs ++ ys) =
      firsts key seen xs ++ firsts key (seen ++ (firsts key seen xs).map key) ys := by
  induction xs generalizing seen with
  | nil => simp
  | cons x xs ih =>
      by_cases hx : key x ∈ seen
      · rw [List.cons_append, firsts_cons_of_mem hx, firsts_cons_of_mem hx, ih]
      · rw [List.cons_append, firsts_cons_of_notMem hx, firsts_cons_of_notMem hx, ih]
        simp

/-- The keys that are noted in the end. -/
theorem mem_keys_firsts {seen : List κ} {xs : List α} {k : κ} :
    k ∈ seen ++ (firsts key seen xs).map key ↔ k ∈ seen ∨ k ∈ xs.map key := by
  induction xs generalizing seen with
  | nil => simp
  | cons x xs ih =>
      by_cases hx : key x ∈ seen
      · rw [firsts_cons_of_mem hx, ih]
        grind
      · have hrest := @ih (seen ++ [key x])
        rw [firsts_cons_of_notMem hx]
        grind

theorem filter_firsts_of_mem {seen : List κ} {k : κ} (h : k ∈ seen) (xs : List α) :
    (firsts key seen xs).filter (fun x => key x = k) = [] := by
  induction xs generalizing seen with
  | nil => rfl
  | cons x xs ih =>
      by_cases hx : key x ∈ seen
      · rw [firsts_cons_of_mem hx]
        exact ih h
      · have hne : key x ≠ k := fun heq => hx (heq ▸ h)
        rw [firsts_cons_of_notMem hx, List.filter_cons_of_neg (by simpa using hne)]
        exact ih (List.mem_append_left _ h)

/-- Of each key that was not seen before, the first item is left. -/
theorem filter_firsts {seen : List κ} {k : κ} (h : k ∉ seen) (xs : List α) :
    (firsts key seen xs).filter (fun x => key x = k) =
      (xs.find? (fun x => key x = k)).toList := by
  induction xs generalizing seen with
  | nil => rfl
  | cons x xs ih =>
      by_cases hk : key x = k
      · rw [firsts_cons_of_notMem (hk ▸ h), List.filter_cons_of_pos (by simpa using hk),
          filter_firsts_of_mem (by simp [hk]), List.find?_cons_of_pos (by simpa using hk)]
        rfl
      · rw [List.find?_cons_of_neg (by simpa using hk)]
        by_cases hx : key x ∈ seen
        · rw [firsts_cons_of_mem hx]
          exact ih h
        · rw [firsts_cons_of_notMem hx, List.filter_cons_of_neg (by simpa using hk)]
          apply ih
          simp [h, Ne.symm hk]

end FactoryHub.Lib
