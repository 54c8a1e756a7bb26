import Mathlib.Logic.Function.Basic
import Mathlib.Data.Option.Basic

/-!
# Tables kept in both directions

Two finite tables of which each is to be the inverse of the other: what an insertion and an erasure
of a pair must find for them to stay so.

* `isSome_of_update`, `isSome_of_erase` — the entries of one table.
* `Inverse.insert`, `Inverse.erase`, `not_inverse_of_overwrite` — both tables.
* `Indexes.insert`, `Indexes.erase_iff` — a table of the names of what another one holds.
-/

namespace FactoryHub.Lib

variable {α β : Type} [DecidableEq α] [DecidableEq β]

/-! ## One table -/

section

variable {f : α → Option β} {a a' : α} {x : Option β}

omit [DecidableEq β] in
/-- An entry of an updated table is an old one or the new one. -/
theorem isSome_of_update (h : (Function.update f a x a').isSome) :
    (f a').isSome ∨ a' = a ∧ x.isSome := by
  by_cases heq : a' = a
  · subst heq
    rw [Function.update_self] at h
    exact Or.inr ⟨rfl, h⟩
  · rw [Function.update_of_ne heq] at h
    exact Or.inl h

omit [DecidableEq β] in
theorem isSome_of_erase (h : (Function.update f a none a').isSome) : (f a').isSome :=
  (isSome_of_update h).resolve_right nofun

omit [DecidableEq β] in
theorem erase_eq_none (a : α) (h : f a' = none) : Function.update f a none a' = none := by
  by_contra hne
  have hsome := isSome_of_erase (Option.isSome_iff_ne_none.mpr hne)
  exact Option.isSome_iff_ne_none.mp hsome h

end

/-! ## Both tables -/

/-- Each table is the inverse of the other. -/
def Inverse (f : α → Option β) (g : β → Option α) : Prop := ∀ a b, f a = some b ↔ g b = some a

namespace Inverse

variable {f : α → Option β} {g : β → Option α} {a a' : α} {b : β}

omit [DecidableEq α] [DecidableEq β] in
theorem eq_of_eq_some (h : Inverse f g) (ha : f a = some b) (ha' : f a' = some b) : a = a' := by
  have hg := (h a b).mp ha
  rw [(h a' b).mp ha', Option.some.injEq] at hg
  exact hg.symm

/-- A pair of which neither part is in the tables. -/
theorem insert (h : Inverse f g) (ha : f a = none) (hb : g b = none) :
    Inverse (Function.update f a (some b)) (Function.update g b (some a)) := by
  intro x y
  by_cases hx : x = a <;> by_cases hy : y = b
  · subst hx hy
    simp
  · subst hx
    have hne : g y ≠ some x := fun hg => by
      rw [(h x y).mpr hg] at ha
      cases ha
    simp [hy, Ne.symm hy, hne]
  · subst hy
    have hne : f x ≠ some y := fun hf => by
      rw [(h x y).mp hf] at hb
      cases hb
    simp [hx, Ne.symm hx, hne]
  · simp only [Function.update_of_ne hx, Function.update_of_ne hy]
    exact h x y

/-- A pair that is in the tables. -/
theorem erase (h : Inverse f g) (hab : f a = some b) :
    Inverse (Function.update f a none) (Function.update g b none) := by
  intro x y
  by_cases hx : x = a <;> by_cases hy : y = b
  · subst hx hy
    simp
  · subst hx
    have hne : g y ≠ some x := fun hg => by
      rw [(h x y).mpr hg, Option.some.injEq] at hab
      exact hy hab
    simp [hy, hne]
  · subst hy
    have hne : f x ≠ some y := fun hf => hx (h.eq_of_eq_some hf hab)
    simp [hx, hne]
  · simp only [Function.update_of_ne hx, Function.update_of_ne hy]
    exact h x y

end Inverse

/-- A second pair with the same right part breaks the inverse. -/
theorem not_inverse_of_overwrite {f : α → Option β} {g : β → Option α} {a a' : α} {b : β}
    (ha : f a = some b) (hne : a ≠ a') :
    ¬ Inverse (Function.update f a' (some b)) (Function.update g b (some a')) := by
  intro h
  have hf : Function.update f a' (some b) a = some b := by rw [Function.update_of_ne hne, ha]
  have hf' : Function.update f a' (some b) a' = some b := Function.update_self ..
  exact hne (h.eq_of_eq_some hf hf')

/-! ## A table of names -/

section

variable {γ δ : Type} {f : α → Option γ} {name : γ → β} {g : β → Option δ} {a : α} {x : γ}

/-- The second table has the names of what the first one holds. -/
def Indexes (f : α → Option γ) (name : γ → β) (g : β → Option δ) : Prop :=
  ∀ b, (g b).isSome ↔ ∃ a x, f a = some x ∧ name x = b

/-- A new entry, whose name may be there already. -/
theorem Indexes.insert (h : Indexes f name g) (ha : f a = none) (x : γ) (y : δ) :
    Indexes (Function.update f a (some x)) name (Function.update g (name x) (some y)) := by
  intro b
  by_cases hb : b = name x
  · subst hb
    simp only [Function.update_self, Option.isSome_some, true_iff]
    exact ⟨a, x, Function.update_self .., rfl⟩
  · rw [Function.update_of_ne hb, h b]
    constructor
    · rintro ⟨a', x', ha', rfl⟩
      have hne : a' ≠ a := by
        rintro rfl
        rw [ha] at ha'
        cases ha'
      exact ⟨a', x', by rw [Function.update_of_ne hne, ha'], rfl⟩
    · rintro ⟨a', x', ha', rfl⟩
      by_cases heq : a' = a
      · subst heq
        rw [Function.update_self, Option.some.injEq] at ha'
        subst ha'
        exact absurd rfl hb
      · rw [Function.update_of_ne heq] at ha'
        exact ⟨a', x', ha', rfl⟩

/-- The name of an entry can go with the entry if no other entry has it. -/
theorem Indexes.erase_iff (h : Indexes f name g) (ha : f a = some x) :
    Indexes (Function.update f a none) name (Function.update g (name x) none) ↔
      ∀ a' x', a' ≠ a → f a' = some x' → name x' ≠ name x := by
  constructor
  · intro h' a' x' hne ha' heq
    have hsome := (h' (name x)).mpr ⟨a', x', by rw [Function.update_of_ne hne, ha'], heq⟩
    rw [Function.update_self] at hsome
    cases hsome
  · intro hother b
    by_cases hb : b = name x
    · subst hb
      simp only [Function.update_self, Option.isSome_none, Bool.false_eq_true, false_iff]
      rintro ⟨a', x', ha', heq⟩
      by_cases hne : a' = a
      · subst hne
        rw [Function.update_self] at ha'
        cases ha'
      · rw [Function.update_of_ne hne] at ha'
        exact hother a' x' hne ha' heq
    · rw [Function.update_of_ne hb, h b]
      constructor
      · rintro ⟨a', x', ha', rfl⟩
        have hne : a' ≠ a := by
          rintro rfl
          rw [ha, Option.some.injEq] at ha'
          subst ha'
          exact hb rfl
        exact ⟨a', x', by rw [Function.update_of_ne hne, ha'], rfl⟩
      · rintro ⟨a', x', ha', rfl⟩
        have hne : a' ≠ a := by
          rintro rfl
          rw [Function.update_self] at ha'
          cases ha'
        rw [Function.update_of_ne hne] at ha'
        exact ⟨a', x', ha', rfl⟩

end

end FactoryHub.Lib
