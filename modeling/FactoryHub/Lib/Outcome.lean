import Mathlib.Tactic.Basic

/-!
# Outcomes of computations that may fail

`Meets P E x`: the result of `x` is in `P`, or its error in `E`. The rules follow the computation.
-/

namespace FactoryHub.Lib

variable {ε α β : Type}

def Meets (P : α → Prop) (E : ε → Prop) : Except ε α → Prop
  | .ok a => P a
  | .error e => E e

namespace Meets

variable {P P' : α → Prop} {Q : β → Prop} {E : ε → Prop} {x : Except ε α}

theorem ok {a : α} (h : P a) : Meets P E (.ok a) := h

theorem error {e : ε} (h : E e) : Meets P E (.error e) := h

theorem mono (h : Meets P E x) (hP : ∀ a, P a → P' a) : Meets P' E x := by
  cases x with
  | ok a => exact hP a h
  | error e => exact h

theorem mono_error {E' : ε → Prop} (h : Meets P E x) (hE : ∀ e, E e → E' e) : Meets P E' x := by
  cases x with
  | ok a => exact h
  | error e => exact hE e h

theorem bind {f : α → Except ε β} (h : Meets P E x) (hf : ∀ a, P a → Meets Q E (f a)) :
    Meets Q E (x >>= f) := by
  cases x with
  | ok a => exact hf a h
  | error e => exact h

theorem map {f : α → β} (h : Meets P E x) (hf : ∀ a, P a → Q (f a)) : Meets Q E (f <$> x) := by
  cases x with
  | ok a => exact hf a h
  | error e => exact h

/-- What is known of a result may be used together with the fact that it is the result. -/
theorem with_eq (h : Meets P E x) : Meets (fun a => P a ∧ x = .ok a) E x := by
  cases x with
  | ok a => exact ⟨h, rfl⟩
  | error e => exact h

theorem of_eq_ok {a : α} (h : Meets P E x) (hx : x = .ok a) : P a := by
  subst hx
  exact h

theorem of_eq_error {e : ε} (h : Meets P E x) (hx : x = .error e) : E e := by
  subst hx
  exact h

end Meets

end FactoryHub.Lib
