import Mathlib.Data.List.Basic

/-!
# Prefix codes

The encodings of a code without prefixes can be told apart in any concatenation, also in one that
breaks off: what is left over there is the beginning of an encoding.

* `PrefixCode.eq_of_flatMap` — whoever has decoded what could be decoded has decoded what was sent.
-/

namespace FactoryHub.Lib

variable {φ β : Type} {enc : φ → List β}

/-- No encoding is empty, and none goes on where another one ends. -/
structure PrefixCode (enc : φ → List β) : Prop where
  ne_nil : ∀ f, enc f ≠ []
  unique : ∀ {f g a b}, enc f ++ a = enc g ++ b → f = g

/-- There is no complete encoding at the front. -/
def Incomplete (enc : φ → List β) (rest : List β) : Prop := ∀ f tail, rest ≠ enc f ++ tail

theorem PrefixCode.eq_of_flatMap (h : PrefixCode enc) {fs gs : List φ} {rest : List β}
    (hrest : Incomplete enc rest) (heq : fs.flatMap enc ++ rest = gs.flatMap enc) :
    fs = gs ∧ rest = [] := by
  induction fs generalizing gs with
  | nil =>
      cases gs with
      | nil => exact ⟨rfl, heq⟩
      | cons g gs =>
          rw [List.flatMap_nil, List.nil_append, List.flatMap_cons] at heq
          exact absurd heq (hrest g _)
  | cons f fs ih =>
      rw [List.flatMap_cons, List.append_assoc] at heq
      cases gs with
      | nil =>
          rw [List.flatMap_nil] at heq
          exact absurd (List.append_eq_nil_iff.mp heq).1 (h.ne_nil f)
      | cons g gs =>
          rw [List.flatMap_cons] at heq
          obtain rfl := h.unique heq
          obtain ⟨rfl, hnil⟩ := ih (List.append_cancel_left heq)
          exact ⟨rfl, hnil⟩

end FactoryHub.Lib
