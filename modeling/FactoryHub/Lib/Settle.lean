import Mathlib.Logic.Relation
import Mathlib.Data.Nat.Init
import Mathlib.Order.WellFounded
import Mathlib.Logic.Basic
import Mathlib.Data.List.Basic

/-!
# Rules that come to rest

Rules fire as long as one of them is enabled. A state *settles* when no sequence of firings from it
goes on for ever.

* `settles_of_measure`, `settles_of_wellFounded` — each firing decreases a measure.
* `not_settles_of_endless` — some rule can always fire again.
* `Settles.exists_rest` — firing leads to a state in which no rule is enabled.
* `Settles.not_endless` — there is no infinite sequence of firings.
-/

namespace FactoryHub.Lib

variable {σ : Type} {fires : σ → σ → Prop} {s : σ}

/-- No rule is enabled. -/
def AtRest (fires : σ → σ → Prop) (s : σ) : Prop := ∀ s', ¬ fires s s'

/-- Every sequence of firings from `s` ends. -/
def Settles (fires : σ → σ → Prop) (s : σ) : Prop := Acc (fun s' s => fires s s') s

theorem Settles.exists_rest (h : Settles fires s) :
    ∃ s', Relation.ReflTransGen fires s s' ∧ AtRest fires s' := by
  induction h with
  | intro s _ ih =>
      by_cases hrest : AtRest fires s
      · exact ⟨s, .refl, hrest⟩
      · obtain ⟨s', hfires⟩ := not_forall_not.mp hrest
        obtain ⟨s'', hpath, hrest'⟩ := ih s' hfires
        exact ⟨s'', .head hfires hpath, hrest'⟩

theorem Settles.not_endless (h : Settles fires s) :
    ¬ ∃ f : ℕ → σ, f 0 = s ∧ ∀ n, fires (f n) (f (n + 1)) := by
  induction h with
  | intro s _ ih =>
      rintro ⟨f, rfl, hfires⟩
      exact ih (f 1) (hfires 0) ⟨fun n => f (n + 1), rfl, fun n => hfires (n + 1)⟩

/-- A measure in a well-founded relation that every firing decreases. -/
theorem settles_of_wellFounded {β : Type} {r : β → β → Prop} (hwf : WellFounded r) {I : σ → Prop}
    (μ : σ → β) (hstep : ∀ s s', I s → fires s s' → I s' ∧ r (μ s') (μ s)) (h : I s) :
    Settles fires s := by
  induction hμ : μ s using hwf.induction generalizing s with
  | _ b ih =>
      subst hμ
      refine .intro s fun s' hfires => ?_
      obtain ⟨hInv, hlt⟩ := hstep s s' h hfires
      exact ih (μ s') hlt hInv rfl

/-- A measure that every firing decreases, in the states an invariant allows. -/
theorem settles_of_measure {I : σ → Prop} (μ : σ → ℕ)
    (hstep : ∀ s s', I s → fires s s' → I s' ∧ μ s' < μ s) (h : I s) : Settles fires s :=
  settles_of_wellFounded wellFounded_lt μ hstep h

/-- Where some rule is enabled again after a firing, and so on, firing never ends. -/
theorem not_settles_of_endless {P : σ → Prop} (hstep : ∀ s, P s → ∃ s', fires s s' ∧ P s')
    (h : P s) : ¬ Settles fires s := by
  intro hacc
  induction hacc with
  | intro s _ ih =>
      obtain ⟨s', hfires, hs'⟩ := hstep s h
      exact ih s' hfires hs'

end FactoryHub.Lib
