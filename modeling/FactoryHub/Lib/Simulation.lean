import FactoryHub.Lib.Run

/-!
# Simulation

One system is simulated by another when each of its steps is matched by steps of the other, none or
several of them, that show the same.

* `Run.append` — a run goes on where another ended.
* `Simulation.run` — every run is matched by a run that shows the same.
-/

namespace FactoryHub.Lib

variable {σ τ ι κ ω : Type}

/-- A run goes on where another ended. -/
theorem Run.append {step : σ → ι → σ → Prop} {s s' s'' : σ} {tr tr' : List (Step σ ι)}
    (h : Run step s tr s') (h' : Run step s' tr' s'') : Run step s (tr' ++ tr) s'' := by
  induction h' with
  | init => exact h
  | step hrun hs ih => exact ih.step hs

/-- What the steps of a record show, oldest first. -/
def shown (shows : ι → List ω) (tr : List (Step σ ι)) : List ω :=
  tr.reverse.flatMap fun t => shows t.label

section

variable {shows : ι → List ω}

@[simp] theorem shown_nil : shown shows ([] : List (Step σ ι)) = [] := rfl

@[simp] theorem shown_cons (t : Step σ ι) (tr : List (Step σ ι)) :
    shown shows (t :: tr) = shown shows tr ++ shows t.label := by
  simp [shown]

@[simp] theorem shown_append (tr tr' : List (Step σ ι)) :
    shown shows (tr' ++ tr) = shown shows tr ++ shown shows tr' := by
  simp [shown]

end

/-- From related states, each step of the first system is matched by a run of the second one that
shows the same and leads to related states again. -/
structure Simulation (R : σ → τ → Prop) (step₁ : σ → ι → σ → Prop) (step₂ : τ → κ → τ → Prop)
    (shows₁ : ι → List ω) (shows₂ : κ → List ω) : Prop where
  step : ∀ {s t i s'}, R s t → step₁ s i s' →
    ∃ tr t', Run step₂ t tr t' ∧ R s' t' ∧ shown shows₂ tr = shows₁ i

/-- Every run is matched by a run that shows the same. -/
theorem Simulation.run {R : σ → τ → Prop} {step₁ : σ → ι → σ → Prop} {step₂ : τ → κ → τ → Prop}
    {shows₁ : ι → List ω} {shows₂ : κ → List ω} (h : Simulation R step₁ step₂ shows₁ shows₂)
    {s s' : σ} {t : τ} {tr : List (Step σ ι)} (hR : R s t) (hrun : Run step₁ s tr s') :
    ∃ tr' t', Run step₂ t tr' t' ∧ R s' t' ∧ shown shows₂ tr' = shown shows₁ tr := by
  induction hrun with
  | init => exact ⟨[], t, .init, hR, rfl⟩
  | step _ hs ih =>
      obtain ⟨tr₁, t₁, hrun₁, hR₁, hshown₁⟩ := ih
      obtain ⟨tr₂, t₂, hrun₂, hR₂, hshown₂⟩ := h.step hR₁ hs
      refine ⟨tr₂ ++ tr₁, t₂, hrun₁.append hrun₂, hR₂, ?_⟩
      rw [shown_append, shown_cons, hshown₁, hshown₂]

end FactoryHub.Lib
