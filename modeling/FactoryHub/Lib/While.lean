import FactoryHub.Lib.Triple

/-!
# Loops with a condition

`whileLoop cond body fuel v` runs the body as long as the condition holds of its variables, for at
most `fuel` rounds.

* `Triple.whileLoop` — with an invariant and a measure that each round decreases, the loop ends, and
  it ends when the condition fails.
-/

namespace FactoryHub.Lib

variable {σ β : Type}

/-- The variables when the loop ends, or `none` when it has not ended after `fuel` rounds. -/
def whileLoop (cond : β → Prop) [DecidablePred cond] (body : β → StateM σ β) :
    ℕ → β → StateM σ (Option β)
  | 0, v => if cond v then pure none else pure (some v)
  | fuel + 1, v =>
      if cond v then do
        let v ← body v
        whileLoop cond body fuel v
      else pure (some v)

theorem Triple.whileLoop {I : β → σ → Prop} {cond : β → Prop} [DecidablePred cond]
    {body : β → StateM σ β} (μ : β → ℕ)
    (h : ∀ v, cond v → Triple (I v) (body v) fun v' s => μ v' < μ v ∧ I v' s) {fuel : ℕ} {v : β}
    (hfuel : μ v ≤ fuel) :
    Triple (I v) (whileLoop cond body fuel v) fun r s =>
      ∃ v', r = some v' ∧ ¬ cond v' ∧ I v' s := by
  induction fuel generalizing v with
  | zero =>
      unfold Lib.whileLoop
      split
      · next hcond =>
          -- no round can decrease the measure any more
          intro s hs
          have hlt := (h v hcond s hs).1
          omega
      · next hcond => exact pure fun s hs => ⟨v, rfl, hcond, hs⟩
  | succ fuel ih =>
      unfold Lib.whileLoop
      split
      · next hcond =>
          refine bind_imp (h v hcond) fun v' hlt => ?_
          apply ih
          omega
      · next hcond => exact pure fun s hs => ⟨v, rfl, hcond, hs⟩

end FactoryHub.Lib
