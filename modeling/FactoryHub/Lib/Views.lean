import FactoryHub.Lib.Run

/-!
# Views

What an observer can tell of a state is its view. A view that evolves by itself, from what a part of the
label shows, does not depend on the rest of the state nor on the rest of the label.

* `Views.eq_of_runs` — two runs whose labels show the same end in states of the same view.
* `Views.outputs_eq` — and put out the same, where the output is a matter of the view.
-/

namespace FactoryHub.Lib

variable {σ ι κ ν ω : Type}

/-- The view of the next state is a function of the view and of what the label shows. -/
structure Views (step : σ → ι → σ → Prop) (view : σ → ν) (shows : ι → κ) (after : ν → κ → ν) :
    Prop where
  step : ∀ {s i s'}, step s i s' → view s' = after (view s) (shows i)

namespace Views

variable {step : σ → ι → σ → Prop} {view : σ → ν} {shows : ι → κ} {after : ν → κ → ν}
  {s₀ s t₀ t : σ} {tr tr' : List (Step σ ι)}

theorem view_eq (h : Views step view shows after) (hrun : Run step s₀ tr s) :
    view s = (tr.map fun u => shows u.label).foldr (fun i v => after v i) (view s₀) := by
  induction hrun with
  | init => rfl
  | step _ hs ih => rw [h.step hs, ih, List.map_cons, List.foldr_cons]

theorem eq_of_runs (h : Views step view shows after) (hinit : view s₀ = view t₀)
    (hrun : Run step s₀ tr s) (hrun' : Run step t₀ tr' t)
    (hlabels : (tr.map fun u => shows u.label) = tr'.map fun u => shows u.label) :
    view s = view t := by
  rw [h.view_eq hrun, h.view_eq hrun', hlabels, hinit]

/-- What the steps put out, where views and shown labels decide about it in the states that meet `P`. -/
theorem outputs_eq (h : Views step view shows after) {out : σ → ι → ω} {P : σ → ι → Prop}
    (hout : ∀ {s t i j}, P s i → P t j → view s = view t → shows i = shows j → out s i = out t j)
    (hinit : view s₀ = view t₀) (hrun : Run step s₀ tr s) (hrun' : Run step t₀ tr' t)
    (hlabels : (tr.map fun u => shows u.label) = tr'.map fun u => shows u.label)
    (hP : ∀ u ∈ tr, P u.pre u.label) (hP' : ∀ u ∈ tr', P u.pre u.label) :
    (tr.map fun u => out u.pre u.label) = tr'.map fun u => out u.pre u.label := by
  induction hrun generalizing tr' t with
  | init =>
      rw [List.map_nil, eq_comm, List.map_eq_nil_iff] at hlabels
      rw [hlabels]
  | @step tr s s' i hrun _ ih =>
      cases hrun' with
      | init => cases hlabels
      | @step tr' t t' j hrun' _ =>
          rw [List.map_cons, List.map_cons, List.cons.injEq] at hlabels
          obtain ⟨hshows, hlabels⟩ := hlabels
          have hhead : out s i = out t j := by
            apply hout (hP ⟨s, i, s'⟩ List.mem_cons_self) (hP' ⟨t, j, _⟩ List.mem_cons_self) _ hshows
            exact h.eq_of_runs hinit hrun hrun' hlabels
          have htail := ih hrun' hlabels (fun u hu => hP u (List.mem_cons_of_mem _ hu))
            fun u hu => hP' u (List.mem_cons_of_mem _ hu)
          rw [List.map_cons, List.map_cons, hhead, htail]

end Views

end FactoryHub.Lib
