import Mathlib.Data.List.Basic

/-!
# Runs of a labelled step relation

A system is a relation `step s i s'` between a state, a label and the state after it. A `Run`
records every step it makes, newest first, so that a property of the past (*the state the puck
had when it was accepted*) is a function of the record.

* `Run.invariant` — what holds initially and is kept by each step holds in every reached state.
* `Run.invariant_of` — the same for the runs all of whose steps meet a condition.
* `Run.forall_steps` — what an invariant implies of one step holds of all recorded steps.
* `Run.restrict` — the runs whose steps meet a condition, as those of a smaller system.
* `Run.related` — a transitive relation between the states of each step holds along the run.
* `trace` — the run of a *partial function* on a list of labels, computed.
* `record` — the steps of a *function* on a list of labels.
-/

namespace FactoryHub.Lib

/-- One recorded step of a run: the state it started in, its label and the state it left. -/
structure Step (σ ι : Type) where
  pre : σ
  label : ι
  post : σ

variable {σ ι : Type}

/-- `Run step s₀ tr s`: the steps `tr` (newest first) lead from `s₀` to `s`. -/
inductive Run (step : σ → ι → σ → Prop) (s₀ : σ) : List (Step σ ι) → σ → Prop
  | init : Run step s₀ [] s₀
  | step {tr : List (Step σ ι)} {s s' : σ} {i : ι} :
      Run step s₀ tr s → step s i s' → Run step s₀ (⟨s, i, s'⟩ :: tr) s'

namespace Run

variable {step : σ → ι → σ → Prop} {s₀ s : σ} {tr : List (Step σ ι)}

/-- An invariant over the record *and* the state, along the runs whose steps meet `C`. -/
theorem history_invariant_of {C : σ → ι → Prop} {Inv : List (Step σ ι) → σ → Prop}
    (hinit : Inv [] s₀)
    (hstep : ∀ tr s i s', Inv tr s → C s i → step s i s' → Inv (⟨s, i, s'⟩ :: tr) s')
    (h : Run step s₀ tr s) (hC : ∀ t ∈ tr, C t.pre t.label) : Inv tr s := by
  induction h with
  | init => exact hinit
  | step hrun hs ih =>
      have htail := ih (fun t ht => hC t (List.mem_cons_of_mem _ ht))
      exact hstep _ _ _ _ htail (hC _ (List.mem_cons_self ..)) hs

/-- An invariant of the state along the runs whose steps meet `C`. -/
theorem invariant_of {C : σ → ι → Prop} {Inv : σ → Prop} (hinit : Inv s₀)
    (hstep : ∀ s i s', Inv s → C s i → step s i s' → Inv s')
    (h : Run step s₀ tr s) (hC : ∀ t ∈ tr, C t.pre t.label) : Inv s :=
  @history_invariant_of _ _ step s₀ s tr C (fun _ s => Inv s) hinit
    (fun _ s i s' hs hc hst => hstep s i s' hs hc hst) h hC

/-- What holds initially and is kept by every step holds in every reached state. -/
theorem invariant {Inv : σ → Prop} (hinit : Inv s₀)
    (hstep : ∀ s i s', Inv s → step s i s' → Inv s') (h : Run step s₀ tr s) : Inv s :=
  invariant_of (C := fun _ _ => True) hinit (fun s i s' hs _ hst => hstep s i s' hs hst) h
    (fun _ _ => trivial)

/-- Every recorded step is a step of the system, taken in a state the run had reached. -/
theorem mem_run (h : Run step s₀ tr s) {t : Step σ ι} (ht : t ∈ tr) :
    step t.pre t.label t.post ∧ ∃ tr', Run step s₀ tr' t.pre ∧ ∀ u ∈ tr', u ∈ tr := by
  induction h with
  | init => cases ht
  | step hrun hs ih =>
      rcases List.mem_cons.mp ht with rfl | ht
      · -- the newest step
        exact ⟨hs, _, hrun, fun u hu => List.mem_cons_of_mem _ hu⟩
      · obtain ⟨hst, tr', hrun', hsub⟩ := ih ht
        exact ⟨hst, tr', hrun', fun u hu => List.mem_cons_of_mem _ (hsub u hu)⟩

/-- A transitive relation that every step follows relates each recorded state to the reached one. -/
theorem related {R : σ → σ → Prop}
    (htrans : ∀ s s' s'', R s s' → R s' s'' → R s s'')
    (hstep : ∀ s i s', step s i s' → R s s') (h : Run step s₀ tr s) : ∀ t ∈ tr, R t.pre s := by
  induction h with
  | init =>
      intro t ht
      cases ht
  | step hrun hs ih =>
      intro t ht
      rcases List.mem_cons.mp ht with rfl | ht
      · exact hstep _ _ _ hs
      · exact htrans _ _ _ (ih t ht) (hstep _ _ _ hs)

/-- A record splits at each of its steps: the older steps are a run to the state it started in. -/
theorem split {later earlier : List (Step σ ι)} {t : Step σ ι}
    (h : Run step s₀ (later ++ t :: earlier) s) :
    Run step s₀ earlier t.pre ∧ step t.pre t.label t.post := by
  generalize htr : later ++ t :: earlier = tr at h
  induction h generalizing later with
  | init =>
      have hne : later ++ t :: earlier ≠ [] := by simp
      exact absurd htr hne
  | step hrun hs ih =>
      cases later with
      | nil =>
          rw [List.nil_append, List.cons.injEq] at htr
          obtain ⟨rfl, rfl⟩ := htr
          exact ⟨hrun, hs⟩
      | cons u later =>
          rw [List.cons_append, List.cons.injEq] at htr
          exact ih htr.2

/-- What the invariant implies of one step holds of every recorded step. -/
theorem forall_steps {C : σ → ι → Prop} {Inv : σ → Prop} {Q : Step σ ι → Prop}
    (hinit : Inv s₀) (hstep : ∀ s i s', Inv s → C s i → step s i s' → Inv s')
    (hQ : ∀ s i s', Inv s → C s i → step s i s' → Q ⟨s, i, s'⟩)
    (h : Run step s₀ tr s) (hC : ∀ t ∈ tr, C t.pre t.label) : ∀ t ∈ tr, Q t := by
  intro t ht
  obtain ⟨hst, tr', hrun', hsub⟩ := mem_run h ht
  have hinv : Inv t.pre := invariant_of hinit hstep hrun' (fun u hu => hC u (hsub u hu))
  exact hQ _ _ _ hinv (hC t ht) hst

/-- The steps of a run that meet a condition are those of a smaller system, with the invariant. -/
theorem restrict {C : σ → ι → Prop} {Inv : σ → Prop} (hinit : Inv s₀)
    (hstep : ∀ s i s', Inv s → C s i → step s i s' → Inv s')
    (h : Run step s₀ tr s) (hC : ∀ t ∈ tr, C t.pre t.label) :
    Run (fun s i s' => step s i s' ∧ Inv s ∧ C s i) s₀ tr s := by
  induction h with
  | init => exact .init
  | @step tr s s' i hrun hs ih =>
      have htail : ∀ t ∈ tr, C t.pre t.label := fun t ht => hC t (List.mem_cons_of_mem _ ht)
      refine (ih htail).step ⟨hs, ?_, hC _ List.mem_cons_self⟩
      exact invariant_of hinit hstep hrun htail

end Run

/-- `P` relates every step of a record to the steps before it. -/
def AllSteps (P : Step σ ι → List (Step σ ι) → Prop) : List (Step σ ι) → Prop
  | [] => True
  | t :: earlier => P t earlier ∧ AllSteps P earlier

instance {P : Step σ ι → List (Step σ ι) → Prop} [∀ t tr, Decidable (P t tr)] :
    ∀ tr, Decidable (AllSteps P tr)
  | [] => inferInstanceAs (Decidable True)
  | t :: earlier =>
      @instDecidableAnd _ _ (inferInstanceAs (Decidable (P t earlier)))
        (instDecidableAllSteps earlier)

theorem allSteps_iff {P : Step σ ι → List (Step σ ι) → Prop} {tr : List (Step σ ι)} :
    AllSteps P tr ↔ ∀ later t earlier, tr = later ++ t :: earlier → P t earlier := by
  induction tr with
  | nil =>
      constructor
      · intro _ later t earlier heq
        simp at heq
      · intro _
        trivial
  | cons u tr ih =>
      constructor
      · rintro ⟨hu, hall⟩ later t earlier heq
        cases later with
        | nil =>
            rw [List.nil_append, List.cons.injEq] at heq
            obtain ⟨rfl, rfl⟩ := heq
            exact hu
        | cons v later =>
            rw [List.cons_append, List.cons.injEq] at heq
            exact ih.mp hall later t earlier heq.2
      · intro hall
        refine ⟨hall [] u tr rfl, ih.mpr ?_⟩
        intro later t earlier heq
        apply hall (u :: later)
        rw [heq, List.cons_append]

/-! ## Running a partial function -/

/-- The run of the partial step function `f` on the labels `is` (oldest first), or `none` when
one of them is not enabled. -/
def trace (f : σ → ι → Option σ) (s : σ) (is : List ι) : Option (List (Step σ ι) × σ) :=
  go s [] is
where
  go (s : σ) (tr : List (Step σ ι)) : List ι → Option (List (Step σ ι) × σ)
    | [] => some (tr, s)
    | i :: is =>
        match f s i with
        | some s' => go s' (⟨s, i, s'⟩ :: tr) is
        | none => none

theorem run_of_trace_go {f : σ → ι → Option σ} {s₀ : σ} :
    ∀ {is : List ι} {s : σ} {tr : List (Step σ ι)} {r : List (Step σ ι) × σ},
      Run (fun s i s' => f s i = some s') s₀ tr s → trace.go f s tr is = some r →
        Run (fun s i s' => f s i = some s') s₀ r.1 r.2
  | [], s, tr, r, hrun, h => by
      simp only [trace.go, Option.some.injEq] at h
      subst h
      exact hrun
  | i :: is, s, tr, r, hrun, h => by
      rw [trace.go] at h
      split at h
      · next s' hs => exact run_of_trace_go (hrun.step hs) h
      · cases h

/-- A computed trace is a run. -/
theorem run_of_trace {f : σ → ι → Option σ} {s : σ} {is : List ι} {r : List (Step σ ι) × σ}
    (h : trace f s is = some r) : Run (fun s i s' => f s i = some s') s r.1 r.2 :=
  run_of_trace_go .init h

theorem labels_of_trace_go {f : σ → ι → Option σ} {is : List ι} {s : σ} {tr : List (Step σ ι)}
    {r : List (Step σ ι) × σ} (h : trace.go f s tr is = some r) :
    r.1.map Step.label = is.reverse ++ tr.map Step.label := by
  induction is generalizing s tr with
  | nil =>
      cases h
      rfl
  | cons i is ih =>
      rw [trace.go] at h
      split at h
      · simpa using ih h
      · cases h

/-- The labels of the record are those that were given. -/
theorem labels_of_trace {f : σ → ι → Option σ} {is : List ι} {s : σ} {r : List (Step σ ι) × σ}
    (h : trace f s is = some r) : r.1.map Step.label = is.reverse := by
  simpa using labels_of_trace_go h

/-! ## Running a function -/

/-- The steps the function `f` takes on the labels `is` (oldest first). -/
def record (f : σ → ι → σ) (s : σ) (is : List ι) : List (Step σ ι) := go s [] is
where
  go (s : σ) (tr : List (Step σ ι)) : List ι → List (Step σ ι)
    | [] => tr
    | i :: is => go (f s i) (⟨s, i, f s i⟩ :: tr) is

theorem run_record_go {f : σ → ι → σ} {s₀ : σ} (is : List ι) {s : σ} {tr : List (Step σ ι)}
    (h : Run (fun s i s' => f s i = s') s₀ tr s) :
    Run (fun s i s' => f s i = s') s₀ (record.go f s tr is) (is.foldl f s) := by
  induction is generalizing s tr with
  | nil => exact h
  | cons i is ih => exact ih (h.step rfl)

theorem label_mem_of_record_go {f : σ → ι → σ} (is : List ι) {s : σ} {tr : List (Step σ ι)}
    {t : Step σ ι} (ht : t ∈ record.go f s tr is) : t ∈ tr ∨ t.label ∈ is := by
  induction is generalizing s tr with
  | nil => exact Or.inl ht
  | cons i is ih =>
      rcases ih ht with ht | ht
      · -- the step just recorded, or one from before
        rcases List.mem_cons.mp ht with rfl | ht
        · exact Or.inr (List.mem_cons_self ..)
        · exact Or.inl ht
      · exact Or.inr (List.mem_cons_of_mem _ ht)

/-- Each step is labelled with one of the labels. -/
theorem label_mem_of_record {f : σ → ι → σ} {s : σ} {is : List ι} {t : Step σ ι}
    (ht : t ∈ record f s is) : t.label ∈ is := by
  rcases label_mem_of_record_go is ht with hnil | ht
  · cases hnil
  · exact ht

theorem labels_of_record_go {f : σ → ι → σ} (is : List ι) {s : σ} {tr : List (Step σ ι)} :
    (record.go f s tr is).map Step.label = is.reverse ++ tr.map Step.label := by
  induction is generalizing s tr with
  | nil => rfl
  | cons i is ih => simpa [record.go] using @ih (f s i) (⟨s, i, f s i⟩ :: tr)

/-- The labels of the record are those that were given. -/
theorem labels_of_record (f : σ → ι → σ) (s : σ) (is : List ι) :
    (record f s is).map Step.label = is.reverse := by
  simpa [record] using @labels_of_record_go _ _ f is s []

theorem run_record (f : σ → ι → σ) (s : σ) (is : List ι) :
    Run (fun s i s' => f s i = s') s (record f s is) (is.foldl f s) :=
  run_record_go is .init

end FactoryHub.Lib
