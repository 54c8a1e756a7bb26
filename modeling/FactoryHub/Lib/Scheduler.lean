import FactoryHub.Lib.Run
import Mathlib.Data.List.DropRight

/-!
# Scheduled runs

Some labels of a system are inputs. Which of the others comes next is decided by a scheduler: any
function of the labels so far and of those that are enabled. Where it names none, the system waits for
an input.

Two systems go in lockstep when related states enable the same labels and lead to related states, as
long as a condition holds of them.

* `Run.lockstep` — runs on the same labels stay related.
* `ScheduledRun.labels_eq`, `ScheduledRun.related_asLongAs` — runs on the same inputs, under one
  scheduler, have the same labels and lead to related states until the condition fails.
-/

namespace FactoryHub.Lib

variable {σ τ ι : Type}

/-! ## Lockstep -/

/-- From states that `R` relates and that meet `C`, two systems can take the same steps, which keep the
relation. -/
structure Lockstep (R : σ → τ → Prop) (C : σ → Prop) (step₁ : σ → ι → σ → Prop)
    (step₂ : τ → ι → τ → Prop) : Prop where
  enabled : ∀ {s t i}, R s t → C s → ((∃ s', step₁ s i s') ↔ ∃ t', step₂ t i t')
  related : ∀ {s t i s' t'}, R s t → C s → step₁ s i s' → step₂ t i t' → R s' t'

section

variable {R : σ → τ → Prop} {C : σ → Prop} {D : τ → Prop} {step₁ : σ → ι → σ → Prop}
  {step₂ : τ → ι → τ → Prop} {s₀ s : σ} {t₀ t : τ} {tr₁ : List (Step σ ι)} {tr₂ : List (Step τ ι)}

/-- The same from the point of view of the second system. -/
theorem Lockstep.symm (h : Lockstep R C step₁ step₂) (hCD : ∀ s t, R s t → (C s ↔ D t)) :
    Lockstep (fun t s => R s t) D step₂ step₁ where
  enabled hR hD := (h.enabled hR ((hCD _ _ hR).mpr hD)).symm
  related hR hD h₂ h₁ := h.related hR ((hCD _ _ hR).mpr hD) h₁ h₂

/-- Runs on the same labels stay related as long as `C` holds. -/
theorem Run.lockstep (h : Lockstep R C step₁ step₂) (hinit : R s₀ t₀) (h₁ : Run step₁ s₀ tr₁ s)
    (h₂ : Run step₂ t₀ tr₂ t) (hlabels : tr₁.map Step.label = tr₂.map Step.label)
    (hC : ∀ u ∈ tr₁, C u.pre) : R s t := by
  induction h₁ generalizing tr₂ t with
  | init =>
      cases h₂ with
      | init => exact hinit
      | step hrun₂ hs₂ => cases hlabels
  | step hrun₁ hs₁ ih =>
      cases h₂ with
      | init => cases hlabels
      | step hrun₂ hs₂ =>
          rw [List.map_cons, List.map_cons, List.cons.injEq] at hlabels
          obtain ⟨rfl, hlabels⟩ := hlabels
          have hR := ih hrun₂ hlabels (fun u hu => hC u (List.mem_cons_of_mem _ hu))
          exact h.related hR (hC _ (List.mem_cons_self ..)) hs₁ hs₂

/-- A condition that comes along with `C` holds of the second run. -/
theorem Run.lockstep_forall (h : Lockstep R C step₁ step₂) (hCD : ∀ s t, R s t → (C s ↔ D t))
    (hinit : R s₀ t₀) (h₁ : Run step₁ s₀ tr₁ s) (h₂ : Run step₂ t₀ tr₂ t)
    (hlabels : tr₁.map Step.label = tr₂.map Step.label) (hC : ∀ u ∈ tr₁, C u.pre) :
    ∀ u ∈ tr₂, D u.pre := by
  induction h₂ generalizing tr₁ s with
  | init =>
      intro u hu
      cases hu
  | step hrun₂ hs₂ ih =>
      cases h₁ with
      | init => cases hlabels
      | step hrun₁ hs₁ =>
          rw [List.map_cons, List.map_cons, List.cons.injEq] at hlabels
          have hearlier := fun u hu => hC u (List.mem_cons_of_mem _ hu)
          intro u hu
          rcases List.mem_cons.mp hu with rfl | hu
          · -- the newest step
            have hR := Run.lockstep h hinit hrun₁ hrun₂ hlabels.2 hearlier
            exact (hCD _ _ hR).mp (hC _ (List.mem_cons_self ..))
          · exact ih hrun₁ hlabels.2 hearlier u hu

end

/-! ## Schedulers -/

/-- What comes next after the labels so far, newest first, when a set of labels is enabled; `none` is
to wait for an input. -/
abbrev Scheduler (ι : Type) := List ι → Set ι → Option ι

/-- The labels, other than inputs, of the steps that can be taken. -/
def agenda (step : σ → ι → σ → Prop) (input : ι → Bool) (s : σ) : Set ι :=
  {i | input i = false ∧ ∃ s', step s i s'}

/-- What the scheduler names in a state after the steps `tr`. -/
def scheduled (step : σ → ι → σ → Prop) (input : ι → Bool) (next : Scheduler ι)
    (tr : List (Step σ ι)) (s : σ) : Option ι :=
  next (tr.map Step.label) (agenda step input s)

/-- The inputs of a run. -/
def inputs (input : ι → Bool) (tr : List (Step σ ι)) : List ι := (tr.map Step.label).filter input

/-- A run whose inputs come when the scheduler waits for one and whose other steps are those it names.
At the end it waits. -/
structure ScheduledRun (step : σ → ι → σ → Prop) (input : ι → Bool) (next : Scheduler ι) (s₀ : σ)
    (tr : List (Step σ ι)) (s : σ) : Prop where
  run : Run step s₀ tr s
  steps : AllSteps (fun t earlier =>
    scheduled step input next earlier t.pre = if input t.label then none else some t.label) tr
  waits : scheduled step input next tr s = none

/-- The steps of a run as long as it meets `C`. -/
def asLongAs (C : σ → Prop) [DecidablePred C] (tr : List (Step σ ι)) : List (Step σ ι) :=
  tr.rtakeWhile fun t => C t.pre

section

variable {C : σ → Prop} [DecidablePred C] {tr u : List (Step σ ι)}

theorem asLongAs_suffix : asLongAs C tr <:+ tr := List.rtakeWhile_suffix ..

theorem of_mem_asLongAs {t : Step σ ι} (ht : t ∈ asLongAs C tr) : C t.pre := by
  have hdecide := List.mem_rtakeWhile_imp ht
  exact of_decide_eq_true hdecide

/-- It is the longest part with this property. -/
theorem suffix_asLongAs (hsuffix : u <:+ tr) (hC : ∀ t ∈ u, C t.pre) : u <:+ asLongAs C tr := by
  obtain ⟨later, rfl⟩ := hsuffix
  have hall : ∀ t ∈ u.reverse, decide (C t.pre) = true := by
    intro t ht
    exact decide_eq_true (hC t (List.mem_reverse.mp ht))
  unfold asLongAs List.rtakeWhile
  rw [List.reverse_append, List.takeWhile_append_of_pos hall, List.reverse_append,
    List.reverse_reverse]
  exact List.suffix_append ..

/-- The older steps of a run are a run. -/
theorem Run.of_suffix {step : σ → ι → σ → Prop} {s₀ s : σ} (h : Run step s₀ tr s)
    (hsuffix : u <:+ tr) : ∃ s', Run step s₀ u s' := by
  obtain ⟨later, rfl⟩ := hsuffix
  rcases List.eq_nil_or_concat' later with rfl | ⟨later, t, rfl⟩
  · exact ⟨s, h⟩
  · rw [List.append_assoc] at h
    exact ⟨t.pre, h.split.1⟩

end

/-! ## Two scheduled runs -/

section

variable {R : σ → τ → Prop} {C : σ → Prop} {D : τ → Prop} {step₁ : σ → ι → σ → Prop}
  {step₂ : τ → ι → τ → Prop} {s₀ s : σ} {t₀ t : τ} {tr₁ u₁ : List (Step σ ι)}
  {tr₂ u₂ : List (Step τ ι)} {input : ι → Bool} {next : Scheduler ι}

/-- The scheduler names the same in related states. -/
theorem Lockstep.scheduled_eq (h : Lockstep R C step₁ step₂) (hR : R s t) (hC : C s)
    (hlabels : u₁.map Step.label = u₂.map Step.label) :
    scheduled step₁ input next u₁ s = scheduled step₂ input next u₂ t := by
  have hagenda : agenda step₁ input s = agenda step₂ input t := by
    ext i
    exact and_congr_right fun _ => h.enabled hR hC
  unfold scheduled
  rw [hlabels, hagenda]

@[simp] theorem inputs_append (later earlier : List (Step σ ι)) :
    inputs input (later ++ earlier) = inputs input later ++ inputs input earlier := by
  simp [inputs]

theorem inputs_eq_of_labels (hlabels : u₁.map Step.label = u₂.map Step.label) :
    inputs input u₁ = inputs input u₂ := congrArg (List.filter input) hlabels

theorem inputs_cons_of_input {v : Step σ ι} (hv : input v.label = true) :
    inputs input (v :: u₁) = v.label :: inputs input u₁ :=
  List.filter_cons_of_pos hv

/-- Two labels that come when the scheduler names the same are the same, or inputs. -/
theorem eq_or_input {i j : ι}
    (h : (if input i then none else some i) = if input j then none else some j) :
    i = j ∨ (input i = true ∧ input j = true) := by
  by_cases hi : input i = true <;> by_cases hj : input j = true <;> simp_all

namespace ScheduledRun

variable (hlock : Lockstep R C step₁ step₂) (hinit : R s₀ t₀)
  (h₁ : ScheduledRun step₁ input next s₀ tr₁ s) (h₂ : ScheduledRun step₂ input next t₀ tr₂ t)
  (hinputs : inputs input tr₁ = inputs input tr₂)

include hlock hinit h₁ h₂ hinputs

/-- The second run begins with the labels of any part of the first one that meets `C`. -/
theorem exists_suffix (hsuffix : u₁ <:+ tr₁) (hC : ∀ v ∈ u₁, C v.pre) :
    ∃ u₂, u₂ <:+ tr₂ ∧ u₁.map Step.label = u₂.map Step.label := by
  induction u₁ with
  | nil => exact ⟨[], List.nil_suffix, rfl⟩
  | cons v u₁ ih =>
      have hearlier := fun v hv => hC v (List.mem_cons_of_mem _ hv)
      obtain ⟨u₂, ⟨later₂, rfl⟩, hlabels⟩ := ih ((List.suffix_cons ..).trans hsuffix) hearlier
      obtain ⟨later₁, rfl⟩ := hsuffix
      have hrun₁ := h₁.run.split.1
      have hv := allSteps_iff.mp h₁.steps later₁ v u₁ rfl
      have hCv := hC v (List.mem_cons_self ..)
      have hinputs₂ : inputs input u₁ = inputs input u₂ := by
        unfold inputs
        rw [hlabels]
      have hearlierInputs : inputs input u₁ = inputs input u₂ := inputs_eq_of_labels hlabels
      rw [inputs_append, inputs_append] at hinputs
      rcases List.eq_nil_or_concat' later₂ with rfl | ⟨later₂, w, rfl⟩
      · -- the second run waits: so does the first one, and takes one more input
        have hR := Run.lockstep hlock hinit hrun₁ h₂.run hlabels hearlier
        have hwaits : scheduled step₂ input next u₂ t = none := h₂.waits
        rw [hlock.scheduled_eq hR hCv hlabels, hwaits] at hv
        have hinput : input v.label = true := by simpa using hv
        rw [inputs_cons_of_input hinput, ← hearlierInputs] at hinputs
        have hlength := congrArg List.length hinputs
        simp [inputs] at hlength
        omega
      · have hsplit : later₂ ++ [w] ++ u₂ = later₂ ++ w :: u₂ := by simp
        rw [hsplit] at h₂
        have hR := Run.lockstep hlock hinit hrun₁ h₂.run.split.1 hlabels hearlier
        have hw := allSteps_iff.mp h₂.steps later₂ w u₂ rfl
        rw [← hlock.scheduled_eq hR hCv hlabels, hv] at hw
        refine ⟨w :: u₂, ⟨later₂, hsplit.symm⟩, ?_⟩
        rw [List.map_cons, List.map_cons, hlabels]
        rcases eq_or_input hw with heq | ⟨hinput₁, hinput₂⟩
        · rw [heq]
        · -- both take the input that follows those in common
          rw [inputs_append, inputs_cons_of_input hinput₁, inputs_cons_of_input hinput₂,
            hearlierInputs, List.append_cons] at hinputs
          have hlast := List.append_cancel_right hinputs
          obtain ⟨_, hlabel⟩ := List.append_inj' hlast rfl
          rw [List.cons.inj hlabel |>.1]

variable [DecidablePred C] [DecidablePred D] (hCD : ∀ s t, R s t → (C s ↔ D t))

include hCD

theorem exists_suffix_asLongAs :
    ∃ u₂, u₂ <:+ asLongAs D tr₂ ∧ (asLongAs C tr₁).map Step.label = u₂.map Step.label := by
  obtain ⟨u₂, hsuffix, hlabels⟩ :=
    exists_suffix hlock hinit h₁ h₂ hinputs asLongAs_suffix (fun _ => of_mem_asLongAs)
  obtain ⟨s', hrun₁⟩ := h₁.run.of_suffix (asLongAs_suffix (C := C))
  obtain ⟨t', hrun₂⟩ := h₂.run.of_suffix hsuffix
  have hD := Run.lockstep_forall hlock hCD hinit hrun₁ hrun₂ hlabels (fun _ => of_mem_asLongAs)
  exact ⟨u₂, suffix_asLongAs hsuffix hD, hlabels⟩

/-- Until the condition fails, the runs have the same labels. -/
theorem labels_eq : (asLongAs C tr₁).map Step.label = (asLongAs D tr₂).map Step.label := by
  obtain ⟨u₂, hsuffix₂, hlabels₂⟩ := exists_suffix_asLongAs hlock hinit h₁ h₂ hinputs hCD
  -- neither part is longer than the other
  obtain ⟨u₁, hsuffix₁, hlabels₁⟩ := exists_suffix_asLongAs (hlock.symm hCD) hinit h₂ h₁
    hinputs.symm (fun t s hR => (hCD s t hR).symm)
  have hlength₁ := congrArg List.length hlabels₁
  have hlength₂ := congrArg List.length hlabels₂
  rw [List.length_map, List.length_map] at hlength₁ hlength₂
  have hle := hsuffix₁.length_le
  rw [hlabels₂, hsuffix₂.eq_of_length_le (by omega)]

/-- Until then they lead to related states. -/
theorem related_asLongAs : ∃ s' t', Run step₁ s₀ (asLongAs C tr₁) s' ∧
    Run step₂ t₀ (asLongAs D tr₂) t' ∧ R s' t' := by
  have hlabels := labels_eq hlock hinit h₁ h₂ hinputs hCD
  obtain ⟨s', hrun₁⟩ := h₁.run.of_suffix (asLongAs_suffix (C := C))
  obtain ⟨t', hrun₂⟩ := h₂.run.of_suffix (asLongAs_suffix (C := D))
  have hR := Run.lockstep hlock hinit hrun₁ hrun₂ hlabels (fun _ => of_mem_asLongAs)
  exact ⟨s', t', hrun₁, hrun₂, hR⟩

end ScheduledRun

end

end FactoryHub.Lib
