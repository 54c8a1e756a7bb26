import Mathlib.Data.List.Basic

/-!
# Pre- and postconditions

`Triple P x Q`: from states that meet `P`, the stateful program `x` comes to values and states that
meet `Q`. The rules follow the structure of the program.

* `Triple.bind`, `Triple.mono` — sequence and consequence.
* `Triple.foldlM_range'` — a loop over a counter, with an invariant.
* `Keeps.bind`, `Keeps.foldlM`, `Keeps.mapM` — the same for one property that is kept throughout.
* `Keeps.except_bind` — the same for programs that may throw.
* `run_except_bind` — what such a program comes to, part by part.
-/

namespace FactoryHub.Lib

variable {σ α β γ ι : Type}

def Triple (P : σ → Prop) (x : StateM σ α) (Q : α → σ → Prop) : Prop :=
  ∀ s, P s → Q (x.run s).1 (x.run s).2

namespace Triple

variable {P : σ → Prop} {Q : α → σ → Prop} {R : β → σ → Prop} {x : StateM σ α}
  {f : α → StateM σ β}

theorem pure {a : α} (h : ∀ s, P s → Q a s) : Triple P (Pure.pure a : StateM σ α) Q := h

/-- What comes after a look at the state knows the state. -/
theorem bind_get {f : σ → StateM σ β} (h : ∀ s, P s → Triple (fun s' => s' = s) (f s) R) :
    Triple P (get >>= f) R := by
  intro s hs
  exact h s hs s rfl

/-- What comes after a look at the state may use a fact about the state seen. -/
theorem bind_read {f : σ → StateM σ β} (h : ∀ s, P s → Triple P (f s) R) :
    Triple P (get >>= f) R := by
  intro s hs
  exact h s hs s hs

theorem modify {u : σ → σ} {Q : σ → Prop} (h : ∀ s, P s → Q (u s)) :
    Triple P (modify u : StateM σ Unit) fun _ => Q := h

theorem bind (hx : Triple P x Q) (hf : ∀ a, Triple (Q a) (f a) R) : Triple P (x >>= f) R := by
  intro s h
  exact hf _ _ (hx s h)

/-- What comes after a program may use a fact about its value. -/
theorem bind_imp {p : α → Prop} (hx : Triple P x fun a s => p a ∧ Q a s)
    (hf : ∀ a, p a → Triple (Q a) (f a) R) : Triple P (x >>= f) R := by
  refine bind hx fun a => ?_
  rintro s ⟨hp, hs⟩
  exact hf a hp s hs

/-- What comes after a program with a known value. -/
theorem bind_eq {a : α} {P' : σ → Prop} (hx : Triple P x fun b s => b = a ∧ P' s)
    (hf : Triple P' (f a) R) : Triple P (x >>= f) R := by
  refine bind hx fun b => ?_
  rintro s ⟨rfl, hs⟩
  exact hf s hs

theorem mono {P' : σ → Prop} {Q' : α → σ → Prop} (h : Triple P x Q) (hP : ∀ s, P' s → P s)
    (hQ : ∀ a s, Q a s → Q' a s) : Triple P' x Q' := by
  intro s hs
  exact hQ _ _ (h s (hP s hs))

/-- A weaker postcondition. -/
theorem post {Q' : α → σ → Prop} (h : Triple P x Q) (hQ : ∀ a s, Q a s → Q' a s) :
    Triple P x Q' := h.mono (fun _ hs => hs) hQ

/-- A fact about the variables that the states have no part in. -/
theorem of_imp {p : Prop} (h : p → Triple P x Q) : Triple (fun s => p ∧ P s) x Q := by
  rintro s ⟨hp, hs⟩
  exact h hp s hs

/-- A loop with an invariant that depends on how far it has come. -/
theorem foldlM_range' {I : ℕ → β → σ → Prop} {f : β → ℕ → StateM σ β} (n k : ℕ)
    (h : ∀ i b, k ≤ i → i < k + n → Triple (I i b) (f b i) fun b' => I (i + 1) b') (b : β) :
    Triple (I k b) ((List.range' k n).foldlM f b) fun b' => I (k + n) b' := by
  induction n generalizing k b with
  | zero => exact pure fun _ hs => hs
  | succ n ih =>
      rw [List.range'_succ, List.foldlM_cons]
      refine bind (h k b (Nat.le_refl k) (by omega)) fun b' => ?_
      rw [show k + (n + 1) = k + 1 + n by omega]
      exact ih (k + 1) (fun i c hk hn => h i c (by omega) (by omega)) b'

/-- What each step keeps of an element, the list keeps. -/
theorem mapM {f : α → StateM σ β} {p : α → γ} {q : β → γ}
    (h : ∀ a, Triple P (f a) fun b s => q b = p a ∧ P s) (l : List α) :
    Triple P (l.mapM f) fun l' s => l'.map q = l.map p ∧ P s := by
  induction l with
  | nil => exact pure fun s hs => ⟨rfl, hs⟩
  | cons a l ih =>
      rw [List.mapM_cons]
      refine bind_imp (h a) fun b hb => ?_
      refine bind_imp ih fun l' hl' => pure fun s hs => ⟨?_, hs⟩
      rw [List.map_cons, List.map_cons, hb, hl']

end Triple

/-- The property is kept by the program. -/
abbrev Keeps (P : σ → Prop) (x : StateM σ α) : Prop := Triple P x fun _ => P

namespace Keeps

variable {P : σ → Prop} {x : StateM σ α} {f : α → StateM σ β}

theorem pure (a : α) : Keeps P (Pure.pure a : StateM σ α) := fun _ hs => hs

theorem bind (hx : Keeps P x) (hf : ∀ a, Keeps P (f a)) : Keeps P (x >>= f) := Triple.bind hx hf

theorem foldlM {f : β → ι → StateM σ β} (h : ∀ k b, Keeps P (f b k)) (l : List ι) (b : β) :
    Keeps P (l.foldlM f b) := by
  induction l generalizing b with
  | nil => exact pure b
  | cons k l ih =>
      rw [List.foldlM_cons]
      exact bind (h k b) ih

theorem mapM {f : ι → StateM σ β} {l : List ι} (h : ∀ k ∈ l, Keeps P (f k)) :
    Keeps P (l.mapM f) := by
  induction l with
  | nil => exact pure []
  | cons x l ih =>
      obtain ⟨hx, hl⟩ := List.forall_mem_cons.mp h
      rw [List.mapM_cons]
      exact bind hx fun _ => bind (ih hl) fun _ => pure _

variable {ε : Type}

theorem throw (e : ε) : Keeps P (throw e : ExceptT ε (StateM σ) α).run := fun _ hs => hs

/-- Nothing runs after it. -/
theorem throw_bind (e : ε) {f : α → ExceptT ε (StateM σ) β} : Keeps P (MonadExcept.throw e >>= f).run :=
  fun _ hs => hs

theorem except_lift (hx : Keeps P x) : Keeps P (liftM x : ExceptT ε (StateM σ) α).run :=
  fun s hs => hx s hs

/-- A program that may throw goes on, or is left, with the property. -/
theorem except_bind {x : ExceptT ε (StateM σ) α} {f : α → ExceptT ε (StateM σ) β}
    (hx : Keeps P x.run) (hf : ∀ a, Keeps P (f a).run) : Keeps P (x >>= f).run := by
  rw [ExceptT.run_bind]
  refine bind hx fun r => ?_
  cases r with
  | ok a => exact hf a
  | error e => exact pure _

end Keeps

/-! ## Running a program -/

section Run

variable {ε : Type} {s s' : σ} {a : α}

theorem run_bind {x : StateM σ α} {f : α → StateM σ β} (h : x.run s = (a, s')) :
    (x >>= f).run s = (f a).run s' := by
  rw [StateT.run_bind, h]
  rfl

/-- The rest of a program follows if its first part goes through. -/
theorem run_except_bind (x : ExceptT ε (StateM σ) α) (f : α → ExceptT ε (StateM σ) β) (s : σ) :
    (x >>= f).run.run s =
      match (x.run.run s).1 with
      | .ok a => (f a).run.run (x.run.run s).2
      | .error e => (.error e, (x.run.run s).2) := by
  have hrun : x.run.run s = ((x.run.run s).1, (x.run.run s).2) := rfl
  rw [ExceptT.run_bind, run_bind hrun]
  cases (x.run.run s).1 with
  | ok a => rfl
  | error e => rfl

theorem run_except_bind_ok {x : ExceptT ε (StateM σ) α} {f : α → ExceptT ε (StateM σ) β}
    (h : x.run.run s = (.ok a, s')) : (x >>= f).run.run s = (f a).run.run s' := by
  rw [run_except_bind, h]

theorem run_except_liftM {x : StateM σ α} (h : x.run s = (a, s')) :
    (liftM x : ExceptT ε (StateM σ) α).run.run s = (.ok a, s') := by
  rw [ExceptT.run_liftM, StateT.run_map, h]
  rfl

end Run

end FactoryHub.Lib
