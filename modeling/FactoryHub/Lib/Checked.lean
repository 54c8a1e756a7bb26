import FactoryHub.Lib.Triple

/-!
# Programs with checks

A program of type `Checked σ α` stops where one of its checks fails. `Safe P x y Q`: from states
that meet `P`, the program with checks `x` goes through, with the result of the program without them
`y`, which meets `Q`. The rules follow both programs.

* `Safe.bind`, `Safe.post` — sequence and consequence.
* `Safe.check_bind` — a check that is passed.
* `Safe.foldlM_range'` — a loop over a counter, with an invariant.
-/

namespace FactoryHub.Lib

variable {σ α β : Type}

abbrev Checked (σ α : Type) := StateT σ Option α

namespace Checked

/-- A program that needs no checks. -/
def lift (y : StateM σ α) : Checked σ α := fun s => some (y.run s)

instance : MonadLift (StateM σ) (Checked σ) := ⟨lift⟩

/-- Go on with a value, if it is there. -/
def check (a : Option α) : Checked σ α := fun s => a.map fun a => (a, s)

end Checked

def Safe (P : σ → Prop) (x : Checked σ α) (y : StateM σ α) (Q : α → σ → Prop) : Prop :=
  ∀ s, P s → x.run s = some (y.run s) ∧ Q (y.run s).1 (y.run s).2

namespace Safe

variable {P : σ → Prop} {Q : α → σ → Prop} {R : β → σ → Prop} {x : Checked σ α}
  {y : StateM σ α} {f : α → Checked σ β} {g : α → StateM σ β}

theorem pure {a : α} (h : ∀ s, P s → Q a s) :
    Safe P (Pure.pure a : Checked σ α) (Pure.pure a : StateM σ α) Q := fun s hs => ⟨rfl, h s hs⟩

theorem lift (h : Triple P y Q) : Safe P (Checked.lift y) y Q := fun s hs => ⟨rfl, h s hs⟩

theorem modify {u : σ → σ} {Q : σ → Prop} (h : ∀ s, P s → Q (u s)) :
    Safe P (modify u : Checked σ Unit) (modify u : StateM σ Unit) fun _ => Q :=
  fun s hs => ⟨rfl, h s hs⟩

theorem bind (hx : Safe P x y Q) (hf : ∀ a, Safe (Q a) (f a) (g a) R) :
    Safe P (x >>= f) (y >>= g) R := by
  intro s hs
  obtain ⟨hrun, hQ⟩ := hx s hs
  obtain ⟨hrun', hR⟩ := hf _ _ hQ
  refine ⟨?_, hR⟩
  rw [StateT.run_bind, hrun]
  exact hrun'

/-- What comes after a program may use a fact about its value. -/
theorem bind_imp {p : α → Prop} (hx : Safe P x y fun a s => p a ∧ Q a s)
    (hf : ∀ a, p a → Safe (Q a) (f a) (g a) R) : Safe P (x >>= f) (y >>= g) R := by
  refine bind hx fun a => ?_
  rintro s ⟨hp, hs⟩
  exact hf a hp s hs

theorem check {o : Option α} {a : α} (ho : o = some a) (h : ∀ s, P s → Q a s) :
    Safe P (Checked.check o) (Pure.pure a) Q := by
  subst ho
  exact pure h

/-- A check that is passed: the other program goes on with the value. -/
theorem check_bind {o : Option α} {a : α} (ho : o = some a) {z : StateM σ β}
    (hf : Safe P (f a) z R) : Safe P (Checked.check o >>= f) z R := by
  subst ho
  exact hf

theorem mono {P' : σ → Prop} {Q' : α → σ → Prop} (h : Safe P x y Q) (hP : ∀ s, P' s → P s)
    (hQ : ∀ a s, Q a s → Q' a s) : Safe P' x y Q' := by
  intro s hs
  obtain ⟨hrun, hs'⟩ := h s (hP s hs)
  exact ⟨hrun, hQ _ _ hs'⟩

/-- A weaker postcondition. -/
theorem post {Q' : α → σ → Prop} (h : Safe P x y Q) (hQ : ∀ a s, Q a s → Q' a s) :
    Safe P x y Q' := h.mono (fun _ hs => hs) hQ

/-- A fact about the variables that the states have no part in. -/
theorem of_imp {p : Prop} (h : p → Safe P x y Q) : Safe (fun s => p ∧ P s) x y Q := by
  rintro s ⟨hp, hs⟩
  exact h hp s hs

/-- A loop with an invariant that depends on how far it has come. -/
theorem foldlM_range' {I : ℕ → β → σ → Prop} {f : β → ℕ → Checked σ β} {g : β → ℕ → StateM σ β}
    (n k : ℕ)
    (h : ∀ i b, k ≤ i → i < k + n → Safe (I i b) (f b i) (g b i) fun b' => I (i + 1) b') (b : β) :
    Safe (I k b) ((List.range' k n).foldlM f b) ((List.range' k n).foldlM g b)
      fun b' => I (k + n) b' := by
  induction n generalizing k b with
  | zero => exact pure fun _ hs => hs
  | succ n ih =>
      rw [List.range'_succ, List.foldlM_cons, List.foldlM_cons]
      refine bind (h k b (Nat.le_refl k) (by omega)) fun b' => ?_
      rw [show k + (n + 1) = k + 1 + n by omega]
      exact ih (k + 1) (fun i c hk hn => h i c (by omega) (by omega)) b'

end Safe

end FactoryHub.Lib
