import Mathlib.Data.List.Basic

/-!
# Two programs side by side

Two stateful programs over different states. `Related P x y Q` says that from states that `P` relates,
`x` and `y` come to values and states that `Q` relates; `Same P x y` says that `P` is kept and the
values are equal. The rules follow the structure of the programs.

* `Related.bind`, `Related.foldlM`, `Related.mapM_id` — sequence and loops.
* `Same.bind`, `Same.foldlM` — the same for programs that compute the same.
-/

namespace FactoryHub.Lib

variable {σ τ α β γ δ ι : Type}

/-- What is related by `P` before is related by `Q` after, together with the values. -/
def Related (P : σ → τ → Prop) (x : StateM σ α) (y : StateM τ β) (Q : α → β → σ → τ → Prop) : Prop :=
  ∀ s t, P s t → Q (x.run s).1 (y.run t).1 (x.run s).2 (y.run t).2

namespace Related

variable {P : σ → τ → Prop} {Q : α → β → σ → τ → Prop} {R : γ → δ → σ → τ → Prop}
  {x : StateM σ α} {y : StateM τ β} {f : α → StateM σ γ} {g : β → StateM τ δ}

theorem pure {a : α} {b : β} (h : ∀ s t, P s t → Q a b s t) :
    Related P (Pure.pure a : StateM σ α) (Pure.pure b : StateM τ β) Q := h

theorem bind (hx : Related P x y Q) (hf : ∀ a b, Related (Q a b) (f a) (g b) R) :
    Related P (x >>= f) (y >>= g) R := by
  intro s t h
  exact hf _ _ _ _ (hx s t h)

/-- The second program does something that the first one has no part in. -/
theorem bind_right {x : StateM σ γ} {a : α} (hy : Related P (Pure.pure a) y Q)
    (hg : ∀ b, Related (Q a b) x (g b) R) : Related P x (y >>= g) R := by
  intro s t h
  exact hg _ _ _ (hy s t h)

theorem mono {P' : σ → τ → Prop} {Q' : α → β → σ → τ → Prop} (h : Related P x y Q)
    (hP : ∀ s t, P' s t → P s t) (hQ : ∀ a b s t, Q a b s t → Q' a b s t) : Related P' x y Q' := by
  intro s t hs
  exact hQ _ _ _ _ (h s t (hP s t hs))

/-- A loop over one list keeps an invariant of the variables and the states. -/
theorem foldlM {I : γ → δ → σ → τ → Prop} {f : γ → ι → StateM σ γ} {g : δ → ι → StateM τ δ}
    (h : ∀ k c d, Related (I c d) (f c k) (g d k) I) (l : List ι) (c : γ) (d : δ) :
    Related (I c d) (l.foldlM f c) (l.foldlM g d) I := by
  induction l generalizing c d with
  | nil => exact pure fun _ _ h => h
  | cons k l ih =>
      rw [List.foldlM_cons, List.foldlM_cons]
      exact bind (h k c d) ih

/-- Programs that are run one after the other collect their values. -/
theorem mapM_id {I : List α → List β → σ → τ → Prop} {xs : List (StateM σ α)}
    {ys : List (StateM τ β)}
    (h : List.Forall₂ (fun x y => ∀ as bs, Related (I as bs) x y
      fun a b => I (as ++ [a]) (bs ++ [b])) xs ys) (as : List α) (bs : List β) :
    Related (I as bs) (xs.mapM id) (ys.mapM id) fun as' bs' => I (as ++ as') (bs ++ bs') := by
  induction h generalizing as bs with
  | nil =>
      rw [List.mapM_nil, List.mapM_nil]
      refine pure fun s t h => ?_
      rw [List.append_nil, List.append_nil]
      exact h
  | cons hxy _ ih =>
      rw [List.mapM_cons, List.mapM_cons]
      refine bind (hxy as bs) fun a b => bind (ih (as ++ [a]) (bs ++ [b])) fun as' bs' => ?_
      refine pure fun s t h => ?_
      rw [List.append_assoc, List.append_assoc] at h
      exact h

end Related

/-- Both programs keep the relation and compute the same value. -/
def Same (P : σ → τ → Prop) (x : StateM σ α) (y : StateM τ α) : Prop :=
  Related P x y fun a b s t => a = b ∧ P s t

namespace Same

variable {P : σ → τ → Prop} {x : StateM σ α} {y : StateM τ α} {f : α → StateM σ β}
  {g : α → StateM τ β}

theorem pure (a : α) : Same P (Pure.pure a : StateM σ α) (Pure.pure a : StateM τ α) :=
  Related.pure fun _ _ h => ⟨rfl, h⟩

/-- What comes after programs that compute the same may be related in any way. -/
theorem bind_related {γ δ : Type} {R : γ → δ → σ → τ → Prop} {f : α → StateM σ γ}
    {g : α → StateM τ δ} (hx : Same P x y) (hf : ∀ a, Related P (f a) (g a) R) :
    Related P (x >>= f) (y >>= g) R := by
  refine Related.bind hx fun a b => ?_
  rintro s t ⟨rfl, h⟩
  exact hf a s t h

theorem bind (hx : Same P x y) (hf : ∀ a, Same P (f a) (g a)) : Same P (x >>= f) (y >>= g) :=
  hx.bind_related hf

theorem foldlM {f : γ → ι → StateM σ γ} {g : γ → ι → StateM τ γ}
    (h : ∀ k c, Same P (f c k) (g c k)) (l : List ι) (c : γ) :
    Same P (l.foldlM f c) (l.foldlM g c) := by
  induction l generalizing c with
  | nil => exact pure c
  | cons k l ih =>
      rw [List.foldlM_cons, List.foldlM_cons]
      exact bind (h k c) ih

end Same

end FactoryHub.Lib
