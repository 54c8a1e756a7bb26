import FactoryHub.Clips.Draws
import FactoryHub.Lib.Checked

/-!
# Draws with checks

`nth$`, `pick-random$` and `randomize$` that fail at a position that the list does not have, which
in an empty list is every one. From other lists the draws go through.
-/

namespace FactoryHub.Clips

open Lib

variable {α : Type} [Inhabited α]

/-- `nth$`, of a position of the list. -/
def nth? (i : ℕ) (l : List α) : Option α := if 0 < i ∧ i ≤ l.length then some (nth i l) else none

variable (rand : ℕ → ℕ)

/-- `pick-random$`. -/
def pickRandom? (l : List α) : Checked ℕ α := do
  let i ← random rand 1 l.length
  Checked.check (nth? i l)

/-- The loop body of `randomize$`. -/
def swapRandom? (l : List α) : Checked ℕ (List α) := do
  let a ← random rand 1 l.length
  let b ← random rand 1 l.length
  let tmp ← Checked.check (nth? a l)
  let other ← Checked.check (nth? b l)
  let l := replace l a other
  return replace l b tmp

/-- `randomize$`. -/
def randomize? (l : List α) : Checked ℕ (List α) :=
  (List.range 200).foldlM (fun l _ => swapRandom? rand l) l

variable {rand}

theorem nth?_eq_some {i : ℕ} {l : List α} (hpos : 0 < i) (hle : i ≤ l.length) :
    nth? i l = some (nth i l) := if_pos ⟨hpos, hle⟩

omit [Inhabited α] in
/-- A drawn position of a list that is not empty. -/
theorem random_triple {l : List α} (hl : l ≠ []) :
    Triple (fun _ => True) (random rand 1 l.length) fun i _ =>
      (0 < i ∧ i ≤ l.length) ∧ True :=
  fun n _ => ⟨random_le rand n (List.length_pos_of_ne_nil hl), trivial⟩

theorem pickRandom_safe {l : List α} (hl : l ≠ []) :
    Safe (fun _ => True) (pickRandom? rand l) (pickRandom rand l) fun x _ => x ∈ l := by
  refine Safe.bind_imp (Safe.lift (random_triple hl)) ?_
  rintro i ⟨hpos, hle⟩
  exact Safe.check (nth?_eq_some hpos hle) fun _ _ => nth_mem hpos hle

theorem swapRandom_safe {l : List α} (hl : l ≠ []) :
    Safe (fun _ => True) (swapRandom? rand l) (swapRandom rand l) fun l' _ => l'.Perm l := by
  have hswap : Safe (fun _ => True) (swapRandom? rand l) (swapRandom rand l) fun _ _ => True := by
    refine Safe.bind_imp (Safe.lift (random_triple hl)) ?_
    rintro a ⟨ha, ha'⟩
    refine Safe.bind_imp (Safe.lift (random_triple hl)) ?_
    rintro b ⟨hb, hb'⟩
    apply Safe.check_bind (nth?_eq_some ha ha')
    apply Safe.check_bind (nth?_eq_some hb hb')
    exact Safe.pure fun _ _ => trivial
  intro n hn
  exact ⟨(hswap n hn).1, swapRandom_perm n l⟩

theorem randomize_safe {l : List α} (hl : l ≠ []) :
    Safe (fun _ => True) (randomize? rand l) (randomize rand l) fun l' _ => l'.Perm l := by
  unfold randomize? randomize
  rw [List.range_eq_range']
  have hloop := Safe.foldlM_range' (I := fun _ (l' : List α) (_ : ℕ) => l'.Perm l)
    (f := fun l _ => swapRandom? rand l) (g := fun l _ => swapRandom rand l) 200 0 ?_ l
  · exact hloop.mono (fun _ _ => List.Perm.refl l) fun _ _ h => h
  · intro i l' _ _ n hl'
    have hne : l' ≠ [] := by
      rintro rfl
      exact hl hl'.nil_eq.symm
    obtain ⟨hrun, hperm⟩ := swapRandom_safe hne n trivial
    exact ⟨hrun, hperm.trans hl'⟩

end FactoryHub.Clips
