import Mathlib.Data.List.Basic

/-!
# Random draws

The list functions of `utils.clp` that draw at random, over a source `rand` of numbers: draw number
`i` of a run is `rand i`, and the state counts the draws made.
-/

namespace FactoryHub.Clips

variable {α : Type} [Inhabited α]

/-- `nth$`, which counts from 1. Outside of the list it returns nil, here the default. -/
def nth (i : ℕ) (l : List α) : α := (default :: l).getD i default

/-- `delete-member$`. -/
def deleteMember [DecidableEq α] (l : List α) (x : α) : List α := l.filter (· ≠ x)

/-- `replace$` of one position. -/
def replace (l : List α) (i : ℕ) (x : α) : List α := l.set (i - 1) x

/-- `(random a b)`. -/
def random (rand : ℕ → ℕ) (a b : ℕ) : StateM ℕ ℕ :=
  fun draws => (a + rand draws % (b + 1 - a), draws + 1)

/-- `pick-random$`. -/
def pickRandom (rand : ℕ → ℕ) (l : List α) : StateM ℕ α := do
  let i ← random rand 1 l.length
  return nth i l

/-- The loop body of `randomize$`. -/
def swapRandom (rand : ℕ → ℕ) (l : List α) : StateM ℕ (List α) := do
  let a ← random rand 1 l.length
  let b ← random rand 1 l.length
  let tmp := nth a l
  let l := replace l a (nth b l)
  return replace l b tmp

/-- `randomize$`. -/
def randomize (rand : ℕ → ℕ) (l : List α) : StateM ℕ (List α) :=
  (List.range 200).foldlM (fun l _ => swapRandom rand l) l

end FactoryHub.Clips
