import Mathlib.Algebra.Order.Floor.Ring
import Mathlib.Algebra.Order.Ring.Abs
import Mathlib.Data.Int.Log
import Mathlib.Data.Rat.Floor
import Mathlib.Tactic.Linarith
import Mathlib.Tactic.Ring

/-!
# Rounded arithmetic

A floating-point operation computes its exact result and rounds it: `float : ℚ → ℚ`. `Rounds float u`
bounds the relative error of one rounding, and `Near u k` that of a non-negative number after `k` of
them. `toNearest p` rounds to the nearest number of `p` bits, ties to even; the range of exponents
is unbounded.
-/

namespace FactoryHub.Lib

/-- The relative error of a rounding is at most `u`. -/
def Rounds (float : ℚ → ℚ) (u : ℚ) : Prop := ∀ x, |float x - x| ≤ u * |x|

/-- `y` is a non-negative `x` but for `k` roundings with a relative error of `u`. -/
structure Near (u : ℚ) (k : ℕ) (y x : ℚ) : Prop where
  nonneg : 0 ≤ x
  error : |y - x| ≤ ((1 + u) ^ k - 1) * x

variable {float : ℚ → ℚ} {u x y x' y' : ℚ} {j k : ℕ}

theorem Rounds.nonneg (h : Rounds float u) : 0 ≤ u := by
  have hone := (abs_nonneg _).trans (h 1)
  simpa using hone

namespace Near

theorem refl (u : ℚ) (hx : 0 ≤ x) : Near u 0 x x := ⟨hx, by simp⟩

theorem mono (hu : 0 ≤ u) (hjk : j ≤ k) (h : Near u j y x) : Near u k y x := by
  have hpow : (1 + u) ^ j ≤ (1 + u) ^ k := pow_le_pow_right₀ (by linarith) hjk
  refine ⟨h.nonneg, h.error.trans ?_⟩
  exact mul_le_mul_of_nonneg_right (by linarith) h.nonneg

theorem add (h : Near u k y x) (h' : Near u k y' x') : Near u k (y + y') (x + x') where
  nonneg := add_nonneg h.nonneg h'.nonneg
  error := by
    have hsplit : y + y' - (x + x') = (y - x) + (y' - x') := by ring
    rw [hsplit, mul_add]
    exact (abs_add_le _ _).trans (add_le_add h.error h'.error)

theorem div (h : Near u k y x) {c : ℚ} (hc : 0 < c) : Near u k (y / c) (x / c) where
  nonneg := div_nonneg h.nonneg hc.le
  error := by
    rw [← sub_div, abs_div, abs_of_pos hc, ← mul_div_assoc]
    exact div_le_div_of_nonneg_right h.error hc.le

/-- One more rounding. -/
theorem round (hfloat : Rounds float u) (h : Near u k y x) : Near u (k + 1) (float y) x where
  nonneg := h.nonneg
  error := by
    have hu := hfloat.nonneg
    have hy : |y| ≤ x + |y - x| := by
      have htriangle := abs_add_le x (y - x)
      rwa [add_sub_cancel, abs_of_nonneg h.nonneg] at htriangle
    calc |float y - x|
        ≤ |float y - y| + |y - x| := abs_sub_le _ _ _
      _ ≤ u * |y| + |y - x| := add_le_add (hfloat y) le_rfl
      _ ≤ u * (x + |y - x|) + |y - x| :=
          add_le_add (mul_le_mul_of_nonneg_left hy hu) le_rfl
      _ = u * x + (1 + u) * |y - x| := by ring
      _ ≤ u * x + (1 + u) * (((1 + u) ^ k - 1) * x) :=
          add_le_add le_rfl (mul_le_mul_of_nonneg_left h.error (by linarith))
      _ = ((1 + u) ^ (k + 1) - 1) * x := by ring

end Near

/-! ## To the nearest number of `p` bits -/

/-- The nearest integer, the even one of two. -/
def roundEven (q : ℚ) : ℤ :=
  let n := ⌊q⌋
  if q - n < 1 / 2 then n
  else if 1 / 2 < q - n then n + 1
  else if n % 2 = 0 then n
  else n + 1

/-- The nearest number of `p` bits. -/
def toNearest (p : ℕ) (q : ℚ) : ℚ :=
  let ulp : ℚ := 2 ^ (Int.log 2 |q| + 1 - p)
  roundEven (q / ulp) * ulp

theorem abs_roundEven_sub_le (q : ℚ) : |(roundEven q : ℚ) - q| ≤ 1 / 2 := by
  have hle := Int.floor_le q
  have hlt := Int.lt_floor_add_one q
  unfold roundEven
  dsimp only
  rw [abs_le]
  split_ifs <;> push_cast <;> constructor <;> linarith

/-- The error is half a unit in the last place at most. -/
theorem rounds_toNearest (p : ℕ) : Rounds (toNearest p) (2 ^ (-(p : ℤ))) := by
  intro q
  rcases eq_or_ne q 0 with rfl | hq
  · simp [toNearest, roundEven]
  · set ulp : ℚ := 2 ^ (Int.log 2 |q| + 1 - p) with hulp
    have hpos : 0 < ulp := zpow_pos (by norm_num) _
    have hround : toNearest p q - q = (roundEven (q / ulp) - q / ulp) * ulp := by
      rw [sub_mul, div_mul_cancel₀ _ hpos.ne']
      rfl
    have hlog : (2 : ℚ) ^ Int.log 2 |q| ≤ |q| := by
      have hself := Int.zpow_log_le_self (b := 2) one_lt_two (abs_pos.mpr hq)
      exact_mod_cast hself
    have hhalf : 1 / 2 * ulp = 2 ^ (-(p : ℤ)) * 2 ^ Int.log 2 |q| := by
      rw [hulp, ← zpow_add₀ (by norm_num : (2 : ℚ) ≠ 0),
        show Int.log 2 |q| + 1 - (p : ℤ) = -(p : ℤ) + Int.log 2 |q| + 1 by ring,
        zpow_add_one₀ (by norm_num : (2 : ℚ) ≠ 0)]
      ring
    calc |toNearest p q - q|
        = |(roundEven (q / ulp) : ℚ) - q / ulp| * ulp := by
          rw [hround, abs_mul, abs_of_pos hpos]
      _ ≤ 1 / 2 * ulp := mul_le_mul_of_nonneg_right (abs_roundEven_sub_le _) hpos.le
      _ = 2 ^ (-(p : ℤ)) * 2 ^ Int.log 2 |q| := hhalf
      _ ≤ 2 ^ (-(p : ℤ)) * |q| := mul_le_mul_of_nonneg_left hlog (zpow_pos (by norm_num) _).le

/-- A tenth has no finite binary expansion: the sum of three is not the nearest number to 3/10. -/
example :
    let float := toNearest 53
    let tenth := float (1 / 10)
    float (float (tenth + tenth) + tenth) ≠ float (3 / 10) ∧ float 300 = 300 := by
  decide +kernel

end FactoryHub.Lib
