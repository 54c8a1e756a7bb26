import FactoryHub.Clips.Time
import Mathlib.Data.Rat.Floor

/-!
# Arithmetic of times

`time-diff` borrows a second where the microseconds get negative. `time-add` carries one where they
exceed 1000000, and leaves them at 1000000 where they come to exactly that.

* `time_arithmetic_iff` — what the two operations keep, and when.
* `near_floatDiffSec` — how far the FLOATs of `time-diff-sec` are from the difference.
* `toSec_fromSec_mono`, `toSec_le_max` — `time-from-sec` and `time-max` in the order of points
  in time.
* `overlap_is_intersection` — the time-range functions in closed form.
-/

namespace FactoryHub.Clips

namespace Time

/-- The microseconds are less than a second. -/
structure Normalised (t : Time) : Prop where
  nonneg : 0 ≤ t.usec
  lt : t.usec < 1000000

instance (t : Time) : Decidable t.Normalised :=
  decidable_of_iff (0 ≤ t.usec ∧ t.usec < 1000000) ⟨fun h => ⟨h.1, h.2⟩, fun h => ⟨h.nonneg, h.lt⟩⟩

variable {t t' t1 t2 : Time}

/-! ## Values -/

/-- Carrying a second does not change the sum. -/
theorem toSec_add (t1 t2 : Time) : (t1.add t2).toSec = t1.toSec + t2.toSec := by
  unfold add toSec
  dsimp only
  split
  · push_cast
    ring
  · push_cast
    ring

/-! ## Microseconds -/

/-- The microseconds of two times are at most a second apart, so one borrowed second is enough. -/
theorem Normalised.diff (h1 : t1.Normalised) (h2 : t2.Normalised) : (t1.diff t2).Normalised := by
  have hpos1 := h1.nonneg
  have hlt1 := h1.lt
  have hpos2 := h2.nonneg
  have hlt2 := h2.lt
  unfold Time.diff
  dsimp only
  split
  · next hneg =>
      refine ⟨?_, ?_⟩
      · show 0 ≤ 1000000 + (t1.usec - t2.usec)
        linarith
      · show 1000000 + (t1.usec - t2.usec) < 1000000
        linarith
  · next hneg =>
      refine ⟨not_lt.mp hneg, ?_⟩
      show t1.usec - t2.usec < 1000000
      linarith

theorem add_normalised_iff (h1 : t1.Normalised) (h2 : t2.Normalised) :
    (t1.add t2).Normalised ↔ t1.usec + t2.usec ≠ 1000000 := by
  have hpos1 := h1.nonneg
  have hlt1 := h1.lt
  have hpos2 := h2.nonneg
  have hlt2 := h2.lt
  unfold add
  dsimp only
  split
  · next hcarry =>
      refine iff_of_true ⟨?_, ?_⟩ (ne_of_gt hcarry)
      · show 0 ≤ t1.usec + t2.usec - 1000000
        linarith
      · show t1.usec + t2.usec - 1000000 < 1000000
        linarith
  · next hcarry =>
      have hle : t1.usec + t2.usec ≤ 1000000 := not_lt.mp hcarry
      constructor
      · intro h
        exact ne_of_lt h.lt
      · intro hne
        refine ⟨?_, lt_of_le_of_ne hle hne⟩
        show 0 ≤ t1.usec + t2.usec
        linarith

/-- The difference of a time and one that is not after it has no negative part, so that no FLOAT
operation of `time-diff-sec` cancels. -/
theorem near_floatDiffSec {float : ℚ → ℚ} {u : ℚ} (hfloat : Lib.Rounds float u)
    (h1 : t1.Normalised) (h2 : t2.Normalised) (hle : t2.toSec ≤ t1.toSec) :
    Lib.Near u 3 (floatDiffSec float t1 t2) (t1.toSec - t2.toSec) := by
  have hdiff := h1.diff h2
  have hvalue : (t1.diff t2).sec + (t1.diff t2).usec / 1000000 = t1.toSec - t2.toSec :=
    toSec_diff t1 t2
  have hsec : (0 : ℚ) ≤ (t1.diff t2).sec := by
    have hlt := hdiff.lt
    have hpos : (-1 : ℚ) < (t1.diff t2).sec := by linarith
    have hint : (-1 : ℤ) < (t1.diff t2).sec := by exact_mod_cast hpos
    exact_mod_cast Int.add_one_le_iff.mpr hint
  have hroundedSec := (Lib.Near.refl u hsec).round hfloat
  have hroundedUsec := ((Lib.Near.refl u hdiff.nonneg).round hfloat).div (c := 1000000) (by norm_num)
  have hsum := (hroundedSec.mono hfloat.nonneg one_le_two).add (hroundedUsec.round hfloat)
  rw [← hvalue]
  exact hsum.round hfloat

/-- A second that was carried is borrowed again. -/
theorem diff_add_cancel (h1 : t1.Normalised) : (t1.add t2).diff t2 = t1 := by
  have hpos1 := h1.nonneg
  have hlt1 := h1.lt
  unfold add Time.diff
  dsimp only
  split
  · next hcarry =>
      have hneg : t1.usec + t2.usec - 1000000 - t2.usec < 0 := by linarith
      simp only [hneg, if_true]
      congr 1
      · ring
      · ring
  · next hcarry =>
      have hpos : ¬ t1.usec + t2.usec - t2.usec < 0 := by
        rw [not_lt]
        linarith
      simp only [hpos, if_false]
      congr 1
      · ring
      · ring

/-! ## The operations together -/

/-- Sum and difference of two times are normalised and exact, and undo each other. -/
structure Arithmetic (t1 t2 : Time) : Prop where
  add_normalised : (t1.add t2).Normalised
  add_exact : (t1.add t2).toSec = t1.toSec + t2.toSec
  diff_normalised : (t1.diff t2).Normalised
  diff_exact : (t1.diff t2).toSec = t1.toSec - t2.toSec
  diff_add : (t1.add t2).diff t2 = t1

/-- **When times are added and subtracted as they should be**: unless the microseconds add up to
exactly one second. -/
theorem time_arithmetic_iff {t1 t2 : Time} (h1 : t1.Normalised) (h2 : t2.Normalised) :
    Arithmetic t1 t2 ↔ t1.usec + t2.usec ≠ 1000000 := by
  constructor
  · intro h
    exact (add_normalised_iff h1 h2).mp h.add_normalised
  · intro hne
    exact {
      add_normalised := (add_normalised_iff h1 h2).mpr hne
      add_exact := toSec_add t1 t2
      diff_normalised := h1.diff h2
      diff_exact := toSec_diff t1 t2
      diff_add := diff_add_cancel h1 }

theorem time_arithmetic_of_carry : Arithmetic ⟨-3, 600000⟩ ⟨5, 700000⟩ := by
  apply (time_arithmetic_iff ⟨?_, ?_⟩ ⟨?_, ?_⟩).mpr
  all_goals norm_num

/-- Half a second and half a second. -/
theorem add_not_normalised :
    ¬ ∀ t1 t2 : Time, t1.Normalised → t2.Normalised → Arithmetic t1 t2 := by
  intro h
  have hadd : (add ⟨0, 500000⟩ ⟨0, 500000⟩).Normalised := by
    apply (h _ _ ⟨?_, ?_⟩ ⟨?_, ?_⟩).add_normalised
    all_goals norm_num
  have hlt := hadd.lt
  norm_num [add] at hlt

/-! ## Truncation -/

theorem integer_eq_floor {q : ℚ} (hq : 0 ≤ q) : integer q = ⌊q⌋ := by
  rw [Rat.floor_def', integer]
  exact Int.tdiv_eq_ediv_of_nonneg (Rat.num_nonneg.mpr hq)

/-- The seconds that are no whole microseconds are lost. -/
theorem toSec_fromSec {t : ℚ} (ht : 0 ≤ t) :
    (fromSec t).toSec = (⌊t * 1000000⌋ : ℚ) / 1000000 := by
  have hfract : 0 ≤ (t - ⌊t⌋) * 1000000 := by
    have hfloor := Int.floor_le t
    apply mul_nonneg
    · linarith
    · norm_num
  have husec : ⌊(t - ⌊t⌋) * 1000000⌋ = ⌊t * 1000000⌋ - ⌊t⌋ * 1000000 := by
    rw [sub_mul, ← Int.floor_sub_intCast]
    push_cast
    rfl
  unfold fromSec toSec
  dsimp only
  rw [integer_eq_floor ht, integer_eq_floor hfract, husec]
  push_cast
  ring

theorem toSec_fromSec_mono {t t' : ℚ} (ht : 0 ≤ t) (hle : t ≤ t') :
    (fromSec t).toSec ≤ (fromSec t').toSec := by
  rw [toSec_fromSec ht, toSec_fromSec (ht.trans hle)]
  have hfloor : ⌊t * 1000000⌋ ≤ ⌊t' * 1000000⌋ := by
    apply Int.floor_le_floor
    linarith
  have hcast : (⌊t * 1000000⌋ : ℚ) ≤ ⌊t' * 1000000⌋ := by exact_mod_cast hfloor
  linarith

theorem toSec_fromSec_nonneg {t : ℚ} (ht : 0 ≤ t) : 0 ≤ (fromSec t).toSec := by
  have hzero : (fromSec 0).toSec = 0 := by simp [toSec_fromSec]
  rw [← hzero]
  exact toSec_fromSec_mono le_rfl ht

theorem normalised_fromSec {t : ℚ} (ht : 0 ≤ t) : (fromSec t).Normalised := by
  have hfloor := Int.floor_le t
  have hlt := Int.lt_floor_add_one t
  have hfract : 0 ≤ (t - ⌊t⌋) * 1000000 := by linarith
  have husec : (fromSec t).usec = (⌊(t - ⌊t⌋) * 1000000⌋ : ℚ) := by
    rw [fromSec, integer_eq_floor ht, integer_eq_floor hfract]
  refine ⟨?_, ?_⟩
  · rw [husec]
    exact_mod_cast Int.floor_nonneg.mpr hfract
  · rw [husec]
    have hle := Int.floor_le ((t - ⌊t⌋) * 1000000)
    linarith

/-! ## The later time -/

/-- The microseconds do not exceed a second: what `time-add` gives. -/
structure Carried (t : Time) : Prop where
  nonneg : 0 ≤ t.usec
  le : t.usec ≤ 1000000

theorem Normalised.carried (h : t.Normalised) : t.Carried := ⟨h.nonneg, h.lt.le⟩

theorem Carried.add (h1 : t1.Carried) (h2 : t2.Normalised) : (t1.add t2).Carried := by
  have hpos1 := h1.nonneg
  have hle1 := h1.le
  have hpos2 := h2.nonneg
  have hlt2 := h2.lt
  unfold Time.add
  dsimp only
  split
  · next hcarry =>
      refine ⟨?_, ?_⟩
      · show 0 ≤ t1.usec + t2.usec - 1000000
        linarith
      · show t1.usec + t2.usec - 1000000 ≤ 1000000
        linarith
  · next hcarry =>
      refine ⟨?_, not_lt.mp hcarry⟩
      show 0 ≤ t1.usec + t2.usec
      linarith

theorem Carried.max (h1 : t1.Carried) (h2 : t2.Carried) : (t1.max t2).Carried := by
  unfold Time.max
  split_ifs
  all_goals assumption

/-- A time of an earlier second is no later one. -/
theorem toSec_le_of_sec_lt (h1 : t1.Carried) (h2 : t2.Carried) (h : t1.sec < t2.sec) :
    t1.toSec ≤ t2.toSec := by
  have hle := h1.le
  have hpos := h2.nonneg
  have hsec : (t1.sec : ℚ) + 1 ≤ t2.sec := by exact_mod_cast h
  unfold toSec
  linarith

/-- `time-max` compares the seconds first. -/
theorem toSec_le_max (h1 : t1.Carried) (h2 : t2.Carried) :
    t1.toSec ≤ (t1.max t2).toSec ∧ t2.toSec ≤ (t1.max t2).toSec := by
  unfold Time.max
  split
  · next hgt => exact ⟨le_rfl, toSec_le_of_sec_lt h2 h1 hgt⟩
  split
  · next hlt => exact ⟨toSec_le_of_sec_lt h1 h2 hlt, le_rfl⟩
  · next hgt hlt =>
      have hsec : t1.sec = t2.sec := by omega
      split
      · next husec =>
          refine ⟨le_rfl, ?_⟩
          unfold toSec
          rw [hsec]
          linarith
      · next husec =>
          refine ⟨?_, le_rfl⟩
          unfold toSec
          rw [hsec]
          linarith

end Time

/-! ## Time ranges -/

/-- **Overlap is intersection**: the length is that of the intersection, it does not depend on the
order of the ranges, and the part of a proper range that it covers is a part. -/
theorem overlap_is_intersection {t1Start t1End t2Start t2End : ℚ} (h1 : t1Start ≤ t1End)
    (h2 : t2Start ≤ t2End) :
    timeRangeOverlapLength t1Start t1End t2Start t2End =
        max 0 (min t1End t2End - max t1Start t2Start) ∧
      timeRangeOverlapLength t1Start t1End t2Start t2End =
        timeRangeOverlapLength t2Start t2End t1Start t1End ∧
      (t1Start < t1End →
        0 ≤ timeRangeOverlapRatio t1Start t1End t2Start t2End ∧
          timeRangeOverlapRatio t1Start t1End t2Start t2End ≤ 1) := by
  have hlength := timeRangeOverlapLength_eq h1 h2
  refine ⟨hlength, ?_, ?_⟩
  · rw [hlength, timeRangeOverlapLength_eq h2 h1, min_comm, max_comm t1Start]
  · intro hlt
    have hpos : 0 < t1End - t1Start := sub_pos.mpr hlt
    unfold timeRangeOverlapRatio
    rw [hlength]
    constructor
    · exact div_nonneg (le_max_left _ _) hpos.le
    · rw [div_le_iff₀ hpos, one_mul]
      apply max_le hpos.le
      have hend := min_le_left t1End t2End
      have hstart := le_max_left t1Start t2Start
      linarith

/-- A down time that begins within an order. -/
theorem overlap_is_intersection_of_down :
    timeRangeOverlapLength 100 160 130 200 = max 0 (min 160 200 - max 100 130) ∧
      timeRangeOverlapLength 100 160 130 200 = timeRangeOverlapLength 130 200 100 160 ∧
      ((100 : ℚ) < 160 →
        0 ≤ timeRangeOverlapRatio 100 160 130 200 ∧ timeRangeOverlapRatio 100 160 130 200 ≤ 1) :=
  overlap_is_intersection (by norm_num) (by norm_num)

end FactoryHub.Clips
