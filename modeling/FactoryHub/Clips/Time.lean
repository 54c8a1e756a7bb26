import FactoryHub.Lib.Rounding
import Mathlib.Data.Rat.Defs
import Mathlib.Tactic.Ring
import Mathlib.Tactic.FieldSimp
import Mathlib.Tactic.Linarith

/-!
# Times

`time.clp`, of which each refbox has its own copy. A time is a pair of seconds and microseconds;
FLOATs are rationals. The functions compute exactly, but for `floatDiffSec`, which rounds as FLOAT
operations do: the rounding of a FLOAT operation is a parameter `float`, on doubles `double`.
-/

namespace FactoryHub.Clips

/-- The FLOAT nearest to the exact result of an operation. -/
def double : ℚ → ℚ := Lib.toNearest 53

/-- The CLIPS function `integer`, which truncates. -/
def integer (q : ℚ) : Int := q.num.tdiv q.den

/-- A point in time, seconds and microseconds (a FLOAT in times of a simulation). -/
structure Time where
  sec : Int
  usec : ℚ
  deriving DecidableEq, Repr

namespace Time

/-- `time-diff`. -/
def diff (t1 t2 : Time) : Time :=
  let sec := t1.sec - t2.sec
  let usec := t1.usec - t2.usec
  if usec < 0 then ⟨sec - 1, 1000000 + usec⟩ else ⟨sec, usec⟩

/-- `time-diff-sec`. -/
def diffSec (t1 t2 : Time) : ℚ :=
  let td := t1.diff t2
  td.sec + td.usec / 1000000

/-- `time-diff-sec`, with the FLOATs of its operations. -/
def floatDiffSec (float : ℚ → ℚ) (t1 t2 : Time) : ℚ :=
  let td := t1.diff t2
  float (float td.sec + float (float td.usec / 1000000))

/-- `timeout`. -/
def timeout (now time : Time) (timeout : ℚ) : Prop := timeout < now.diffSec time

instance (now time : Time) (timeout : ℚ) : Decidable (now.timeout time timeout) := by
  unfold Time.timeout
  infer_instance

/-- `time-from-sec`. -/
def fromSec (t : ℚ) : Time := ⟨integer t, integer ((t - integer t) * 1000000)⟩

/-- `time-to-sec`. -/
def toSec (t : Time) : ℚ := t.sec + t.usec / 1000000

/-- `time-add`. -/
def add (t1 t2 : Time) : Time :=
  let sec := t1.sec + t2.sec
  let usec := t1.usec + t2.usec
  if usec > 1000000 then ⟨sec + 1, usec - 1000000⟩ else ⟨sec, usec⟩

/-- `time-max`. -/
def max (t1 t2 : Time) : Time :=
  if t1.sec > t2.sec then t1
  else if t1.sec < t2.sec then t2
  else if t1.usec > t2.usec then t1
  else t2

/-- Borrowing a second does not change the difference. -/
theorem toSec_diff (t1 t2 : Time) : (t1.diff t2).toSec = t1.toSec - t2.toSec := by
  unfold diff toSec
  dsimp only
  split
  · push_cast
    ring
  · push_cast
    ring

theorem diffSec_eq (t1 t2 : Time) : t1.diffSec t2 = t1.toSec - t2.toSec := toSec_diff t1 t2

end Time

/-! ## Time ranges -/

/-- `time-range-overlap-length`. -/
def timeRangeOverlapLength (t1Start t1End t2Start t2End : ℚ) : ℚ :=
  if t1Start ≥ t2Start ∧ t1Start ≤ t2End then
    -- the start of t1 is within t2
    if t1End ≤ t2End then t1End - t1Start else t2End - t1Start
  else if t1End ≥ t2Start ∧ t1End ≤ t2End then t1End - t2Start
  else if t1Start ≤ t2Start ∧ t1End ≥ t2End then t2End - t2Start
  else if t2Start ≤ t1Start ∧ t2End ≥ t1End then t1End - t1Start
  else 0

/-- `time-range-overlap-ratio`. -/
def timeRangeOverlapRatio (t1Start t1End t2Start t2End : ℚ) : ℚ :=
  timeRangeOverlapLength t1Start t1End t2Start t2End / (t1End - t1Start)

/-- The length of the intersection. -/
theorem timeRangeOverlapLength_eq {a b c d : ℚ} (hab : a ≤ b) (hcd : c ≤ d) :
    timeRangeOverlapLength a b c d = max 0 (min b d - max a c) := by
  unfold timeRangeOverlapLength
  rcases le_total a c with hac | hac <;> rcases le_total b d with hbd | hbd
  all_goals
    simp only [hac, hbd, max_eq_left, max_eq_right, min_eq_left, min_eq_right]
    split_ifs <;> grind

end FactoryHub.Clips
