import FactoryHub.Clips.TimeArithmetic
import Mathlib.Algebra.BigOperators.Group.List.Basic

/-!
# Intervals of a timer

A timer that is read again and again counts, at each tick, the time since the tick before. What it
counts over an interval is the length of the interval but for the rounding of its additions
(`near_counted`).
-/

namespace FactoryHub.Clips

open Lib

/-- The time an interval was entered, and those of the ticks in it, newest first. -/
structure Interval where
  entry : Time
  ticks : List Time

namespace Interval

/-- The time of the last tick, or of the entry if there was none. -/
def last (i : Interval) : Time := i.ticks.headD i.entry

def length (i : Interval) : ℚ := i.last.toSec - i.entry.toSec

/-- The interval goes on to a tick. -/
def extend (now : Time) (i : Interval) : Interval := { i with ticks := now :: i.ticks }

/-- What a timer that stood at `timer` counts from the entry on: the FLOAT difference of each tick
to the one before. -/
def count (float : ℚ → ℚ) (timer : ℚ) (entry : Time) : List Time → ℚ
  | [] => timer
  | tick :: ticks =>
      float (count float timer entry ticks + tick.floatDiffSec float (ticks.headD entry))

/-- The times are those of a clock that does not go back. -/
structure Ordered (i : Interval) : Prop where
  normalised : ∀ t ∈ i.ticks ++ [i.entry], t.Normalised
  sorted : (i.ticks ++ [i.entry]).Pairwise fun later earlier => earlier.toSec ≤ later.toSec

end Interval

/-- The lengths of the intervals. -/
def total (intervals : List Interval) : ℚ := (intervals.map Interval.length).sum

/-- What a timer counts over intervals, the newest first, from 0 on. -/
def counted (float : ℚ → ℚ) : List Interval → ℚ
  | [] => 0
  | i :: rest => Interval.count float (counted float rest) i.entry i.ticks

/-- The number of ticks in the intervals. -/
def ticks (intervals : List Interval) : ℕ := (intervals.map fun i => i.ticks.length).sum

@[simp] theorem total_cons (i : Interval) (rest : List Interval) :
    total (i :: rest) = i.length + total rest := rfl

@[simp] theorem ticks_cons (i : Interval) (rest : List Interval) :
    ticks (i :: rest) = i.ticks.length + ticks rest := rfl

theorem counted_extend (float : ℚ → ℚ) (now : Time) (i : Interval) (rest : List Interval) :
    counted float (i.extend now :: rest) =
      float (counted float (i :: rest) + now.floatDiffSec float i.last) := rfl

section

variable {float : ℚ → ℚ} {u timer x : ℚ} {n : ℕ}

/-- Each tick adds the FLOAT difference to the tick before, and one rounding. -/
theorem near_count (hfloat : Rounds float u) (htimer : Near u (n + 3) timer x) :
    ∀ {entry : Time} {ticks : List Time}, Interval.Ordered ⟨entry, ticks⟩ →
      Near u (ticks.length + n + 3) (Interval.count float timer entry ticks)
        (Interval.length ⟨entry, ticks⟩ + x)
  | entry, [], _ => by
      have hlength : Interval.length ⟨entry, []⟩ = 0 := sub_self _
      rw [hlength, zero_add, List.length_nil, zero_add]
      exact htimer
  | entry, tick :: ticks, hordered => by
      have hsorted := hordered.sorted
      rw [List.cons_append, List.pairwise_cons] at hsorted
      have hrest : Interval.Ordered ⟨entry, ticks⟩ :=
        ⟨fun t ht => hordered.normalised t (List.mem_cons_of_mem _ ht), hsorted.2⟩
      have hprev : ticks.headD entry ∈ ticks ++ [entry] := by
        cases ticks <;> simp
      have hdiff := Time.near_floatDiffSec hfloat
        (hordered.normalised tick (List.mem_cons_self ..)) (hrest.normalised _ hprev)
        (hsorted.1 _ hprev)
      have hsum := (near_count hfloat htimer hrest).add
        (hdiff.mono hfloat.nonneg (by omega : 3 ≤ ticks.length + n + 3))
      have hlength : Interval.length ⟨entry, tick :: ticks⟩ + x =
          Interval.length ⟨entry, ticks⟩ + x + (tick.toSec - (ticks.headD entry).toSec) := by
        show tick.toSec - entry.toSec + x =
          (ticks.headD entry).toSec - entry.toSec + x + (tick.toSec - (ticks.headD entry).toSec)
        ring
      rw [hlength, show (tick :: ticks).length + n + 3 = ticks.length + n + 3 + 1 by
        rw [List.length_cons]
        omega]
      exact hsum.round hfloat

/-- What is counted is the length of the intervals, but for one rounding for each tick and those of
the differences. -/
theorem near_counted (hfloat : Rounds float u) :
    ∀ {intervals : List Interval}, (∀ i ∈ intervals, i.Ordered) →
      Near u (ticks intervals + 3) (counted float intervals) (total intervals)
  | [], _ => (Near.refl u le_rfl).mono hfloat.nonneg (Nat.zero_le _)
  | i :: rest, hordered => by
      rw [List.forall_mem_cons] at hordered
      exact near_count hfloat (near_counted hfloat hordered.2) hordered.1

end

end FactoryHub.Clips
