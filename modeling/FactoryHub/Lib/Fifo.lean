import FactoryHub.Lib.Simulation

/-!
# First in, first out, one at a time

What a queue in front of a device is for: entries are started in the order in which they came, and
the next one only when the one before is done. That at most one entry is under way is part of the
state.

* `Fifo.conserved` — what was started and what still waits is what came, in order.
* `Fifo.matched_by_none`, `Fifo.matched_by` — the operations that match a step of an implementation.
-/

namespace FactoryHub.Lib

variable {α : Type}

/-- The entries that wait, the one under way and those that are done. -/
structure Fifo (α : Type) where
  waiting : List α := []
  underWay : Option α := none
  done : List α := []

inductive FifoOp (α : Type) where
  | enqueue (a : α)
  | start
  | finish

/-- The entry an operation brings. -/
def FifoOp.enqueued : FifoOp α → List α
  | .enqueue a => [a]
  | .start | .finish => []

namespace Fifo

def step : Fifo α → FifoOp α → Option (Fifo α)
  | f, .enqueue a => some { f with waiting := f.waiting ++ [a] }
  | ⟨a :: rest, none, done⟩, .start => some ⟨rest, some a, done⟩
  | ⟨_, _, _⟩, .start => none
  | ⟨waiting, some a, done⟩, .finish => some ⟨waiting, none, done ++ [a]⟩
  | ⟨_, none, _⟩, .finish => none

/-- The entries that have been started. -/
def started (f : Fifo α) : List α := f.done ++ f.underWay.toList

/-- An operation brings its entry, and neither loses, repeats nor overtakes another one. -/
theorem step_conserved {f f' : Fifo α} {op : FifoOp α} (h : f.step op = some f') :
    f'.started ++ f'.waiting = f.started ++ f.waiting ++ op.enqueued := by
  obtain ⟨waiting, underWay, done⟩ := f
  cases op with
  | enqueue a =>
      cases h
      simp [started, FifoOp.enqueued]
  | start =>
      cases waiting with
      | nil => cases h
      | cons a rest =>
          cases underWay with
          | none =>
              cases h
              simp [started, FifoOp.enqueued]
          | some b => cases h
  | finish =>
      cases underWay with
      | none => cases h
      | some a =>
          cases h
          simp [started, FifoOp.enqueued]

/-- What was started and what waits is what came, in order. -/
theorem conserved {tr : List (Step (Fifo α) (FifoOp α))} {f : Fifo α}
    (h : Run (fun f op f' => step f op = some f') {} tr f) :
    f.started ++ f.waiting = shown FifoOp.enqueued tr := by
  induction h with
  | init => rfl
  | step _ hs ih => rw [shown_cons, step_conserved hs, ih]

/-! ## Matching the steps of an implementation -/

/-- A step that brings no entry may be matched by no operation. -/
theorem matched_by_none {f : Fifo α} {R : Fifo α → Prop} (hR : R f) :
    ∃ tr f', Run (fun f op f' => step f op = some f') f tr f' ∧ R f' ∧
      shown FifoOp.enqueued tr = [] := ⟨[], f, .init, hR, rfl⟩

/-- A step may be matched by one operation. -/
theorem matched_by (op : FifoOp α) {f f' : Fifo α} {R : Fifo α → Prop} (hs : f.step op = some f')
    (hR : R f') :
    ∃ tr f', Run (fun f op f' => step f op = some f') f tr f' ∧ R f' ∧
      shown FifoOp.enqueued tr = op.enqueued :=
  ⟨[⟨f, op, f'⟩], f', Run.init.step hs, hR, by simp⟩

end Fifo

end FactoryHub.Lib
