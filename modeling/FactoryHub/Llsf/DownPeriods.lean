import FactoryHub.Lib.Settle
import FactoryHub.Llsf.MachineSteps
import Mathlib.Algebra.Order.BigOperators.Group.List

/-!
# Down periods

`machine-down` and `machine-up` fire before all other rules. At the time a down period ends both
hold of a machine in turn, and each firing of `machine-down` prolongs a running production.

* `settles_iff` — the two rules come to rest at a game time at which no down period ends.
* `procStart_of_run` — along the runs that never stop at such a time, a production that meets the
  down period of its machine is prolonged by its length, once.
-/

namespace FactoryHub.Llsf

open Lib

namespace Machine

/-- The down period, which has begun, ends now, and the machine has a state to return to. -/
def Ends (mf : Machine) (gtime : ℚ) : Prop :=
  mf.downPeriod.1 ≤ gtime ∧ gtime = mf.downPeriod.2 ∧
    ¬ (mf.state = .down ∧ mf.prevState = .down)

instance (mf : Machine) (gtime : ℚ) : Decidable (mf.Ends gtime) := by
  unfold Ends
  infer_instance

section

variable {mf : Machine} {gtime : ℚ}

theorem not_isDue_down : ¬ mf.down.IsDue gtime := fun h => h.1 rfl

theorem not_isBack_up (h : mf.IsBack gtime) : ¬ mf.up.IsBack gtime := fun hback => h.2.1 hback.1

theorem isBack_down (h : mf.IsDue gtime) (hends : mf.Ends gtime) : mf.down.IsBack gtime :=
  ⟨rfl, h.1, hends.2.1.ge⟩

theorem ends_down_iff (h : mf.IsDue gtime) : mf.down.Ends gtime ↔ mf.Ends gtime := by
  refine and_congr_right fun _ => and_congr_right fun _ => not_congr ?_
  exact ⟨fun hd => absurd hd.2 h.1, fun hd => absurd hd.1 h.1⟩

theorem ends_up_iff (h : mf.IsBack gtime) : mf.up.Ends gtime ↔ mf.Ends gtime := by
  refine and_congr_right fun _ => and_congr_right fun _ => not_congr ?_
  exact ⟨fun hd => absurd hd.2 h.2.1, fun hd => absurd hd.2 h.2.1⟩

/-- A machine whose down period ends now, and not both rules are out of question for it. -/
theorem isDue_or_isBack (h : mf.Ends gtime) : mf.IsDue gtime ∨ mf.IsBack gtime := by
  by_cases hdown : mf.state = .down
  · exact Or.inr ⟨hdown, fun hprev => h.2.2 ⟨hdown, hprev⟩, h.2.1.ge⟩
  · exact Or.inl ⟨hdown, h.1, h.2.1.le⟩

/-- How many of the two rules are still to fire for a machine. -/
def pending (mf : Machine) (gtime : ℚ) : ℕ :=
  if mf.IsDue gtime ∨ mf.IsBack gtime then 1 else 0

theorem pending_down (h : mf.IsDue gtime) (hends : ¬ mf.Ends gtime) :
    mf.down.pending gtime = 0 := by
  rw [pending, if_neg]
  rintro (hdue | ⟨-, -, hle⟩)
  · exact not_isDue_down hdue
  · exact hends ⟨h.2.1, le_antisymm h.2.2 hle, fun hd => h.1 hd.1⟩

theorem pending_up (h : mf.IsBack gtime) (hends : ¬ mf.Ends gtime) : mf.up.pending gtime = 0 := by
  rw [pending, if_neg]
  rintro (⟨-, hstart, hend⟩ | hback)
  · exact hends ⟨hstart, le_antisymm hend h.2.2, fun hd => h.2.1 hd.2⟩
  · exact not_isBack_up h hback

end

end Machine

namespace Memory

variable {s s' : Memory} {m : MachineName}

/-! ## At one game time -/

/-- One of the rules `machine-down` and `machine-up` fires. -/
def DownUp (s s' : Memory) : Prop := ∃ m, s.machineDown m = some s' ∨ s.machineUp m = some s'

/-- The down period of a machine ends at the present game time. -/
def DownEnds (s : Memory) (m : MachineName) : Prop :=
  s.Producing ∧ (s.machines m).Ends s.gamestate.gameTime

instance (s : Memory) (m : MachineName) : Decidable (s.DownEnds m) := by
  unfold DownEnds
  infer_instance

/-- What the two rules do: one machine goes down or up, all else stays. -/
theorem DownUp.cases (h : s.DownUp s') : s.Producing ∧
    ∃ m mf', s' = s.setMachine m mf' ∧
      (((s.machines m).IsDue s.gamestate.gameTime ∧ mf' = (s.machines m).down) ∨
        ((s.machines m).IsBack s.gamestate.gameTime ∧ mf' = (s.machines m).up)) := by
  obtain ⟨m, h | h⟩ := h
  · obtain ⟨hproducing, hdue, rfl⟩ := machineDown_eq_some_iff.mp h
    exact ⟨hproducing, m, _, rfl, Or.inl ⟨hdue, rfl⟩⟩
  · obtain ⟨hproducing, hback, rfl⟩ := machineUp_eq_some_iff.mp h
    exact ⟨hproducing, m, _, rfl, Or.inr ⟨hback, rfl⟩⟩

/-- The two rules do not change for which machines the down period ends now. -/
theorem DownUp.downEnds_iff (h : s.DownUp s') (n : MachineName) :
    s'.DownEnds n ↔ s.DownEnds n := by
  obtain ⟨-, m, mf', rfl, hmf⟩ := h.cases
  refine and_congr_right fun _ => ?_
  show ((s.setMachine m mf').machines n).Ends s.gamestate.gameTime ↔ _
  rw [setMachine_machines]
  split
  · next heq =>
      subst heq
      rcases hmf with ⟨hdue, rfl⟩ | ⟨hback, rfl⟩
      · exact Machine.ends_down_iff hdue
      · exact Machine.ends_up_iff hback
  · rfl

/-- How many firings of the two rules are to come. -/
def pending (s : Memory) : ℕ :=
  (MachineName.all.map fun n => (s.machines n).pending s.gamestate.gameTime).sum

theorem DownUp.pending_lt (h : s.DownUp s') (hends : ∀ n, ¬ s.DownEnds n) :
    s'.pending < s.pending := by
  obtain ⟨hproducing, m, mf', rfl, hmf⟩ := h.cases
  have hends : ¬ (s.machines m).Ends s.gamestate.gameTime := fun h => hends m ⟨hproducing, h⟩
  have hone : (s.machines m).pending s.gamestate.gameTime = 1 := by
    rw [Machine.pending, if_pos]
    rcases hmf with ⟨hdue, -⟩ | ⟨hback, -⟩
    · exact Or.inl hdue
    · exact Or.inr hback
  have hzero : mf'.pending s.gamestate.gameTime = 0 := by
    rcases hmf with ⟨hdue, rfl⟩ | ⟨hback, rfl⟩
    · exact Machine.pending_down hdue hends
    · exact Machine.pending_up hback hends
  apply List.sum_lt_sum
  · intro n _
    show ((s.setMachine m mf').machines n).pending s.gamestate.gameTime ≤ _
    rw [setMachine_machines]
    split
    · next heq =>
        rw [heq, hzero]
        exact Nat.zero_le _
    · exact le_refl _
  · refine ⟨m, m.mem_all, ?_⟩
    show ((s.setMachine m mf').machines m).pending s.gamestate.gameTime < _
    rw [setMachine_machines, if_pos rfl, hzero, hone]
    exact Nat.zero_lt_one

/-- Where a down period ends, one of the two rules can fire, whatever fired before. -/
theorem exists_downUp (h : s.DownEnds m) : ∃ s', s.DownUp s' := by
  rcases Machine.isDue_or_isBack h.2 with hdue | hback
  · exact ⟨_, m, Or.inl (machineDown_eq_some_iff.mpr ⟨h.1, hdue, rfl⟩)⟩
  · exact ⟨_, m, Or.inr (machineUp_eq_some_iff.mpr ⟨h.1, hback, rfl⟩)⟩

/-- **The two rules come to rest** exactly at a game time at which no down period ends. -/
theorem settles_iff : Settles DownUp s ↔ ∀ m, ¬ s.DownEnds m := by
  constructor
  · intro h m hends
    refine not_settles_of_endless (P := fun s => s.DownEnds m) (fun s hs => ?_) hends h
    obtain ⟨s', hfires⟩ := exists_downUp hs
    exact ⟨s', hfires, (hfires.downEnds_iff m).mpr hs⟩
  · intro h
    refine settles_of_measure (I := fun s => ∀ m, ¬ s.DownEnds m) pending (fun s s' hs hfires => ?_) h
    exact ⟨fun n hn => hs n ((hfires.downEnds_iff n).mp hn), hfires.pending_lt hs⟩

/-! ## Along a run -/

/-- Neither of the two rules is enabled. -/
def Settled (s : Memory) : Prop :=
  ∀ m, (s.machineDown m).isNone = true ∧ (s.machineUp m).isNone = true

instance (s : Memory) : Decidable s.Settled := by
  unfold Settled
  infer_instance

theorem settled_iff : s.Settled ↔ AtRest DownUp s := by
  constructor
  · rintro h s' ⟨m, hdown | hup⟩
    · rw [Option.isNone_iff_eq_none.mp (h m).1] at hdown
      cases hdown
    · rw [Option.isNone_iff_eq_none.mp (h m).2] at hup
      cases hup
  · intro h m
    constructor
    · refine Option.isNone_iff_eq_none.mpr (Option.eq_none_iff_forall_ne_some.mpr fun s' hs => ?_)
      exact h s' ⟨m, Or.inl hs⟩
    · refine Option.isNone_iff_eq_none.mpr (Option.eq_none_iff_forall_ne_some.mpr fun s' hs => ?_)
      exact h s' ⟨m, Or.inr hs⟩

/-- `PRIORITY_HIGH`: nothing else happens while one of the two rules is enabled. -/
def GoesFirst (s : Memory) : Activation → Prop
  | .machineDown _ | .machineUp _ => True
  | _ => s.Settled

/-- The game time does not go back. -/
def GoesOn (s : Memory) : Activation → Prop
  | .gamestate gamestate => s.gamestate.gameTime ≤ gamestate.gameTime
  | _ => True

instance (s : Memory) (a : Activation) : Decidable (s.GoesFirst a) := by
  apply Activation.casesOn (motive := fun a => Decidable (s.GoesFirst a)) a <;>
    (intros; dsimp only [GoesFirst]; infer_instance)

instance (s : Memory) (a : Activation) : Decidable (s.GoesOn a) := by
  apply Activation.casesOn (motive := fun a => Decidable (s.GoesOn a)) a <;>
    (intros; dsimp only [GoesOn]; infer_instance)

/-- The machine starts a production, or gets another down period. -/
def Begins (m : MachineName) : Activation → Bool
  | .machineProcStart n _ | .deliverProcStart n _ | .recycleProcStart n _
  | .deliveryGateDownPeriod n _ => n = m
  | _ => false

/-- The `proc-start` the production under way at a machine had when it, or the down period, began. -/
def begun (s₀ : Memory) (m : MachineName) : List (Step Memory Activation) → ℚ
  | [] => (s₀.machines m).procStart
  | t :: tr => if Begins m t.label then (t.post.machines m).procStart else begun s₀ m tr

/-- The machine is PROCESSING in its down period. -/
def MeetsDown (s : Memory) (m : MachineName) : Prop :=
  s.Producing ∧ (s.machines m).state = .processing ∧
    (s.machines m).downPeriod.1 ≤ s.gamestate.gameTime ∧
    s.gamestate.gameTime ≤ (s.machines m).downPeriod.2

instance (s : Memory) (m : MachineName) : Decidable (s.MeetsDown m) := by
  unfold MeetsDown
  infer_instance

/-- The production under way at a machine has met its down period. -/
def Met (m : MachineName) : List (Step Memory Activation) → Prop
  | [] => False
  | t :: tr => Begins m t.label = false ∧ (t.pre.MeetsDown m ∨ Met m tr)

instance decidableMet (m : MachineName) : ∀ tr, Decidable (Met m tr)
  | [] => inferInstanceAs (Decidable False)
  | _ :: tr =>
      @instDecidableAnd _ _ inferInstance
        (@instDecidableOr _ _ inferInstance (decidableMet m tr))

theorem MeetsDown.isDue (h : s.MeetsDown m) : (s.machines m).IsDue s.gamestate.gameTime := by
  refine ⟨?_, h.2.2⟩
  rw [h.2.1]
  decide

theorem Settled.not_meetsDown (h : s.Settled) : ¬ s.MeetsDown m := by
  intro hmeets
  exact settled_iff.mp h _ ⟨m, Or.inl (machineDown_eq_some_iff.mpr ⟨hmeets.1, hmeets.isDue, rfl⟩)⟩

/-- What the other rules leave of a machine: they neither start a production nor touch its times. -/
structure Keeps (mf mf' : Machine) : Prop where
  procStart : mf'.procStart = mf.procStart
  downPeriod : mf'.downPeriod = mf.downPeriod
  state : mf'.state = .processing → mf.state = .processing

/-- A machine that is given a state other than PROCESSING, and the same times. -/
theorem Keeps.of_ne {mf mf' : Machine} (hstart : mf'.procStart = mf.procStart)
    (hdown : mf'.downPeriod = mf.downPeriod) (hstate : mf'.state ≠ .processing) : Keeps mf mf' :=
  ⟨hstart, hdown, fun h => absurd h hstate⟩

/-- A rule that takes a machine down or up. -/
def IsDownUp : Activation → Bool
  | .machineDown _ | .machineUp _ => true
  | _ => false

/-- **What one step leaves of a machine** at which it starts nothing and which it does not take down
or up. -/
theorem step_keeps {a : Activation} (hdownUp : IsDownUp a = false) (hbegins : Begins m a = false)
    (h : s.step a = some s') : Keeps (s.machines m) (s'.machines m) := by
  have hbecomes := step_becomes h m
  generalize s'.machines m = mf' at hbecomes ⊢
  cases hbecomes with
  | same => exact ⟨rfl, rfl, id⟩
  | machineDown | machineUp => cases hdownUp
  | machineProcStart | deliverProcStart | recycleProcStart | deliveryGateDownPeriod =>
      exact absurd rfl (of_decide_eq_false hbegins)
  | reject | removal | machineProcWaiting | machineProcDone | recycleProcDone =>
      exact .of_ne rfl rfl (by simp)
  | junk n id =>
      simp only [reject, setMachine_machines]
      split
      · next heq =>
          subst heq
          exact .of_ne rfl rfl (by simp)
      · exact ⟨rfl, rfl, fun h => h⟩
  | puckRemoval state hstate =>
      refine .of_ne rfl rfl ?_
      rcases hstate with rfl | rfl <;> simp
  | puckRemovalDown state _ hdown => exact ⟨rfl, rfl, id⟩
  -- a gate returns to what it was before it was PROCESSING
  | deliverProcDone _ hproc => exact ⟨rfl, rfl, fun _ => hproc⟩

theorem step_gameTime_le {a : Activation} (hon : s.GoesOn a) (h : s.step a = some s') :
    s.gamestate.gameTime ≤ s'.gamestate.gameTime := by
  cases ha : a.isGamestate with
  | true =>
      cases a with
      | gamestate gamestate =>
          cases h
          exact hon
      | _ => cases ha
  | false =>
      rw [(step_frame ha h).1]

/-! ### The invariant -/

/-- The production under way at `m` has not met the down period; or it is about to be prolonged by
its length; or it has been, and will not meet the down period again. -/
def Accounted (s₀ : Memory) (m : MachineName) (tr : List (Step Memory Activation)) (s : Memory) :
    Prop :=
  let mf := s.machines m
  if Met m tr then
    (s.MeetsDown m ∧ mf.procStart = begun s₀ m tr) ∨
      (mf.procStart = begun s₀ m tr + (mf.downPeriod.2 - mf.downPeriod.1) ∧
        (mf.state = .processing →
          mf.downPeriod.2 < s.gamestate.gameTime ∨ mf.downPeriod.2 < mf.downPeriod.1))
  else mf.procStart = begun s₀ m tr

namespace Accounted

variable {s₀ : Memory} {tr : List (Step Memory Activation)} {a : Activation}

theorem of_begins (hbegins : Begins m a = true) : Accounted s₀ m (⟨s, a, s'⟩ :: tr) s' := by
  simp [Accounted, Met, begun, hbegins]

/-- The case split on what was the case before a step that begins nothing. -/
theorem cons (hbegins : Begins m a = false)
    (hmeets : s.MeetsDown m → (s.machines m).procStart = begun s₀ m tr →
      (s'.MeetsDown m ∧ (s'.machines m).procStart = begun s₀ m tr) ∨
        ((s'.machines m).procStart = begun s₀ m tr +
            ((s'.machines m).downPeriod.2 - (s'.machines m).downPeriod.1) ∧
          (s'.machines m).state ≠ .processing))
    (hprolonged : ¬ s.MeetsDown m →
      ((s.machines m).state = .processing → (s.machines m).downPeriod.2 < s.gamestate.gameTime ∨
        (s.machines m).downPeriod.2 < (s.machines m).downPeriod.1) →
      ((s'.machines m).state = .processing → (s'.machines m).downPeriod.2 < s'.gamestate.gameTime ∨
        (s'.machines m).downPeriod.2 < (s'.machines m).downPeriod.1))
    (hkept : ¬ s.MeetsDown m → (s'.machines m).procStart = (s.machines m).procStart ∧
      (s'.machines m).downPeriod = (s.machines m).downPeriod)
    (h : Accounted s₀ m tr s) : Accounted s₀ m (⟨s, a, s'⟩ :: tr) s' := by
  have hmet : Met m (⟨s, a, s'⟩ :: tr) ↔ s.MeetsDown m ∨ Met m tr := by simp [Met, hbegins]
  have hbegun : begun s₀ m (⟨s, a, s'⟩ :: tr) = begun s₀ m tr := by simp [begun, hbegins]
  unfold Accounted at h ⊢
  dsimp only at h ⊢
  rw [hbegun]
  by_cases hdown : s.MeetsDown m
  · rw [if_pos (hmet.mpr (Or.inl hdown))]
    have hstart : (s.machines m).procStart = begun s₀ m tr := by
      split at h
      · rcases h with ⟨-, h⟩ | ⟨-, h⟩
        · exact h
        · -- it does not meet the down period again
          rcases h hdown.2.1 with hlt | hlt
          · exact absurd hdown.2.2.2 (not_le.mpr hlt)
          · exact absurd (hdown.2.2.1.trans hdown.2.2.2) (not_le.mpr hlt)
      · exact h
    rcases hmeets hdown hstart with hmeets | ⟨hprol, hstate⟩
    · exact Or.inl hmeets
    · exact Or.inr ⟨hprol, fun hproc => absurd hproc hstate⟩
  · obtain ⟨hstart, hperiod⟩ := hkept hdown
    by_cases htr : Met m tr
    · rw [if_pos htr] at h
      rw [if_pos (hmet.mpr (Or.inr htr))]
      rcases h with ⟨hmeets, -⟩ | ⟨hprol, hlater⟩
      · exact absurd hmeets hdown
      · refine Or.inr ⟨?_, hprolonged hdown hlater⟩
        rw [hstart, hperiod]
        exact hprol
    · rw [if_neg htr] at h
      rw [if_neg (fun hm => (hmet.mp hm).elim hdown htr), hstart]
      exact h

/-- Another machine changes. -/
theorem elsewhere {n : MachineName} {mf : Machine} (h : Accounted s₀ m tr s)
    (hbegins : Begins m a = false) (hn : m ≠ n) :
    Accounted s₀ m (⟨s, a, s.setMachine n mf⟩ :: tr) (s.setMachine n mf) := by
  have hmachine : (s.setMachine n mf).machines m = s.machines m := if_neg hn
  refine h.cons hbegins (fun hmeets hstart => Or.inl ?_) (fun _ hlater => ?_) (fun _ => ?_)
  · refine ⟨⟨hmeets.1, ?_⟩, ?_⟩
    · rw [hmachine]
      exact hmeets.2
    · rw [hmachine]
      exact hstart
  · rw [hmachine]
    exact hlater
  · rw [hmachine]
    exact ⟨rfl, rfl⟩

theorem machineDown {n : MachineName} (h : Accounted s₀ m tr s)
    (hs : s.machineDown n = some s') : Accounted s₀ m (⟨s, .machineDown n, s'⟩ :: tr) s' := by
  obtain ⟨hproducing, hdue, rfl⟩ := machineDown_eq_some_iff.mp hs
  by_cases hn : m = n
  · subst hn
    refine h.cons rfl (fun hmeets hstart => Or.inr ?_) (fun _ _ hproc => ?_) (fun hmeets => ?_)
    · rw [setMachine_machines, if_pos rfl]
      refine ⟨?_, by simp [Machine.down]⟩
      show (if (s.machines m).state = .processing then _ else _) = _
      rw [if_pos hmeets.2.1, hstart]
      rfl
    · rw [setMachine_machines, if_pos rfl] at hproc
      cases hproc
    · have hproc : (s.machines m).state ≠ .processing := fun hproc =>
        hmeets ⟨hproducing, hproc, hdue.2⟩
      rw [setMachine_machines, if_pos rfl]
      refine ⟨?_, rfl⟩
      show (if (s.machines m).state = .processing then _ else _) = _
      rw [if_neg hproc]
  · exact h.elsewhere rfl hn

theorem machineUp {n : MachineName} (h : Accounted s₀ m tr s) (hends : ¬ s.DownEnds m)
    (hs : s.machineUp n = some s') : Accounted s₀ m (⟨s, .machineUp n, s'⟩ :: tr) s' := by
  obtain ⟨hproducing, hback, rfl⟩ := machineUp_eq_some_iff.mp hs
  by_cases hn : m = n
  · subst hn
    have hmeets : ¬ s.MeetsDown m := fun hmeets => by
      rw [MeetsDown, hback.1] at hmeets
      cases hmeets.2.1
    refine h.cons rfl (fun h => absurd h hmeets) (fun _ _ _ => ?_) (fun _ => ?_)
    · -- the period is over, as it does not end now
      rw [setMachine_machines, if_pos rfl]
      show (s.machines m).downPeriod.2 < s.gamestate.gameTime ∨
        (s.machines m).downPeriod.2 < (s.machines m).downPeriod.1
      rcases lt_or_eq_of_le hback.2.2 with hlt | heq
      · exact Or.inl hlt
      · refine Or.inr (lt_of_not_ge fun hle => hends ⟨hproducing, ?_⟩)
        exact ⟨hle.trans hback.2.2, heq.symm, fun hd => hback.2.1 hd.2⟩
    · rw [setMachine_machines, if_pos rfl]
      exact ⟨rfl, rfl⟩
  · exact h.elsewhere rfl hn

theorem other (h : Accounted s₀ m tr s) (hdownUp : IsDownUp a = false) (hsettled : s.Settled)
    (hon : s.GoesOn a) (hs : s.step a = some s') : Accounted s₀ m (⟨s, a, s'⟩ :: tr) s' := by
  cases hbegins : Begins m a with
  | true => exact of_begins hbegins
  | false =>
      have hkeeps := step_keeps hdownUp hbegins hs
      refine h.cons hbegins (fun h => absurd h hsettled.not_meetsDown) (fun _ hlater hproc => ?_)
        (fun _ => ⟨hkeeps.procStart, hkeeps.downPeriod⟩)
      rw [hkeeps.downPeriod]
      exact (hlater (hkeeps.state hproc)).imp_left (lt_of_lt_of_le · (step_gameTime_le hon hs))

theorem step (h : Accounted s₀ m tr s) (hfirst : s.GoesFirst a) (hon : s.GoesOn a)
    (hends : ¬ s.DownEnds m) (hs : s.step a = some s') :
    Accounted s₀ m (⟨s, a, s'⟩ :: tr) s' := by
  cases a with
  | machineDown n => exact h.machineDown hs
  | machineUp n => exact h.machineUp hends hs
  | _ => exact h.other rfl hfirst hon hs

end Accounted

/-- **A production that meets the down period of its machine is prolonged by its length, once**, in
the runs that go on in time, in which the two rules go before the others, and which do not stop at
the end of the down period. -/
theorem procStart_of_run {s₀ : Memory} {tr : List (Step Memory Activation)}
    (h : ProductionRun s₀ tr s)
    (hon : ∀ t ∈ tr, t.pre.GoesOn t.label) (hfirst : ∀ t ∈ tr, t.pre.GoesFirst t.label)
    (hends : ∀ t ∈ tr, ¬ t.pre.DownEnds m) (hsettled : s.Settled) :
    (s.machines m).procStart = begun s₀ m tr +
      if Met m tr then (s.machines m).downPeriod.2 - (s.machines m).downPeriod.1 else 0 := by
  have hacc : Accounted s₀ m tr s := by
    refine @Run.history_invariant_of _ _ _ s₀ s tr
      (fun s a => s.GoesOn a ∧ s.GoesFirst a ∧ ¬ s.DownEnds m) (Accounted s₀ m) ?_ ?_ h ?_
    · simp [Accounted, Met, begun]
    · intro tr s a s' h hC hs
      exact h.step hC.2.1 hC.1 hC.2.2 hs
    · intro t ht
      exact ⟨hon t ht, hfirst t ht, hends t ht⟩
  unfold Accounted at hacc
  dsimp only at hacc
  by_cases hmet : Met m tr
  · rw [if_pos hmet] at hacc ⊢
    rcases hacc with ⟨hmeets, -⟩ | ⟨hprol, -⟩
    · exact absurd hmeets hsettled.not_meetsDown
    · exact hprol
  · rw [if_neg hmet] at hacc
    rw [if_neg hmet, add_zero]
    exact hacc

/-- At the end of its down period a PROCESSING machine goes down and up, is prolonged, and meets the
down period again. -/
theorem prolonged_again (hends : s.DownEnds m) (hmeets : s.MeetsDown m) :
    ∃ s₁ s₂, s.machineDown m = some s₁ ∧ s₁.machineUp m = some s₂ ∧ s₂.MeetsDown m ∧
      (s₂.machines m).procStart = (s.machines m).procStart +
        ((s.machines m).downPeriod.2 - (s.machines m).downPeriod.1) := by
  have hdue := hmeets.isDue
  have hdown : (s.setMachine m (s.machines m).down).machines m = (s.machines m).down := if_pos rfl
  refine ⟨_, _, machineDown_eq_some_iff.mpr ⟨hmeets.1, hdue, rfl⟩,
    machineUp_eq_some_iff.mpr ⟨hmeets.1, ?_, rfl⟩, ?_, ?_⟩
  · rw [hdown]
    exact Machine.isBack_down hdue hends.2
  · refine ⟨hmeets.1, ?_⟩
    rw [hdown, setMachine_machines, if_pos rfl]
    exact hmeets.2
  · rw [hdown, setMachine_machines, if_pos rfl]
    show (if (s.machines m).state = .processing then _ else _) = _
    rw [if_pos hmeets.2.1]

/-- **Down periods are handled once** — the two rules come to rest, and prolong a production that
meets the down period once — as long as no down period ends at the game time at which they fire.
Where one does, they never come to rest, and prolong a production each time. -/
theorem down_periods_handled (s : Memory) (m : MachineName) :
    ((Settles DownUp s ∧ ∃ s', Relation.ReflTransGen DownUp s s' ∧ AtRest DownUp s') ↔
      ∀ n, ¬ s.DownEnds n) ∧
    (∀ (s₀ : Memory) (tr : List (Step Memory Activation)),
      ProductionRun s₀ tr s → (∀ t ∈ tr, t.pre.GoesOn t.label) →
      (∀ t ∈ tr, t.pre.GoesFirst t.label) → s.Settled → (∀ t ∈ tr, ¬ t.pre.DownEnds m) →
      (s.machines m).procStart = begun s₀ m tr +
        if Met m tr then (s.machines m).downPeriod.2 - (s.machines m).downPeriod.1 else 0) ∧
    (s.DownEnds m → s.MeetsDown m →
      ∃ s₁ s₂, s.machineDown m = some s₁ ∧ s₁.machineUp m = some s₂ ∧ s₂.MeetsDown m ∧
        (s₂.machines m).procStart = (s.machines m).procStart +
          ((s.machines m).downPeriod.2 - (s.machines m).downPeriod.1)) := by
  refine ⟨⟨fun h => settles_iff.mp h.1, fun h => ?_⟩, ?_, ?_⟩
  · have hsettles := settles_iff.mpr h
    exact ⟨hsettles, hsettles.exists_rest⟩
  · intro s₀ tr h hon hfirst hsettled hends
    exact procStart_of_run h hon hfirst hends hsettled
  · intro hends hmeets
    exact prolonged_again hends hmeets

/-! ## Two runs of a T1 -/

/-- M1, whose down period is from 20 to 50, is PROCESSING since 10, at game time 19. -/
def processingM1 : Memory :=
  { startup with
    gamestate := { state := .running, phase := .production, gameTime := 19 }
    machines := fun n =>
      if n = .m1 then
        { team := .cyan, mtype := .t1, state := .processing, procStart := 10, procTime := 60
          downPeriod := (20, 50), puckId := 1 }
      else startup.machines n }

/-- The game time passes the end of the down period. -/
theorem down_periods_handled_of_m1 :
    ∃ tr s, ProductionRun processingM1 tr s ∧ Met .m1 tr ∧
      (s.machines .m1).procStart = begun processingM1 .m1 tr +
        if Met .m1 tr then (s.machines .m1).downPeriod.2 - (s.machines .m1).downPeriod.1 else 0 := by
  have hrun : (trace step processingM1
      [clock 30, .machineDown .m1, clock 51, .machineUp .m1]).any (fun r =>
        decide ((∀ t ∈ r.1, t.pre.GoesOn t.label) ∧ (∀ t ∈ r.1, t.pre.GoesFirst t.label) ∧
          r.2.Settled ∧ (∀ t ∈ r.1, ¬ t.pre.DownEnds .m1) ∧ Met .m1 r.1)) = true := by
    decide +kernel
  obtain ⟨⟨tr, s⟩, htrace, hr⟩ := (Option.any_eq_true _ _).mp hrun
  obtain ⟨hon, hfirst, hsettled, hends, hmet⟩ := of_decide_eq_true hr
  have hrun := run_of_trace htrace
  exact ⟨tr, s, hrun, hmet,
    (down_periods_handled s .m1).2.1 processingM1 tr hrun hon hfirst hsettled hends⟩

/-- The game time is 50 once: the production is prolonged again, and so on for ever. -/
theorem down_period_never_over :
    ∃ tr s, ProductionRun processingM1 tr s ∧ (∀ t ∈ tr, t.pre.GoesOn t.label) ∧
      (∀ t ∈ tr, t.pre.GoesFirst t.label) ∧ (s.machines .m1).procStart = 10 + 30 + 30 ∧
      ¬ Settles DownUp s := by
  have hrun : (trace step processingM1
      [clock 30, .machineDown .m1, clock 50, .machineUp .m1, .machineDown .m1]).any (fun r =>
        decide ((∀ t ∈ r.1, t.pre.GoesOn t.label) ∧ (∀ t ∈ r.1, t.pre.GoesFirst t.label) ∧
          (r.2.machines .m1).procStart = 10 + 30 + 30 ∧ r.2.DownEnds .m1)) = true := by
    decide +kernel
  obtain ⟨⟨tr, s⟩, htrace, hr⟩ := (Option.any_eq_true _ _).mp hrun
  obtain ⟨hon, hfirst, hstart, hends⟩ := of_decide_eq_true hr
  exact ⟨tr, s, run_of_trace htrace, hon, hfirst, hstart, fun h => settles_iff.mp h .m1 hends⟩

end Memory

end FactoryHub.Llsf
