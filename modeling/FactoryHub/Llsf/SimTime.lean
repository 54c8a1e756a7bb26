import FactoryHub.Clips.TimeArithmetic
import FactoryHub.Llsf.Game

/-!
# The estimated time of a simulation

With time sync and estimation enabled, `get-time` adds to the last time of the simulation what is
estimated to have passed since then. A message sets that time back no further than the estimate.

* `getTime_mono` — the estimate grows with the real time.
* `sim_time_monotone` — it does not fall along a run, whatever times and factors are received.
-/

namespace FactoryHub.Llsf

open Clips Lib

/-- The time is synchronised and estimated. -/
structure SimTime.Estimates (st : SimTime) : Prop where
  enabled : st.enabled = true
  estimate : st.estimate = true
  factor : 0 ≤ st.realTimeFactor
  carried : st.now.Carried

/-- What is estimated to have passed in the simulation since the last message. -/
def SimTime.passed (st : SimTime) (realTime : Time) : ℚ :=
  realTime.diffSec st.lastRecvTime * st.realTimeFactor

/-- No time has been received yet, or it was before this real time. -/
def SimTime.Since (st : SimTime) (realTime : Time) : Prop :=
  st.realTimeFactor = 0 ∨ st.lastRecvTime.toSec ≤ realTime.toSec

/-- The fact after a message, `realTime` being the real time. -/
def SimTime.receive (st : SimTime) (newSimTime realTime : Time) (realTimeFactor : ℚ) : SimTime :=
  { st with now := newSimTime, lastRecvTime := realTime, realTimeFactor }

section

variable {st : SimTime} {now now' : Time}

theorem getTime_eq (h : st.Estimates) : getTime st now = st.now.add (.fromSec (st.passed now)) := by
  unfold getTime
  simp [h.enabled, h.estimate, SimTime.passed]

theorem toSec_getTime (h : st.Estimates) :
    (getTime st now).toSec = st.now.toSec + (Time.fromSec (st.passed now)).toSec := by
  rw [getTime_eq h, Time.toSec_add]

theorem SimTime.passed_nonneg (h : st.Estimates) (hsince : st.Since now) : 0 ≤ st.passed now := by
  unfold passed
  rcases hsince with hzero | hle
  · simp [hzero]
  · apply mul_nonneg _ h.factor
    rw [Time.diffSec_eq]
    linarith

theorem SimTime.passed_mono (h : st.Estimates) (hle : now.toSec ≤ now'.toSec) :
    st.passed now ≤ st.passed now' := by
  unfold passed
  apply mul_le_mul_of_nonneg_right _ h.factor
  rw [Time.diffSec_eq, Time.diffSec_eq]
  linarith

/-- The estimate grows with the real time. -/
theorem getTime_mono (h : st.Estimates) (hsince : st.Since now) (hle : now.toSec ≤ now'.toSec) :
    (getTime st now).toSec ≤ (getTime st now').toSec := by
  rw [toSec_getTime h, toSec_getTime h]
  have hpassed := Time.toSec_fromSec_mono (st.passed_nonneg h hsince) (st.passed_mono h hle)
  linarith

theorem now_le_getTime (h : st.Estimates) (hsince : st.Since now) :
    st.now.toSec ≤ (getTime st now).toSec := by
  rw [toSec_getTime h]
  have hpassed := Time.toSec_fromSec_nonneg (st.passed_nonneg h hsince)
  linarith

theorem carried_getTime (h : st.Estimates) (hsince : st.Since now) : (getTime st now).Carried := by
  rw [getTime_eq h]
  exact h.carried.add (Time.normalised_fromSec (st.passed_nonneg h hsince))

end

/-! ## What has been read so far -/

/-- Times, newest first, none of which is later than the next one. -/
def NonDecreasing (times : List Time) : Prop :=
  times.Pairwise (fun later earlier => earlier.toSec ≤ later.toSec)

instance (times : List Time) : Decidable (NonDecreasing times) := by
  unfold NonDecreasing
  infer_instance

/-- No time of the list is later. -/
def NotBefore (times : List Time) (now : Time) : Prop := ∀ r ∈ times, r.toSec ≤ now.toSec

/-- `reals` are the real times and `values` the values of `get-time` so far, newest first. -/
structure Clocked (reals values : List Time) (simTime : Option SimTime) (time : Option Time) :
    Prop where
  estimates : ∀ st, simTime = some st → st.Estimates
  received : ∀ st, simTime = some st → st.realTimeFactor = 0 ∨ st.lastRecvTime ∈ reals
  uninitialised : simTime = none → values = []
  current : ∀ now, time = some now → reals.head? = some now
  passed : ∀ st, simTime = some st → ∀ v ∈ values, ∀ now, NotBefore reals now →
    v.toSec ≤ (getTime st now).toSec
  ordered : NonDecreasing values

/-- The current time is the last one. -/
theorem notBefore_of_head {times : List Time} {now : Time} (h : NonDecreasing times)
    (hhead : times.head? = some now) : NotBefore times now := by
  cases times with
  | nil => cases hhead
  | cons r times =>
      cases hhead
      intro r' hr'
      rcases List.mem_cons.mp hr' with rfl | hr'
      · exact le_rfl
      · exact List.rel_of_pairwise_cons h hr'

namespace Clocked

variable {reals values : List Time} {simTime : Option SimTime} {time : Option Time} {st : SimTime}
  {now : Time}

theorem start : Clocked [] [] none none where
  estimates st h := by cases h
  received st h := by cases h
  uninitialised _ := rfl
  current now h := by cases h
  passed st h := by cases h
  ordered := List.Pairwise.nil

theorem since (h : Clocked reals values (some st) time) (hnow : NotBefore reals now) :
    st.Since now := by
  rcases h.received st rfl with hzero | hmem
  · exact Or.inl hzero
  · exact Or.inr (hnow _ hmem)

/-- The timer asserts the next real time. -/
theorem tick (h : Clocked reals values simTime none) :
    Clocked (now :: reals) values simTime now where
  estimates := h.estimates
  received st hst := (h.received st hst).imp id (List.mem_cons_of_mem now)
  uninitialised := h.uninitialised
  current _ hnow := hnow
  passed st hst v hv n hn :=
    h.passed st hst v hv n (fun r hr => hn r (List.mem_cons_of_mem now hr))
  ordered := h.ordered

theorem retract (h : Clocked reals values simTime time) : Clocked reals values simTime none where
  estimates := h.estimates
  received := h.received
  uninitialised := h.uninitialised
  current now hnow := by cases hnow
  passed := h.passed
  ordered := h.ordered

/-- The simulation time starts at zero, and does not run before a message comes. -/
theorem init (h : Clocked reals values none time) :
    Clocked reals values (some { enabled := true, estimate := true }) time where
  estimates st hst := by
    cases hst
    exact ⟨rfl, rfl, le_rfl, ⟨le_rfl, by norm_num⟩⟩
  received st hst := by
    cases hst
    exact Or.inl rfl
  uninitialised hst := by cases hst
  current := h.current
  passed st hst v hv := by
    rw [h.uninitialised rfl] at hv
    cases hv
  ordered := h.ordered

/-- A message is received. -/
theorem sync (h : Clocked reals values (some st) (some now)) (hreals : NonDecreasing reals)
    {newSimTime : Time} (hnew : newSimTime.Normalised) {factor : ℚ} (hfactor : 0 ≤ factor) :
    Clocked reals values
      (some (st.receive (newSimTime.max (getTime st now)) now factor)) (some now) := by
  have hst := h.estimates st rfl
  have hnow : NotBefore reals now := notBefore_of_head hreals (h.current now rfl)
  have hmem : now ∈ reals := List.mem_of_head? (h.current now rfl)
  have hcarried := carried_getTime hst (h.since hnow)
  have hst' : (st.receive (newSimTime.max (getTime st now)) now factor).Estimates :=
    ⟨hst.enabled, hst.estimate, hfactor, hnew.carried.max hcarried⟩
  refine ⟨?_, ?_, ?_, h.current, ?_, h.ordered⟩
  · rintro _ ⟨⟩
    exact hst'
  · rintro _ ⟨⟩
    exact Or.inr hmem
  · intro hnone
    cases hnone
  · rintro _ ⟨⟩ v hv n hn
    calc
      v.toSec ≤ (getTime st now).toSec := h.passed st rfl v hv now hnow
      _ ≤ (newSimTime.max (getTime st now)).toSec := (Time.toSec_le_max hnew.carried hcarried).2
      _ ≤ _ := now_le_getTime hst' (Or.inr (hn now hmem))

/-- The time is read. -/
theorem read (h : Clocked reals values (some st) (some now)) (hreals : NonDecreasing reals) :
    Clocked reals (getTime st now :: values) (some st) (some now) := by
  have hnow : NotBefore reals now := notBefore_of_head hreals (h.current now rfl)
  have hmem : now ∈ reals := List.mem_of_head? (h.current now rfl)
  refine ⟨h.estimates, h.received, ?_, h.current, ?_, ?_⟩
  · intro hnone
    cases hnone
  · rintro _ ⟨⟩ v hv n hn
    rcases List.mem_cons.mp hv with rfl | hv
    · exact getTime_mono (h.estimates st rfl) (h.since hnow) (hn now hmem)
    · exact h.passed st rfl v hv n hn
  · apply List.Pairwise.cons
    · intro v hv
      exact h.passed st rfl v hv now hnow
    · exact h.ordered

end Clocked

/-! ## Runs -/

/-- The real time that an event asserts. -/
def Event.realTime : Event → Option Time
  | .time now => some now
  | _ => none

/-- An event that changes the time fact or the sim-time fact. -/
def Event.setsClock : Event → Bool
  | .time _ | .retractTime | .simInit _ _ | .simTimeSync _ _ _ | .resetGame => true
  | _ => false

/-- Time sync and estimation are enabled, times that are received are normalised and factors are
not negative, and the facts are not reset. -/
def Event.Estimating : Event → Prop
  | .simInit enabled estimate => enabled = true ∧ estimate = true
  | .simTimeSync _ nsec realTimeFactor => 0 ≤ nsec ∧ nsec < 1000000000 ∧ 0 ≤ realTimeFactor
  | .resetGame => False
  | _ => True

instance (e : Event) : Decidable e.Estimating := by
  unfold Event.Estimating
  split <;> infer_instance

namespace Game

variable {g g' : Game} {e : Event} {tr : List (Step Game Event)}

/-- What `get-time` gives in a state. -/
def simNow (g : Game) : Option Time := do
  let st ← g.simTime
  let now ← g.time
  return getTime st now

/-- The real times of a run, newest first. -/
def realTimes (tr : List (Step Game Event)) : List Time := tr.filterMap (fun t => t.label.realTime)

/-- What `get-time` gives in the states of a run, newest first. -/
def simTimes (tr : List (Step Game Event)) : List Time := tr.filterMap (fun t => t.post.simNow)

theorem foldl_handleReport_clock (team : Team) (machines : List (MachineName × String)) (g : Game) :
    (machines.foldl (handleReport team) g).simTime = g.simTime ∧
      (machines.foldl (handleReport team) g).time = g.time := by
  induction machines generalizing g with
  | nil => exact ⟨rfl, rfl⟩
  | cons report machines ih =>
      have hreport : (handleReport team g report).simTime = g.simTime ∧
          (handleReport team g report).time = g.time := by
        unfold handleReport
        dsimp only
        split <;> exact ⟨rfl, rfl⟩
      rw [List.foldl_cons, (ih _).1, (ih _).2]
      exact hreport

theorem updateLoadedWith_clock (g : Game) (m : MachineName) (newLw : List Int)
    (spec : MachineSpec) : (g.updateLoadedWith m newLw spec).simTime = g.simTime ∧
      (g.updateLoadedWith m newLw spec).time = g.time := by
  unfold updateLoadedWith
  dsimp only
  split
  · exact ⟨rfl, rfl⟩
  · split <;> exact ⟨rfl, rfl⟩

/-- The other events leave both facts as they are. -/
theorem step_clock (h : g.step e = some g') (he : e.setsClock = false) :
    g'.simTime = g.simTime ∧ g'.time = g.time := by
  cases e
  case time | retractTime | simInit | simTimeSync | resetGame => cases he
  case explorationHandleReport team machines =>
    obtain ⟨-, hs⟩ := Option.ite_none_right_eq_some.mp h
    cases hs
    exact foldl_handleReport_clock team machines g
  case production a =>
    obtain ⟨-, hs⟩ := Option.ite_none_left_eq_some.mp h
    obtain ⟨memory, -, rfl⟩ := Option.map_eq_some_iff.mp hs
    exact ⟨rfl, rfl⟩
  case machineUpdateLoadedWith m newLw =>
    simp only [step, machineUpdateLoadedWith] at h
    split at h
    · next spec _ =>
        obtain ⟨-, hs⟩ := Option.ite_none_right_eq_some.mp h
        cases hs
        exact updateLoadedWith_clock g m newLw spec
    · cases h
  all_goals
    simp only [step, gameParameterize, loadPuckInMachine, removePuckFromMachine, turnTo,
      machineUpdateIgnored, gameUpdateGametimePoints, gameUpdateLastTime, gameSwitchToPreGame,
      gameStartTraining, gameStart, gameSwitchToExploration, gameSwitchToProduction, switchPhase,
      gameOver, gameEnterOvertime, gameOverAfterOvertime, gameGotoPostGame, explorationStart,
      explorationPause, explorationContinue, explorationSeen, productionStart, techalWamNext,
      techalWamDeactivate, techalWamActivate, techalWamContinue, techalWamReached, reached,
      techalWamGameOver, techalNavigationGameOver, challengeOver, initGame] at h
    repeat' split at h
    all_goals
      cases h
    all_goals
      exact ⟨rfl, rfl⟩

/-- A message sets the time that it carries, or the one that is read. -/
theorem simTimeSync_spec {sec nsec : Int} {factor : ℚ}
    (h : g.simTimeSync sec nsec factor = some g') :
    ∃ st now, g.simTime = some st ∧ g.time = some now ∧ g'.time = some now ∧
      (st.estimate = true → g'.simTime =
        some (st.receive (Time.max ⟨sec, nsec / 1000⟩ (getTime st now)) now factor)) := by
  unfold simTimeSync at h
  split at h
  · next st now hsim htime =>
      obtain ⟨-, hs⟩ := Option.ite_none_right_eq_some.mp h
      cases hs
      refine ⟨st, now, hsim, htime, htime, fun hestimate => ?_⟩
      simp [hestimate, SimTime.receive]
  · cases h

/-- What an event does to the facts, before the time is read again. -/
theorem clocked_event (h : Clocked (realTimes tr) (simTimes tr) g.simTime g.time)
    (he : e.Estimating) (hs : g.step e = some g') (hreals : NonDecreasing (realTimes tr)) :
    Clocked (realTimes (⟨g, e, g'⟩ :: tr)) (simTimes tr) g'.simTime g'.time := by
  cases e
  case time now =>
    obtain ⟨htime, hs⟩ := Option.ite_none_right_eq_some.mp hs
    cases hs
    rw [htime] at h
    exact h.tick
  case retractTime =>
    obtain ⟨-, hs⟩ := Option.ite_none_right_eq_some.mp hs
    cases hs
    exact h.retract
  case simInit enabled estimate =>
    obtain ⟨rfl, rfl⟩ := he
    simp only [step, simInit] at hs
    split at hs
    · next hnone =>
        cases hs
        rw [hnone] at h
        exact h.init
    · cases hs
  case simTimeSync sec nsec factor =>
    obtain ⟨hpos, hlt, hfactor⟩ := he
    obtain ⟨st, now, hsim, htime, htime', hsim'⟩ := simTimeSync_spec hs
    rw [hsim, htime] at h
    rw [htime', hsim' (h.estimates st rfl).estimate]
    apply h.sync hreals _ hfactor
    have hpos' : (0 : ℚ) ≤ nsec := by exact_mod_cast hpos
    have hlt' : (nsec : ℚ) < 1000000000 := by exact_mod_cast hlt
    refine ⟨?_, ?_⟩
    · show (0 : ℚ) ≤ nsec / 1000
      linarith
    · show (nsec / 1000 : ℚ) < 1000000
      linarith
  case resetGame => exact he.elim
  all_goals
    obtain ⟨hsim, htime⟩ := step_clock hs rfl
    rw [hsim, htime]
    exact h

/-- The time is read in the state that an event leaves. -/
theorem clocked_read {reals : List Time} (h : Clocked reals (simTimes tr) g'.simTime g'.time)
    (hreals : NonDecreasing reals) :
    Clocked reals (simTimes (⟨g, e, g'⟩ :: tr)) g'.simTime g'.time := by
  have hnone (hnow : g'.simNow = none) : simTimes (⟨g, e, g'⟩ :: tr) = simTimes tr := by
    simp [simTimes, hnow]
  cases hsim : g'.simTime with
  | none =>
      rw [hnone (by simp [simNow, hsim]), ← hsim]
      exact h
  | some st =>
      cases htime : g'.time with
      | none =>
          rw [hnone (by simp [simNow, htime]), ← hsim, ← htime]
          exact h
      | some now =>
          have hread : simTimes (⟨g, e, g'⟩ :: tr) = getTime st now :: simTimes tr := by
            simp [simTimes, simNow, hsim, htime]
          rw [hread]
          rw [hsim, htime] at h
          exact h.read hreals

theorem clocked_of_run (hrun : GameRun startup tr g) (hevents : ∀ t ∈ tr, t.label.Estimating)
    (hreals : NonDecreasing (realTimes tr)) :
    Clocked (realTimes tr) (simTimes tr) g.simTime g.time := by
  induction hrun with
  | init => exact Clocked.start
  | @step tr g g' e hrun hs ih =>
      have hreals' : NonDecreasing (realTimes tr) := by
        apply List.Pairwise.sublist _ hreals
        exact (List.sublist_cons_self _ tr).filterMap _
      have h := ih (fun t ht => hevents t (List.mem_cons_of_mem _ ht)) hreals'
      have hevent := clocked_event h (hevents _ (List.mem_cons_self ..)) hs hreals'
      exact clocked_read hevent hreals

/-- **The estimated time never runs backwards**: where the real time does not, the values of
`get-time` in the states of a run do not fall, whatever times and factors are received. -/
theorem sim_time_monotone (hrun : GameRun startup tr g) (hevents : ∀ t ∈ tr, t.label.Estimating)
    (hreals : NonDecreasing (realTimes tr)) : NonDecreasing (simTimes tr) :=
  (clocked_of_run hrun hevents hreals).ordered

/-- A message that comes late, and one with another factor. -/
theorem sim_time_monotone_of_late_message :
    ∃ tr g, GameRun startup tr g ∧ (simTimes tr).length = 6 ∧ NonDecreasing (simTimes tr) := by
  have hrun : (trace step startup [.simInit true true, .time ⟨10, 0⟩, .simTimeSync 5 0 (1 / 2),
      .retractTime, .time ⟨14, 500000⟩, .gameUpdateLastTime, .simTimeSync 3 999999999 2,
      .retractTime, .time ⟨15, 0⟩]).any (fun r =>
        decide ((simTimes r.1).length = 6 ∧ (∀ t ∈ r.1, t.label.Estimating) ∧
          NonDecreasing (realTimes r.1))) = true := by decide +kernel
  obtain ⟨⟨tr, g⟩, htrace, hr⟩ := (Option.any_eq_true _ _).mp hrun
  obtain ⟨hlength, hevents, hreals⟩ := of_decide_eq_true hr
  exact ⟨tr, g, run_of_trace htrace, hlength,
    sim_time_monotone (run_of_trace htrace) hevents hreals⟩

end Game

end FactoryHub.Llsf
