import FactoryHub.Rockin.Runs

/-!
# The object in play

An FbmStoppedState selects an object and an FbmRunningState takes it over; both assert it in a
`benchmark-info` fact, which their `on-exit` retracts. A RESET makes the states anew without leaving
the current one, so that its fact stays.

* `inPlay_step_iff` — the inputs that keep fact and state in step.
* `inPlay_run_iff` — the same along a run; only a new run or a RESET changes the object.
* `two_objects_after_reset` — FBM1 is reset before its first run, and two objects are broadcast.
-/

namespace FactoryHub.Rockin

open Clips Lib

namespace Scenario

variable {s : Scenario} {n : StateName}

/-- FbmStoppedState and FbmRunningState are the only subclasses that know an object. -/
theorem cls_of_fbm (h : (s.states n).fbm = true) :
    (s.states n).cls = .stopped ∨ (s.states n).cls = .running := by
  cases s <;> cases n <;> first
    | exact Or.inl rfl
    | exact Or.inr rfl
    | cases h

/-- Only FBM1 starts in an FbmStoppedState. -/
theorem initial_fbm_iff : (s.states s.initialState).fbm = true ↔ s = .fbm1 := by
  cases s <;> decide

end Scenario

/-! ## The fact and the state -/

/-- There is one fact with the object of the state `n` if it is an FbmStoppedState or an
FbmRunningState, and none otherwise. -/
def Memory.InPlay (m : Memory) (states : StateName → StateInstance) (n : StateName) : Prop :=
  m.benchmarkInfo = if (states n).fbm then [m.selectedObject n] else []

section

variable {clock : Clock} {rand : ℕ → ℕ} {s : Scenario} {m : Memory} {n prev next : StateName}

/-- A state takes its fact away. -/
theorem onExit_benchmarkInfo (h : m.InPlay s.states n) :
    ((machine clock rand s.states).onExit n next m).benchmarkInfo = [] := by
  unfold machine
  dsimp only
  split
  · rfl
  · rfl
  · next hstopped hrunning =>
      -- not one of the two classes, and so there was no fact
      have hfbm : ¬ (s.states n).fbm = true := by
        intro hfbm
        rcases Scenario.cls_of_fbm hfbm with hcls | hcls
        · exact hstopped hfbm hcls
        · exact hrunning hfbm hcls
      rw [Memory.InPlay, if_neg hfbm] at h
      exact h

theorem onExit_selectedObject :
    ((machine clock rand s.states).onExit n next m).selectedObject = m.selectedObject := by
  unfold machine
  dsimp only
  split <;> rfl

/-- The state that is entered asserts its fact. -/
theorem onEnter_benchmarkInfo :
    ((machine clock rand s.states).onEnter n prev m).benchmarkInfo =
      if (s.states n).fbm then
        m.benchmarkInfo.insert (((machine clock rand s.states).onEnter n prev m).selectedObject n)
      else m.benchmarkInfo := by
  unfold machine
  dsimp only
  split
  · next hfbm _ =>
      rw [if_pos hfbm]
      show m.benchmarkInfo.insert _ = m.benchmarkInfo.insert (Function.update m.selectedObject n _ n)
      rw [Function.update_self]
  · next hfbm _ =>
      rw [if_pos hfbm]
      rfl
  · next hstopped hrunning =>
      rw [if_neg]
      intro hfbm
      rcases Scenario.cls_of_fbm hfbm with hcls | hcls
      · exact hstopped hfbm hcls
      · exact hrunning hfbm hcls

theorem onEnter_inPlay (h : m.benchmarkInfo = []) :
    ((machine clock rand s.states).onEnter n prev m).InPlay s.states n := by
  rw [Memory.InPlay, onEnter_benchmarkInfo, h]
  rfl

theorem setState_inPlay {c : Config StateName Memory} (h : c.data.InPlay s.states c.current) :
    ((machine clock rand s.states).setState n c).data.InPlay s.states n :=
  onEnter_inPlay (onExit_benchmarkInfo h)

/-- Time passes without effect on the fact. -/
theorem onUpdate_inPlay (h : m.InPlay s.states n) :
    ((machine clock rand s.states).onUpdate n m).1.InPlay s.states n := h

end

/-! ## What an input does to the benchmark -/

/-- The state machine is left alone, processes an event or is updated. -/
inductive Handled (clock : Clock) (rand : ℕ → ℕ) (b b' : Benchmark) : Prop
  | kept (hscenario : b'.currentScenario = b.currentScenario)
      (hmachine : b'.stateMachine = b.stateMachine)
  | event (e : Event) (h : b' = b.processEvent clock rand e)
  | update (h : b' = b.update clock rand)

section

variable {clock : Clock} {rand : ℕ → ℕ} {r : Refbox} {i : Input}

theorem handled_receiveFeedback (b : Benchmark) (feedback : BenchmarkFeedback) :
    Handled clock rand b (b.receiveFeedback clock rand feedback) := by
  unfold Benchmark.receiveFeedback
  split
  · exact .kept rfl rfl
  · split
    · exact .kept rfl rfl
    · exact .event .finish rfl

/-- Only a RESET does anything else. -/
theorem handled_step (clock : Clock) (rand : ℕ → ℕ) (r : Refbox)
    (hi : i ≠ .setBenchmarkTransitionEvent .reset) :
    Handled clock rand r.benchmark (r.step clock rand i).benchmark := by
  cases i with
  | setBenchmarkScenario type typeId =>
      obtain ⟨hscenario, hmachine⟩ := requestScenario_kept r.benchmark type typeId
      exact .kept hscenario hmachine
  | setBenchmarkTransitionEvent event =>
      cases event with
      | reset => exact absurd rfl hi
      | start => exact .event .start rfl
      | stop => exact .event .stop rfl
      | pause => exact .event .pause rfl
  | benchmarkFeedback clientType host feedback =>
      show Handled clock rand _ (r.benchmarkFeedback clock rand clientType host feedback).benchmark
      unfold Refbox.benchmarkFeedback
      split
      · exact handled_receiveFeedback r.benchmark feedback
      · exact .kept rfl rfl
  | beacon robot =>
      show Handled clock rand _ (r.beacon robot).benchmark
      unfold Refbox.beacon
      split <;> exact .kept rfl rfl
  | robotRemove robot => exact .kept rfl rfl
  | tick => exact .update rfl

/-- The object of every state of the benchmark is what the clients are told. -/
def Benchmark.InPlay (b : Benchmark) : Prop :=
  b.stateMachine.data.InPlay b.currentScenario.states b.current

instance (b : Benchmark) : Decidable b.InPlay := by
  unfold Benchmark.InPlay Memory.InPlay
  infer_instance

theorem processEvent_inPlay {b : Benchmark} (e : Event) (h : b.InPlay) :
    (b.processEvent clock rand e).InPlay := by
  show ((b.machine clock rand).processEvent e b.stateMachine).data.InPlay _
    ((b.machine clock rand).processEvent e b.stateMachine).current
  rcases StateMachine.processEvent_cases (m := b.machine clock rand) e b.stateMachine with
    hignored | ⟨n, -, hset⟩
  · rw [hignored]
    exact h
  · rw [hset]
    exact setState_inPlay h

theorem update_inPlay {b : Benchmark} (h : b.InPlay) : (b.update clock rand).InPlay := by
  show ((b.machine clock rand).update b.stateMachine).data.InPlay _
    ((b.machine clock rand).update b.stateMachine).current
  rcases StateMachine.update_cases (m := b.machine clock rand) b.stateMachine with
    hquiet | ⟨e, n, -, -, hset⟩
  · rw [hquiet]
    exact @onUpdate_inPlay clock rand _ _ _ h
  · rw [hset]
    exact setState_inPlay (@onUpdate_inPlay clock rand _ _ _ h)

/-! ## RESET -/

/-- The object that an FbmStoppedState would select next. -/
def drawnObject (rand : ℕ → ℕ) (b : Benchmark) : String :=
  (pickRandom rand objects b.stateMachine.data.draws).1

/-- A RESET finds no fact, or makes FBM1 start with the object that is in play already. -/
def LeavesNoFact (rand : ℕ → ℕ) (r : Refbox) : Input → Prop
  | .setBenchmarkTransitionEvent .reset =>
      r.benchmark.state.fbm = true → r.benchmark.requestedScenario = .fbm1 ∧
        drawnObject rand r.benchmark =
          r.benchmark.stateMachine.data.selectedObject r.benchmark.current
  | _ => True

instance (r : Refbox) (i : Input) : Decidable (LeavesNoFact rand r i) := by
  unfold LeavesNoFact
  split <;> infer_instance

/-- FBM1 starts with the object that is drawn. -/
theorem switchScenario_selectedObject {b : Benchmark} (h : b.requestedScenario = .fbm1) :
    (b.switchScenario clock rand).stateMachine.data.selectedObject
      b.requestedScenario.initialState = drawnObject rand b := by
  rw [Benchmark.switchScenario, Benchmark.setup, Benchmark.machine, h]
  show Function.update (fun _ => "") StateName.stoppedState (drawnObject rand b) .stoppedState = _
  rw [Function.update_self]

/-- Facts of the state before are there after a RESET. -/
theorem switchScenario_benchmarkInfo (b : Benchmark) :
    (b.switchScenario clock rand).stateMachine.data.benchmarkInfo =
      if b.requestedScenario = .fbm1 then
        b.stateMachine.data.benchmarkInfo.insert (drawnObject rand b)
      else b.stateMachine.data.benchmarkInfo := by
  have henter : (b.switchScenario clock rand).stateMachine.data.benchmarkInfo =
      if (b.requestedScenario.states b.requestedScenario.initialState).fbm then
        b.stateMachine.data.benchmarkInfo.insert
          ((b.switchScenario clock rand).stateMachine.data.selectedObject
            b.requestedScenario.initialState)
      else b.stateMachine.data.benchmarkInfo := onEnter_benchmarkInfo
  rw [henter]
  by_cases hfbm1 : b.requestedScenario = .fbm1
  · rw [if_pos (Scenario.initial_fbm_iff.mpr hfbm1), if_pos hfbm1,
      switchScenario_selectedObject hfbm1]
  · rw [if_neg (fun h => hfbm1 (Scenario.initial_fbm_iff.mp h)), if_neg hfbm1]

/-- An inserted fact is the only one if it is the one there was. -/
theorem insert_eq_singleton_iff {object other : String} :
    [other].insert object = [object] ↔ object = other := by
  constructor
  · intro heq
    by_contra hne
    rw [List.insert_of_not_mem (by simpa using hne)] at heq
    cases heq
  · rintro rfl
    exact List.insert_of_mem (List.mem_singleton_self _)

/-- After a RESET fact and state are in step exactly when it left no fact behind. -/
theorem switchScenario_inPlay_iff (h : r.benchmark.InPlay) :
    (r.benchmark.switchScenario clock rand).InPlay ↔
      LeavesNoFact rand r (.setBenchmarkTransitionEvent .reset) := by
  show (r.benchmark.switchScenario clock rand).stateMachine.data.benchmarkInfo =
    (if (r.benchmark.requestedScenario.states r.benchmark.requestedScenario.initialState).fbm then
      [(r.benchmark.switchScenario clock rand).stateMachine.data.selectedObject
        r.benchmark.requestedScenario.initialState] else []) ↔
      (r.benchmark.state.fbm = true → _)
  have hinfo : r.benchmark.stateMachine.data.benchmarkInfo =
      if r.benchmark.state.fbm then
        [r.benchmark.stateMachine.data.selectedObject r.benchmark.current] else [] := h
  rw [switchScenario_benchmarkInfo, hinfo]
  by_cases hfbm1 : r.benchmark.requestedScenario = .fbm1
  · have hinitial := Scenario.initial_fbm_iff.mpr hfbm1
    rw [if_pos hfbm1, if_pos hinitial, switchScenario_selectedObject hfbm1]
    by_cases hfbm : r.benchmark.state.fbm = true
    · -- the fact of the state before is the only one if it is the new state's
      rw [if_pos hfbm, insert_eq_singleton_iff]
      exact ⟨fun hsame _ => ⟨hfbm1, hsame⟩, fun hleaves => (hleaves hfbm).2⟩
    · rw [if_neg hfbm]
      exact iff_of_true rfl (fun hcontra => absurd hcontra hfbm)
  · have hinitial : ¬ (r.benchmark.requestedScenario.states
        r.benchmark.requestedScenario.initialState).fbm = true :=
      fun hfbm => hfbm1 (Scenario.initial_fbm_iff.mp hfbm)
    rw [if_neg hfbm1, if_neg hinitial]
    by_cases hfbm : r.benchmark.state.fbm = true
    · rw [if_pos hfbm]
      refine iff_of_false (List.cons_ne_nil _ _) ?_
      intro hleaves
      exact hfbm1 (hleaves hfbm).1
    · rw [if_neg hfbm]
      exact iff_of_true rfl (fun hcontra => absurd hcontra hfbm)

/-- An input keeps fact and state in step exactly when it is no RESET that leaves a fact behind. -/
theorem inPlay_step_iff (h : r.benchmark.InPlay) :
    (r.step clock rand i).benchmark.InPlay ↔ LeavesNoFact rand r i := by
  by_cases hi : i = .setBenchmarkTransitionEvent .reset
  · subst hi
    exact switchScenario_inPlay_iff h
  · have hleaves : LeavesNoFact rand r i := by
      unfold LeavesNoFact
      split
      · exact absurd rfl hi
      · trivial
    refine iff_of_true ?_ hleaves
    cases handled_step clock rand r hi with
    | kept hscenario hmachine =>
        rw [Benchmark.InPlay, Benchmark.current, hscenario, hmachine]
        exact h
    | event e heq =>
        rw [heq]
        exact processEvent_inPlay e h
    | update heq =>
        rw [heq]
        exact update_inPlay h

end

/-! ## Which object a run has -/

/-- FbmStoppedState. -/
def StateInstance.IsFbmStopped (state : StateInstance) : Prop :=
  state.fbm = true ∧ state.cls = .stopped

/-- FbmRunningState. -/
def StateInstance.IsFbmRunning (state : StateInstance) : Prop :=
  state.fbm = true ∧ state.cls = .running

section

variable {clock : Clock} {rand : ℕ → ℕ} {s : Scenario} {n k : StateName}

/-- An FbmRunningState takes over the object of an FbmStoppedState, and keeps it otherwise. -/
theorem setState_selectedObject {c : Config StateName Memory} (hk : (s.states k).IsFbmRunning)
    (hstopped : ¬ (s.states c.current).IsFbmStopped) :
    ((machine clock rand s.states).setState n c).data.selectedObject k =
      c.data.selectedObject k := by
  show ((machine clock rand s.states).onEnter n c.current _).selectedObject k = _
  rw [← @onExit_selectedObject clock rand s c.data c.current n]
  generalize (machine clock rand s.states).onExit c.current n c.data = m
  unfold machine
  dsimp only
  split
  · next _ hcls =>
      -- the state that selects an object is another one
      apply Function.update_of_ne
      rintro rfl
      rw [hk.2] at hcls
      cases hcls
  · show (if decide _ = true then _ else _ : StateName → String) k = _
    rw [if_neg]
    intro h
    have hfrom := of_decide_eq_true h
    exact hstopped hfrom
  · rfl

/-- Unless it is a RESET or ends the wait in an FbmStoppedState, a step leaves the objects of the
FbmRunningStates alone; so do the pauses of a run. -/
def KeepsObject (t : Step Refbox Input) : Prop :=
  t.label ≠ .setBenchmarkTransitionEvent .reset → ¬ t.pre.benchmark.state.IsFbmStopped →
    t.post.benchmark.currentScenario = t.pre.benchmark.currentScenario ∧
      ∀ n, (t.pre.benchmark.currentScenario.states n).IsFbmRunning →
        t.post.benchmark.stateMachine.data.selectedObject n =
          t.pre.benchmark.stateMachine.data.selectedObject n

theorem keepsObject_step (r : Refbox) (i : Input) :
    KeepsObject ⟨r, i, r.step clock rand i⟩ := by
  intro hi hstopped
  cases handled_step clock rand r hi with
  | kept hscenario hmachine =>
      refine ⟨hscenario, fun n _ => ?_⟩
      show (r.step clock rand i).benchmark.stateMachine.data.selectedObject n = _
      rw [hmachine]
  | event e heq =>
      show (r.step clock rand i).benchmark.currentScenario = _ ∧ ∀ n, _ →
        (r.step clock rand i).benchmark.stateMachine.data.selectedObject n = _
      rw [heq]
      refine ⟨rfl, fun n hn => ?_⟩
      show ((r.benchmark.machine clock rand).processEvent e
        r.benchmark.stateMachine).data.selectedObject n = _
      rcases StateMachine.processEvent_cases (m := r.benchmark.machine clock rand) e
        r.benchmark.stateMachine with hignored | ⟨k, -, hset⟩
      · rw [hignored]
      · rw [hset]
        exact setState_selectedObject hn hstopped
  | update heq =>
      show (r.step clock rand i).benchmark.currentScenario = _ ∧ ∀ n, _ →
        (r.step clock rand i).benchmark.stateMachine.data.selectedObject n = _
      rw [heq]
      refine ⟨rfl, fun n hn => ?_⟩
      show ((r.benchmark.machine clock rand).update
        r.benchmark.stateMachine).data.selectedObject n = _
      rcases StateMachine.update_cases (m := r.benchmark.machine clock rand)
        r.benchmark.stateMachine with hquiet | ⟨e, k, -, -, hset⟩
      · rw [hquiet]
        rfl
      · rw [hset]
        exact setState_selectedObject (c := { r.benchmark.stateMachine with data := _ }) hn hstopped

end

/-! ## Along a run -/

section

variable {clock : Clock} {rand : ℕ → ℕ} {tr : List (Step Refbox Input)} {r : Refbox}

theorem inPlay_start : Refbox.start.benchmark.InPlay := rfl

/-- The states of a run are in step as long as no RESET leaves a fact behind. -/
theorem inPlay_of_leavesNoFact (h : Run (fun r i r' => r.step clock rand i = r') .start tr r)
    (hleaves : ∀ t ∈ tr, LeavesNoFact rand t.pre t.label) : r.benchmark.InPlay := by
  apply Run.invariant_of (C := LeavesNoFact rand) ?_ ?_ h hleaves
  · exact inPlay_start
  · rintro r i _ hr hi rfl
    exact (inPlay_step_iff hr).mpr hi

/-- **The broadcast object is the one in play** in every state of a run exactly when no RESET finds
an FbmStoppedState or FbmRunningState, other than one that makes FBM1 start with the same object;
and in every run the object stays the same through all pauses. -/
theorem inPlay_run_iff (h : Run (fun r i r' => r.step clock rand i = r') .start tr r) :
    ((∀ t ∈ tr, t.post.benchmark.InPlay) ↔ ∀ t ∈ tr, LeavesNoFact rand t.pre t.label) ∧
      ∀ t ∈ tr, KeepsObject t := by
  refine ⟨⟨?_, ?_⟩, ?_⟩
  · intro hplay
    induction h with
    | init =>
        intro t ht
        cases ht
    | @step tr r r' i hrun hstep ih =>
        have hearlier := ih (fun t ht => hplay t (List.mem_cons_of_mem _ ht))
        intro t ht
        rcases List.mem_cons.mp ht with rfl | ht
        · have hpost := hplay _ (List.mem_cons_self ..)
          rw [← hstep] at hpost
          exact (inPlay_step_iff (inPlay_of_leavesNoFact hrun hearlier)).mp hpost
        · exact hearlier t ht
  · intro hleaves t ht
    obtain ⟨hstep, tr', hrun, hsub⟩ := Run.mem_run h ht
    have hpre := inPlay_of_leavesNoFact hrun (fun u hu => hleaves u (hsub u hu))
    rw [← hstep]
    exact (inPlay_step_iff hpre).mpr (hleaves t ht)
  · intro t ht
    obtain ⟨hstep, -⟩ := Run.mem_run h ht
    have hkeeps := @keepsObject_step clock rand t.pre t.label
    rw [hstep] at hkeeps
    exact hkeeps

/-- FBM1 is requested, set up and started, paused and resumed. -/
def pauseFbm1 : List Input :=
  [.setBenchmarkScenario .fbm 1, .setBenchmarkTransitionEvent .reset,
    .setBenchmarkTransitionEvent .start, .tick, .setBenchmarkTransitionEvent .pause, .tick,
    .setBenchmarkTransitionEvent .start]

theorem inPlay_of_pauseFbm1 :
    ∃ tr, tr = record (Refbox.step everySecond id) .start pauseFbm1 ∧
      ∀ t ∈ tr, t.post.benchmark.InPlay := by
  refine ⟨_, rfl, ?_⟩
  refine (inPlay_run_iff (run_record (Refbox.step everySecond id) .start pauseFbm1)).1.mpr ?_
  decide +kernel

/-- FBM1 is set up twice: two objects are in play. -/
theorem two_objects_after_reset :
    ∃ t ∈ record (Refbox.step everySecond id) .start
        [.setBenchmarkScenario .fbm 1, .setBenchmarkTransitionEvent .reset,
          .setBenchmarkTransitionEvent .reset],
      t.post.benchmark.stateMachine.data.benchmarkInfo = ["AX-02", "AX-01"] ∧
        ¬ t.post.benchmark.InPlay := by
  decide +kernel

end

end FactoryHub.Rockin
