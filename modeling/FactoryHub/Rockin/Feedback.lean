import FactoryHub.Rockin.BenchmarkInfo

/-!
# Delayed feedback

A robot sends its BenchmarkFeedback in bursts, and a message may arrive late and more than once.
The phase it carries keeps it from finishing the next phase; the states of a functionality
benchmark that follow each other in one phase are not told apart by it.

* `changes_of_deliver_iff` — when a message ends the run of a RunningState.
* `finishedByNew_run_iff` — when all runs are ended by messages that were created in them.
* `second_run_finished_by_old` — FBM1, whose second run is ended by the message for the first.
-/

namespace FactoryHub.Rockin

open Clips Lib

/-- A message, and the time at which a robot created it. -/
structure Message where
  createdAt : ℕ
  feedback : BenchmarkFeedback
  deriving DecidableEq, Repr

/-- The benchmark, the messages created so far, and for each state the time at which it was last
entered from a state other than its own paused state. The time counts the inputs. -/
structure Field where
  refbox : Refbox
  time : ℕ := 0
  created : List Message := []
  begun : StateName → ℕ := fun _ => 0

/-- The events of the clients, without RESET. -/
inductive ClientEvent where
  | start | pause | stop
  deriving DecidableEq, Repr

def ClientEvent.toTransitionEvent : ClientEvent → TransitionEvent
  | .start => .start
  | .pause => .pause
  | .stop => .stop

inductive FieldInput where
  | clientEvent (event : ClientEvent)
  | tick
  | create (feedback : BenchmarkFeedback)
  | deliver (clientType : Comm.ClientType) (host : String) (message : Message)
  deriving DecidableEq, Repr

namespace Field

variable (clock : Clock) (rand : ℕ → ℕ) (f : Field)

def current : StateName := f.refbox.benchmark.current

def state : StateInstance := f.refbox.benchmark.state

/-- The refbox reacts to an input. -/
def react (i : Input) : Field :=
  let refbox := f.refbox.step clock rand i
  let entered := refbox.benchmark.current
  { f with
    refbox
    time := f.time + 1
    begun :=
      -- resuming from the own paused state begins no new run
      if entered = f.current ∨ (.pause, f.current) ∈ refbox.benchmark.state.transitions then f.begun
      else Function.update f.begun entered f.time }

/-- A robot creates a message, with the phase that is current. -/
def create (feedback : BenchmarkFeedback) : Field :=
  { f with
    time := f.time + 1
    created := ⟨f.time, { feedback with phaseToTerminate := f.state.phase }⟩ :: f.created }

/-- What follows on an input. Only what was created is delivered. -/
def step (f : Field) : FieldInput → Option Field
  | .clientEvent event =>
      some (f.react clock rand (.setBenchmarkTransitionEvent event.toTransitionEvent))
  | .tick => some (f.react clock rand .tick)
  | .create feedback => some (f.create feedback)
  | .deliver clientType host message =>
      if message ∈ f.created then
        some (f.react clock rand (.benchmarkFeedback clientType host message.feedback))
      else none

/-- The scenario requested last has been set up. -/
def start (r : Refbox) : Field := { refbox := setUp clock rand r }

end Field

/-- A run of a functionality benchmark. -/
abbrev FieldRun (clock : Clock) (rand : ℕ → ℕ) :=
  Run (fun f i f' => Field.step clock rand f i = some f')

/-! ## Old messages -/

/-- The message arrives in a RunningState with its phase, and was not created since that was
entered. -/
def IsOld (f : Field) : FieldInput → Prop
  | .deliver clientType host message =>
      f.refbox.Matches clientType host ∧ f.state.cls = .running ∧
        message.feedback.phaseToTerminate = f.state.phase ∧ message.createdAt ≤ f.begun f.current
  | _ => False

instance (f : Field) (i : FieldInput) : Decidable (IsOld f i) := by
  unfold IsOld
  split <;> infer_instance

/-- A message that takes a RunningState out of its run was created in that run. Ticks and the
events of the clients do not raise FINISH there. -/
def FinishedByNew (t : Step Field FieldInput) : Prop :=
  match t.label with
  | .deliver _ _ message =>
      t.pre.state.cls = .running → t.post.current ≠ t.pre.current →
        t.pre.begun t.pre.current < message.createdAt
  | _ => True

instance (t : Step Field FieldInput) : Decidable (FinishedByNew t) := by
  unfold FinishedByNew
  split <;> infer_instance

section

variable {clock : Clock} {rand : ℕ → ℕ} {s : Scenario} {n : StateName} {r : Refbox}
  {f f' : Field} {i : FieldInput}

/-- FINISH leads out of every RunningState. -/
theorem Scenario.next_running (clock : Clock) (rand : ℕ → ℕ) (hfbm : s.type = .fbm)
    (hn : (s.states n).cls = .running) :
    ∃ n', (Rockin.machine clock rand s.states).next n .finish = some n' ∧ n' ≠ n := by
  rcases Scenario.fbm_cases hfbm with rfl | rfl | rfl <;> cases n <;> first
    | exact ⟨_, rfl, by decide⟩
    | cases hn

/-- A message ends the run of a RunningState exactly when it comes from the host of a robot and has
the phase of that state. -/
theorem changes_of_deliver_iff (clock : Clock) (rand : ℕ → ℕ)
    (hfbm : r.benchmark.currentScenario.type = .fbm) (hrunning : r.benchmark.state.cls = .running)
    (clientType : Comm.ClientType) (host : String) (feedback : BenchmarkFeedback) :
    (r.step clock rand (.benchmarkFeedback clientType host feedback)).benchmark.current ≠
        r.benchmark.current ↔
      r.Matches clientType host ∧ feedback.phaseToTerminate = r.benchmark.state.phase := by
  show (r.benchmarkFeedback clock rand clientType host feedback).benchmark.current ≠ _ ↔ _
  unfold Refbox.benchmarkFeedback
  by_cases hmatches : r.Matches clientType host
  · rw [if_pos hmatches]
    show (r.benchmark.receiveFeedback clock rand feedback).current ≠ _ ↔ _
    unfold Benchmark.receiveFeedback
    by_cases hphase : feedback.phaseToTerminate = r.benchmark.state.phase
    · refine iff_of_true ?_ ⟨hmatches, hphase⟩
      obtain ⟨n', hnext, hne⟩ := Scenario.next_running clock rand hfbm hrunning
      have hfinish : (r.benchmark.machine clock rand).next r.benchmark.stateMachine.current
          .finish = some n' := hnext
      rw [if_neg (not_not_intro hphase), Scenario.handleFeedback_fbm hfbm]
      show ((r.benchmark.machine clock rand).processEvent .finish
        r.benchmark.stateMachine).current ≠ _
      rw [StateMachine.processEvent_of_next hfinish]
      exact hne
    · rw [if_pos hphase]
      exact iff_of_false (fun h => h rfl) (fun h => hphase h.2)
  · rw [if_neg hmatches]
    exact iff_of_false (fun h => h rfl) (fun h => hmatches h.1)

/-! ## One step -/

/-- The scenario stays what it is without RESET. -/
theorem currentScenario_of_handled {b b' : Benchmark} (h : Handled clock rand b b') :
    b'.currentScenario = b.currentScenario := by
  cases h with
  | kept hscenario _ => exact hscenario
  | event e heq =>
      rw [heq]
      rfl
  | update heq =>
      rw [heq]
      rfl

theorem currentScenario_of_step (h : f.step clock rand i = some f') :
    f'.refbox.benchmark.currentScenario = f.refbox.benchmark.currentScenario := by
  have hreact (i : Input) (hi : i ≠ .setBenchmarkTransitionEvent .reset) :
      (f.react clock rand i).refbox.benchmark.currentScenario =
        f.refbox.benchmark.currentScenario :=
    currentScenario_of_handled (handled_step clock rand f.refbox hi)
  cases i with
  | clientEvent event =>
      rw [Field.step, Option.some.injEq] at h
      rw [← h]
      apply hreact
      cases event <;> decide
  | tick =>
      rw [Field.step, Option.some.injEq] at h
      rw [← h]
      exact hreact .tick (by decide)
  | create feedback =>
      rw [Field.step, Option.some.injEq] at h
      rw [← h]
      rfl
  | deliver clientType host message =>
      rw [Field.step, Option.ite_none_right_eq_some, Option.some.injEq] at h
      rw [← h.2]
      apply hreact
      intro heq
      cases heq

/-- A step ends no run by an old message exactly when it delivers none. -/
theorem finishedByNew_iff (hfbm : f.refbox.benchmark.currentScenario.type = .fbm)
    (h : f.step clock rand i = some f') : FinishedByNew ⟨f, i, f'⟩ ↔ ¬ IsOld f i := by
  cases i with
  | clientEvent event => exact iff_of_true trivial not_false
  | tick => exact iff_of_true trivial not_false
  | create feedback => exact iff_of_true trivial not_false
  | deliver clientType host message =>
      rw [Field.step, Option.ite_none_right_eq_some, Option.some.injEq] at h
      obtain ⟨-, rfl⟩ := h
      show (f.state.cls = .running → _ ≠ f.current → f.begun f.current < message.createdAt) ↔
        ¬ (_ ∧ f.state.cls = .running ∧ _ ∧ message.createdAt ≤ f.begun f.current)
      by_cases hrunning : f.state.cls = .running
      · have hchanges := changes_of_deliver_iff clock rand hfbm hrunning clientType host
          message.feedback
        rw [← not_le]
        constructor
        · rintro hnew ⟨hmatches, -, hphase, hold⟩
          exact hnew hrunning (hchanges.mpr ⟨hmatches, hphase⟩) hold
        · intro hnot _ hleaves hold
          obtain ⟨hmatches, hphase⟩ := hchanges.mp hleaves
          exact hnot ⟨hmatches, hrunning, hphase, hold⟩
      · exact iff_of_true (fun h => absurd h hrunning) (fun h => hrunning h.2.1)

end

/-! ## Along a run -/

section

variable {clock : Clock} {rand : ℕ → ℕ} {r : Refbox} {tr : List (Step Field FieldInput)}
  {f : Field}

theorem type_of_fieldRun (hfbm : r.benchmark.requestedScenario.type = .fbm)
    (h : FieldRun clock rand (.start clock rand r) tr f) :
    f.refbox.benchmark.currentScenario.type = .fbm := by
  apply Run.invariant ?_ ?_ h
  · exact hfbm
  · intro f i f' htype hstep
    rw [currentScenario_of_step hstep]
    exact htype

/-- **Old feedback ends no later run** of a functionality benchmark exactly when no old message is
delivered in a RunningState of its phase. -/
theorem finishedByNew_run_iff (hfbm : r.benchmark.requestedScenario.type = .fbm)
    (h : FieldRun clock rand (.start clock rand r) tr f) :
    (∀ t ∈ tr, FinishedByNew t) ↔ ∀ t ∈ tr, ¬ IsOld t.pre t.label := by
  have hstep : ∀ t ∈ tr, FinishedByNew t ↔ ¬ IsOld t.pre t.label := by
    intro t ht
    obtain ⟨hs, tr', hrun, -⟩ := Run.mem_run h ht
    exact finishedByNew_iff (type_of_fieldRun hfbm hrun) hs
  constructor
  · intro hnew t ht
    exact (hstep t ht).mp (hnew t ht)
  · intro hnone t ht
    exact (hstep t ht).mpr (hnone t ht)

end

/-- The robot's message for the run that begins at time 0. -/
def firstMessage : Message := ⟨1, { phaseToTerminate := .execution }⟩

/-- FBM1 is started, the robot creates its message, and it is delivered. -/
def firstRun : List FieldInput :=
  [.clientEvent .start, .create { phaseToTerminate := .execution },
    .deliver .peer "192.168.1.20" firstMessage, .tick]

theorem firstRun_finished_by_new :
    ∃ tr f, FieldRun everySecond id (.start everySecond id fbm1Requested) tr f ∧
      (∃ t ∈ tr, t.pre.state.cls = .running ∧ t.post.current = .checkRunsState) ∧
      ∀ t ∈ tr, FinishedByNew t := by
  have hrun : (trace (Field.step everySecond id) (.start everySecond id fbm1Requested)
      firstRun).any (fun r =>
        decide ((∃ t ∈ r.1, t.pre.state.cls = .running ∧ t.post.current = .checkRunsState) ∧
          ∀ t ∈ r.1, ¬ IsOld t.pre t.label)) = true := by decide +kernel
  obtain ⟨⟨tr, f⟩, htrace, hr⟩ := (Option.any_eq_true _ _).mp hrun
  obtain ⟨hends, hnone⟩ := of_decide_eq_true hr
  have hrun := run_of_trace htrace
  exact ⟨tr, f, hrun, hends, (finishedByNew_run_iff rfl hrun).mpr hnone⟩

/-- The message arrives again in the second run. -/
theorem second_run_finished_by_old :
    ∃ tr f, FieldRun everySecond id (.start everySecond id fbm1Requested) tr f ∧
      ¬ ∀ t ∈ tr, FinishedByNew t := by
  have hrun : (trace (Field.step everySecond id) (.start everySecond id fbm1Requested)
      (firstRun ++ [.clientEvent .start, .deliver .peer "192.168.1.20" firstMessage])).any (fun r =>
        decide (¬ ∀ t ∈ r.1, FinishedByNew t)) = true := by decide +kernel
  obtain ⟨⟨tr, f⟩, htrace, hr⟩ := (Option.any_eq_true _ _).mp hrun
  exact ⟨tr, f, run_of_trace htrace, of_decide_eq_true hr⟩

end FactoryHub.Rockin
