import FactoryHub.Llsf.TeamBroadcasts

/-!
# The clock of the game and the phases

`game-update-gametime-points` adds what has passed to the game time, which the rules that start a phase
set to 0, and to the continuous time; the rules that end a phase ask for a game time. The clocks are exact
here, where the FLOATs of the source round every sum.

* `clock_accounts` — what the clocks show, in every state of a game.
* `phases_timed` — no phase ends before its time, unless the operator changes it.
-/

namespace FactoryHub.Llsf

open Clips Lib

/-- The events that set the game time to 0. -/
def Event.zeroesGameTime : Event → Bool
  | .gameSwitchToPreGame | .gameStartTraining _ | .gameSwitchToExploration
  | .gameSwitchToProduction | .explorationStart | .productionStart | .resetGame => true
  | _ => false

def Event.isReset : Event → Bool
  | .resetGame => true
  | _ => false

namespace Game

/-- The time that a step adds to the clocks. -/
def timeCounted (t : Step Game Event) : ℚ :=
  match t.label with
  | .gameUpdateGametimePoints => t.post.gamestate.lastTime.diffSec t.pre.gamestate.lastTime
  | _ => 0

/-- The steps since the game time was set to 0. -/
def sinceZeroed : List (Step Game Event) → List (Step Game Event)
  | [] => []
  | t :: tr => if t.label.zeroesGameTime then [] else t :: sinceZeroed tr

/-- The time during which the game ran. It is counted from `last-time`, which `game-update-last-time` keeps
at the time while the game does not run: like `game-update-gametime-points` that rule has the first
priority, and so at every time fact one of the two comes before the rules that ask for the clock. -/
def ranFor (tr : List (Step Game Event)) : ℚ := (tr.map timeCounted).sum

/-- A draw at the end of the production time has brought overtime. -/
def overtimeEntered (tr : List (Step Game Event)) : Bool :=
  (sinceReset tr).any fun t => t.label.entersOvertime

/-- How long a phase takes, and the production phase in overtime. -/
def phaseTime (overTime : Bool) : Phase → Option ℚ
  | .setup => some setupTime
  | .exploration => some explorationTime
  | .production => some (if overTime then productionTime + productionOvertime else productionTime)
  | .whackAMoleChallenge => some techchallWamTime
  | .navigationChallenge => some techchallNavigationTime
  | .preGame | .postGame | .openChallenge => none

/-- The phase that follows one that ends by itself. -/
def nextPhase : Phase → Option Phase
  | .setup => some .exploration
  | .exploration => some .production
  | .production | .whackAMoleChallenge | .navigationChallenge => some .postGame
  | .preGame | .postGame | .openChallenge => none

section

variable {g g' : Game} {e : Event} {tr : List (Step Game Event)}

/-- What the view has of the gamestate. -/
theorem gamestate_step {α : Type} (f : GameState → α) (h : g.step e = some g') :
    f g'.view.gamestate = f (g.view.after e).gamestate :=
  congrArg (fun v : GameView => f v.gamestate) (view_step h)

theorem clocks_of_update (h : g.gameUpdateGametimePoints = some g') :
    g'.gamestate.gameTime =
        g.gamestate.gameTime + g'.gamestate.lastTime.diffSec g.gamestate.lastTime ∧
      g'.gamestate.contTime =
        g.gamestate.contTime + g'.gamestate.lastTime.diffSec g.gamestate.lastTime := by
  unfold gameUpdateGametimePoints at h
  split at h
  · obtain ⟨-, hs⟩ := Option.ite_none_right_eq_some.mp h
    cases hs
    exact ⟨rfl, rfl⟩
  · cases h

theorem gameTime_step (h : g.step e = some g') :
    g'.gamestate.gameTime =
      if e.zeroesGameTime then 0 else g.gamestate.gameTime + timeCounted ⟨g, e, g'⟩ := by
  have hview : g'.gamestate.gameTime = (g.view.after e).gamestate.gameTime :=
    gamestate_step GameState.gameTime h
  cases e with
  | gameUpdateGametimePoints => exact (clocks_of_update h).1
  | simTimeSync | gameUpdateLastTime =>
      rw [hview]
      simp only [GameView.after, Event.zeroesGameTime, timeCounted]
      split <;> simp [view, GameView.setGamestate]
  | _ =>
      rw [hview]
      simp [GameView.after, GameView.setGamestate, GameView.toPhase, GameView.toPostGame,
        Event.zeroesGameTime, timeCounted, view, startup, Llsf.startup]

theorem contTime_step (h : g.step e = some g') :
    g'.gamestate.contTime =
      if e.isReset then 0 else g.gamestate.contTime + timeCounted ⟨g, e, g'⟩ := by
  have hview : g'.gamestate.contTime = (g.view.after e).gamestate.contTime :=
    gamestate_step GameState.contTime h
  cases e with
  | gameUpdateGametimePoints => exact (clocks_of_update h).2
  | simTimeSync | gameUpdateLastTime =>
      rw [hview]
      simp only [GameView.after, Event.isReset, timeCounted]
      split <;> simp [view, GameView.setGamestate]
  | _ =>
      rw [hview]
      simp [GameView.after, GameView.setGamestate, GameView.toPhase, GameView.toPostGame,
        Event.isReset, timeCounted, view, startup, Llsf.startup]

theorem overTime_step (h : g.step e = some g') :
    g'.gamestate.overTime =
      (!e.isReset && (e.entersOvertime || g.gamestate.overTime)) := by
  have hview : g'.gamestate.overTime = (g.view.after e).gamestate.overTime :=
    gamestate_step GameState.overTime h
  cases e with
  | simTimeSync | gameUpdateGametimePoints | gameUpdateLastTime =>
      rw [hview]
      simp only [GameView.after, Event.isReset, Event.entersOvertime]
      split <;> simp [view, GameView.setGamestate]
  | _ =>
      rw [hview]
      simp [GameView.after, GameView.setGamestate, GameView.toPhase, GameView.toPostGame,
        Event.isReset, Event.entersOvertime, view, startup, Llsf.startup]

/-- How a phase ends by itself. -/
structure EndsPhase (g g' : Game) : Prop where
  running : g.gamestate.state = .running
  next : nextPhase g.gamestate.phase = some g'.gamestate.phase
  timed : ∃ time, phaseTime g.gamestate.overTime g.gamestate.phase = some time ∧
    time ≤ g.gamestate.gameTime

/-- How the game starts. -/
structure StartsGame (g g' : Game) : Prop where
  running : g.gamestate.state = .running
  preGame : g.gamestate.phase = .preGame
  next : g'.gamestate.phase = .setup ∨
    g'.gamestate.phase = .exploration ∧ g.gamestate.teams = ("", "")

theorem phase_of_view (h : g.step e = some g')
    (hkept : (g.view.after e).gamestate.phase = g.gamestate.phase) :
    g'.gamestate.phase = g.gamestate.phase :=
  (gamestate_step GameState.phase h).trans hkept

/-- What can change the phase. -/
theorem phase_step (h : g.step e = some g') :
    g'.gamestate.phase = g.gamestate.phase ∨ e = .setGamePhase g'.gamestate.phase ∨
      e.isReset = true ∨ g.StartsGame g' ∨ g.EndsPhase g' := by
  cases e with
  | setGamePhase phase =>
      cases h
      exact .inr (.inl rfl)
  | resetGame => exact .inr (.inr (.inl rfl))
  | gameStartTraining now =>
      obtain ⟨⟨hteams, hphase, hstate⟩, hs⟩ := Option.ite_none_right_eq_some.mp h
      cases hs
      exact .inr (.inr (.inr (.inl ⟨hstate, hphase, .inr ⟨rfl, hteams⟩⟩)))
  | gameStart now =>
      obtain ⟨⟨hphase, hstate⟩, hs⟩ := Option.ite_none_right_eq_some.mp h
      cases hs
      exact .inr (.inr (.inr (.inl ⟨hstate, hphase, .inl rfl⟩)))
  | gameSwitchToExploration | gameSwitchToProduction | techalWamGameOver now
  | techalNavigationGameOver now =>
      obtain ⟨⟨hphase, hstate, htime⟩, hs⟩ := Option.ite_none_right_eq_some.mp h
      cases hs
      refine .inr (.inr (.inr (.inr ⟨hstate, ?_, ?_⟩)))
      · rw [hphase]
        rfl
      · rw [hphase]
        exact ⟨_, rfl, htime⟩
  | gameOver now =>
      obtain ⟨⟨⟨hstate, hphase⟩, hovertime, -, htime⟩, hs⟩ := Option.ite_none_right_eq_some.mp h
      cases hs
      refine .inr (.inr (.inr (.inr ⟨hstate, ?_, ?_⟩)))
      · rw [hphase]
        rfl
      · rw [hphase, hovertime]
        exact ⟨_, rfl, htime⟩
  | gameOverAfterOvertime now =>
      obtain ⟨⟨⟨hstate, hphase⟩, hovertime, htime⟩, hs⟩ := Option.ite_none_right_eq_some.mp h
      cases hs
      refine .inr (.inr (.inr (.inr ⟨hstate, ?_, ?_⟩)))
      · rw [hphase]
        rfl
      · rw [hphase, hovertime]
        exact ⟨_, rfl, htime⟩
  | simTimeSync | gameUpdateGametimePoints | gameUpdateLastTime =>
      refine .inl (phase_of_view h ?_)
      simp only [GameView.after]
      split <;> rfl
  | _ => exact .inl (phase_of_view h rfl)

/-- What the clocks show. -/
structure Clocks (tr : List (Step Game Event)) (g : Game) : Prop where
  gameTime : g.gamestate.gameTime = ranFor (sinceZeroed tr)
  contTime : g.gamestate.contTime = ranFor (sinceReset tr)
  overTime : g.gamestate.overTime = overtimeEntered tr

theorem ranFor_cons (t : Step Game Event) : ranFor (t :: tr) = timeCounted t + ranFor tr := by
  simp [ranFor]

theorem sinceReset_cons (t : Step Game Event) :
    sinceReset (t :: tr) = if t.label.isReset then [] else t :: sinceReset tr := by
  obtain ⟨pre, label, post⟩ := t
  cases label <;> rfl

theorem Clocks.step (h : Clocks tr g) (hs : g.step e = some g') : Clocks (⟨g, e, g'⟩ :: tr) g' where
  gameTime := by
    rw [gameTime_step hs, sinceZeroed, h.gameTime]
    split
    · rfl
    · rw [ranFor_cons, add_comm]
  contTime := by
    rw [contTime_step hs, sinceReset_cons, h.contTime]
    split
    · rfl
    · rw [ranFor_cons, add_comm]
  overTime := by
    rw [overTime_step hs, overtimeEntered, sinceReset_cons, h.overTime]
    cases hreset : e.isReset <;> simp [overtimeEntered]

/-- The game time is the time the game ran since it was set to 0, and the continuous time the time it ran
since the last `reset-game`. -/
theorem clock_accounts (hrun : GameRun startup tr g) : Clocks tr g := by
  apply Run.history_invariant_of (C := fun _ _ => True) ?_ ?_ hrun (fun _ _ => trivial)
  · exact ⟨rfl, rfl, rfl⟩
  · exact fun tr g e g' h _ hs => h.step hs

/-- **No phase ends before its time**, unless the operator changes it: a step that changes the phase is
the operator's or a reset, or starts the game, or ends a phase in which the game ran as long as the phase
takes since the game time was last set to 0. -/
theorem phases_timed (hrun : GameRun startup tr g) :
    AllSteps (fun t earlier => t.post.gamestate.phase ≠ t.pre.gamestate.phase →
      t.label = .setGamePhase t.post.gamestate.phase ∨ t.label.isReset = true ∨
      t.pre.StartsGame t.post ∨
      t.pre.gamestate.state = .running ∧
        nextPhase t.pre.gamestate.phase = some t.post.gamestate.phase ∧
        ∃ time, phaseTime (overtimeEntered earlier) t.pre.gamestate.phase = some time ∧
          time ≤ ranFor (sinceZeroed earlier)) tr := by
  rw [allSteps_iff]
  rintro later ⟨pre, label, post⟩ earlier rfl hne
  obtain ⟨hearlier, hstep⟩ := hrun.split
  have hclocks := clock_accounts hearlier
  rcases phase_step hstep with hkept | hset | hreset | hstarts | hends
  · exact absurd hkept hne
  · exact .inl hset
  · exact .inr (.inl hreset)
  · exact .inr (.inr (.inl hstarts))
  · refine .inr (.inr (.inr ⟨hends.running, hends.next, ?_⟩))
    rw [← hclocks.overTime, ← hclocks.gameTime]
    exact hends.timed

end

/-- The game is started at second 100, and the setup is over at second 400. -/
def setupGame : List Event :=
  [.simInit false false, .initGame ⟨100, 0⟩, .setGameState .running, .gameStart ⟨100, 0⟩,
    .time ⟨250, 0⟩, .gameUpdateGametimePoints, .retractTime, .time ⟨400, 0⟩,
    .gameUpdateGametimePoints]

theorem phases_timed_of_setup :
    ∃ tr g g', GameRun startup tr g ∧ g.step .gameSwitchToExploration = some g' ∧
      setupTime ≤ ranFor (sinceZeroed tr) := by
  have hrun : (trace step startup setupGame).any (fun r =>
      (r.2.step .gameSwitchToExploration).any fun g' =>
        decide (r.2.gamestate.phase = .setup ∧ g'.gamestate.phase = .exploration)) = true := by
    decide +kernel
  obtain ⟨⟨tr, g⟩, htrace, hr⟩ := (Option.any_eq_true _ _).mp hrun
  obtain ⟨g', hstep, hphases⟩ := (Option.any_eq_true _ _).mp hr
  obtain ⟨hsetup, hexploration⟩ : g.gamestate.phase = .setup ∧ g'.gamestate.phase = .exploration :=
    of_decide_eq_true hphases
  have hrun : GameRun startup tr g := run_of_trace htrace
  refine ⟨tr, g, g', hrun, hstep, ?_⟩
  have hne : g'.gamestate.phase ≠ g.gamestate.phase := by
    rw [hsetup, hexploration]
    decide
  rcases (phases_timed (hrun.step hstep)).1 hne with hset | hreset | hstarts | ⟨-, -, time, htime, hle⟩
  · cases hset
  · cases hreset
  · cases hsetup.symm.trans hstarts.preGame
  · rw [show phaseTime _ g.gamestate.phase = some setupTime by rw [hsetup]; rfl] at htime
    cases htime
    exact hle

end Game

end FactoryHub.Llsf
