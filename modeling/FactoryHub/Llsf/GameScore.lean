import FactoryHub.Llsf.Game

/-!
# The final score

`game-update-gametime-points` stores the totals in the gamestate; `game-over`, `game-enter-overtime`
and `game-over-after-overtime` decide by the stored ones. What is awarded in between is missing
from the final score, and from the comparison that decides about over-time.
-/

namespace FactoryHub.Llsf

open Lib

/-! ## Kinds of events -/

/-- The rules that end the production phase. -/
def Event.isGameOver : Event → Bool
  | .gameOver _ | .gameOverAfterOvertime _ => true
  | _ => false

def Event.entersOvertime : Event → Bool
  | .gameEnterOvertime => true
  | _ => false

/-- The rules one of which fires when the production time has run out. -/
def Event.endsProductionTime : Event → Bool
  | .gameOver _ | .gameEnterOvertime => true
  | _ => false

theorem Event.isGameOver_or_entersOvertime {e : Event} (he : e.endsProductionTime = true) :
    e.isGameOver = true ∨ e.entersOvertime = true := by
  cases e
  case gameOver => exact Or.inl rfl
  case gameEnterOvertime => exact Or.inr rfl
  all_goals cases he

theorem Event.endsProductionTime_of_entersOvertime {e : Event} (he : e.entersOvertime = true) :
    e.endsProductionTime = true := by
  cases e
  case gameEnterOvertime => rfl
  all_goals cases he

namespace Game

/-! ## What one event does to the points -/

/-- The phases in which points are awarded. -/
def Scoring (phase : Phase) : Prop :=
  phase = .exploration ∨ phase = .production ∨ phase = .whackAMoleChallenge

/-- The points the gamestate stores after an event. -/
def storedAfter (g : Game) : Event → Int × Int
  | .gameUpdateGametimePoints => g.totals
  | .resetGame => (0, 0)
  | _ => g.gamestate.points

theorem handleReport_gamestate (team : Team) (g : Game) (report : MachineName × String) :
    (handleReport team g report).gamestate = g.gamestate := by
  unfold handleReport
  dsimp only
  split <;> rfl

theorem foldl_handleReport_gamestate (team : Team) (machines : List (MachineName × String))
    (g : Game) : (machines.foldl (handleReport team) g).gamestate = g.gamestate := by
  induction machines generalizing g with
  | nil => rfl
  | cons report machines ih =>
      rw [List.foldl_cons, ih, handleReport_gamestate]

theorem updateLoadedWith_gamestate (g : Game) (m : MachineName) (newLw : List Int)
    (spec : MachineSpec) : (g.updateLoadedWith m newLw spec).gamestate = g.gamestate := by
  unfold updateLoadedWith
  dsimp only
  split
  · rfl
  · split <;> rfl

/-- Only `game-update-gametime-points` and `reset-game` write the stored points, and points are
awarded in the phases that have scoring rules. -/
theorem step_frame {g g' : Game} {e : Event} (h : g.step e = some g') :
    g'.gamestate.points = g.storedAfter e ∧
      (g'.points = g.points ∨ Scoring g.gamestate.phase ∨ e = .resetGame) := by
  cases e
  case explorationHandleReport team machines =>
    obtain ⟨hphase, hs⟩ := Option.ite_none_right_eq_some.mp h
    cases hs
    rw [foldl_handleReport_gamestate]
    exact ⟨rfl, Or.inr (Or.inl (Or.inl hphase))⟩
  case production a =>
    obtain ⟨ha, hs⟩ := Option.ite_none_left_eq_some.mp h
    obtain ⟨memory, hstep, rfl⟩ := Option.map_eq_some_iff.mp hs
    rw [Bool.not_eq_true] at ha
    obtain ⟨hgamestate, hpoints⟩ := Memory.step_frame ha hstep
    refine ⟨congrArg GameState.points hgamestate, ?_⟩
    exact hpoints.imp id (fun hproducing => Or.inl (Or.inr (Or.inl hproducing.2)))
  case machineUpdateLoadedWith m newLw =>
    simp only [step, machineUpdateLoadedWith] at h
    split at h
    · next spec _ =>
        obtain ⟨⟨hphase, _⟩, hs⟩ := Option.ite_none_right_eq_some.mp h
        cases hs
        refine ⟨?_, Or.inr (Or.inl (Or.inr (Or.inl hphase)))⟩
        exact congrArg GameState.points (updateLoadedWith_gamestate g m newLw spec)
    · cases h
  case resetGame =>
    obtain ⟨_, hs⟩ := Option.ite_none_right_eq_some.mp h
    cases hs
    exact ⟨rfl, Or.inr (Or.inr rfl)⟩
  case techalWamContinue =>
    obtain ⟨⟨hphase, _⟩, hs⟩ := Option.ite_none_right_eq_some.mp h
    cases hs
    exact ⟨rfl, Or.inr (Or.inl (Or.inr (Or.inr hphase)))⟩
  case techalWamReached m =>
    obtain ⟨⟨⟨hphase, _⟩, _⟩, hs⟩ := Option.ite_none_right_eq_some.mp h
    cases hs
    exact ⟨rfl, Or.inr (Or.inl (Or.inr (Or.inr hphase)))⟩
  -- the other events assert no points
  all_goals
    simp only [step, simInit, simTimeSync, gameParameterize, loadPuckInMachine,
      removePuckFromMachine, turnTo, machineUpdateIgnored, gameUpdateGametimePoints, gameUpdateLastTime,
      gameSwitchToPreGame, gameStartTraining, gameStart, gameSwitchToExploration,
      gameSwitchToProduction, switchPhase, gameOver, gameEnterOvertime, gameOverAfterOvertime,
      gameGotoPostGame, explorationStart, explorationPause, explorationContinue, explorationSeen,
      productionStart, techalWamNext, techalWamDeactivate, techalWamActivate, techalWamGameOver,
      techalNavigationGameOver, challengeOver, initGame] at h
    repeat' split at h
    all_goals
      cases h
    all_goals
      exact ⟨rfl, Or.inl rfl⟩

/-- Nothing is awarded after the game. -/
theorem step_postGame {g g' : Game} {e : Event} (h : g.step e = some g')
    (hpre : g.gamestate.phase = .postGame) (hpost : g'.gamestate.phase = .postGame) :
    g'.gamestate.points = g.gamestate.points ∧ g'.totals = g.totals := by
  obtain ⟨hstored, hpoints⟩ := step_frame h
  rcases hpoints with hpoints | hscoring | rfl
  · refine ⟨?_, by unfold totals; rw [hpoints]⟩
    rw [hstored]
    cases e
    case gameUpdateGametimePoints =>
      -- the update does not fire in this phase
      rw [step, gameUpdateGametimePoints] at h
      split at h
      · obtain ⟨⟨htimed, _⟩, _⟩ := Option.ite_none_right_eq_some.mp h
        rw [hpre] at htimed
        exact absurd htimed (by decide)
      · cases h
    case resetGame =>
      obtain ⟨_, hs⟩ := Option.ite_none_right_eq_some.mp h
      cases hs
      cases hpost
    all_goals rfl
  · rw [hpre] at hscoring
    rcases hscoring with h | h | h <;> cases h
  · obtain ⟨_, hs⟩ := Option.ite_none_right_eq_some.mp h
    cases hs
    cases hpost

/-! ## Along a run -/

/-- The totals when `game-update-gametime-points` last fired in this game. -/
def lastTotals : List (Step Game Event) → Int × Int
  | [] => (0, 0)
  | t :: earlier =>
      match t.label with
      | .gameUpdateGametimePoints => t.pre.totals
      | .resetGame => (0, 0)
      | _ => lastTotals earlier

/-- POST_GAME was entered by `game-over` or `game-over-after-overtime` and not left since. -/
def EndedByGameOver : List (Step Game Event) → Prop
  | [] => False
  | t :: earlier =>
      t.label.isGameOver = true ∨
        (t.pre.gamestate.phase = .postGame ∧ t.post.gamestate.phase = .postGame ∧
          EndedByGameOver earlier)

instance : ∀ tr, Decidable (EndedByGameOver tr)
  | [] => inferInstanceAs (Decidable False)
  | t :: earlier =>
      @instDecidableOr _ _ (inferInstanceAs (Decidable (t.label.isGameOver = true)))
        (@instDecidableAnd _ _ (inferInstanceAs (Decidable (t.pre.gamestate.phase = .postGame)))
          (@instDecidableAnd _ _ (inferInstanceAs (Decidable (t.post.gamestate.phase = .postGame)))
            (instDecidableEndedByGameOver earlier)))

/-- After the game the gamestate has the points awarded, and when the production time has run out
over-time is entered if, and only if, the totals are equal. -/
def FinalScore (tr : List (Step Game Event)) : Prop :=
  ∀ later t earlier, tr = later ++ t :: earlier →
    (EndedByGameOver (t :: earlier) → t.post.gamestate.points = t.post.totals) ∧
      (t.label.endsProductionTime = true →
        (t.label.entersOvertime = true ↔ t.pre.totals.1 = t.pre.totals.2))

/-- What was awarded since the last update does not matter when the step is taken: the totals are
unchanged when the game ends, and both have changed by the same when over-time is entered. -/
def Settled (t : Step Game Event) (earlier : List (Step Game Event)) : Prop :=
  (t.label.isGameOver = true → t.pre.totals = lastTotals earlier) ∧
    (t.label.entersOvertime = true →
      t.pre.totals.1 - (lastTotals earlier).1 = t.pre.totals.2 - (lastTotals earlier).2)

instance (t : Step Game Event) (earlier : List (Step Game Event)) :
    Decidable (Settled t earlier) := by
  unfold Settled
  infer_instance

/-- The gamestate stores the totals of the last update. -/
theorem stored_eq_lastTotals {g : Game} {tr : List (Step Game Event)}
    (h : GameRun startup tr g) : g.gamestate.points = lastTotals tr := by
  induction h with
  | init => rfl
  | @step tr g g' e hrun hs ih =>
      rw [(step_frame hs).1]
      unfold storedAfter lastTotals
      split <;> first | rfl | exact ih

/-- The rules that end the game leave the stored points as they are. -/
theorem step_isGameOver {g g' : Game} {e : Event} (h : g.step e = some g')
    (he : e.isGameOver = true) :
    g'.gamestate.points = g.gamestate.points ∧ g'.totals = g.totals := by
  cases e
  case gameOver now =>
    obtain ⟨_, hs⟩ := Option.ite_none_right_eq_some.mp h
    cases hs
    exact ⟨rfl, rfl⟩
  case gameOverAfterOvertime now =>
    obtain ⟨_, hs⟩ := Option.ite_none_right_eq_some.mp h
    cases hs
    exact ⟨rfl, rfl⟩
  all_goals cases he

/-- A game that has ended on settled points shows them, in every later state. -/
theorem points_of_ended {g : Game} {tr : List (Step Game Event)} (h : GameRun startup tr g)
    (hsettled : ∀ later t earlier, tr = later ++ t :: earlier → Settled t earlier)
    (hended : EndedByGameOver tr) : g.gamestate.points = g.totals := by
  induction h with
  | init => cases hended
  | @step tr g g' e hrun hs ih =>
      rcases hended with hover | ⟨hpre, hpost, hended⟩
      · -- the game ends here
        obtain ⟨hstored, htotals⟩ := step_isGameOver hs hover
        have hnow := (hsettled [] _ _ rfl).1 hover
        rw [hstored, htotals, stored_eq_lastTotals hrun]
        exact hnow.symm
      · -- it had ended before
        obtain ⟨hstored, htotals⟩ := step_postGame hs hpre hpost
        have htail : ∀ later t earlier, tr = later ++ t :: earlier → Settled t earlier := by
          intro later t earlier heq
          apply hsettled (⟨g, e, g'⟩ :: later)
          rw [heq, List.cons_append]
        rw [hstored, htotals]
        exact ih htail hended

/-- When over-time is decided, the stored points decide it. -/
theorem step_endsProductionTime {g g' : Game} {e : Event} (h : g.step e = some g')
    (he : e.endsProductionTime = true) :
    e.entersOvertime = true ↔ g.gamestate.points.1 = g.gamestate.points.2 := by
  cases e
  case gameOver now =>
    obtain ⟨⟨_, _, hne, _⟩, _⟩ := Option.ite_none_right_eq_some.mp h
    exact ⟨nofun, fun heq => absurd heq hne⟩
  case gameEnterOvertime =>
    obtain ⟨⟨_, _, heq, _⟩, _⟩ := Option.ite_none_right_eq_some.mp h
    exact ⟨fun _ => heq, fun _ => rfl⟩
  all_goals cases he

/-- The timer asserts a time, and the gamestate follows. -/
def cycle (sec : Int) (rules : List Event) : List Event :=
  [.time ⟨sec, 0⟩, .gameUpdateGametimePoints] ++ rules ++ [.retractTime]

/-- The puck is put under the reader of a machine, or taken away. -/
def reads (input : RfidInput) (rules : List Activation) : List Event :=
  (Activation.rfidInput input :: rules ++ [Activation.rfidInputCleanup input]).map .production

/-- The operator starts the production phase at second 100. M1 makes an S1 of puck 1; M3 takes
puck 2, and puck 1 at second 999, one second before the production time is over. -/
def untilM3Processes : List Event :=
  [.initGame ⟨100, 0⟩, .simInit false false, .gameSwitchToPreGame, .setGamePhase .production,
    .gameParameterize Llsf.startup.machines
      (Llsf.startup.orders ++
        Llsf.startup.orders.map (fun o => { o with id := o.id + 5, team := .magenta })) [],
    .productionStart, .setGameState .running] ++
  cycle 101 [] ++ reads ⟨.m1, true, 1⟩ [.rfidInputLearnPuck .m1 1, .machineProcStart .m1 1] ++
  cycle 106 [.production (.machineProcDone .m1)] ++
  reads ⟨.m1, false, 0⟩ [.machinePuckRemoval .m1] ++
  reads ⟨.m3, true, 2⟩ [.rfidInputLearnPuck .m3 2, .machineProcStart .m3 2] ++
  cycle 109 [.production (.machineProcWaiting .m3)] ++
  reads ⟨.m3, false, 0⟩ [.machinePuckRemoval .m3] ++
  cycle 999 [] ++ reads ⟨.m3, true, 1⟩ [.machineProcStart .m3 1]

end Game

end FactoryHub.Llsf
