import FactoryHub.Lib.Firsts
import FactoryHub.Llsf.GameScore

/-!
# Exploration reports

A team scores with a machine once in an exploration phase. `exploration-handle-report` takes the
machines of a message one after the other and notes each in an exploration-report, which the next
one of the same machine finds, in this message or in a later one.

* `foldl_handleReport` — a message counts the first reports of the machines not noted yet.
* `reports_score_once` — along a phase, for any messages of both teams.

A name that is none of a machine is passed over as that of a gate is, and stands in no message here.
-/

namespace FactoryHub.Llsf

open Lib

/-! ## A report and what it counts for -/

/-- A machine counts once for each team. -/
def ExplorationReport.key (r : ExplorationReport) : Team × MachineName := (r.team, r.name)

/-- A machine named in a MachineReport, with what `exploration-handle-report` makes of it when the
message arrives: the points, their reason and the type to note. -/
structure Report where
  team : Team
  name : MachineName
  judged : Int × Reason × String
  gameTime : ℚ
  deriving DecidableEq, Repr

namespace Report

def key (r : Report) : Team × MachineName := (r.team, r.name)

/-- The points fact for a report. -/
def award (r : Report) : Points where
  points := r.judged.1
  phase := .exploration
  team := r.team
  gameTime := r.gameTime
  reason := r.judged.2.1

/-- The exploration-report for a report. -/
def note (r : Report) : ExplorationReport := ⟨r.name, r.team, r.judged.2.2, r.gameTime⟩

theorem key_note (r : Report) : r.note.key = r.key := rfl

end Report

/-- The machine a points fact of the exploration phase is about. -/
def Reason.reported : Reason → Option MachineName
  | .reportForOtherTeam machine _ | .correctReport machine _ | .wrongReport machine _ => some machine
  | _ => none

/-- The points fact was asserted for a report of this team for this machine. -/
def Points.IsFor (p : Points) (team : Team) (name : MachineName) : Prop :=
  p.phase = .exploration ∧ p.team = team ∧ p.reason.reported = some name

instance (p : Points) (team : Team) (name : MachineName) : Decidable (p.IsFor team name) := by
  unfold Points.IsFor
  infer_instance

/-! ## Facts asserted in turn -/

theorem mem_foldl_assertFact {α : Type} [DecidableEq α] {x : α} (facts new : List α) :
    x ∈ new.foldl (fun facts fact => assertFact fact facts) facts ↔ x ∈ facts ∨ x ∈ new := by
  induction new generalizing facts with
  | nil => simp
  | cons y new ih =>
      rw [List.foldl_cons, ih, mem_assertFact, List.mem_cons]
      grind

/-- What is new after facts were asserted in turn is in their order. -/
theorem exists_foldl_assertFact {α : Type} [DecidableEq α] (facts new : List α) :
    ∃ added, new.foldl (fun facts fact => assertFact fact facts) facts = facts ++ added ∧
      added.Sublist new ∧ ∀ x ∈ added, x ∉ facts := by
  induction new generalizing facts with
  | nil => exact ⟨[], by simp⟩
  | cons x new ih =>
      rw [List.foldl_cons]
      by_cases hx : x ∈ facts
      · obtain ⟨added, heq, hsub, hnew⟩ := ih facts
        rw [assertFact, if_pos hx]
        exact ⟨added, heq, hsub.cons x, hnew⟩
      · obtain ⟨added, heq, hsub, hnew⟩ := ih (facts ++ [x])
        rw [assertFact, if_neg hx]
        refine ⟨x :: added, ?_, hsub.cons_cons x, ?_⟩
        · rw [heq, List.append_assoc, List.singleton_append]
        · intro y hy
          rcases List.mem_cons.mp hy with rfl | hy
          · exact hx
          · exact fun hmem => hnew y hy (List.mem_append_left _ hmem)

namespace Game

/-! ## One message -/

/-- What `exploration-handle-report` makes of a machine of a message. -/
def report (g : Game) (team : Team) (entry : MachineName × String) : Report where
  team := team
  name := entry.1
  judged := g.reportPoints team entry.1 entry.2
  gameTime := g.gamestate.gameTime

/-- The reports of a message, which are those of its machines that may be reported. -/
def reports (g : Game) (team : Team) (machines : List (MachineName × String)) : List Report :=
  (machines.filter (fun entry => entry.1 ∈ ExplorationReport.names)).map (g.report team)

/-- The keys noted so far. -/
def noted (g : Game) : List (Team × MachineName) := g.explorationReports.map ExplorationReport.key

/-- Reports are noted and scored. -/
def count (g : Game) (reports : List Report) : Game :=
  { g with
    points := (reports.map Report.award).foldl (fun points p => assertFact p points) g.points
    explorationReports := g.explorationReports ++ reports.map Report.note }

section

variable {g : Game} {team : Team} {entry : MachineName × String}

theorem count_nil (g : Game) : g.count [] = g := by simp [count]

theorem count_cons (g : Game) (r : Report) (rs : List Report) :
    g.count (r :: rs) = (g.count [r]).count rs := by simp [count]

theorem isFor_award_report (g : Game) (team : Team) (entry : MachineName × String) :
    (g.report team entry).award.IsFor team entry.1 := by
  refine ⟨rfl, rfl, ?_⟩
  show (g.reportPoints team entry.1 entry.2).2.1.reported = some entry.1
  unfold reportPoints
  dsimp only
  split
  · rfl
  · split <;> rfl

theorem mem_noted {key : Team × MachineName} :
    key ∈ g.noted ↔ ∃ r ∈ g.explorationReports, r.name = key.2 ∧ r.team = key.1 := by
  rw [noted, List.mem_map]
  constructor
  · rintro ⟨r, hr, rfl⟩
    exact ⟨r, hr, rfl, rfl⟩
  · rintro ⟨r, hr, hname, hteam⟩
    exact ⟨r, hr, by rw [ExplorationReport.key, hname, hteam]⟩

/-- The loop body passes over a machine that may not be reported, or was. -/
theorem handleReport_of_noted
    (h : entry.1 ∈ ExplorationReport.names → (team, entry.1) ∈ g.noted) :
    handleReport team g entry = g := by
  apply if_neg
  rintro ⟨hname, hfirst⟩
  exact hfirst (mem_noted.mp (h hname))

/-- The loop body counts the first report. -/
theorem handleReport_of_notMem (hname : entry.1 ∈ ExplorationReport.names)
    (h : (team, entry.1) ∉ g.noted) :
    handleReport team g entry = g.count [g.report team entry] := by
  apply if_pos
  exact ⟨hname, fun hr => h (mem_noted.mpr hr)⟩

/-- A message counts the first reports of the machines not noted yet. -/
theorem foldl_handleReport (g : Game) (team : Team) (machines : List (MachineName × String)) :
    machines.foldl (handleReport team) g =
      g.count (firsts Report.key g.noted (g.reports team machines)) := by
  induction machines generalizing g with
  | nil => exact (count_nil g).symm
  | cons entry machines ih =>
      rw [List.foldl_cons, ih]
      by_cases hname : entry.1 ∈ ExplorationReport.names
      · have hreports : g.reports team (entry :: machines) =
            g.report team entry :: g.reports team machines := by simp [reports, hname]
        rw [hreports]
        by_cases hnoted : (g.report team entry).key ∈ g.noted
        · have hkept : handleReport team g entry = g := handleReport_of_noted (fun _ => hnoted)
          rw [hkept, firsts_cons_of_mem hnoted]
        · have hcounted : handleReport team g entry = g.count [g.report team entry] :=
            handleReport_of_notMem hname hnoted
          have hkeys : (g.count [g.report team entry]).noted =
              g.noted ++ [(g.report team entry).key] := by simp [noted, count, Report.key_note]
          rw [hcounted, hkeys, firsts_cons_of_notMem hnoted]
          -- counting changes neither machines nor time
          exact (count_cons g _ _).symm
      · have hreports : g.reports team (entry :: machines) = g.reports team machines := by
          simp [reports, hname]
        rw [hreports, handleReport_of_noted (fun h => absurd h hname)]

end

/-! ## One event of the phase -/

/-- `exploration-start` has fired. -/
def Exploring (g : Game) : Prop :=
  g.gamestate.phase = .exploration ∧ g.gamestate.prevPhase = some .exploration

/-- The reports that arrive with an event. -/
def arriving (g : Game) : Event → List Report
  | .explorationHandleReport team machines => g.reports team machines
  | _ => []

/-- The first reports of those that arrive with an event are noted and scored. -/
def counted (g : Game) (e : Event) : Game := g.count (firsts Report.key g.noted (g.arriving e))

/-- In the phase, points and exploration-reports change by the reports that arrive alone. -/
theorem step_exploring {g g' : Game} {e : Event} (h : g.step e = some g') (hpre : g.Exploring)
    (hpost : g'.gamestate.phase = .exploration) :
    g'.Exploring ∧ g'.points = (g.counted e).points ∧
      g'.explorationReports = (g.counted e).explorationReports := by
  obtain ⟨hphase, hprev⟩ := hpre
  cases e
  case explorationHandleReport team machines =>
    obtain ⟨_, hs⟩ := Option.ite_none_right_eq_some.mp h
    cases hs
    rw [foldl_handleReport]
    exact ⟨⟨hphase, hprev⟩, rfl, rfl⟩
  case setGamePhase phase =>
    rw [step, Option.some.injEq] at h
    subst h
    refine ⟨⟨hpost, ?_⟩, rfl, (List.append_nil _).symm⟩
    exact congrArg some hphase
  case explorationStart =>
    -- it does not fire again
    obtain ⟨⟨_, hne⟩, _⟩ := Option.ite_none_right_eq_some.mp h
    exact absurd hprev hne
  case production a =>
    obtain ⟨ha, hs⟩ := Option.ite_none_left_eq_some.mp h
    obtain ⟨memory, hstep, rfl⟩ := Option.map_eq_some_iff.mp hs
    rw [Bool.not_eq_true] at ha
    obtain ⟨hgamestate, hpoints⟩ := Memory.step_frame ha hstep
    refine ⟨⟨hpost, ?_⟩, ?_, (List.append_nil _).symm⟩
    · exact (congrArg GameState.prevPhase hgamestate).trans hprev
    · rcases hpoints with hpoints | ⟨_, hproduction⟩
      · exact hpoints
      · rw [hphase] at hproduction
        cases hproduction
  -- the other events leave the phase, or do not touch what the phase is about
  all_goals
    simp only [step, simInit, simTimeSync, gameParameterize, loadPuckInMachine,
      removePuckFromMachine, turnTo, machineUpdateLoadedWith, machineUpdateIgnored,
      gameUpdateGametimePoints, gameUpdateLastTime, gameSwitchToPreGame, gameStartTraining,
      gameStart, gameSwitchToExploration, gameSwitchToProduction, switchPhase, gameOver,
      gameEnterOvertime, gameOverAfterOvertime, gameGotoPostGame, explorationPause,
      explorationContinue, explorationSeen, productionStart, techalWamNext, techalWamDeactivate,
      techalWamActivate, techalWamContinue, techalWamReached, techalWamGameOver,
      techalNavigationGameOver, challengeOver, initGame, resetGame] at h
    repeat' split at h
    all_goals
      cases h
    all_goals first
      | exact ⟨⟨hphase, hprev⟩, rfl, (List.append_nil _).symm⟩
      | (exfalso; simp_all [Memory.Producing, Whacking]; done)
      | cases hpost

/-! ## A whole phase -/

/-- The reports that arrive in a run, oldest first. -/
def reported : List (Step Game Event) → List Report
  | [] => []
  | t :: earlier => reported earlier ++ t.pre.arriving t.label

/-- The points facts that are asserted in a run, oldest first. -/
def asserted : List (Step Game Event) → List Points
  | [] => []
  | t :: earlier => asserted earlier ++ t.post.points.filter (fun p => p ∉ t.pre.points)

/-- The first report of a team for a machine. -/
def firstReport (tr : List (Step Game Event)) (team : Team) (name : MachineName) : Option Report :=
  (reported tr).find? (fun r => r.key = (team, name))

/-- A team scores at most once with a machine, by its first report for it, which is the one noted;
a later one changes nothing, whatever the message names before it. -/
structure ScoredOnce (tr : List (Step Game Event)) (g : Game) (team : Team) (name : MachineName) :
    Prop where
  at_most_one : ((asserted tr).filter (fun p => p.IsFor team name)).length ≤ 1
  by_first : ∀ p ∈ asserted tr, p.IsFor team name → ∃ r ∈ firstReport tr team name, p = r.award
  scored : ∀ r ∈ firstReport tr team name, r.award ∈ g.points
  noted : g.explorationReports.filter (fun r => r.key = (team, name)) =
    (firstReport tr team name).toList.map Report.note
  later : ∀ (before : List (MachineName × String)) (type : String),
    (firstReport tr team name).isSome ∨ name ∈ before.map Prod.fst →
      handleReport team (before.foldl (handleReport team) g) (name, type) =
        before.foldl (handleReport team) g

/-- What holds along a phase: the first reports were noted, and what was asserted is for them. -/
structure Tallied (tr : List (Step Game Event)) (g : Game) : Prop where
  exploring : g.Exploring
  noted : g.explorationReports = (firsts Report.key [] (reported tr)).map Report.note
  asserted : (asserted tr).Sublist ((firsts Report.key [] (reported tr)).map Report.award)
  scored : ∀ r ∈ firsts Report.key [] (reported tr), r.award ∈ g.points

section

variable {g g₀ g' : Game} {tr : List (Step Game Event)}

theorem isFor_of_mem_reported {r : Report} (h : r ∈ reported tr) : r.award.IsFor r.team r.name := by
  induction tr with
  | nil => cases h
  | cons t tr ih =>
      rcases List.mem_append.mp h with h | h
      · exact ih h
      · unfold arriving at h
        split at h
        · obtain ⟨entry, -, rfl⟩ := List.mem_map.mp h
          exact isFor_award_report ..
        · cases h

theorem Tallied.noted_keys (h : Tallied tr g) :
    g.noted = (firsts Report.key [] (reported tr)).map Report.key := by
  rw [Game.noted, h.noted, List.map_map]
  rfl

theorem tallied_of_start (h : g.explorationStart = some g₀) : Tallied [] g₀ := by
  obtain ⟨⟨hphase, _⟩, hs⟩ := Option.ite_none_right_eq_some.mp h
  cases hs
  refine ⟨⟨hphase, rfl⟩, rfl, List.Sublist.refl _, ?_⟩
  intro r hr
  cases hr

theorem Tallied.step {e : Event} (h : Tallied tr g) (hs : g.step e = some g')
    (hphase : g'.gamestate.phase = .exploration) : Tallied (⟨g, e, g'⟩ :: tr) g' := by
  obtain ⟨hexploring, hpoints, hreports⟩ := step_exploring hs h.exploring hphase
  obtain ⟨added, hadded, hsub, hnew⟩ := exists_foldl_assertFact g.points
    ((firsts Report.key g.noted (g.arriving e)).map Report.award)
  have hadded : g'.points = g.points ++ added := hpoints.trans hadded
  -- the keys noted are those of the first reports so far
  have hfirsts : firsts Report.key [] (reported (⟨g, e, g'⟩ :: tr)) =
      firsts Report.key [] (reported tr) ++ firsts Report.key g.noted (g.arriving e) := by
    rw [reported, firsts_append, h.noted_keys, List.nil_append]
  refine ⟨hexploring, ?_, ?_, ?_⟩
  · rw [hfirsts, List.map_append, hreports, counted, count, ← h.noted]
  · rw [hfirsts, List.map_append, Game.asserted, hadded]
    apply h.asserted.append
    rw [List.filter_append, List.filter_eq_nil_iff.mpr (by simp), List.nil_append]
    exact List.filter_sublist.trans hsub
  · intro r hr
    rw [hpoints]
    apply (mem_foldl_assertFact ..).mpr
    rw [hfirsts, List.mem_append] at hr
    exact hr.imp (h.scored r) (List.mem_map_of_mem)

/-- The tally holds along a phase. -/
theorem tallied_of_run (hstart : g.explorationStart = some g₀) (hrun : GameRun g₀ tr g')
    (hphase : ∀ t ∈ tr, t.post.gamestate.phase = .exploration) : Tallied tr g' := by
  induction hrun with
  | init => exact tallied_of_start hstart
  | step hrun hs ih =>
      have htail := ih (fun t ht => hphase t (List.mem_cons_of_mem _ ht))
      exact htail.step hs (hphase _ (List.mem_cons_self ..))

/-- The points facts of one team and machine are for the first report. -/
theorem filter_awards (tr : List (Step Game Event)) (team : Team) (name : MachineName) :
    ((firsts Report.key [] (reported tr)).map Report.award).filter (fun p => p.IsFor team name) =
      (firstReport tr team name).toList.map Report.award := by
  rw [List.filter_map, firstReport, ← @filter_firsts _ _ _ Report.key _ _ List.not_mem_nil]
  apply congrArg
  apply List.filter_congr
  intro r hr
  have hname : r.judged.2.1.reported = some r.name :=
    (isFor_of_mem_reported ((firsts_sublist _ _).subset hr)).2.2
  simp [Points.IsFor, Report.key, hname, Report.award]

theorem mem_firsts_of_firstReport {team : Team} {name : MachineName} {r : Report}
    (h : r ∈ firstReport tr team name) :
    r ∈ firsts Report.key [] (reported tr) ∧ r.key = (team, name) := by
  have hmem := Option.mem_toList.mpr h
  rw [firstReport, ← @filter_firsts _ _ _ Report.key _ _ List.not_mem_nil, List.mem_filter] at hmem
  exact ⟨hmem.1, by simpa using hmem.2⟩

/-- A machine that was reported, or stands in the message before, is passed over. -/
theorem handleReport_foldl_of_reported (team : Team) (name : MachineName) (type : String)
    (before : List (MachineName × String))
    (h : (team, name) ∈ g.noted ∨ name ∈ before.map Prod.fst) :
    handleReport team (before.foldl (handleReport team) g) (name, type) =
      before.foldl (handleReport team) g := by
  apply handleReport_of_noted
  intro hname
  have hkeys : (before.foldl (handleReport team) g).noted =
      g.noted ++ (firsts Report.key g.noted (g.reports team before)).map Report.key := by
    simp [foldl_handleReport, Game.noted, count, Function.comp_def, Report.key_note]
  rw [hkeys, mem_keys_firsts]
  apply h.imp id
  intro hbefore
  obtain ⟨entry, hmem, rfl⟩ := List.mem_map.mp hbefore
  refine List.mem_map.mpr ⟨g.report team entry, ?_, rfl⟩
  exact List.mem_map_of_mem (List.mem_filter.mpr ⟨hmem, by simpa using hname⟩)

/-- **Exploration reports score once**: along an exploration phase, whatever messages and other
events it brings. -/
theorem reports_score_once (hstart : g.explorationStart = some g₀) (hrun : GameRun g₀ tr g')
    (hphase : ∀ t ∈ tr, t.post.gamestate.phase = .exploration) (team : Team) (name : MachineName) :
    ScoredOnce tr g' team name := by
  have h := tallied_of_run hstart hrun hphase
  have hsub := h.asserted.filter (fun p => decide (p.IsFor team name))
  rw [filter_awards] at hsub
  refine ⟨?_, ?_, ?_, ?_, ?_⟩
  · apply hsub.length_le.trans
    cases firstReport tr team name <;> simp
  · intro p hp hfor
    have hmem := hsub.subset (List.mem_filter.mpr ⟨hp, by simpa using hfor⟩)
    obtain ⟨r, hr, rfl⟩ := List.mem_map.mp hmem
    exact ⟨r, Option.mem_toList.mp hr, rfl⟩
  · intro r hr
    exact h.scored r (mem_firsts_of_firstReport hr).1
  · rw [h.noted, List.filter_map, firstReport, ← @filter_firsts _ _ _ Report.key _ _ List.not_mem_nil]
    rfl
  · intro before type hearlier
    apply handleReport_foldl_of_reported
    apply hearlier.imp_left
    intro hsome
    obtain ⟨r, hr⟩ := Option.isSome_iff_exists.mp hsome
    obtain ⟨hmem, hkey⟩ := mem_firsts_of_firstReport hr
    rw [h.noted_keys, ← hkey]
    exact List.mem_map_of_mem hmem

end

/-- A training game enters its exploration phase. -/
def training : Game :=
  { startup with
    gamestate := { state := .running, phase := .exploration, prevPhase := some .preGame } }

/-- CYAN reports M1 twice in a message and again, as a type it does not have, in the next one.
MAGENTA, whose machine it is not, reports it as well. -/
theorem reports_score_once_of_repeated :
    ∃ g₀ tr g, training.explorationStart = some g₀ ∧ GameRun g₀ tr g ∧
      g.totals = (4, 0) ∧ ScoredOnce tr g .cyan .m1 ∧ ScoredOnce tr g .magenta .m1 := by
  have hrun : (training.explorationStart.bind fun g₀ => trace step g₀
      [.explorationHandleReport .cyan [(.m1, "T1"), (.m1, "T1"), (.d1, "DELIVER")],
        .explorationHandleReport .cyan [(.m1, "T2")],
        .explorationHandleReport .magenta [(.m1, "T1")]]).any (fun r =>
          decide (r.2.totals = (4, 0) ∧ ∀ t ∈ r.1, t.post.gamestate.phase = .exploration)) = true := by
    decide +kernel
  obtain ⟨⟨tr, g⟩, hbind, hr⟩ := (Option.any_eq_true _ _).mp hrun
  obtain ⟨g₀, hstart, htrace⟩ := Option.bind_eq_some_iff.mp hbind
  obtain ⟨htotals, hphase⟩ := of_decide_eq_true hr
  have hrun := run_of_trace htrace
  exact ⟨g₀, tr, g, hstart, hrun, htotals, reports_score_once hstart hrun hphase .cyan .m1,
    reports_score_once hstart hrun hphase .magenta .m1⟩

end Game

end FactoryHub.Llsf
