import FactoryHub.Llsf.Game

/-!
# The printed result

`game-print-points-team` adds up the points once more while it prints them. It leaves out the phases
in which a team has no positive points, where `game-calc-points` counts a phase with a negative
total as zero.

* `printed_total_iff` — when both totals are the same.
-/

namespace FactoryHub.Llsf

/-- What `game-print-points-team` prints, line by line. -/
inductive PrintedLine where
  | awardedPoints (team : Team)
  | phase (phase : PointsPhase)
  | award (gameTime : ℚ) (points : Int) (reason : Reason)
  | phaseTotal (phase : PointsPhase) (points : Int)
  | overallTotal (points : Int)
  deriving DecidableEq, Repr

/-- The team has positive points in the phase. -/
def HasPositive (facts : List Points) (team : Team) (phase : PointsPhase) : Prop :=
  ∃ p ∈ facts, phase = p.phase ∧ team = p.team ∧ p.points > 0

instance (facts : List Points) (team : Team) (phase : PointsPhase) :
    Decidable (HasPositive facts team phase) := by
  unfold HasPositive
  infer_instance

/-- The inner loop, over the facts of a team and a phase. -/
def printAwards (facts : List Points) (team : Team) (phase : PointsPhase) :
    List PrintedLine × Int :=
  (facts.filter (fun p => p.team = team ∧ p.phase = phase)).foldl
    (fun (lines, phasePoints) p =>
      (lines ++ [.award p.gameTime p.points p.reason], phasePoints + p.points))
    ([], 0)

/-- The loop body of `game-print-points-team`. -/
def printPhase (facts : List Points) (team : Team) (printed : List PrintedLine × Int)
    (phase : PointsPhase) : List PrintedLine × Int :=
  let (lines, points) := printed
  if HasPositive facts team phase then
    let (awards, phasePoints) := printAwards facts team phase
    (lines ++ [.phase phase] ++ awards ++ [.phaseTotal phase phasePoints], points + phasePoints)
  else (lines, points)

/-- `game-print-points-team`. -/
def gamePrintPointsTeam (facts : List Points) (team : Team) : List PrintedLine :=
  let (lines, points) :=
    PointsPhase.all.foldl (printPhase facts team) ([.awardedPoints team], 0)
  lines ++ [.overallTotal points]

variable {facts : List Points} {team : Team} {phase : PointsPhase}

/-! ## The printed totals -/

theorem printAwards_points (facts : List Points) (team : Team) (phase : PointsPhase) :
    (printAwards facts team phase).2 = gameCalcPhasePoints facts team phase := by
  have hfold (awarded : List Points) (lines : List PrintedLine) (n : Int) :
      (awarded.foldl (fun (s : List PrintedLine × Int) p =>
        (s.1 ++ [.award p.gameTime p.points p.reason], s.2 + p.points)) (lines, n)).2 =
          n + (awarded.map Points.points).sum := by
    induction awarded generalizing lines n with
    | nil => simp
    | cons p awarded ih =>
        rw [List.foldl_cons, ih, List.map_cons, List.sum_cons]
        exact Int.add_assoc ..
  have hfilter : facts.filter (fun p => p.team = team ∧ p.phase = phase) =
      facts.filter (fun p => p.phase = phase ∧ p.team = team) := by
    apply List.filter_congr
    intro p _
    simp [and_comm]
  unfold printAwards gameCalcPhasePoints
  rw [hfilter]
  apply (hfold _ [] 0).trans
  simp

/-- What a phase adds to the printed total. -/
def printedPoints (facts : List Points) (team : Team) (phase : PointsPhase) : Int :=
  if HasPositive facts team phase then gameCalcPhasePoints facts team phase else 0

theorem printPhase_points (printed : List PrintedLine × Int) (phase : PointsPhase) :
    (printPhase facts team printed phase).2 = printed.2 + printedPoints facts team phase := by
  unfold printPhase printedPoints
  dsimp only
  split
  · rw [printAwards_points]
  · rw [Int.add_zero]

theorem foldl_printPhase_points (phases : List PointsPhase) (printed : List PrintedLine × Int) :
    (phases.foldl (printPhase facts team) printed).2 =
      printed.2 + (phases.map (printedPoints facts team)).sum := by
  induction phases generalizing printed with
  | nil => simp
  | cons phase phases ih =>
      rw [List.foldl_cons, ih, printPhase_points, List.map_cons, List.sum_cons, Int.add_assoc]

/-- The last line. -/
theorem getLast_gamePrintPointsTeam (facts : List Points) (team : Team) :
    (gamePrintPointsTeam facts team).getLast? =
      some (.overallTotal (PointsPhase.all.map (printedPoints facts team)).sum) := by
  unfold gamePrintPointsTeam
  dsimp only
  rw [List.getLast?_append, foldl_printPhase_points, Int.zero_add]
  rfl

/-! ## Both totals -/

/-- A phase with positive points and a negative total is printed, and not counted. -/
def Overdrawn (facts : List Points) (team : Team) (phase : PointsPhase) : Prop :=
  HasPositive facts team phase ∧ gameCalcPhasePoints facts team phase < 0

instance (facts : List Points) (team : Team) (phase : PointsPhase) :
    Decidable (Overdrawn facts team phase) := by
  unfold Overdrawn
  infer_instance

theorem gameCalcPhasePoints_nonpos (h : ¬ HasPositive facts team phase) :
    gameCalcPhasePoints facts team phase ≤ 0 := by
  have hpoints : ∀ p ∈ facts, phase = p.phase → team = p.team → p.points ≤ 0 := by
    intro p hp hphase hteam
    by_contra hpos
    exact h ⟨p, hp, hphase, hteam, by omega⟩
  unfold gameCalcPhasePoints
  induction facts with
  | nil => simp
  | cons p facts ih =>
      have hfacts : ¬ HasPositive facts team phase := by
        rintro ⟨q, hq, hq'⟩
        exact h ⟨q, List.mem_cons_of_mem p hq, hq'⟩
      have htail := ih hfacts (fun q hq => hpoints q (List.mem_cons_of_mem p hq))
      rw [List.filter_cons]
      split
      · next hp =>
          obtain ⟨rfl, rfl⟩ := of_decide_eq_true hp
          have hle := hpoints p (List.mem_cons_self ..) rfl rfl
          rw [List.map_cons, List.sum_cons]
          omega
      · exact htail

/-- A phase adds as much to both totals, or less to the printed one. -/
theorem printedPoints_spec (facts : List Points) (team : Team) (phase : PointsPhase) :
    printedPoints facts team phase ≤ max (gameCalcPhasePoints facts team phase) 0 ∧
      (printedPoints facts team phase = max (gameCalcPhasePoints facts team phase) 0 ↔
        ¬ Overdrawn facts team phase) := by
  unfold printedPoints Overdrawn
  split
  · next hpositive =>
      refine ⟨le_max_left _ _, ?_⟩
      simp [hpositive]
  · next hpositive =>
      have hle := gameCalcPhasePoints_nonpos hpositive
      refine ⟨le_max_right _ _, ?_⟩
      simp [hpositive, hle]

theorem sum_printedPoints_iff (phases : List PointsPhase) :
    (phases.map (printedPoints facts team)).sum ≤
        (phases.map (fun phase => max (gameCalcPhasePoints facts team phase) 0)).sum ∧
      ((phases.map (printedPoints facts team)).sum =
          (phases.map (fun phase => max (gameCalcPhasePoints facts team phase) 0)).sum ↔
        ∀ phase ∈ phases, ¬ Overdrawn facts team phase) := by
  induction phases with
  | nil => simp
  | cons phase phases ih =>
      obtain ⟨hle, hiff⟩ := ih
      obtain ⟨hphase, hphase'⟩ := printedPoints_spec facts team phase
      rw [List.map_cons, List.map_cons, List.sum_cons, List.sum_cons, List.forall_mem_cons, ← hiff,
        ← hphase']
      omega

/-- **When the printed result is the official one**: in every phase in which the team has positive
points, the others do not outweigh them. -/
theorem printed_total_iff (facts : List Points) (team : Team) :
    (gamePrintPointsTeam facts team).getLast? =
        some (.overallTotal (gameCalcPoints facts team)) ↔
      ∀ phase, ¬ Overdrawn facts team phase := by
  rw [getLast_gamePrintPointsTeam, Option.some.injEq, PrintedLine.overallTotal.injEq,
    gameCalcPoints, (sum_printedPoints_iff PointsPhase.all).2]
  constructor
  · intro h phase
    apply h
    cases phase <;> simp [PointsPhase.all]
  · intro h phase _
    exact h phase

/-- One correct report and two wrong ones: -2 is printed, the result is 0. -/
theorem printed_total_of_wrong_reports :
    ¬ ∀ (facts : List Points) (team : Team), (gamePrintPointsTeam facts team).getLast? =
      some (.overallTotal (gameCalcPoints facts team)) := by
  intro h
  have hcyan := h [⟨4, .cyan, 10, .exploration, .correctReport .m1 "T1"⟩,
    ⟨-3, .cyan, 20, .exploration, .wrongReport .m2 "T2"⟩,
    ⟨-3, .cyan, 30, .exploration, .wrongReport .m3 "T5"⟩] .cyan
  revert hcyan
  decide

end FactoryHub.Llsf
