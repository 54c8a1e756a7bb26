import FactoryHub.Llsf.Facts
import FactoryHub.Lib.Run
import Mathlib.Algebra.Order.Ring.Rat
import Mathlib.Data.List.Nodup
import Mathlib.Tactic.Linarith

/-!
# Robots

The rules that assert, modify and retract robot facts: those of `robots.clp`, the beacons and the
change of teams of `net.clp`. Poses and attention messages are left out.

* `step_changes` — what a step can do to a robot.
* `overstayed_maintenance_final` — a robot that stays in maintenance for too long is out of the
  game.
-/

namespace FactoryHub.Llsf

open Clips Lib

/-- `PEER-LOST-TIMEOUT`. -/
def peerLostTimeout : ℚ := 5
/-- `PEER-REMOVE-TIMEOUT`. -/
def peerRemoveTimeout : ℚ := 1080
/-- `MAINTENANCE-ALLOWED-CYCLES`. -/
def maintenanceAllowedCycles : Int := 1
/-- `MAINTENANCE-ALLOWED-TIME`. -/
def maintenanceAllowedTime : ℚ := 120
/-- `MAINTENANCE-WARN-TIME`. -/
def maintenanceWarnTime : ℚ := 105
/-- `MAINTENANCE-GRACE-TIME`. -/
def maintenanceGraceTime : ℚ := 15

inductive RobotState where
  | active | maintenance | disqualified
  deriving DecidableEq, Repr

/-- `robot`. A `teamColor` of `none` is nil. -/
structure Robot where
  number : Int
  state : RobotState := .active
  team : String
  teamColor : Option Team
  name : String
  host : String
  port : Int
  lastSeen : Time
  warningSent : Bool := false
  maintenanceStartTime : ℚ := 0
  maintenanceCycles : Int := 0
  maintenanceWarningSent : Bool := false
  deriving DecidableEq, Repr

/-- Where a robot sends from, which no rule changes. -/
def Robot.address (r : Robot) : String × Int := (r.host, r.port)

/-- The facts the rules work on. The robots are in the order of their fact indices. -/
structure RobotMemory where
  contTime : ℚ := 0
  time : Option Time := none
  robots : List Robot := []
  deriving DecidableEq, Repr

/-- What happens next: something from outside, or the firing of a rule for a robot. -/
inductive RobotEvent where
  | contTime (contTime : ℚ)
  | time (now : Time)
  | retractTime
  /-- A BeaconSignal from the address of a known robot. -/
  | netRecvBeaconKnown (robot : Robot) (rcvdAt : Time) (teamColor : Option Team)
  /-- A BeaconSignal from an unknown address. -/
  | netRecvBeaconUnknown (host : String) (port : Int) (rcvdAt : Time) (team name : String)
      (number : Int) (teamColor : Option Team)
  /-- The teams are changed before the game. -/
  | setTeamName
  | setRobotMaintenance (number : Int) (teamColor : Team) (maintenance : Bool)
  | robotsSort (a b : Robot)
  | robotLost (robot : Robot)
  | robotRemove (robot : Robot)
  | robotMaintenanceWarning (robot : Robot)
  | robotDisqualifyMaintenanceTimeout (robot : Robot)
  | robotDisqualifyMaintenanceCycles (robot : Robot)
  deriving DecidableEq, Repr

namespace RobotMemory

variable (s : RobotMemory)

/-- `modify`, which asserts the changed fact as the last one. -/
def modifyRobot (old new : Robot) : RobotMemory :=
  { s with robots := s.robots.erase old ++ [new] }

/-! ## Rules -/

/-- Rule `robots-sort`. -/
def robotsSort (a b : Robot) : Option RobotMemory :=
  if a ∈ s.robots ∧ b ∈ s.robots ∧ a.number > b.number ∧ s.robots.idxOf a < s.robots.idxOf b then
    some (s.modifyRobot a a)
  else none

/-- Rule `robot-lost`. -/
def robotLost (robot : Robot) : Option RobotMemory :=
  match s.time with
  | some now =>
      if robot ∈ s.robots ∧ robot.warningSent = false ∧
          now.timeout robot.lastSeen peerLostTimeout then
        some (s.modifyRobot robot { robot with warningSent := true })
      else none
  | none => none

/-- Rule `robot-remove`. -/
def robotRemove (robot : Robot) : Option RobotMemory :=
  match s.time with
  | some now =>
      if robot ∈ s.robots ∧ now.timeout robot.lastSeen peerRemoveTimeout then
        some { s with robots := s.robots.erase robot }
      else none
  | none => none

/-- Rule `robot-maintenance-warning`. -/
def robotMaintenanceWarning (robot : Robot) : Option RobotMemory :=
  if robot ∈ s.robots ∧ robot.state = .maintenance ∧ robot.maintenanceWarningSent = false ∧
      s.contTime - robot.maintenanceStartTime > maintenanceWarnTime then
    some (s.modifyRobot robot { robot with maintenanceWarningSent := true })
  else none

/-- Rule `robot-disqualify-maintenance-timeout`. -/
def robotDisqualifyMaintenanceTimeout (robot : Robot) : Option RobotMemory :=
  if robot ∈ s.robots ∧ robot.state = .maintenance ∧
      s.contTime - robot.maintenanceStartTime > maintenanceAllowedTime + maintenanceGraceTime then
    some (s.modifyRobot robot { robot with state := .disqualified })
  else none

/-- Rule `robot-disqualify-maintenance-cycles`. -/
def robotDisqualifyMaintenanceCycles (robot : Robot) : Option RobotMemory :=
  if robot ∈ s.robots ∧ robot.state ≠ .disqualified ∧
      robot.maintenanceCycles > maintenanceAllowedCycles then
    some (s.modifyRobot robot { robot with state := .disqualified })
  else none

/-- The actions of `robot-recv-SetRobotMaintenance` on the robot that is found. -/
def setMaintenance (robot : Robot) (maintenance : Bool) : RobotMemory :=
  if maintenance then
    if robot.state = .active then
      s.modifyRobot robot
        { robot with
          state := .maintenance
          maintenanceStartTime := s.contTime
          maintenanceCycles := robot.maintenanceCycles + 1
          maintenanceWarningSent := false }
    else s
  else if s.contTime - robot.maintenanceStartTime ≤
      maintenanceAllowedTime + maintenanceGraceTime then
    -- back from maintenance, also when disqualified for too many cycles
    s.modifyRobot robot
      { robot with
        state := .active
        maintenanceCycles := min maintenanceAllowedCycles robot.maintenanceCycles }
  else s

/-- Rule `robot-recv-SetRobotMaintenance`. -/
def robotRecvSetRobotMaintenance (number : Int) (teamColor : Team) (maintenance : Bool) :
    RobotMemory :=
  match s.robots.find? (fun r => r.number = number ∧ r.teamColor = some teamColor) with
  | some robot => s.setMaintenance robot maintenance
  | none => s

/-- Rule `net-recv-beacon-known`. -/
def netRecvBeaconKnown (robot : Robot) (rcvdAt : Time) (teamColor : Option Team) :
    Option RobotMemory :=
  if robot ∈ s.robots then
    some (s.modifyRobot robot { robot with lastSeen := rcvdAt, warningSent := false, teamColor })
  else none

/-- Rule `net-recv-beacon-unknown`. -/
def netRecvBeaconUnknown (host : String) (port : Int) (rcvdAt : Time) (team name : String)
    (number : Int) (teamColor : Option Team) : Option RobotMemory :=
  if ∀ r ∈ s.robots, r.address ≠ (host, port) then
    some { s with
      robots := s.robots ++ [{ number, team, teamColor, name, host, port, lastSeen := rcvdAt }] }
  else none

/-- The facts after an event, if it can happen. -/
def step (s : RobotMemory) : RobotEvent → Option RobotMemory
  | .contTime contTime => some { s with contTime }
  | .time now => some { s with time := some now }
  | .retractTime => some { s with time := none }
  | .netRecvBeaconKnown robot rcvdAt teamColor => s.netRecvBeaconKnown robot rcvdAt teamColor
  | .netRecvBeaconUnknown host port rcvdAt team name number teamColor =>
      s.netRecvBeaconUnknown host port rcvdAt team name number teamColor
  | .setTeamName => some { s with robots := [] }
  | .setRobotMaintenance number teamColor maintenance =>
      some (s.robotRecvSetRobotMaintenance number teamColor maintenance)
  | .robotsSort a b => s.robotsSort a b
  | .robotLost robot => s.robotLost robot
  | .robotRemove robot => s.robotRemove robot
  | .robotMaintenanceWarning robot => s.robotMaintenanceWarning robot
  | .robotDisqualifyMaintenanceTimeout robot => s.robotDisqualifyMaintenanceTimeout robot
  | .robotDisqualifyMaintenanceCycles robot => s.robotDisqualifyMaintenanceCycles robot

end RobotMemory

/-- A run from before the first beacon. -/
abbrev RobotRun := Run (fun s e s' => RobotMemory.step s e = some s') {}

/-! ## What a step does to a robot -/

/-- What a rule makes of a robot at a cont-time. -/
inductive RobotChange (contTime : ℚ) (r r' : Robot) : Prop
  | kept : r'.state = r.state → r'.maintenanceStartTime = r.maintenanceStartTime →
      r'.maintenanceCycles = r.maintenanceCycles → RobotChange contTime r r'
  | disqualified : r'.state = .disqualified → r'.maintenanceStartTime = r.maintenanceStartTime →
      r'.maintenanceCycles = r.maintenanceCycles → RobotChange contTime r r'
  | enters : r.state = .active → r'.state = .maintenance → r'.maintenanceStartTime = contTime →
      r'.maintenanceCycles = r.maintenanceCycles + 1 → RobotChange contTime r r'
  | returns : contTime - r.maintenanceStartTime ≤ maintenanceAllowedTime + maintenanceGraceTime →
      r'.state = .active → r'.maintenanceStartTime = r.maintenanceStartTime →
      r'.maintenanceCycles = min maintenanceAllowedCycles r.maintenanceCycles →
      RobotChange contTime r r'

namespace RobotMemory

variable {s s' : RobotMemory} {e : RobotEvent} {old new r r' : Robot} {a : String × Int}

/-- A robot of `s'` is one of `s`, changed by a rule, or it has just sent its first beacon. -/
def Changes (s : RobotMemory) (r' : Robot) : Prop :=
  (∃ r ∈ s.robots, r.address = r'.address ∧ RobotChange s.contTime r r') ∨
    (∀ r ∈ s.robots, r.address ≠ r'.address) ∧ r'.state = .active ∧ r'.maintenanceCycles = 0

theorem changes_self (hr : r ∈ s.robots) : s.Changes r :=
  Or.inl ⟨r, hr, rfl, .kept rfl rfl rfl⟩

theorem changes_of_modify (hr' : r' ∈ (s.modifyRobot old new).robots) (hold : old ∈ s.robots)
    (haddress : old.address = new.address) (hchange : RobotChange s.contTime old new) :
    s.Changes r' := by
  rcases List.mem_append.mp hr' with hr' | hr'
  · exact changes_self (List.mem_of_mem_erase hr')
  · obtain rfl := List.mem_singleton.mp hr'
    exact Or.inl ⟨old, hold, haddress, hchange⟩

theorem changes_of_setMaintenance {maintenance : Bool} (hold : old ∈ s.robots)
    (hr' : r' ∈ (s.setMaintenance old maintenance).robots) : s.Changes r' := by
  unfold setMaintenance at hr'
  split at hr'
  · split at hr'
    · next hactive => exact changes_of_modify hr' hold rfl (.enters hactive rfl rfl rfl)
    · exact changes_self hr'
  · split at hr'
    · next htime => exact changes_of_modify hr' hold rfl (.returns htime rfl rfl rfl)
    · exact changes_self hr'

/-- **What a step does to a robot.** -/
theorem step_changes (h : s.step e = some s') (hr' : r' ∈ s'.robots) : s.Changes r' := by
  cases e
  case contTime | time | retractTime =>
    cases h
    exact changes_self hr'
  case netRecvBeaconKnown robot rcvdAt teamColor =>
    obtain ⟨hrobot, hs⟩ := Option.ite_none_right_eq_some.mp h
    cases hs
    exact changes_of_modify hr' hrobot rfl (.kept rfl rfl rfl)
  case netRecvBeaconUnknown host port rcvdAt team name number teamColor =>
    obtain ⟨hunknown, hs⟩ := Option.ite_none_right_eq_some.mp h
    cases hs
    rcases List.mem_append.mp hr' with hr' | hr'
    · exact changes_self hr'
    · obtain rfl := List.mem_singleton.mp hr'
      exact Or.inr ⟨hunknown, rfl, rfl⟩
  case setTeamName =>
    cases h
    cases hr'
  case setRobotMaintenance number teamColor maintenance =>
    cases h
    unfold robotRecvSetRobotMaintenance at hr'
    split at hr'
    · next robot hfind => exact changes_of_setMaintenance (List.mem_of_find?_eq_some hfind) hr'
    · exact changes_self hr'
  case robotsSort a b =>
    obtain ⟨⟨hrobot, -⟩, hs⟩ := Option.ite_none_right_eq_some.mp h
    cases hs
    exact changes_of_modify hr' hrobot rfl (.kept rfl rfl rfl)
  case robotLost robot =>
    simp only [step, robotLost] at h
    split at h
    · obtain ⟨⟨hrobot, -⟩, hs⟩ := Option.ite_none_right_eq_some.mp h
      cases hs
      exact changes_of_modify hr' hrobot rfl (.kept rfl rfl rfl)
    · cases h
  case robotRemove robot =>
    simp only [step, robotRemove] at h
    split at h
    · obtain ⟨-, hs⟩ := Option.ite_none_right_eq_some.mp h
      cases hs
      exact changes_self (List.mem_of_mem_erase hr')
    · cases h
  case robotMaintenanceWarning robot =>
    obtain ⟨⟨hrobot, -⟩, hs⟩ := Option.ite_none_right_eq_some.mp h
    cases hs
    exact changes_of_modify hr' hrobot rfl (.kept rfl rfl rfl)
  case robotDisqualifyMaintenanceTimeout robot | robotDisqualifyMaintenanceCycles robot =>
    obtain ⟨⟨hrobot, -⟩, hs⟩ := Option.ite_none_right_eq_some.mp h
    cases hs
    exact changes_of_modify hr' hrobot rfl (.disqualified rfl rfl rfl)

/-! ## Addresses -/

/-- No two robots send from one address. -/
def Distinct (s : RobotMemory) : Prop := (s.robots.map Robot.address).Nodup

theorem Distinct.eq (h : s.Distinct) (hr : r ∈ s.robots) (hr' : r' ∈ s.robots)
    (haddress : r.address = r'.address) : r = r' := List.inj_on_of_nodup_map h hr hr' haddress

theorem Distinct.erase (h : s.Distinct) (robot : Robot) :
    ({ s with robots := s.robots.erase robot } : RobotMemory).Distinct :=
  h.sublist (List.erase_sublist.map _)

theorem Distinct.modify (h : s.Distinct) (hold : old ∈ s.robots)
    (haddress : new.address = old.address) : (s.modifyRobot old new).Distinct := by
  have hsame : (new :: s.robots.erase old).map Robot.address =
      (old :: s.robots.erase old).map Robot.address := by simp [haddress]
  have hend := (List.perm_append_singleton new (s.robots.erase old)).map Robot.address
  rw [hsame] at hend
  have hperm := hend.trans ((List.perm_cons_erase hold).symm.map Robot.address)
  exact hperm.nodup_iff.mpr h

theorem Distinct.setMaintenance {maintenance : Bool} (h : s.Distinct) (hold : old ∈ s.robots) :
    (s.setMaintenance old maintenance).Distinct := by
  unfold RobotMemory.setMaintenance
  split
  · split
    · exact h.modify hold rfl
    · exact h
  · split
    · exact h.modify hold rfl
    · exact h

theorem Distinct.step (h : s.Distinct) (hs : s.step e = some s') : s'.Distinct := by
  cases e
  case contTime | time | retractTime =>
    cases hs
    exact h
  case netRecvBeaconUnknown host port rcvdAt team name number teamColor =>
    obtain ⟨hunknown, hs⟩ := Option.ite_none_right_eq_some.mp hs
    cases hs
    unfold Distinct
    rw [List.map_append, List.nodup_append]
    refine ⟨h, List.nodup_singleton _, ?_⟩
    intro a ha b hb
    obtain ⟨r, hr, rfl⟩ := List.mem_map.mp ha
    obtain rfl := List.mem_singleton.mp hb
    exact hunknown r hr
  case setTeamName =>
    cases hs
    exact List.nodup_nil
  case setRobotMaintenance number teamColor maintenance =>
    cases hs
    unfold robotRecvSetRobotMaintenance
    split
    · next robot hfind => exact h.setMaintenance (List.mem_of_find?_eq_some hfind)
    · exact h
  case robotLost robot =>
    simp only [RobotMemory.step, robotLost] at hs
    split at hs
    · obtain ⟨⟨hrobot, -⟩, hs⟩ := Option.ite_none_right_eq_some.mp hs
      cases hs
      exact h.modify hrobot rfl
    · cases hs
  case robotRemove robot =>
    simp only [RobotMemory.step, robotRemove] at hs
    split at hs
    · obtain ⟨-, hs⟩ := Option.ite_none_right_eq_some.mp hs
      cases hs
      exact h.erase robot
    · cases hs
  case netRecvBeaconKnown robot rcvdAt teamColor =>
    obtain ⟨hrobot, hs⟩ := Option.ite_none_right_eq_some.mp hs
    cases hs
    exact h.modify hrobot rfl
  -- the other rules modify the robot they match
  all_goals
    obtain ⟨⟨hrobot, -⟩, hs⟩ := Option.ite_none_right_eq_some.mp hs
    cases hs
    exact h.modify hrobot rfl

theorem distinct_of_run {tr : List (Step RobotMemory RobotEvent)} (h : RobotRun tr s) :
    s.Distinct := by
  apply Run.invariant _ _ h
  · exact List.nodup_nil
  · intro s e s' hs hstep
    exact hs.step hstep

/-! ## Maintenance cycles -/

/-- An active robot has used no more cycles than allowed, any other one at most one more. -/
def CyclesBounded (s : RobotMemory) : Prop :=
  ∀ r ∈ s.robots, r.maintenanceCycles ≤ maintenanceAllowedCycles + 1 ∧
    (r.state = .active → r.maintenanceCycles ≤ maintenanceAllowedCycles)

theorem CyclesBounded.step (h : s.CyclesBounded) (hs : s.step e = some s') :
    s'.CyclesBounded := by
  intro r' hr'
  rcases step_changes hs hr' with ⟨r, hr, -, hchange⟩ | ⟨-, -, hcycles⟩
  · obtain ⟨hle, hactive⟩ := h r hr
    cases hchange with
    | kept hstate _ hcycles =>
        rw [hstate, hcycles]
        exact ⟨hle, hactive⟩
    | disqualified hstate _ hcycles =>
        rw [hstate, hcycles]
        refine ⟨hle, fun hne => ?_⟩
        cases hne
    | enters hstate hstate' _ hcycles =>
        rw [hstate', hcycles]
        have hcycle := hactive hstate
        refine ⟨by omega, fun hne => ?_⟩
        cases hne
    | returns _ _ _ hcycles =>
        have hmin := Int.min_le_left maintenanceAllowedCycles r.maintenanceCycles
        rw [hcycles]
        exact ⟨by omega, fun _ => hmin⟩
  · rw [hcycles]
    exact ⟨by decide, fun _ => by decide⟩

theorem cyclesBounded_of_run {tr : List (Step RobotMemory RobotEvent)} (h : RobotRun tr s) :
    s.CyclesBounded := by
  apply Run.invariant _ _ h
  · intro r hr
    cases hr
  · intro s e s' hs hstep
    exact hs.step hstep

/-! ## Overstaying maintenance -/

/-- There is a robot at the address. -/
def Knows (s : RobotMemory) (a : String × Int) : Prop := ∃ r ∈ s.robots, r.address = a

/-- The robot at the address is in this state. -/
def StateAt (s : RobotMemory) (a : String × Int) (state : RobotState) : Prop :=
  ∃ r ∈ s.robots, r.address = a ∧ r.state = state

/-- The robot at the address is in maintenance since `start`, or disqualified since then. -/
def Out (s : RobotMemory) (a : String × Int) (start : ℚ) : Prop :=
  ∀ r ∈ s.robots, r.address = a → r.maintenanceStartTime = start ∧ r.state ≠ .active

/-- The step in which the robot enters maintenance. -/
theorem out_of_enters (hdistinct : s'.Distinct) (h : s.step e = some s') (hknows : s.Knows a)
    (hbefore : ¬ s.StateAt a .maintenance) (hafter : s'.StateAt a .maintenance) :
    s'.Out a s.contTime := by
  obtain ⟨r', hr', rfl, hstate'⟩ := hafter
  intro r'' hr'' haddress
  obtain rfl := hdistinct.eq hr'' hr' haddress
  rcases step_changes h hr' with ⟨r, hr, haddress, hchange⟩ | ⟨hnone, -⟩
  · have hstate : r.state ≠ .maintenance := fun hstate => hbefore ⟨r, hr, haddress, hstate⟩
    cases hchange with
    | kept hsame => exact absurd (hsame.symm.trans hstate') hstate
    | disqualified hsame => cases hstate'.symm.trans hsame
    | enters _ _ hstart => exact ⟨hstart, by simp [hstate']⟩
    | returns _ hsame => cases hstate'.symm.trans hsame
  · obtain ⟨r, hr, haddress⟩ := hknows
    exact absurd haddress (hnone r hr)

/-- A robot that is out stays out, unless it is set ACTIVE in time. -/
theorem Out.step {start : ℚ} (h : s.Out a start) (hs : s.step e = some s') (hknows : s.Knows a)
    (hlate : s.contTime ≤ start + (maintenanceAllowedTime + maintenanceGraceTime) →
      ¬ s'.StateAt a .active) : s'.Out a start := by
  intro r' hr' haddress'
  rcases step_changes hs hr' with ⟨r, hr, haddress, hchange⟩ | ⟨hnone, -⟩
  · obtain ⟨hstart, hout⟩ := h r hr (haddress.trans haddress')
    cases hchange with
    | kept hstate hstart' =>
        rw [hstate, hstart']
        exact ⟨hstart, hout⟩
    | disqualified hstate hstart' =>
        rw [hstate, hstart']
        exact ⟨hstart, by simp⟩
    | enters hstate => exact absurd hstate hout
    | returns htime hstate =>
        exfalso
        apply hlate
        · rw [hstart] at htime
          linarith
        · exact ⟨r', hr', haddress', hstate⟩
  · obtain ⟨r, hr, haddress⟩ := hknows
    exact absurd (haddress.trans haddress'.symm) (hnone r hr)

theorem out_of_run {later earlier : List (Step RobotMemory RobotEvent)}
    {t : Step RobotMemory RobotEvent} (hrun : RobotRun (later ++ t :: earlier) s)
    (hknows : t.pre.Knows a) (hbefore : ¬ t.pre.StateAt a .maintenance)
    (hafter : t.post.StateAt a .maintenance) (hexists : ∀ u ∈ later, u.post.Knows a)
    (hlate : ∀ u ∈ later, u.pre.contTime ≤
      t.pre.contTime + (maintenanceAllowedTime + maintenanceGraceTime) →
        ¬ u.post.StateAt a .active) :
    s.Knows a ∧ s.Out a t.pre.contTime ∧ ∀ u ∈ later, ¬ u.post.StateAt a .active := by
  induction later generalizing s with
  | nil =>
      cases hrun with
      | step hrun hs =>
          refine ⟨?_, out_of_enters ((distinct_of_run hrun).step hs) hs hknows hbefore hafter, ?_⟩
          · obtain ⟨r, hr, haddress, -⟩ := hafter
            exact ⟨r, hr, haddress⟩
          · simp
  | cons u later ih =>
      cases hrun with
      | step hrun hs =>
          obtain ⟨hknown, hout, hall⟩ := ih hrun
            (fun u hu => hexists u (List.mem_cons_of_mem _ hu))
            (fun u hu => hlate u (List.mem_cons_of_mem _ hu))
          have hout' := hout.step hs hknown (hlate _ (List.mem_cons_self ..))
          refine ⟨hexists _ (List.mem_cons_self ..), hout', List.forall_mem_cons.mpr ⟨?_, hall⟩⟩
          rintro ⟨r, hr, haddress, hactive⟩
          exact (hout' r hr haddress).2 hactive

/-- **Overstaying maintenance is final**: a robot that enters maintenance at step `t`, is there from
then on and is not set ACTIVE before the grace time is over is not ACTIVE again; and it has used at
most one maintenance cycle more than allowed. -/
theorem overstayed_maintenance_final {later earlier : List (Step RobotMemory RobotEvent)}
    {t : Step RobotMemory RobotEvent} (hrun : RobotRun (later ++ t :: earlier) s)
    (hknows : t.pre.Knows a) (hbefore : ¬ t.pre.StateAt a .maintenance)
    (hafter : t.post.StateAt a .maintenance) (hexists : ∀ u ∈ later, u.post.Knows a)
    (hlate : ∀ u ∈ later, u.pre.contTime ≤
      t.pre.contTime + (maintenanceAllowedTime + maintenanceGraceTime) →
        ¬ u.post.StateAt a .active) :
    (∀ u ∈ later, ¬ u.post.StateAt a .active) ∧
      ∀ u ∈ later ++ t :: earlier, ∀ r ∈ u.post.robots,
        r.maintenanceCycles ≤ maintenanceAllowedCycles + 1 := by
  refine ⟨(out_of_run hrun hknows hbefore hafter hexists hlate).2.2, ?_⟩
  intro u hu r hr
  obtain ⟨hstep, tr', hrun', -⟩ := Run.mem_run hrun hu
  exact ((cyclesBounded_of_run hrun').step hstep r hr).1

/-- Robot 1 of CYAN on the field. -/
def oneRobot (contTime : ℚ) (state : RobotState) (cycles : Int) : RobotMemory where
  contTime := contTime
  robots :=
    [{ number := 1, state, team := "A", teamColor := some .cyan, name := "R1", host := "10.0.0.1"
       port := 4444, lastSeen := ⟨0, 0⟩, maintenanceCycles := cycles }]

/-- It is called back one second late. -/
theorem overstayed_maintenance_final_of_late_return :
    ¬ (oneRobot 136 .maintenance 1).StateAt ("10.0.0.1", 4444) .active := by
  have hrun : RobotRun
      ([⟨oneRobot 136 .maintenance 1, .setRobotMaintenance 1 .cyan false,
          oneRobot 136 .maintenance 1⟩,
        ⟨oneRobot 0 .maintenance 1, .contTime 136, oneRobot 136 .maintenance 1⟩] ++
        ⟨oneRobot 0 .active 0, .setRobotMaintenance 1 .cyan true, oneRobot 0 .maintenance 1⟩ ::
        [⟨{}, .netRecvBeaconUnknown "10.0.0.1" 4444 ⟨0, 0⟩ "A" "R1" 1 (some .cyan),
          oneRobot 0 .active 0⟩]) (oneRobot 136 .maintenance 1) := by
    refine (((Run.init.step ?_).step ?_).step ?_).step ?_
    all_goals decide +kernel
  apply (overstayed_maintenance_final (a := ("10.0.0.1", 4444)) hrun ?_ ?_ ?_ ?_ ?_).1 _
    (List.mem_cons_self ..)
  all_goals
    simp [Knows, StateAt, oneRobot, Robot.address]

end RobotMemory

end FactoryHub.Llsf
