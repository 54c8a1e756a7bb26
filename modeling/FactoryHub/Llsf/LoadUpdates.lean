import FactoryHub.Llsf.GameScore
import FactoryHub.Llsf.MachineSteps

/-!
# The operator's load updates

* `step_roomy` — as long as no load update completes a production, every production machine holds
  each puck once and has room for another input.
* `capacity_iff` — a load update that does leaves a machine fact that is full.
* `completion_team` — and its points go to CYAN.
-/

namespace FactoryHub.Llsf

open Lib

namespace Machine

/-- No puck is held twice, and there is room for one more input. -/
structure Roomy (mf : Machine) : Prop where
  nodup : (mf.loadedWith ++ mf.reading).Nodup
  room : mf.loadedWith.length < mf.mtype.inputs.length

variable {mf mf' : Machine}

theorem inputs_ne_nil {mtype : MType} (h : Memory.IsProduction mtype) : 0 < mtype.inputs.length := by
  cases mtype
  case deliver => exact absurd rfl h.1
  case recycle => exact absurd rfl h.2
  all_goals decide

/-- A machine that holds less. -/
theorem Roomy.of_sublist (h : mf.Roomy) (hmtype : mf'.mtype = mf.mtype)
    (hloaded : mf'.loadedWith.Sublist mf.loadedWith) (hreading : mf'.reading.Sublist mf.reading) :
    mf'.Roomy := by
  refine ⟨h.nodup.sublist (hloaded.append hreading), ?_⟩
  rw [hmtype]
  exact hloaded.length_le.trans_lt h.room

/-- A machine that is not processing is judged by its load. -/
theorem Roomy.of_reading (hreading : mf.reading = []) (hnodup : mf.loadedWith.Nodup)
    (hroom : mf.loadedWith.length < mf.mtype.inputs.length) : mf.Roomy := by
  refine ⟨?_, hroom⟩
  rw [hreading, List.append_nil]
  exact hnodup

theorem reading_down {gtime : ℚ} (h : mf.IsDue gtime) : mf.down.reading = mf.reading := by
  simp [reading, down, h.1]

theorem reading_up {gtime : ℚ} (h : mf.IsBack gtime) : mf.up.reading = mf.reading := by
  simp [reading, up, h.1, h.2.1]

/-- A machine to which `machine-init-randomize` has given its type. -/
theorem roomy_of_unloaded (hprod : Memory.IsProduction mf.mtype) (hloaded : mf.loadedWith = [])
    (hstate : mf.state = .idle) : mf.Roomy := by
  apply Roomy.of_reading
  · exact reading_of_resting (Or.inl hstate)
  · rw [hloaded]
    exact List.nodup_nil
  · rw [hloaded]
    exact inputs_ne_nil hprod

end Machine

namespace Memory

variable {s s' : Memory} {n : MachineName} {a : Activation} {mf : Machine}

theorem Becomes.mtype_eq (h : s.Becomes n a mf) : mf.mtype = (s.machines n).mtype := by
  cases h
  case junk m id => exact (Sound.reject_machines s m n id).1
  all_goals rfl

/-- The rules of the production phase keep the room of every machine. -/
theorem Becomes.roomy (h : s.Becomes n a mf) (hprod : IsProduction (s.machines n).mtype)
    (hroomy : (s.machines n).Roomy) : mf.Roomy := by
  cases h with
  | same => exact hroomy
  | machineDown hdue =>
      refine hroomy.of_sublist rfl (List.Sublist.refl _) ?_
      rw [Machine.reading_down hdue]
  | machineUp hback =>
      refine hroomy.of_sublist rfl (List.Sublist.refl _) ?_
      rw [Machine.reading_up hback]
  | deliveryGateDownPeriod dp period hmtype => exact absurd hmtype hprod.1
  | deliverProcStart downPeriod hmtype => exact absurd hmtype hprod.1
  | deliverProcDone hmtype => exact absurd hmtype hprod.1
  | recycleProcStart hmtype => exact absurd hmtype hprod.2
  | recycleProcDone hmtype => exact absurd hmtype hprod.2
  | @machineProcStart id puck procTime hpuck hfree =>
      -- the machine takes no puck it is loaded with, that puck being in its own state
      have hnew : id ∉ (s.machines n).loadedWith := by
        intro hid
        refine hfree ⟨id, hid, ?_⟩
        rw [hpuck]
        rfl
      have hload := hroomy.nodup.sublist (List.sublist_append_left _ _)
      refine ⟨?_, hroomy.room⟩
      show ((s.machines n).loadedWith ++ [id]).Nodup
      rw [← List.concat_eq_append]
      exact List.Nodup.concat hnew hload
  | reject a id => exact hroomy.of_sublist rfl (List.Sublist.refl _) (List.nil_sublist _)
  | junk m id =>
      obtain ⟨hmtype, hloaded, hreading⟩ := Sound.reject_machines s m n id
      refine hroomy.of_sublist hmtype ?_ ?_
      · rw [← hloaded]
        exact List.filter_sublist
      · show ((s.reject m id).machines n).reading.Sublist _
        rw [hreading]
        split
        · exact List.nil_sublist _
        · exact List.Sublist.refl _
  | machineProcWaiting hproc hspec hroom =>
      -- the puck that was processed is held before and after
      rw [(inputs_of_machineSpec hspec).1] at hroom
      apply Machine.Roomy.of_reading
      · exact Machine.reading_of_resting (Or.inr rfl)
      · rw [← Machine.reading_of_processing hproc]
        exact hroomy.nodup
      · rw [List.length_append]
        exact hroom
  | machineProcDone => exact Machine.roomy_of_unloaded hprod rfl rfl
  | puckRemoval state hstate =>
      refine hroomy.of_sublist rfl (List.Sublist.refl _) ?_
      rw [Machine.reading_of_resting hstate]
      exact List.nil_sublist _
  | puckRemovalDown state hstate hdown =>
      refine hroomy.of_sublist rfl (List.Sublist.refl _) ?_
      rw [Machine.reading, if_neg]
      · exact List.nil_sublist _
      · rcases hstate with rfl | rfl <;> simp [hdown]
  | removal => exact hroomy.of_sublist rfl (List.Sublist.refl _) (List.nil_sublist _)

end Memory

namespace Game

variable {g g' : Game} {e : Event}

/-! ## The events of a production phase -/

/-- All events but the drawing of the machines and the challenge that puts machines DOWN. -/
def InProduction : Event → Bool
  | .gameParameterize .. | .techalWamDeactivate _ => false
  | _ => true

/-- The load update that fires completes a production. -/
def CompletesLoad (g : Game) : Event → Prop
  | .machineUpdateLoadedWith m newLw => newLw.length = (g.machines m).mtype.inputs.length
  | _ => False

instance (g : Game) (e : Event) : Decidable (g.CompletesLoad e) := by
  apply Event.casesOn (motive := fun e => Decidable (g.CompletesLoad e)) e <;>
    (intros; dsimp only [CompletesLoad]; infer_instance)

/-- The machine facts of a name. -/
def IsMachine (g : Game) (m : MachineName) (mf : Machine) : Prop :=
  mf = g.machines m ∨ (m, mf) ∈ g.otherMachines

/-- The machines that make something are loaded with each puck once, and with fewer than they
take. -/
def WithinCapacity (g : Game) : Prop :=
  ∀ m mf spec, g.IsMachine m mf → machineSpec g.procTime mf.mtype = some spec →
    mf.loadedWith.Nodup ∧ mf.loadedWith.length < spec.inputs.length

/-- No machine is loaded or at work, and no update waits. -/
structure Unloaded (g : Game) : Prop where
  fresh : g.Fresh
  otherMachines : g.otherMachines = []
  machineUpdates : g.machineUpdates = []

/-- The invariant: one roomy fact for each machine, and updates that fit in. -/
structure Roomy (g : Game) : Prop where
  machines : ∀ m, Memory.IsProduction (g.machines m).mtype → (g.machines m).Roomy
  otherMachines : g.otherMachines = []
  updates : ∀ m newLw, (m, newLw) ∈ g.machineUpdates →
    Memory.IsProduction (g.machines m).mtype →
      newLw.Nodup ∧ newLw.length ≤ (g.machines m).mtype.inputs.length

theorem Unloaded.roomy (h : g.Unloaded) : g.Roomy := by
  refine ⟨?_, h.otherMachines, ?_⟩
  · intro m hprod
    exact Machine.roomy_of_unloaded hprod (h.fresh m).1 (h.fresh m).2
  · intro m newLw hupdate
    rw [h.machineUpdates] at hupdate
    cases hupdate

theorem Roomy.withinCapacity (h : g.Roomy) : g.WithinCapacity := by
  intro m mf spec hmf hspec
  rcases hmf with rfl | hmf
  · obtain ⟨hinputs, hprod⟩ := inputs_of_machineSpec hspec
    have hroomy := h.machines m hprod
    rw [hinputs]
    exact ⟨hroomy.nodup.sublist (List.sublist_append_left _ _), hroomy.room⟩
  · rw [h.otherMachines] at hmf
    cases hmf

/-! ## One event -/

/-- An event that touches neither machines nor updates. -/
structure LoadKept (g g' : Game) : Prop where
  machines : g'.machines = g.machines
  otherMachines : g'.otherMachines = g.otherMachines
  machineUpdates : g'.machineUpdates = g.machineUpdates

theorem Roomy.of_loadKept (h : g.Roomy) (hkept : g.LoadKept g') : g'.Roomy := by
  refine ⟨?_, hkept.otherMachines.trans h.otherMachines, ?_⟩
  · rw [hkept.machines]
    exact h.machines
  · rw [hkept.machines, hkept.machineUpdates]
    exact h.updates

theorem loadKept_handleReport (team : Team) (g : Game) (report : MachineName × String) :
    g.LoadKept (handleReport team g report) := by
  unfold handleReport
  dsimp only
  split <;> exact ⟨rfl, rfl, rfl⟩

theorem loadKept_foldl_handleReport (team : Team) (machines : List (MachineName × String))
    (g : Game) : g.LoadKept (machines.foldl (handleReport team) g) := by
  induction machines generalizing g with
  | nil => exact ⟨rfl, rfl, rfl⟩
  | cons report machines ih =>
      have hhead := loadKept_handleReport team g report
      have htail := ih (handleReport team g report)
      exact ⟨htail.machines.trans hhead.machines, htail.otherMachines.trans hhead.otherMachines,
        htail.machineUpdates.trans hhead.machineUpdates⟩

/-- Fewer updates, and the machines as they are. -/
theorem Roomy.of_updates (h : g.Roomy) (hmachines : g'.machines = g.machines)
    (hothers : g'.otherMachines = g.otherMachines)
    (hupdates : ∀ m newLw, (m, newLw) ∈ g'.machineUpdates → (m, newLw) ∈ g.machineUpdates ∨
      (Memory.IsProduction (g.machines m).mtype →
        newLw.Nodup ∧ newLw.length ≤ (g.machines m).mtype.inputs.length)) : g'.Roomy := by
  refine ⟨?_, hothers.trans h.otherMachines, ?_⟩
  · rw [hmachines]
    exact h.machines
  · intro m newLw hupdate
    rw [hmachines]
    rcases hupdates m newLw hupdate with hold | hnew
    · exact h.updates m newLw hold
    · exact hnew

/-- One machine changes but not its type, and no update comes. -/
theorem Roomy.of_setMachine (h : g.Roomy) {m : MachineName} (mf : Machine)
    (hmtype : mf.mtype = (g.machines m).mtype)
    (hroomy : Memory.IsProduction (g.machines m).mtype → mf.Roomy)
    (hmachines : g'.machines = (g.setMachine m mf).machines)
    (hothers : g'.otherMachines = g.otherMachines)
    (hupdates : ∀ m newLw, (m, newLw) ∈ g'.machineUpdates → (m, newLw) ∈ g.machineUpdates) :
    g'.Roomy := by
  have hmtypes : ∀ n, (g'.machines n).mtype = (g.machines n).mtype := by
    intro n
    rw [hmachines, Memory.setMachine_machines]
    split
    · next heq => rw [heq, hmtype]
    · rfl
  refine ⟨?_, hothers.trans h.otherMachines, ?_⟩
  · intro n hprod
    rw [hmtypes n] at hprod
    rw [hmachines, Memory.setMachine_machines]
    split
    · next heq => exact hroomy (heq ▸ hprod)
    · exact h.machines n hprod
  · intro n newLw hupdate hprod
    rw [hmtypes n] at hprod ⊢
    exact h.updates n newLw (hupdates n newLw hupdate) hprod

theorem Roomy.loadPuckInMachine (h : g.Roomy) {m : MachineName} {id : Int}
    (hs : g.loadPuckInMachine m id = some g') : g'.Roomy := by
  obtain ⟨-, hs⟩ := Option.ite_none_right_eq_some.mp hs
  split at hs <;> cases hs
  · next hnew =>
      refine h.of_updates rfl rfl ?_
      intro n newLw hupdate
      rcases mem_assertFact.mp hupdate with heq | hold
      · cases heq
        refine Or.inr fun hprod => ?_
        have hroomy := h.machines m hprod
        have hload := hroomy.nodup.sublist (List.sublist_append_left _ _)
        constructor
        · rw [← List.concat_eq_append]
          exact List.Nodup.concat hnew hload
        · rw [List.length_append]
          exact hroomy.room
      · exact Or.inl hold
  · exact h

theorem Roomy.removePuckFromMachine (h : g.Roomy) {m : MachineName} {id : Int}
    (hs : g.removePuckFromMachine m id = some g') : g'.Roomy := by
  obtain ⟨-, hs⟩ := Option.ite_none_right_eq_some.mp hs
  split at hs
  · cases hs
    exact h.of_loadKept ⟨rfl, rfl, rfl⟩
  split at hs <;> cases hs
  · refine h.of_updates rfl rfl ?_
    intro n newLw hupdate
    rcases mem_assertFact.mp hupdate with heq | hold
    · cases heq
      refine Or.inr fun hprod => ?_
      have hroomy := h.machines m hprod
      have hless : ((g.machines m).loadedWith.filter (· ≠ id)).Sublist (g.machines m).loadedWith :=
        List.filter_sublist
      refine ⟨?_, hless.length_le.trans hroomy.room.le⟩
      exact hroomy.nodup.sublist (hless.trans (List.sublist_append_left _ _))
    · exact Or.inl hold
  · exact h

/-- The machine of an update that does not complete a production. -/
theorem Roomy.machineUpdateLoadedWith (h : g.Roomy) {m : MachineName} {newLw : List Int}
    (hnot : newLw.length ≠ (g.machines m).mtype.inputs.length)
    (hs : g.machineUpdateLoadedWith m newLw = some g') : g'.Roomy := by
  unfold Game.machineUpdateLoadedWith at hs
  split at hs
  · next spec hspec =>
      obtain ⟨⟨-, hupdate, -⟩, hs⟩ := Option.ite_none_right_eq_some.mp hs
      cases hs
      obtain ⟨hinputs, hprod⟩ := inputs_of_machineSpec hspec
      obtain ⟨hnodup, hlength⟩ := h.updates m newLw hupdate hprod
      have hroom := lt_of_le_of_ne hlength hnot
      obtain ⟨mf, hupdated, hmtype, hroomy⟩ : ∃ mf : Machine,
          g.updateLoadedWith m newLw spec = { g with toMemory := g.setMachine m mf } ∧
            mf.mtype = (g.machines m).mtype ∧ mf.Roomy := by
        unfold updateLoadedWith
        dsimp only
        rw [if_neg (hinputs ▸ hnot)]
        split
        · refine ⟨_, rfl, rfl, ?_⟩
          exact Machine.roomy_of_unloaded hprod rfl rfl
        · refine ⟨_, rfl, rfl, ?_⟩
          exact Machine.Roomy.of_reading (Machine.reading_of_resting (Or.inr rfl)) hnodup hroom
      rw [hupdated]
      refine h.of_setMachine mf hmtype (fun _ => hroomy) rfl rfl ?_
      exact fun _ _ hlw => List.mem_of_mem_filter hlw
  · cases hs

theorem Roomy.machineUpdateIgnored (h : g.Roomy) {m : MachineName} {newLw : List Int}
    (hs : g.machineUpdateIgnored m newLw = some g') : g'.Roomy := by
  unfold Game.machineUpdateIgnored at hs
  dsimp only at hs
  split at hs
  · obtain ⟨-, hs⟩ := Option.ite_none_right_eq_some.mp hs
    cases hs
    exact h.of_updates rfl rfl (fun n lw hlw => Or.inl (List.mem_of_mem_filter hlw))
  · cases hs

theorem Roomy.production (h : g.Roomy) {a : Activation}
    (hs : g.step (.production a) = some g') : g'.Roomy := by
  obtain ⟨-, hs⟩ := Option.ite_none_left_eq_some.mp hs
  obtain ⟨memory, hstep, rfl⟩ := Option.map_eq_some_iff.mp hs
  have hbecomes := Memory.step_becomes hstep
  refine ⟨?_, ?_, ?_⟩
  · intro m hprod
    rw [(hbecomes m).mtype_eq] at hprod
    exact (hbecomes m).roomy hprod (h.machines m hprod)
  · show g.othersAfter a = []
    unfold othersAfter
    split
    · rw [h.otherMachines]
      rfl
    · exact h.otherMachines
  · intro m newLw hupdate hprod
    rw [(hbecomes m).mtype_eq] at hprod ⊢
    exact h.updates m newLw hupdate hprod

/-- The first whack-a-mole machine that is IDLE again keeps its load. -/
theorem Roomy.techalWamActivate (h : g.Roomy) {m : MachineName}
    (hs : g.techalWamActivate m = some g') : g'.Roomy := by
  obtain ⟨-, hs⟩ := Option.ite_none_right_eq_some.mp hs
  cases hs
  refine h.of_setMachine { g.machines m with state := .idle } rfl ?_ rfl rfl fun _ _ hold => hold
  intro hprod
  exact (h.machines m hprod).of_sublist rfl (List.Sublist.refl _) (List.nil_sublist _)

theorem unloaded_startup : startup.Unloaded := ⟨fun _ => ⟨rfl, rfl⟩, rfl, rfl⟩

/-- **One event** keeps the room of every machine, unless it is an update that completes a
production. -/
theorem step_roomy (h : g.Roomy) (he : InProduction e = true) (hnot : ¬ g.CompletesLoad e)
    (hs : g.step e = some g') : g'.Roomy := by
  cases e
  case gameParameterize => cases he
  case techalWamDeactivate => cases he
  case loadPuckInMachine m id => exact h.loadPuckInMachine hs
  case removePuckFromMachine m id => exact h.removePuckFromMachine hs
  case machineUpdateLoadedWith m newLw => exact h.machineUpdateLoadedWith hnot hs
  case machineUpdateIgnored m newLw => exact h.machineUpdateIgnored hs
  case production a => exact h.production hs
  case techalWamActivate m => exact h.techalWamActivate hs
  case explorationHandleReport team machines =>
    obtain ⟨-, hs⟩ := Option.ite_none_right_eq_some.mp hs
    cases hs
    exact h.of_loadKept (loadKept_foldl_handleReport team machines g)
  case turnTo m mf =>
    -- there is no other fact to turn to
    obtain ⟨hmem, -⟩ := Option.ite_none_right_eq_some.mp hs
    rw [h.otherMachines] at hmem
    cases hmem
  case resetGame =>
    obtain ⟨-, hs⟩ := Option.ite_none_right_eq_some.mp hs
    cases hs
    exact unloaded_startup.roomy
  -- the other events touch neither machines nor updates
  all_goals
    simp only [step, simInit, simTimeSync, gameUpdateGametimePoints, gameUpdateLastTime,
      gameSwitchToPreGame, gameStartTraining, gameStart, gameSwitchToExploration,
      gameSwitchToProduction, switchPhase, gameOver, gameEnterOvertime, gameOverAfterOvertime,
      gameGotoPostGame, explorationStart, explorationPause, explorationContinue, explorationSeen,
      productionStart, techalWamNext, techalWamContinue, techalWamReached, techalWamGameOver,
      techalNavigationGameOver, challengeOver, initGame] at hs
    repeat' split at hs
    all_goals
      cases hs
    all_goals
      exact h.of_loadKept ⟨rfl, rfl, rfl⟩

/-- An update that completes a production leaves a machine fact with all its inputs. -/
theorem not_withinCapacity_of_completesLoad (hcompletes : g.CompletesLoad e)
    (hs : g.step e = some g') : ¬ g'.WithinCapacity := by
  cases e
  case machineUpdateLoadedWith m newLw =>
    simp only [step, machineUpdateLoadedWith] at hs
    split at hs
    · next spec hspec =>
        obtain ⟨-, hs⟩ := Option.ite_none_right_eq_some.mp hs
        cases hs
        have hfull : newLw.length = spec.inputs.length := by
          rw [(inputs_of_machineSpec hspec).1]
          exact hcompletes
        unfold updateLoadedWith
        dsimp only
        rw [if_pos hfull]
        intro hwithin
        have hlt := hwithin m { g.machines m with state := .waiting, loadedWith := newLw } spec
          (Or.inr (mem_assertFact.mpr (Or.inl rfl))) hspec
        exact absurd hfull hlt.2.ne
    · cases hs
  all_goals cases hcompletes

/-! ## Along a run -/

/-- The machines stay within their capacity exactly in the runs in which no load update completes a
production. -/
theorem capacity_iff {g₀ g : Game} {tr : List (Step Game Event)} (hinit : g₀.Unloaded)
    (hrun : GameRun g₀ tr g) (hevents : ∀ t ∈ tr, InProduction t.label = true) :
    (g₀.WithinCapacity ∧ ∀ t ∈ tr, t.post.WithinCapacity) ↔
      ∀ t ∈ tr, ¬ t.pre.CompletesLoad t.label := by
  constructor
  · rintro ⟨-, hwithin⟩ t ht hcompletes
    obtain ⟨hs, -⟩ := hrun.mem_run ht
    exact not_withinCapacity_of_completesLoad hcompletes hs (hwithin t ht)
  · intro hnot
    refine ⟨hinit.roomy.withinCapacity, ?_⟩
    exact hrun.forall_steps (C := fun g e => InProduction e = true ∧ ¬ g.CompletesLoad e)
      hinit.roomy (fun _ _ _ h hC hs => step_roomy h hC.1 hC.2 hs)
      (fun _ _ _ h hC hs => (step_roomy h hC.1 hC.2 hs).withinCapacity)
      (fun t ht => ⟨hevents t ht, hnot t ht⟩)

theorem step_machineUpdateIgnored {m : MachineName} {newLw : List Int}
    (hs : g.step (.machineUpdateIgnored m newLw) = some g') :
    g'.machines = g.machines ∧ g'.otherMachines = g.otherMachines ∧ g'.pucks = g.pucks ∧
      g'.points = g.points := by
  simp only [step, machineUpdateIgnored] at hs
  split at hs
  · obtain ⟨-, hs⟩ := Option.ite_none_right_eq_some.mp hs
    cases hs
    exact ⟨rfl, rfl, rfl, rfl⟩
  · cases hs

/-- **Rejected updates change nothing**, and the loads respect the capacities exactly in the runs in
which no load update completes a production. -/
theorem loads_within_capacity (g₀ g : Game) (tr : List (Step Game Event)) (hinit : g₀.Unloaded)
    (hrun : GameRun g₀ tr g) (hevents : ∀ t ∈ tr, InProduction t.label = true) :
    (∀ t ∈ tr, ∀ m newLw, t.label = .machineUpdateIgnored m newLw →
      t.post.machines = t.pre.machines ∧ t.post.otherMachines = t.pre.otherMachines ∧
        t.post.pucks = t.pre.pucks ∧ t.post.points = t.pre.points) ∧
      ((g₀.WithinCapacity ∧ ∀ t ∈ tr, t.post.WithinCapacity) ↔
        ∀ t ∈ tr, ¬ t.pre.CompletesLoad t.label) := by
  constructor
  · intro t ht m newLw hlabel
    obtain ⟨hs, -⟩ := hrun.mem_run ht
    rw [hlabel] at hs
    exact step_machineUpdateIgnored hs
  · exact capacity_iff hinit hrun hevents

/-- The operator loads puck 1 into M5, a T3, and takes it out again. -/
theorem loads_within_capacity_of_m5 :
    ∃ tr g, GameRun startup tr g ∧ tr.length = 5 ∧ startup.WithinCapacity ∧
      ∀ t ∈ tr, t.post.WithinCapacity := by
  have hrun : (trace step startup
      [.setGamePhase .production, .loadPuckInMachine .m5 1, .machineUpdateLoadedWith .m5 [1],
        .removePuckFromMachine .m5 1, .machineUpdateLoadedWith .m5 []]).any
        (fun r => decide (r.1.length = 5 ∧ (∀ t ∈ r.1, InProduction t.label = true) ∧
          ∀ t ∈ r.1, ¬ t.pre.CompletesLoad t.label)) = true := by decide +kernel
  obtain ⟨⟨tr, g⟩, htrace, hr⟩ := (Option.any_eq_true _ _).mp hrun
  obtain ⟨hlength, hevents, hnot⟩ := of_decide_eq_true hr
  have hrun := run_of_trace htrace
  obtain ⟨hinit, hposts⟩ :=
    (loads_within_capacity startup g tr unloaded_startup hrun hevents).2.mpr hnot
  exact ⟨tr, g, hrun, hlength, hinit, hposts⟩

/-- The operator loads puck 1 into M8, a T5 that takes one input: M8 has made its P3, and is also
WAITING, loaded with the puck. -/
theorem load_of_m8_not_within_capacity :
    ¬ ∀ (g : Game) (tr : List (Step Game Event)), GameRun startup tr g →
      (∀ t ∈ tr, InProduction t.label = true) → g.WithinCapacity := by
  intro hwithin
  have hrun : (trace step startup
      [.setGamePhase .production, .loadPuckInMachine .m8 1, .machineUpdateLoadedWith .m8 [1]]).any
        (fun r => decide ((∀ t ∈ r.1, InProduction t.label = true) ∧
          (.m8, { Llsf.startup.machines .m8 with state := .waiting, loadedWith := [1] }) ∈
            r.2.otherMachines)) = true := by decide +kernel
  obtain ⟨⟨tr, g⟩, htrace, hr⟩ := (Option.any_eq_true _ _).mp hrun
  obtain ⟨hevents, hfact⟩ := of_decide_eq_true hr
  have hlt := hwithin g tr (run_of_trace htrace) hevents .m8 _ _ (Or.inr hfact) rfl
  exact absurd hlt.2 (Nat.lt_irrefl 1)

end Game

/-! ## Whose points -/

/-- The machine at which a production or recycling step was completed. -/
def Reason.completedAt : Reason → Option MachineName
  | .productionDone _ m | .recyclingDone m | .productionStep m _ => some m
  | _ => none

def Event.isLoadUpdate : Event → Bool
  | .machineUpdateLoadedWith _ _ => true
  | _ => false

/-- The new points fact is the one that is awarded. -/
theorem Memory.eq_of_mem_award {s : Memory} {p q : Points} (hp : p ∈ (s.award q).points)
    (hnew : p ∉ s.points) : p = q :=
  (mem_assertFact.mp hp).resolve_right hnew

/-- The rules that read RFID give the points of a step to the team of the machine. -/
theorem Memory.step_completedAt {s s' : Memory} {a : Activation} {m : MachineName} {p : Points}
    (h : s.step a = some s') (hp : p ∈ s'.points) (hnew : p ∉ s.points)
    (hat : p.reason.completedAt = some m) : p.team = (s.machines m).team := by
  cases a
  case machineProcDone n | recycleProcDone n =>
    simp only [step, machineProcDone, recycleProcDone] at h
    split at h
    · obtain ⟨-, hs⟩ := Option.ite_none_right_eq_some.mp h
      cases hs
      obtain rfl := eq_of_mem_award hp hnew
      cases hat
      rfl
    · cases h
  case orderDeliveredInTime pd order =>
    obtain ⟨-, hs⟩ := Option.ite_none_right_eq_some.mp h
    dsimp only at hs
    split at hs <;> cases hs
    · rcases mem_assertFact.mp hp with rfl | hp
      · cases hat
      · split at hp
        · obtain rfl := eq_of_mem_award hp hnew
          cases hat
        · exact absurd hp hnew
    · obtain rfl := eq_of_mem_award hp hnew
      cases hat
  case orderDeliveredOutOfTime pd =>
    obtain ⟨-, hs⟩ := Option.ite_none_right_eq_some.mp h
    cases hs
    obtain rfl := eq_of_mem_award hp hnew
    cases hat
  case machineWrongTeamInput n id | deliverWrongTeamInput n id | recycleWrongTeamInput n id =>
    simp only [step, machineWrongTeamInput, deliverWrongTeamInput, recycleWrongTeamInput] at h
    split at h
    · obtain ⟨-, hs⟩ := Option.ite_none_right_eq_some.mp h
      cases hs
      obtain rfl := eq_of_mem_award hp hnew
      cases hat
    · cases h
  -- the other rules award nothing
  all_goals
    simp only [step, placePuckUnderMachine, rfidInputLearnPuck, rfidInputCleanup, activateOrder,
      machineDown, machineUp, machineProcStart, machineInvalidInput, machineInvalidInputJunk,
      machineProcWaiting, machinePuckRemoval, deliveryGateDownPeriod, deliverInvalidInput,
      deliverProcStart, deliverProcDone, deliverDownMachine, deliverRemoval, recycleProcStart,
      recycleInvalidInput, recycleRemoval, removal] at h
    repeat' split at h
    all_goals first
      | cases h
        exact absurd hp hnew
      | cases h

namespace Game

variable {g g' : Game} {m : MachineName} {p : Points}

theorem completedAt_of_handleReport {team : Team} {report : MachineName × String}
    (hp : p ∈ (handleReport team g report).points) (hnew : p ∉ g.points) :
    p.reason.completedAt = none := by
  unfold handleReport at hp
  dsimp only at hp
  split at hp
  · rcases mem_assertFact.mp hp with rfl | hp
    · unfold reportPoints
      dsimp only
      split
      · rfl
      · split <;> rfl
    · exact absurd hp hnew
  · exact absurd hp hnew

theorem completedAt_of_foldl_handleReport {team : Team} (machines : List (MachineName × String))
    (hp : p ∈ (machines.foldl (handleReport team) g).points) (hnew : p ∉ g.points) :
    p.reason.completedAt = none := by
  induction machines generalizing g with
  | nil => exact absurd hp hnew
  | cons report machines ih =>
      by_cases hhead : p ∈ (handleReport team g report).points
      · exact completedAt_of_handleReport hhead hnew
      · exact ih hp hhead

/-- The points of a completed step are awarded to the team of its machine, except that a load update
awards those of a machine of MAGENTA to CYAN. -/
theorem completion_team {e : Event} (h : g.step e = some g') (hp : p ∈ g'.points)
    (hnew : p ∉ g.points) (hat : p.reason.completedAt = some m) :
    p.team = (g.machines m).team ↔ (e.isLoadUpdate = true → (g.machines m).team = .cyan) := by
  cases e
  case production a =>
    obtain ⟨-, hs⟩ := Option.ite_none_left_eq_some.mp h
    obtain ⟨memory, hstep, rfl⟩ := Option.map_eq_some_iff.mp hs
    exact ⟨nofun, fun _ => Memory.step_completedAt hstep hp hnew hat⟩
  case machineUpdateLoadedWith n newLw =>
    simp only [step, machineUpdateLoadedWith] at h
    split at h
    · next spec _ =>
        obtain ⟨-, hs⟩ := Option.ite_none_right_eq_some.mp h
        cases hs
        unfold updateLoadedWith at hp
        dsimp only at hp
        split at hp
        · obtain rfl := Memory.eq_of_mem_award hp hnew
          cases hat
          exact ⟨fun hteam _ => hteam.symm, fun hcyan => (hcyan rfl).symm⟩
        · split at hp <;> exact absurd hp hnew
    · cases h
  case explorationHandleReport team machines =>
    obtain ⟨-, hs⟩ := Option.ite_none_right_eq_some.mp h
    cases hs
    rw [completedAt_of_foldl_handleReport machines hp hnew] at hat
    cases hat
  case techalWamContinue =>
    obtain ⟨-, hs⟩ := Option.ite_none_right_eq_some.mp h
    cases hs
    obtain rfl := (mem_assertFact.mp hp).resolve_right hnew
    cases hat
  case techalWamReached n =>
    obtain ⟨-, hs⟩ := Option.ite_none_right_eq_some.mp h
    cases hs
    obtain rfl := (mem_assertFact.mp hp).resolve_right hnew
    cases hat
  case resetGame =>
    obtain ⟨-, hs⟩ := Option.ite_none_right_eq_some.mp h
    cases hs
    cases hp
  -- the other events award nothing
  all_goals
    simp only [step, simInit, simTimeSync, gameParameterize, loadPuckInMachine,
      removePuckFromMachine, turnTo, machineUpdateIgnored, gameUpdateGametimePoints,
      gameUpdateLastTime, gameSwitchToPreGame, gameStartTraining, gameStart,
      gameSwitchToExploration, gameSwitchToProduction, switchPhase, gameOver, gameEnterOvertime,
      gameOverAfterOvertime, gameGotoPostGame, explorationStart, explorationPause,
      explorationContinue, explorationSeen, productionStart, techalWamNext, techalWamDeactivate,
      techalWamActivate, techalWamGameOver, techalNavigationGameOver, challengeOver, initGame] at h
    repeat' split at h
    all_goals
      cases h
    all_goals
      exact absurd hp hnew

/-- The phase is PRODUCTION, and the operator has loaded puck 1 into a machine. -/
def loaded (m : MachineName) : Game :=
  { startup with
    gamestate := { startup.gamestate with phase := .production, prevPhase := some .preGame }
    machineUpdates := [(m, [1])] }

/-- What the completion of M8 awards CYAN. -/
theorem completion_team_of_m8 :
    ∃ g' p, (loaded .m8).step (.machineUpdateLoadedWith .m8 [1]) = some g' ∧ p ∈ g'.points ∧
      p.reason.completedAt = some .m8 ∧ p.team = ((loaded .m8).machines .m8).team :=
  ⟨_, _, rfl, List.mem_singleton.mpr rfl, rfl,
    (completion_team (g := loaded .m8) (e := .machineUpdateLoadedWith .m8 [1]) rfl
      (List.mem_singleton.mpr rfl) (by decide) rfl).mpr (fun _ => rfl)⟩

/-- M20 is a T5 of MAGENTA. Its completion by a load update is awarded to CYAN. -/
theorem completion_of_m20_awarded_to_cyan :
    ¬ ∀ (tr : List (Step Game Event)) (g g' : Game) (e : Event) (m : MachineName) (p : Points),
      GameRun startup tr g → g.step e = some g' → p ∈ g'.points → p ∉ g.points →
        p.reason.completedAt = some m → p.team = (g.machines m).team := by
  intro hteam
  have hrun : GameRun startup
      [⟨_, .loadPuckInMachine .m20 1, loaded .m20⟩, ⟨_, .setGamePhase .production, _⟩] (loaded .m20) :=
    (Run.init.step rfl).step rfl
  have h := hteam _ _ _ (.machineUpdateLoadedWith .m20 [1]) .m20 _ hrun rfl
    (List.mem_singleton.mpr rfl) (by decide) rfl
  cases h

end Game

end FactoryHub.Llsf
