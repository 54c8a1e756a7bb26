import FactoryHub.Llsf.DeliverySchedule
import FactoryHub.Llsf.MachineTable
import Mathlib.Data.List.Nodup
import Mathlib.Data.List.ProdSigma

/-!
# The fields of both teams

After `machine-init-randomize` both teams play on the same field, whatever is drawn.

* **The parts** (`assignTypes_spec`, `copyRandomization_spec`, `swapMachines_spec`) — what each part
  of the function leaves for the next one.
* **The field** (`same_field`) — the types are those of the distribution for each team, and the
  machines at one place are of one type and one down period, and of different teams.
-/

namespace FactoryHub.Llsf

open Clips Lib Init

variable {g : Globals} {rand : ℕ → ℕ}

/-! ## The types -/

/-- The names that the distribution of types is for. -/
def cyanNames : List MachineName := mNames.take 12

/-- Teams and types are those of the startup facts. -/
def Reset (t : MachineName → Machine) : Prop :=
  ∀ name, (t name).team = startupTeam name ∧ (t name).mtype = startupType name

/-- The types of the distribution are assigned to CYAN. -/
structure Assigned (g : Globals) (t : MachineName → Machine) : Prop where
  team : ∀ name, (t name).team = startupTeam name
  others : ∀ name ∉ cyanNames, (t name).mtype = startupType name
  types : (cyanNames.map fun name => (t name).mtype).Perm g.machineDistribution

theorem Reset.of_sameKind {t t' : MachineName → Machine} (h : Reset t)
    (hkind : ∀ name, SameKind (t name) (t' name)) : Reset t' := fun name =>
  ⟨(hkind name).1.trans (h name).1, (hkind name).2.trans (h name).2⟩

theorem Assigned.of_sameKind {t t' : MachineName → Machine} (h : Assigned g t)
    (hkind : ∀ name, SameKind (t name) (t' name)) : Assigned g t' where
  team name := (hkind name).1.trans (h.team name)
  others name hname := (hkind name).2.trans (h.others name hname)
  types := by
    have heq : (cyanNames.map fun name => (t' name).mtype) =
        cyanNames.map fun name => (t name).mtype :=
      List.map_congr_left fun name _ => (hkind name).2
    rw [heq]
    exact h.types

theorem resetMachines_spec {t : MachineName → Machine} (h : Reset t) :
    Triple (Holds t) resetMachines fun _ => Fields Reset := by
  have hloop := forAllMachines_sameKind (t := t) (p := fun _ => True) (fun m =>
    { m.2 with loadedWith := [], productions := 0, state := .idle, procStart := 0, puckId := 0 })
    fun m => ⟨rfl, rfl⟩
  refine hloop.post fun _ f => ?_
  rintro ⟨t', hf, hkind⟩
  exact ⟨t', hf, h.of_sameKind hkind⟩

/-- Each round gives the next type of the assignment to its machine. -/
theorem assignTypes_loop {t : MachineName → Machine} {l : List MachineFact}
    {assignment : List MType} (hl : (l.map Prod.fst).Nodup) (hfacts : ∀ m ∈ l, m.2 = t m.1)
    (hlen : l.length ≤ assignment.length) :
    Triple (Holds t) (l.foldlM assignType assignment) fun _ => Fields fun t' =>
      (l.map fun m => (t' m.1).mtype) = assignment.take l.length ∧
        (∀ name, (t' name).team = (t name).team) ∧
        ∀ name ∉ l.map Prod.fst, t' name = t name := by
  induction l generalizing t assignment with
  | nil => exact Triple.pure fun f hf => ⟨t, hf, rfl, fun _ => rfl, fun _ _ => rfl⟩
  | cons m l ih =>
      cases assignment with
      | nil => simp at hlen
      | cons mtype assignment =>
          rw [List.map_cons, List.nodup_cons] at hl
          rw [List.foldlM_cons]
          have hm := hfacts m (by simp)
          have hround : Triple (Holds t) (assignType (mtype :: assignment) m) fun rest f =>
              rest = assignment ∧ Holds (Function.update t m.1 { m.2 with mtype }) f :=
            Triple.bind (modifyMachine_spec hm _) fun _ => Triple.pure fun f hf => ⟨rfl, hf⟩
          refine Triple.bind_eq hround ?_
          have hother : ∀ m' ∈ l, m'.1 ≠ m.1 := by
            intro m' hm' heq
            exact hl.1 (heq ▸ List.mem_map_of_mem hm')
          refine (ih hl.2 ?_ (by simpa using hlen)).post fun _ f => ?_
          · intro m' hm'
            rw [Function.update_of_ne (hother m' hm')]
            exact hfacts m' (List.mem_cons_of_mem m hm')
          rintro ⟨t', hf, htypes, hteam, hframe⟩
          refine ⟨t', hf, ?_, ?_, ?_⟩
          · rw [List.map_cons, htypes, hframe m.1 hl.1, Function.update_self]
            rfl
          · intro name
            rw [hteam]
            by_cases hname : name = m.1
            · subst hname
              rw [Function.update_self, ← hm]
            · rw [Function.update_of_ne hname]
          · intro name hname
            rw [List.map_cons, List.mem_cons, not_or] at hname
            rw [hframe name hname.2, Function.update_of_ne hname.1]

/-- The machines that the assignment is for. -/
theorem assigned_machines {t : MachineName → Machine} {f : Field} (hf : Holds t f) (h : Reset t) :
    Tabulates cyanNames t (f.machines.filter fun m =>
      (∃ mspec ∈ f.specs, mspec.mtype = m.2.mtype) ∧ m.2.team = .cyan) := by
  have hspec : ∀ mtype : MType, (∃ mspec ∈ f.specs, mspec.mtype = mtype) ↔
      mtype ∈ [MType.t1, .t2, .t3, .t4, .t5] := by
    intro mtype
    rw [← hf.specs, List.mem_map]
  have hnames : (MachineName.all.filter fun name =>
      (∃ mspec ∈ f.specs, mspec.mtype = (t name).mtype) ∧ (t name).team = .cyan) = cyanNames := by
    simp only [hspec, (h _).1, (h _).2]
    decide
  have hperm := hf.machines.filter_perm fun m =>
    (∃ mspec ∈ f.specs, mspec.mtype = m.2.mtype) ∧ m.2.team = .cyan
  rwa [hnames] at hperm

theorem machineAssignment_spec {t : MachineName → Machine} :
    Triple (Holds t) (machineAssignment g rand) fun assignment f =>
      assignment.Perm g.machineDistribution ∧ Holds t f := by
  unfold machineAssignment
  split
  · exact draw_randomize_spec g.machineDistribution
  · exact Triple.pure fun f hf => ⟨List.Perm.refl _, hf⟩

/-- What the loop does with the machines found. -/
theorem assignTypes_found {t : MachineName → Machine} (h : Reset t) {l : List MachineFact}
    (hl : Tabulates cyanNames t l) {assignment : List MType}
    (hperm : assignment.Perm g.machineDistribution) (hlen : assignment.length = 12) :
    Triple (Holds t) (l.foldlM assignType assignment) fun _ => Fields (Assigned g) := by
  have hnames := hl.keys_perm
  have hlength : l.length = 12 := by
    rw [hl.length_eq, List.length_map]
    rfl
  have hnodup : (l.map Prod.fst).Nodup := hnames.nodup_iff.mpr (by decide)
  refine (assignTypes_loop hnodup (fun m hm => (hl.mem_facts_iff.mp hm).2) ?_).post fun _ f => ?_
  · rw [hlength, hlen]
  rintro ⟨t', hf, htypes, hteam, hframe⟩
  refine ⟨t', hf, fun name => (hteam name).trans (h name).1, ?_, ?_⟩
  · intro name hname
    rw [hframe name, (h name).2]
    rwa [hnames.mem_iff]
  · -- the types of the machines found are the assignment
    rw [hlength, ← hlen, List.take_length] at htypes
    have hmap := hnames.map fun name => (t' name).mtype
    rw [List.map_map] at hmap
    exact hmap.symm.trans ((List.Perm.of_eq htypes).trans hperm)

theorem assignTypes_spec {t : MachineName → Machine} (h : Reset t)
    (hlen : g.machineDistribution.length = 12) :
    Triple (Holds t) (assignTypes g rand) fun _ => Fields (Assigned g) := by
  refine Triple.bind_imp machineAssignment_spec fun assignment hperm => ?_
  refine Triple.bind_read fun f hf => ?_
  have hloop := assignTypes_found h (assigned_machines hf h) hperm (hperm.length_eq.trans hlen)
  exact Triple.bind hloop fun _ => Triple.pure fun _ hf' => hf'

/-! ## Times -/

/-- The specs get the light codes in order. -/
theorem map_mtype_foldl_lightCode (specs done : List SpecFact) (lightCodes : List ℕ) :
    ((specs.foldl (fun (s : List SpecFact × List ℕ) mspec =>
      (s.1 ++ [{ mspec with lightCode := nth 1 s.2 }], s.2.drop 1)) (done, lightCodes)).1.map
        SpecFact.mtype) = done.map SpecFact.mtype ++ specs.map SpecFact.mtype := by
  induction specs generalizing done lightCodes with
  | nil => simp
  | cons mspec specs ih =>
      rw [List.foldl_cons, ih]
      simp

theorem initLightCodes_spec {t : MachineName → Machine} :
    Triple (Holds t) (initLightCodes rand) fun _ => Holds t := by
  refine Triple.bind_read fun _ _ => ?_
  refine Triple.bind (draw_holds _) fun lightCodes => Triple.modify fun f hf => ?_
  refine ⟨hf.machines, ?_⟩
  rw [← hf.specs]
  exact map_mtype_foldl_lightCode f.specs [] lightCodes

theorem initProcTimes_spec {t : MachineName → Machine} :
    Triple (Holds t) (initProcTimes rand) fun _ => Holds t := by
  refine Triple.bind_read fun f₀ hf₀ => ?_
  have hmap := Triple.mapM (P := Holds t) (f := initProcTime rand) (p := SpecFact.mtype)
    (q := SpecFact.mtype) (fun mspec => ?_) f₀.specs
  · refine Triple.bind_imp hmap fun specs hspecs => ?_
    refine Triple.modify fun f hf => ⟨hf.machines, ?_⟩
    exact hspecs.trans hf₀.specs
  · exact Triple.bind (draw_holds _) fun procTime => Triple.pure fun f hf => ⟨rfl, hf⟩

/-- Down times are of machines of a team and type that stay. -/
theorem initDownTime_spec {t : MachineName → Machine} {m : MachineFact} (hm : m.2 = t m.1) :
    Triple (Holds t) (initDownTime g rand m) fun _ f =>
      ∃ new, SameKind m.2 new ∧ Holds (Function.update t m.1 new) f := by
  refine Triple.bind (draw_holds _) fun duration => ?_
  refine Triple.bind (draw_holds _) fun startTime => ?_
  refine (modifyMachine_spec hm _).post fun _ f hf => ?_
  refine ⟨_, ?_, hf⟩
  exact ⟨rfl, rfl⟩

theorem initDownTimes_spec {t : MachineName → Machine} (h : Assigned g t) :
    Triple (Holds t) (initDownTimes g rand) fun _ => Fields (Assigned g) := by
  refine Triple.bind (draw_holds _) fun numDownTimes => ?_
  refine Triple.bind_read fun f hf => ?_
  let candidates := f.machines.filter fun m =>
    m.2.mtype ≠ .deliver ∧ m.2.mtype ≠ .recycle ∧ m.2.team = .cyan
  refine Triple.bind_imp (draw_randomize_spec candidates) fun shuffled hperm => ?_
  -- the machines taken are different ones, as the candidates are
  have hnodup : ((shuffled.take numDownTimes).map Prod.fst).Nodup := by
    have hcand : (candidates.map Prod.fst).Nodup :=
      hf.machines.nodup_filter MachineName.nodup_all _
    have hshuffled := (hperm.map Prod.fst).nodup_iff.mpr hcand
    exact hshuffled.sublist ((List.take_sublist _ _).map _)
  have hfacts : ∀ m ∈ shuffled.take numDownTimes, m.2 = t m.1 := by
    intro m hm
    have hcand : m ∈ candidates := hperm.mem_iff.mp (List.mem_of_mem_take hm)
    exact hf.mem_iff.mp (List.mem_of_mem_filter hcand)
  refine Triple.bind (forEach_sameKind hnodup hfacts fun m _ t₁ hm => initDownTime_spec hm)
    fun _ => Triple.fields fun t₁ ht₁ => ?_
  refine Triple.bind (draw_holds _) fun recyclingDownTime => ?_
  refine Triple.bind (draw_holds _) fun recyclingDownStart => ?_
  have hloop := forAllMachines_sameKind (t := t₁) (p := fun m => m.2.mtype = .recycle)
    (fun m => { m.2 with
      downPeriod := (recyclingDownStart, recyclingDownStart + recyclingDownTime) })
    fun m => ⟨rfl, rfl⟩
  refine hloop.post fun _ f' => ?_
  rintro ⟨t', hf', hkind⟩
  exact ⟨t', hf', (h.of_sameKind ht₁).of_sameKind hkind⟩

/-! ## The copy -/

/-- The names at one place of the field. -/
def pairNames (name : MachineName) : Set MachineName := {name, machineMagentaForCyanField name}

theorem mem_pairNames {name k : MachineName} :
    k ∈ pairNames name ↔ k = name ∨ k = machineMagentaForCyanField name := Iff.rfl

theorem field_not_mem : ∀ name ∈ cyanNames, machineMagentaForCyanField name ∉ cyanNames := by
  decide

theorem field_inj : ∀ a ∈ cyanNames, ∀ b ∈ cyanNames,
    machineMagentaForCyanField a = machineMagentaForCyanField b → a = b := by
  decide

theorem field_ne {name : MachineName} (h : name ∈ cyanNames) :
    machineMagentaForCyanField name ≠ name := by
  intro heq
  apply field_not_mem name h
  rwa [heq]

theorem disjoint_pairNames {a b : MachineName} (ha : a ∈ cyanNames) (hb : b ∈ cyanNames)
    (hne : a ≠ b) : ∀ k ∈ pairNames a, k ∉ pairNames b := by
  intro k hka hkb
  rcases mem_pairNames.mp hka with rfl | rfl <;> rcases mem_pairNames.mp hkb with heq | heq
  · exact hne heq
  · exact field_not_mem b hb (heq ▸ ha)
  · exact field_not_mem a ha (heq ▸ hb)
  · exact hne (field_inj a ha b hb heq)

/-- Rounds for different places change different names. -/
theorem pairwise_pairNames {α : Type} {l : List α} {place : α → MachineName}
    (hl : (l.map place).Nodup) (hplace : ∀ a ∈ l, place a ∈ cyanNames) :
    l.Pairwise fun a b => ∀ k ∈ pairNames (place a), k ∉ pairNames (place b) := by
  rw [List.Nodup, List.pairwise_map] at hl
  exact hl.imp_of_mem fun ha hb hne => disjoint_pairNames (hplace _ ha) (hplace _ hb) hne

theorem pairNames_mNames : ∀ name ∈ cyanNames,
    name ∈ mNames ∧ machineMagentaForCyanField name ∈ mNames := by
  decide

theorem not_mem_pairNames {name k : MachineName} (hname : name ∈ cyanNames) (hk : k ∉ mNames) :
    k ∉ pairNames name := by
  obtain ⟨hname', hfield⟩ := pairNames_mNames name hname
  rintro (rfl | rfl)
  · exact hk hname'
  · exact hk hfield

/-- Of one type and one down period. -/
def SameMachine (m m' : Machine) : Prop := m.mtype = m'.mtype ∧ m.downPeriod = m'.downPeriod

/-- The places of MAGENTA are as those of CYAN. -/
structure Copied (g : Globals) (t : MachineName → Machine) : Prop where
  team : ∀ name, (t name).team = startupTeam name
  others : ∀ name ∉ mNames, (t name).mtype = startupType name
  types : (cyanNames.map fun name => (t name).mtype).Perm g.machineDistribution
  pairs : ∀ name ∈ cyanNames, SameMachine (t name) (t (machineMagentaForCyanField name))

theorem map_nth_mNames : (List.range' 1 12).map (fun i => nth i mNames) = cyanNames := rfl

theorem nth_mem_cyanNames : ∀ i ∈ List.range' 1 12, nth i mNames ∈ cyanNames ∧
    nth (i + 12) mNames = machineMagentaForCyanField (nth i mNames) := by
  decide

theorem copyMachine_spec {t : MachineName → Machine} (i : ℕ) :
    Triple (Holds t) (copyMachine i) fun _ =>
      Holds (Function.update t (nth (i + 12) mNames) { t (nth (i + 12) mNames) with
        mtype := (t (nth i mNames)).mtype, downPeriod := (t (nth i mNames)).downPeriod }) := by
  refine Triple.bind_read fun f hf => ?_
  rw [hf.find, hf.find]
  exact modifyMachine_spec rfl _

theorem copyRandomization_spec {t : MachineName → Machine} (h : Assigned g t) :
    Triple (Holds t) copyRandomization fun _ => Fields (Copied g) := by
  have hloop := Triple.foldlM_disjoint (H := Holds)
    (F := fun i => pairNames (nth i mNames))
    (R := fun i t' => t' (nth i mNames) = t (nth i mNames) ∧
      (t' (machineMagentaForCyanField (nth i mNames))).team =
        (t (machineMagentaForCyanField (nth i mNames))).team ∧
      SameMachine (t' (nth i mNames)) (t' (machineMagentaForCyanField (nth i mNames))))
    (f := fun _ i => copyMachine i) (l := List.range' 1 12) (t := t) ?_ ?_ ?_
  · refine hloop.post fun _ f => ?_
    rintro ⟨t', hf, hR, hframe⟩
    -- the rounds are for the places of the field
    have hplace : ∀ name ∈ cyanNames, ∃ i ∈ List.range' 1 12, nth i mNames = name := by
      intro name hname
      rwa [← map_nth_mNames, List.mem_map] at hname
    have hteam : ∀ name, (t' name).team = (t name).team := by
      intro name
      by_cases hname : ∃ i ∈ List.range' 1 12, name ∈ pairNames (nth i mNames)
      · obtain ⟨i, hi, rfl | rfl⟩ := hname
        · rw [(hR i hi).1]
        · exact (hR i hi).2.1
      · rw [hframe name fun i hi hmem => hname ⟨i, hi, hmem⟩]
    refine ⟨t', hf, fun name => (hteam name).trans (h.team name), ?_, ?_, ?_⟩
    · intro name hname
      rw [hframe name fun i hi => not_mem_pairNames (nth_mem_cyanNames i hi).1 hname]
      exact h.others name fun hcyan => hname (pairNames_mNames name hcyan).1
    · have heq : (cyanNames.map fun name => (t' name).mtype) =
          cyanNames.map fun name => (t name).mtype := by
        apply List.map_congr_left
        intro name hname
        obtain ⟨i, hi, rfl⟩ := hplace name hname
        rw [(hR i hi).1]
      rw [heq]
      exact h.types
    · intro name hname
      obtain ⟨i, hi, rfl⟩ := hplace name hname
      exact (hR i hi).2.2
  · apply pairwise_pairNames
    · rw [map_nth_mNames]
      decide
    · exact fun i hi => (nth_mem_cyanNames i hi).1
  · intro i t₁ t₂ heq
    rw [heq _ (mem_pairNames.mpr (.inl rfl)), heq _ (mem_pairNames.mpr (.inr rfl))]
    exact id
  · intro i hi t₁ ht₁
    obtain ⟨hmem, hnth⟩ := nth_mem_cyanNames i hi
    refine (copyMachine_spec i).post fun _ f hf => ⟨_, hf, ?_, ?_⟩
    · rw [hnth, Function.update_self, Function.update_of_ne (field_ne hmem).symm]
      refine ⟨ht₁ _ (mem_pairNames.mpr (.inl rfl)), ?_, rfl, rfl⟩
      show (t₁ _).team = _
      rw [ht₁ _ (mem_pairNames.mpr (.inr rfl))]
    · intro k hk
      rw [hnth, Function.update_of_ne]
      rintro rfl
      exact hk (mem_pairNames.mpr (.inr rfl))

/-! ## The swap -/

/-- The places are alike, but for the teams. -/
structure Divided (g : Globals) (t : MachineName → Machine) : Prop where
  types : (cyanNames.map fun name => (t name).mtype).Perm g.machineDistribution
  pairs : ∀ name ∈ cyanNames, SameMachine (t name) (t (machineMagentaForCyanField name))
  teams : ∀ name ∈ cyanNames, (t name).team ≠ (t (machineMagentaForCyanField name)).team

theorem Copied.divided {t : MachineName → Machine} (h : Copied g t) : Divided g t where
  types := h.types
  pairs := h.pairs
  teams name hname := by
    rw [h.team, h.team]
    revert name
    decide

/-- The pair is of the machines at one place. -/
structure IsPair (t : MachineName → Machine) (pair : MachineFact × MachineFact) : Prop where
  place : pair.1.1 ∈ cyanNames
  field : pair.2.1 = machineMagentaForCyanField pair.1.1
  cyan : pair.1.2 = t pair.1.1
  magenta : pair.2.2 = t pair.2.1

/-- The teams at a place are exchanged. -/
def exchange (t : MachineName → Machine) (name : MachineName) : MachineName → Machine :=
  Function.update (Function.update t name { t name with team := .magenta })
    (machineMagentaForCyanField name)
    { t (machineMagentaForCyanField name) with team := .cyan }

section Exchange

variable {t : MachineName → Machine} {name : MachineName}

theorem exchange_place (hname : name ∈ cyanNames) :
    exchange t name name = { t name with team := .magenta } := by
  rw [exchange, Function.update_of_ne (field_ne hname).symm, Function.update_self]

theorem exchange_field : exchange t name (machineMagentaForCyanField name) =
    { t (machineMagentaForCyanField name) with team := .cyan } := by
  rw [exchange, Function.update_self]

theorem exchange_of_not_mem {k : MachineName} (hk : k ∉ pairNames name) :
    exchange t name k = t k := by
  rw [mem_pairNames, not_or] at hk
  rw [exchange, Function.update_of_ne hk.2, Function.update_of_ne hk.1]

end Exchange

/-- What a round of the swap keeps at a place. -/
structure PlaceKept (t t' : MachineName → Machine) (name : MachineName) : Prop where
  mtype : (t' name).mtype = (t name).mtype
  pair : SameMachine (t' name) (t' (machineMagentaForCyanField name))
  teams : (t' name).team ≠ (t' (machineMagentaForCyanField name)).team

theorem Divided.place {t : MachineName → Machine} (h : Divided g t) {name : MachineName}
    (hname : name ∈ cyanNames) : PlaceKept t t name :=
  ⟨rfl, h.pairs name hname, h.teams name hname⟩

namespace PlaceKept

variable {t t₁ t₂ : MachineName → Machine} {name : MachineName}

theorem congr (h : PlaceKept t t₁ name) (heq : ∀ k ∈ pairNames name, t₁ k = t₂ k) :
    PlaceKept t t₂ name := by
  have hcyan := heq name (mem_pairNames.mpr (.inl rfl))
  have hmagenta := heq (machineMagentaForCyanField name) (mem_pairNames.mpr (.inr rfl))
  constructor
  · rw [← hcyan]
    exact h.mtype
  · rw [← hcyan, ← hmagenta]
    exact h.pair
  · rw [← hcyan, ← hmagenta]
    exact h.teams

theorem exchange (h : PlaceKept t t₁ name) (hname : name ∈ cyanNames) :
    PlaceKept t (exchange t₁ name) name := by
  constructor
  · rw [exchange_place hname]
    exact h.mtype
  · rw [exchange_place hname, exchange_field]
    exact h.pair
  · rw [exchange_place hname, exchange_field]
    exact fun heq => Team.noConfusion heq

end PlaceKept

/-- With every place kept, the field is divided as before. -/
theorem Divided.of_kept {t t' : MachineName → Machine} (h : Divided g t)
    (hkept : ∀ name ∈ cyanNames, PlaceKept t t' name) : Divided g t' where
  types := by
    have heq : (cyanNames.map fun name => (t' name).mtype) =
        cyanNames.map fun name => (t name).mtype :=
      List.map_congr_left fun name hname => (hkept name hname).mtype
    rw [heq]
    exact h.types
  pairs name hname := (hkept name hname).pair
  teams name hname := (hkept name hname).teams

theorem swapTeams_spec {t : MachineName → Machine} {pair : MachineFact × MachineFact}
    (h : IsPair t pair) :
    Triple (Holds t) (swapTeams pair) fun _ => Holds (exchange t pair.1.1) := by
  refine Triple.bind (modifyMachine_spec h.cyan _) fun _ => ?_
  have hne : pair.2.1 ≠ pair.1.1 := h.field ▸ field_ne h.place
  have hmagenta : pair.2.2 =
      Function.update t pair.1.1 { pair.1.2 with team := .magenta } pair.2.1 := by
    rw [Function.update_of_ne hne]
    exact h.magenta
  refine (modifyMachine_spec hmagenta _).post fun _ f hf => ?_
  rw [exchange, ← h.field, ← h.cyan, ← h.magenta]
  exact hf

theorem swapTeamsAtRandom_spec {t : MachineName → Machine} {pair : MachineFact × MachineFact}
    (h : IsPair t pair) :
    Triple (Holds t) (swapTeamsAtRandom rand pair) fun _ f =>
      Holds t f ∨ Holds (exchange t pair.1.1) f := by
  refine Triple.bind (draw_holds _) fun r => ?_
  split
  · exact (swapTeams_spec h).post fun _ f hf => .inr hf
  · exact Triple.pure fun f hf => .inl hf

/-- A loop that exchanges the teams at some places. -/
theorem forEach_swap {t : MachineName → Machine} (h : Divided g t)
    {l : List (MachineFact × MachineFact)} {body : MachineFact × MachineFact → Init Unit}
    (hl : (l.map fun pair => pair.1.1).Nodup) (hpairs : ∀ pair ∈ l, IsPair t pair)
    (hbody : ∀ pair t₁, IsPair t₁ pair → Triple (Holds t₁) (body pair) fun _ f =>
      Holds t₁ f ∨ Holds (exchange t₁ pair.1.1) f) :
    Triple (Holds t) (forEach l body) fun _ => Fields (Divided g) := by
  have hloop := Triple.foldlM_disjoint (H := Holds) (F := fun pair => pairNames pair.1.1)
    (R := fun pair t' => PlaceKept t t' pair.1.1) (f := fun _ pair => body pair) (l := l) (t := t)
    ?_ ?_ ?_
  · refine hloop.post fun _ f => ?_
    rintro ⟨t', hf, hR, hframe⟩
    refine ⟨t', hf, h.of_kept fun name hname => ?_⟩
    by_cases hswap : ∃ pair ∈ l, pair.1.1 = name
    · obtain ⟨pair, hpair, rfl⟩ := hswap
      exact hR pair hpair
    · -- no round is for this place
      apply (h.place hname).congr
      intro k hk
      refine (hframe k fun pair hpair hk' => ?_).symm
      have hne : name ≠ pair.1.1 := fun heq => hswap ⟨pair, hpair, heq.symm⟩
      exact disjoint_pairNames hname (hpairs pair hpair).place hne k hk hk'
  · exact pairwise_pairNames hl fun pair hpair => (hpairs pair hpair).place
  · exact fun pair t₁ t₂ heq hR => hR.congr heq
  · intro pair hpair t₁ ht₁
    have hplace := (hpairs pair hpair).place
    have hfield := (hpairs pair hpair).field
    have hkept : PlaceKept t t₁ pair.1.1 :=
      (h.place hplace).congr fun k hk => (ht₁ k hk).symm
    have hpair' : IsPair t₁ pair := by
      refine ⟨hplace, hfield, ?_, ?_⟩
      · rw [ht₁ _ (mem_pairNames.mpr (.inl rfl))]
        exact (hpairs pair hpair).cyan
      · rw [ht₁ _ (mem_pairNames.mpr (.inr hfield))]
        exact (hpairs pair hpair).magenta
    refine (hbody pair t₁ hpair').post fun _ f => ?_
    rintro (hf | hf)
    · exact ⟨t₁, hf, hkept, fun _ _ => rfl⟩
    · exact ⟨_, hf, hkept.exchange hplace, fun k hk => exchange_of_not_mem hk⟩

/-- Of CYAN, the machines that are no gates and no recycling machines are those of the
distribution. -/
theorem Copied.mem_cyanNames {t : MachineName → Machine} (h : Copied g t) {name : MachineName}
    (hteam : (t name).team = .cyan) (hdeliver : (t name).mtype ≠ .deliver)
    (hrecycle : (t name).mtype ≠ .recycle) : name ∈ cyanNames := by
  have hstartup : ∀ name, startupTeam name = .cyan → name ∉ cyanNames →
      name ∉ mNames ∧ (startupType name = .deliver ∨ startupType name = .recycle) := by
    decide
  by_contra hname
  rw [h.team] at hteam
  obtain ⟨hnot, htype⟩ := hstartup name hteam hname
  rw [← h.others name hnot] at htype
  rcases htype with htype | htype
  · exact hdeliver htype
  · exact hrecycle htype

variable {t : MachineName → Machine} {f : Field} {swap : MachineFact → Prop} [DecidablePred swap]

/-- What a query of the swap finds, when it is for machines of the distribution. -/
theorem isPair_of_mem (h : Copied g t) (hf : Holds t f)
    (hswap : ∀ m ∈ f.machines, swap m → m.2.mtype ≠ .deliver ∧ m.2.mtype ≠ .recycle)
    {pair : MachineFact × MachineFact} (hpair : pair ∈ swapPairs f swap) : IsPair t pair := by
  obtain ⟨mCyan, mMagenta⟩ := pair
  rw [swapPairs, List.mem_filter, List.mem_product, decide_eq_true_eq] at hpair
  obtain ⟨⟨hcyan, hmagenta⟩, hteam, -, hs, hfield⟩ := hpair
  obtain ⟨hdeliver, hrecycle⟩ := hswap _ hcyan hs
  have hcyan' := hf.mem_iff.mp hcyan
  rw [hcyan'] at hteam hdeliver hrecycle
  exact ⟨h.mem_cyanNames hteam hdeliver hrecycle, hfield, hcyan', hf.mem_iff.mp hmagenta⟩

theorem nodup_swapPairs (h : Copied g t) (hf : Holds t f)
    (hswap : ∀ m ∈ f.machines, swap m → m.2.mtype ≠ .deliver ∧ m.2.mtype ≠ .recycle) :
    ((swapPairs f swap).map fun pair => pair.1.1).Nodup := by
  have hmachines : f.machines.Nodup := by
    apply List.Nodup.of_map Prod.fst
    exact hf.machines.keys_perm.nodup_iff.mpr MachineName.nodup_all
  apply ((hmachines.product hmachines).filter _).map_on
  intro pair hpair pair' hpair' heq
  have hp := isPair_of_mem h hf hswap hpair
  have hp' := isPair_of_mem h hf hswap hpair'
  -- the place determines the names, and the names the facts
  have hfield : pair.2.1 = pair'.2.1 := by
    rw [hp.field, hp'.field, heq]
  refine Prod.ext (Prod.ext heq ?_) (Prod.ext hfield ?_)
  · rw [hp.cyan, hp'.cyan, heq]
  · rw [hp.magenta, hp'.magenta, hfield]

theorem forEach_swapPairs (h : Copied g t) (hf : Holds t f)
    (hswap : ∀ m ∈ f.machines, swap m → m.2.mtype ≠ .deliver ∧ m.2.mtype ≠ .recycle)
    {body : MachineFact × MachineFact → Init Unit}
    (hbody : ∀ pair t₁, IsPair t₁ pair → Triple (Holds t₁) (body pair) fun _ f =>
      Holds t₁ f ∨ Holds (exchange t₁ pair.1.1) f) :
    Triple (Holds t) (forEach (swapPairs f swap) body) fun _ => Fields (Divided g) :=
  forEach_swap h.divided (nodup_swapPairs h hf hswap)
    (fun _ hpair => isPair_of_mem h hf hswap hpair) hbody

/-- The types that machines are swapped by are those of the distribution. -/
structure Globals.SwapsMachines (g : Globals) : Prop where
  roundRobin : g.machineSwapRoundRobin ≠ [] ∧
    ∀ mtype ∈ g.machineSwapRoundRobin, mtype ≠ .deliver ∧ mtype ≠ .recycle
  playOffs : ∀ mtype ∈ g.machineSwapPlayOffsTypes, mtype ≠ .deliver ∧ mtype ≠ .recycle
  finals : ∀ mtype ∈ g.machineSwapFinalsTypes, mtype ≠ .deliver ∧ mtype ≠ .recycle

/-- In every phase, teams are exchanged at some places. -/
theorem swapMachines_spec (hg : g.SwapsMachines) (h : Copied g t) :
    Triple (Holds t) (swapMachines g rand) fun _ => Fields (Divided g) := by
  have hswapped : ∀ pair t₁, IsPair t₁ pair → Triple (Holds t₁) (swapTeams pair) fun _ f =>
      Holds t₁ f ∨ Holds (exchange t₁ pair.1.1) f :=
    fun pair t₁ hpair => (swapTeams_spec hpair).post fun _ f hf => .inr hf
  unfold swapMachines
  split
  · -- ROUND-ROBIN
    refine Triple.bind_imp (draw_spec (p := fun mtype => mtype ∈ g.machineSwapRoundRobin)
      (fun n => pickAt_mem n hg.roundRobin.1) fun f n (hf : Holds t f) => hf.draws n)
      fun mtype hmtype => ?_
    refine Triple.bind_read fun f hf => forEach_swapPairs h hf ?_ hswapped
    rintro m - rfl
    exact hg.roundRobin.2 _ hmtype
  · -- PLAY-OFFS
    refine Triple.bind_read fun f hf => ?_
    let candidates := (f.machines.filter fun m =>
      m.2.team = .cyan ∧ m.2.mtype ∈ g.machineSwapPlayOffsTypes).map Prod.fst
    refine Triple.bind_imp (draw_randomize_spec candidates) fun shuffled hperm => ?_
    refine Triple.bind_read fun f' hf' => forEach_swapPairs h hf' ?_ hswapped
    intro m hm hmem
    have hcand : m.1 ∈ candidates := hperm.mem_iff.mp (List.mem_of_mem_take hmem)
    obtain ⟨m₀, hm₀, heq⟩ := List.mem_map.mp hcand
    obtain ⟨hm₀, hsel⟩ := List.mem_filter.mp hm₀
    rw [decide_eq_true_eq] at hsel
    rw [hf'.mem_iff.mp hm, ← heq, ← hf.mem_iff.mp hm₀]
    exact hg.playOffs _ hsel.2
  · -- FINALS
    refine Triple.bind_read fun f hf => forEach_swapPairs h hf ?_ fun pair t₁ hpair =>
      swapTeamsAtRandom_spec hpair
    intro m _ hmtype
    exact hg.finals _ hmtype
  · exact Triple.pure fun f hf => ⟨t, hf, h.divided⟩

/-! ## The field -/

/-- The globals let the function come to its end: there is a type for each machine, and the delivery
periods have a length. -/
structure Globals.Playable (g : Globals) : Prop extends g.SwapsMachines where
  distribution : g.machineDistribution.length = 12
  gateTime_pos : 0 < g.deliveryGateMinTime
  gateTime_le : g.deliveryGateMinTime ≤ g.deliveryGateMaxTime
  gateTime_end : g.deliveryGateMinTime ≤ g.prodEndTime

theorem whenRandomizeGame_spec {P Q : Field → Prop} {x : Init Unit}
    (hx : Triple P x fun _ => Q) (hPQ : ∀ f, P f → Q f) :
    Triple P (whenRandomizeGame g x) fun _ => Q := by
  unfold whenRandomizeGame
  split
  · exact hx
  · exact Triple.pure hPQ

/-- The loop over the delivery periods ends, and it leaves the machines as they are. -/
theorem initDelivery_spec (hg : g.Playable) (h : Assigned g t) {fuel : ℕ}
    (hfuel : g.prodEndTime ≤ fuel) :
    Triple (Holds t) (initDelivery g rand fuel) fun ended f => ended = true ∧ Holds t f := by
  refine Triple.bind_get fun f hf => ?_
  split
  · have hgate : ∀ name, name ∉ cyanNames → startupType name = .deliver →
        startupTeam name = .cyan → name ∈ f.deliveryGates := by
      intro name hname htype hteam
      apply List.mem_map.mpr
      refine ⟨(name, t name), List.mem_filter.mpr ⟨hf.mem_iff.mpr rfl, ?_⟩, rfl⟩
      rw [decide_eq_true_eq, h.others name hname, h.team]
      exact ⟨htype, hteam⟩
    have hspec := initDeliveryPeriods_spec (P := Holds t) rand hg.gateTime_pos
      hg.gateTime_le hg.gateTime_end (hgate .d1 (by decide) rfl rfl)
      (hgate .d2 (by decide) rfl rfl) (by decide) hfuel
      (fun f _ _ hf => ⟨hf.machines, hf.specs⟩)
    refine hspec.mono ?_ fun ended f' h => ⟨h.1, h.2.2⟩
    rintro f' rfl
    exact ⟨rfl, hf⟩
  · refine Triple.pure ?_
    rintro f' rfl
    exact ⟨rfl, hf⟩

theorem initMachines_spec (hg : g.Playable) (h : Assigned g t) :
    Triple (Holds t) (initMachines g rand) fun _ => Fields (Divided g) := by
  refine Triple.bind (Q := fun _ => Fields (Assigned g)) ?_ fun _ => Triple.fields fun t₁ h₁ => ?_
  · refine whenRandomizeGame_spec ?_ fun f hf => ⟨t, hf, h⟩
    refine Triple.bind (initDownTimes_spec h) fun _ => Triple.fields fun t₁ h₁ => ?_
    exact initProcTimes_spec.post fun _ f hf => ⟨t₁, hf, h₁⟩
  refine Triple.bind (copyRandomization_spec h₁) fun _ => Triple.fields fun t₂ h₂ => ?_
  refine Triple.bind (swapMachines_spec hg.toSwapsMachines h₂) fun _ => ?_
  refine Triple.bind (Q := fun _ => Fields (Divided g)) (Triple.modify ?_) fun _ =>
    Triple.modify ?_
  · rintro f ⟨t₃, hf, h₃⟩
    split
    · exact ⟨t₃, hf, h₃⟩
    · exact ⟨t₃, ⟨hf.machines, hf.specs⟩, h₃⟩
  · rintro f ⟨t₃, hf, h₃⟩
    exact ⟨t₃, ⟨hf.machines, hf.specs⟩, h₃⟩

variable (rand) in
theorem machineInitRandomize_spec (hg : g.Playable) {fuel : ℕ} (hfuel : g.prodEndTime ≤ fuel)
    (h : Reset t) :
    Triple (Holds t) (machineInitRandomize g rand fuel) fun ended f =>
      ended = true ∧ Fields (Divided g) f := by
  refine Triple.bind (whenRandomizeGame_spec initLightCodes_spec fun _ hf => hf) fun _ => ?_
  refine Triple.bind (resetMachines_spec h) fun _ => Triple.fields fun t₁ h₁ => ?_
  refine Triple.bind (assignTypes_spec h₁ hg.distribution) fun _ => Triple.fields fun t₂ h₂ => ?_
  refine Triple.bind_imp (initDelivery_spec hg h₂ hfuel) fun ended hended => ?_
  rw [hended, if_pos rfl]
  exact Triple.bind (initMachines_spec hg h₂) fun _ => Triple.pure fun f hf => ⟨rfl, hf⟩

/-- Both teams have the same field: each has the twelve types, and at each place there is the same
machine for one team and for the other. -/
structure SameField (g : Globals) (machines : List MachineFact) : Prop where
  names : (machines.map Prod.fst).Perm MachineName.all
  types : ∀ team, ((machines.filter fun m => m.1 ∈ mNames ∧ m.2.team = team).map
    fun m => m.2.mtype).Perm g.machineDistribution
  pairs : ∀ i, 0 < i → i ≤ 12 → ∀ m ∈ machines, ∀ m' ∈ machines, m.1 = nth i mNames →
    m'.1 = nth (i + 12) mNames →
      m.2.mtype = m'.2.mtype ∧ m.2.downPeriod = m'.2.downPeriod ∧ m.2.team ≠ m'.2.team

/-- At each place a team has one of the two machines, which are of the type of the place. -/
theorem types_of_team {l : List MachineName}
    (htype : ∀ name ∈ l, (t name).mtype = (t (machineMagentaForCyanField name)).mtype)
    (hteam : ∀ name ∈ l, (t name).team ≠ (t (machineMagentaForCyanField name)).team)
    (team : Team) :
    (((l ++ l.map machineMagentaForCyanField).filter fun name => (t name).team = team).map
      fun name => (t name).mtype).Perm (l.map fun name => (t name).mtype) := by
  induction l with
  | nil => rfl
  | cons name l ih =>
      have ih' := ih (fun n hn => htype n (List.mem_cons_of_mem name hn))
        fun n hn => hteam n (List.mem_cons_of_mem name hn)
      rw [List.filter_append, List.map_append] at ih'
      have hne := hteam name (by simp)
      rw [List.filter_append, List.map_append, List.map_cons, List.map_cons]
      by_cases hname : (t name).team = team
      · have hmagenta : (t (machineMagentaForCyanField name)).team ≠ team := by
          rw [← hname]
          exact hne.symm
        rw [List.filter_cons_of_pos (by simpa using hname),
          List.filter_cons_of_neg (by simpa using hmagenta)]
        exact ih'.cons _
      · have hmagenta : (t (machineMagentaForCyanField name)).team = team := by
          revert hne hname
          cases team <;> cases (t name).team <;>
            cases (t (machineMagentaForCyanField name)).team <;> simp
        rw [List.filter_cons_of_neg (by simpa using hname),
          List.filter_cons_of_pos (by simpa using hmagenta), List.map_cons,
          ← htype name (by simp)]
        exact List.perm_middle.trans (ih'.cons _)

theorem Divided.sameField (h : Divided g t) (hf : Holds t f) : SameField g f.machines where
  names := hf.machines.keys_perm
  types team := by
    have hnames : (MachineName.all.filter fun name => name ∈ mNames ∧ (t name).team = team) =
        mNames.filter fun name => (t name).team = team := by
      have hfilter : mNames = MachineName.all.filter fun name => name ∈ mNames := by decide
      conv_rhs => rw [hfilter]
      rw [List.filter_filter]
      apply List.filter_congr
      intro name _
      rw [Bool.decide_and, Bool.and_comm]
    have hperm := (hf.machines.filter_perm fun m => m.1 ∈ mNames ∧ m.2.team = team).map
      fun m => m.2.mtype
    rw [List.map_map, hnames] at hperm
    have hpairs : mNames = cyanNames ++ cyanNames.map machineMagentaForCyanField := rfl
    rw [hpairs] at hperm
    exact hperm.trans ((types_of_team (fun name hname => (h.pairs name hname).1) h.teams team).trans
      h.types)
  pairs i hi hi' m hm m' hm' hname hname' := by
    obtain ⟨hcyan, hfield⟩ := nth_mem_cyanNames i (List.mem_range'_1.mpr ⟨hi, by omega⟩)
    rw [hf.mem_iff.mp hm, hf.mem_iff.mp hm', hname, hname', hfield]
    obtain ⟨htype, hdown⟩ := h.pairs _ hcyan
    exact ⟨htype, hdown, h.teams _ hcyan⟩

/-- The globals as they are set, in a phase of a tournament. -/
def Globals.ofPhase (randomizeGame : Bool) (tournamentPhase : TournamentPhase) : Globals :=
  { randomizeGame, tournamentPhase }

theorem Globals.ofPhase_playable (randomizeGame : Bool) (tournamentPhase : TournamentPhase) :
    (Globals.ofPhase randomizeGame tournamentPhase).Playable where
  roundRobin := by simp [Globals.ofPhase]
  playOffs := by simp [Globals.ofPhase]
  finals := by simp [Globals.ofPhase]
  distribution := rfl
  gateTime_pos := by simp [Globals.ofPhase]
  gateTime_le := by simp [Globals.ofPhase]
  gateTime_end := by simp [Globals.ofPhase, Globals.prodEndTime]

/-- From the startup facts both teams get the same field, in every phase and for every draw. -/
theorem same_field (rand : ℕ → ℕ) (randomizeGame : Bool) (tournamentPhase : TournamentPhase)
    (f : Field) (fuel : ℕ) (hmachines : f.machines = startupMachines)
    (hspecs : f.specs = startupSpecs) (hfuel : 1200 ≤ fuel) :
    let g := Globals.ofPhase randomizeGame tournamentPhase
    (machineInitRandomize g rand fuel f).1 = true ∧
      SameField g (machineInitRandomize g rand fuel f).2.machines := by
  intro g
  have hstart : Holds (fun name => { team := startupTeam name, mtype := startupType name }) f := by
    refine ⟨?_, ?_⟩
    · rw [hmachines]
      exact List.Perm.refl _
    · rw [hspecs]
      rfl
  have hspec := machineInitRandomize_spec rand
    (Globals.ofPhase_playable randomizeGame tournamentPhase) hfuel
    (fun name => ⟨rfl, rfl⟩ : Reset fun name =>
      { team := startupTeam name, mtype := startupType name })
  obtain ⟨hended, t, hf, ht⟩ := hspec f hstart
  exact ⟨hended, ht.sameField hf⟩

theorem same_field_of_finals :
    let g := Globals.ofPhase true .finals
    (machineInitRandomize g id 1200 (startupField 0)).1 = true ∧
      SameField g (machineInitRandomize g id 1200 (startupField 0)).2.machines :=
  same_field id true .finals (startupField 0) 1200 rfl rfl (by decide)

end FactoryHub.Llsf
