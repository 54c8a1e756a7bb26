import FactoryHub.Lib.Table
import FactoryHub.Llsf.MachineInit

/-!
# The machine facts as a table

While the machines are initialised, there is one fact for each machine, in an order that `modify`
changes. `Holds t` says that the facts are those of the table `t`; the parts of the function are
updates of it.

* `modifyMachine_spec` — the update of one machine.
* `forEach_spec`, `forEach_sameKind` — loops over the facts that a query has found.
-/

namespace FactoryHub.Llsf

open Clips Lib Init

variable {rand : ℕ → ℕ}

/-! ## The machines as a table -/

theorem MachineName.nodup_all : MachineName.all.Nodup := by decide

/-- The machine facts are those of `t`, and there are specs for the types T1 to T5. -/
structure Holds (t : MachineName → Machine) (f : Field) : Prop where
  machines : Tabulates MachineName.all t f.machines
  specs : f.specs.map SpecFact.mtype = [.t1, .t2, .t3, .t4, .t5]

namespace Holds

variable {t : MachineName → Machine} {f : Field}

theorem mem_iff (h : Holds t f) {m : MachineFact} : m ∈ f.machines ↔ m.2 = t m.1 := by
  rw [h.machines.mem_facts_iff]
  exact and_iff_right m.1.mem_all

theorem find (h : Holds t f) (name : MachineName) :
    f.machines.find? (fun m => m.1 = name) = some (name, t name) := h.machines.find name.mem_all

/-- The number of draws plays no part. -/
theorem draws (h : Holds t f) (n : ℕ) : Holds t { f with draws := n } := ⟨h.machines, h.specs⟩

end Holds

/-- The machine facts are those of a table that meets `A`. -/
def Fields (A : (MachineName → Machine) → Prop) (f : Field) : Prop := ∃ t, Holds t f ∧ A t

theorem Fields.draws {A : (MachineName → Machine) → Prop} {f : Field} (h : Fields A f) (n : ℕ) :
    Fields A { f with draws := n } := by
  obtain ⟨t, hf, ht⟩ := h
  exact ⟨t, hf.draws n, ht⟩

theorem Triple.fields {α : Type} {A : (MachineName → Machine) → Prop} {x : Init α}
    {Q : α → Field → Prop} (h : ∀ t, A t → Triple (Holds t) x Q) : Triple (Fields A) x Q := by
  rintro f ⟨t, hf, ht⟩
  exact h t ht f hf

theorem draw_holds {α : Type} (x : StateM ℕ α) {t : MachineName → Machine} :
    Triple (Holds t) (draw x) fun _ => Holds t := draw_frame fun _ n hf => hf.draws n

theorem draw_randomize_spec {α : Type} [Inhabited α] (l : List α) {t : MachineName → Machine} :
    Triple (Holds t) (draw (randomize rand l)) fun l' f => l'.Perm l ∧ Holds t f :=
  draw_spec (p := fun l' : List α => l'.Perm l) (fun n => shuffleAt_perm n l)
    fun _ n hf => hf.draws n

/-! ## One machine -/

section Loops

variable {t : MachineName → Machine}

theorem modifyMachine_spec {old : MachineFact} (hold : old.2 = t old.1) (new : Machine) :
    Triple (Holds t) (modifyMachine old new) fun _ => Holds (Function.update t old.1 new) := by
  refine Triple.modify fun f hf => ?_
  rw [if_pos (List.contains_iff_mem.mpr (hf.mem_iff.mpr hold))]
  have hfact : old = (old.1, t old.1) := Prod.ext rfl hold
  refine ⟨?_, hf.specs⟩
  show Tabulates _ _ (f.machines.erase old ++ _)
  rw [hfact]
  exact hf.machines.replace MachineName.nodup_all old.1.mem_all new

/-- A loop over facts that modifies each of them. -/
theorem forEach_spec {l : List MachineFact} {body : MachineFact → Init Unit}
    {R : MachineFact → Machine → Prop} (hl : (l.map Prod.fst).Nodup) (hfacts : ∀ m ∈ l, m.2 = t m.1)
    (hbody : ∀ m ∈ l, ∀ t₁, m.2 = t₁ m.1 → Triple (Holds t₁) (body m) fun _ f =>
      ∃ new, R m new ∧ Holds (Function.update t₁ m.1 new) f) :
    Triple (Holds t) (forEach l body) fun _ => Fields fun t' =>
      (∀ m ∈ l, R m (t' m.1)) ∧ ∀ name, name ∉ l.map Prod.fst → t' name = t name := by
  have hloop := Triple.foldlM_disjoint (H := Holds) (F := fun m : MachineFact => {m.1})
    (R := fun m t' => R m (t' m.1)) (f := fun _ m => body m) (l := l) (t := t) ?_ ?_ ?_
  · refine hloop.post fun _ f => ?_
    rintro ⟨t', hf, hR, hframe⟩
    refine ⟨t', hf, hR, fun name hname => hframe name fun m hm hmem => hname ?_⟩
    rw [Set.mem_singleton_iff.mp hmem]
    exact List.mem_map_of_mem hm
  · rw [List.Nodup, List.pairwise_map] at hl
    apply hl.imp
    intro m m' hne
    simpa using hne
  · intro m t₁ t₂ heq hR
    rwa [← heq m.1 rfl]
  · intro m hm t₁ ht₁
    have hm' : m.2 = t₁ m.1 := (hfacts m hm).trans (ht₁ m.1 rfl).symm
    refine (hbody m hm t₁ hm').post fun _ f => ?_
    rintro ⟨new, hnew, hf⟩
    refine ⟨_, hf, ?_, fun name hname => Function.update_of_ne hname _ _⟩
    rwa [Function.update_self]

/-- Of the same team and type. -/
def SameKind (m m' : Machine) : Prop := m'.team = m.team ∧ m'.mtype = m.mtype

/-- A loop that changes neither teams nor types. -/
theorem forEach_sameKind {l : List MachineFact} {body : MachineFact → Init Unit}
    (hl : (l.map Prod.fst).Nodup) (hfacts : ∀ m ∈ l, m.2 = t m.1)
    (hbody : ∀ m ∈ l, ∀ t₁, m.2 = t₁ m.1 → Triple (Holds t₁) (body m) fun _ f =>
      ∃ new, SameKind m.2 new ∧ Holds (Function.update t₁ m.1 new) f) :
    Triple (Holds t) (forEach l body) fun _ => Fields fun t' =>
      ∀ name, SameKind (t name) (t' name) := by
  refine (forEach_spec hl hfacts hbody).post fun _ f => ?_
  rintro ⟨t', hf, hR, hframe⟩
  refine ⟨t', hf, fun name => ?_⟩
  by_cases hname : name ∈ l.map Prod.fst
  · obtain ⟨m, hm, rfl⟩ := List.mem_map.mp hname
    rw [← hfacts m hm]
    exact hR m hm
  · rw [hframe name hname]
    exact ⟨rfl, rfl⟩

theorem forAllMachines_sameKind {p : MachineFact → Prop} [DecidablePred p]
    (new : MachineFact → Machine) (hnew : ∀ m, SameKind m.2 (new m)) :
    Triple (Holds t) (forAllMachines p fun m => modifyMachine m (new m)) fun _ =>
      Fields fun t' => ∀ name, SameKind (t name) (t' name) := by
  refine Triple.bind_read fun f hf => ?_
  refine forEach_sameKind (hf.machines.nodup_filter MachineName.nodup_all _)
    (fun m hm => hf.mem_iff.mp (List.mem_of_mem_filter hm)) fun m _ t₁ hm => ?_
  refine (modifyMachine_spec hm (new m)).post fun _ f' hf' => ?_
  exact ⟨new m, hnew m, hf'⟩

end Loops

end FactoryHub.Llsf
