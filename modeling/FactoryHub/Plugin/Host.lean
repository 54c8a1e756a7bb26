import FactoryHub.Plugin.Accounts
import FactoryHub.Threads.WholeLists

/-!
# The plugins over the thread manager

The modules of the plugin manager are the `PluginLoader`, whose objects have a list of threads each, and the
`ThreadManager`. What a module and its threads do at a call is arbitrary. A thread that cannot be finalized
has to say so when it is prepared, as the comment of `Thread::finalize` demands.

* `plugins_run` — as long as the plugins are not left locked, the threads of the loaded plugins run, and no
  others.
-/

namespace FactoryHub.Plugin

open Lib Config Threads

/-! ## The host -/

/-- An object of a plugin: the call that made it, and the name of the plugin. -/
abbrev Instance := ℕ × String

/-- A thread that the constructor of a plugin makes. -/
structure ThreadOf where
  name : String
  aspects : List String
  rtti : List String

/-- The modules, and what they do at a call. -/
structure Host where
  threads : String → List ThreadOf
  /-- What `open_module` and `create_instance` throw. -/
  load : ℕ → String → Option Failure := fun _ _ => none
  outcomes : ℕ → Outcomes Instance := fun _ => {}

/-- What the modules change. -/
structure World where
  threads : ThreadManager Instance
  calls : ℕ := 0
  /-- `name_plugin_map`. -/
  object : String → Option ℕ := fun _ => none

namespace Host

variable (host : Host)

/-- The lists of threads. A list has the name of its plugin. -/
def lists : ThreadLists Instance where
  threads l := (host.threads l.2).zipIdx.map fun t =>
    { list := l, index := t.2, name := t.1.name, aspects := t.1.aspects, rtti := t.1.rtti }
  name l := l.2

/-- `PluginLoader::load`: the object that the loader has, or else a new one. -/
def objectOf (name : String) (w : World) : Except Failure ℕ :=
  match w.object name with
  | some call => .ok call
  | none =>
      match host.load w.calls name with
      | some e => .error e
      | none => .ok w.calls

/-- The `PluginLoader`, with the `ThreadManager`. -/
def modules : Modules World where
  load name w :=
    match host.objectOf name w with
    | .error e => ({ w with calls := w.calls + 1 }, .notLoaded e)
    | .ok call =>
        match w.threads.add host.lists (host.outcomes w.calls) (call, name) with
        | (threads, none) =>
            ({ threads, calls := w.calls + 1, object := Function.update w.object name (some call) }, .loaded)
        | (threads, some e) =>
            -- The plugin is unloaded for a `CannotInitializeThreadException` alone.
            if e.kind = .cannotInitializeThread then
              ({ threads, calls := w.calls + 1, object := Function.update w.object name none },
                .notInitialized e.messages)
            else
              ({ threads, calls := w.calls + 1, object := Function.update w.object name (some call) },
                .failed { messages := e.messages })
  unload name w :=
    match w.object name with
    -- not for a plugin that is loaded
    | none => ({ w with calls := w.calls + 1 }, none)
    | some call =>
        match w.threads.remove host.lists (host.outcomes w.calls) (call, name) with
        | (threads, some e) => ({ w with threads, calls := w.calls + 1 }, some { messages := e.messages })
        | (threads, none) =>
            ({ threads, calls := w.calls + 1, object := Function.update w.object name none }, none)

/-- A thread that cannot be finalized says so when it is prepared, and not while it is finalized. -/
def Prepared : Prop := ∀ call t, (host.outcomes call).refuses t = false

variable {host}

theorem own_lists : host.lists.Own where
  nodup l := by
    have hindex : ((host.lists.threads l).map Thread.index).Nodup := by
      rw [lists, List.map_map]
      show ((host.threads l.2).zipIdx.map Prod.snd).Nodup
      rw [List.zipIdx_map_snd]
      exact List.nodup_range'
    exact hindex.of_map
  own l t ht := by
    obtain ⟨_, -, rfl⟩ := List.mem_map.mp ht
    rfl

/-! ## Loaded plugins run -/

/-- The objects are those of the plugins, and their threads run; the lists to come are fresh. -/
structure Hosts (host : Host) (plugins : List String) (w : World) : Prop where
  nodup : plugins.Nodup
  object : ∀ name, (w.object name).isSome = true ↔ name ∈ plugins
  made : ∀ name call, w.object name = some call → call < w.calls
  up : ∀ name call, w.object name = some call → Up host.lists w.threads (call, name)
  down : ∀ name call, w.object name ≠ some call → Down host.lists w.threads (call, name)
  fresh : ∀ name call, w.calls ≤ call → w.threads.isSealed (call, name) = false

variable {plugins : List String} {w : World} {name : String}

namespace Hosts

theorem init {inifins : List String} : Hosts host [] { threads := { inifins } } where
  nodup := .nil
  object name := by simp
  made name call h := by cases h
  up name call h := by cases h
  down name call _ := by
    refine ⟨fun t _ => ⟨rfl, rfl, rfl, fun a => List.not_mem_nil⟩, fun t _ => rfl, fun _ t _ => rfl⟩
  fresh name call _ := rfl

/-- A call that changes nothing else. -/
theorem tick (h : Hosts host plugins w) : Hosts host plugins { w with calls := w.calls + 1 } :=
  { h with
    made := fun name call hobject => (h.made name call hobject).trans (Nat.lt_succ_self _)
    fresh := fun name call hcall => h.fresh name call (Nat.le_of_succ_le hcall) }

/-- The list of an object that is made does not run. -/
theorem down_new (h : Hosts host plugins w) : Down host.lists w.threads (w.calls, name) :=
  h.down name w.calls fun hobject => Nat.lt_irrefl _ (h.made name w.calls hobject)

/-- The loader has no object of a plugin that is not loaded. -/
theorem object_eq_none (h : Hosts host plugins w) (hnew : name ∉ plugins) : w.object name = none := by
  rw [← Option.not_isSome_iff_eq_none, h.object]
  exact hnew

/-- A plugin that is not loaded cannot be opened, or its threads run, or they throw and nothing changes, or
they throw another exception than `CannotInitializeThreadException`. -/
theorem load_cases (h : Hosts host plugins w) (hnew : name ∉ plugins) :
    (∃ e, host.modules.load name w = ({ w with calls := w.calls + 1 }, e) ∧ e ≠ .loaded) ∨
      (∃ m', host.modules.load name w =
          ({ threads := m', calls := w.calls + 1, object := Function.update w.object name (some w.calls) },
            .loaded) ∧
        Up host.lists m' (w.calls, name) ∧ Frame (w.calls, name) w.threads m') ∨
      ∃ f, (host.modules.load name w).2 = .failed f := by
  have hnone := h.object_eq_none hnew
  simp only [modules, objectOf, hnone]
  cases hload : host.load w.calls name with
  | some e => exact .inl ⟨_, rfl, by simp⟩
  | none =>
      have hdown : Down host.lists w.threads (w.calls, name) := h.down_new
      dsimp only
      rcases ThreadManager.add_cases (o := host.outcomes w.calls) own_lists hdown with
        ⟨e, hadd⟩ | ⟨m', hadd, hup, hframe⟩ | ⟨⟨m', e, hadd, hkind⟩, -⟩
      · rw [hadd]
        dsimp only
        split
        · refine .inl ⟨.notInitialized e.messages, ?_, by simp⟩
          rw [← hnone, Function.update_eq_self]
        · exact .inr (.inr ⟨_, rfl⟩)
      · rw [hadd]
        exact .inr (.inl ⟨m', rfl, hup, hframe⟩)
      · rw [hadd]
        simp [hkind]

/-- A plugin is loaded whose threads run. -/
theorem loaded {m' : ThreadManager Instance} (h : Hosts host plugins w) (hnew : name ∉ plugins)
    (hup : Up host.lists m' (w.calls, name)) (hframe : Frame (w.calls, name) w.threads m') :
    Hosts host (plugins ++ [name])
      { threads := m', calls := w.calls + 1, object := Function.update w.object name (some w.calls) } where
  nodup := by simpa using h.nodup.concat hnew
  object other := by
    by_cases hname : other = name
    · simp [hname]
    · simp [hname, h.object]
  made other call hobject := by
    by_cases hname : other = name
    · subst hname
      simp only [Function.update_self, Option.some.injEq] at hobject
      exact hobject ▸ Nat.lt_succ_self _
    · simp only [Function.update_of_ne hname] at hobject
      exact (h.made other call hobject).trans (Nat.lt_succ_self _)
  up other call hobject := by
    by_cases hname : other = name
    · subst hname
      simp only [Function.update_self, Option.some.injEq] at hobject
      exact hobject ▸ hup
    · simp only [Function.update_of_ne hname] at hobject
      exact hframe.up own_lists (by simp [hname]) (h.up other call hobject)
  down other call hobject := by
    by_cases hname : other = name
    · subst hname
      simp only [Function.update_self, ne_eq, Option.some.injEq] at hobject
      have hne : w.object other ≠ some call := by
        intro hheld
        exact hnew ((h.object other).mp (by rw [hheld]; rfl))
      exact hframe.down own_lists (by simp [Ne.symm hobject]) (h.down other call hne)
    · simp only [Function.update_of_ne hname] at hobject
      exact hframe.down own_lists (by simp [hname]) (h.down other call hobject)
  fresh other call hcall := by
    have hne : (call, other) ≠ (w.calls, name) := fun heq => Nat.ne_of_gt hcall (congrArg Prod.fst heq)
    rw [hframe.isSealed (call, other) hne]
    exact h.fresh other call (Nat.le_of_succ_le hcall)

/-- `remove` of an object throws and changes nothing, or its threads do not run. -/
theorem remove_cases {call : ℕ} (hprepared : host.Prepared) (h : Hosts host plugins w)
    (hobject : w.object name = some call) :
    (∃ e, w.threads.remove host.lists (host.outcomes w.calls) (call, name) = (w.threads, some e)) ∨
      ∃ m', w.threads.remove host.lists (host.outcomes w.calls) (call, name) = (m', none) ∧
        Down host.lists m' (call, name) ∧ Frame (call, name) w.threads m' := by
  rcases ThreadManager.remove_of_up (o := host.outcomes w.calls) own_lists (h.up name call hobject) with
    ⟨e, heq, -⟩ | ⟨m', e, -, -, -, hany⟩ | hremoved
  · exact .inl ⟨e, heq⟩
  · obtain ⟨t, -, hrefuses⟩ := List.any_eq_true.mp hany
    rw [hprepared] at hrefuses
    cases hrefuses
  · exact .inr hremoved

/-- A plugin is unloaded whose threads do not run. -/
theorem unloaded {call : ℕ} {m' : ThreadManager Instance} (h : Hosts host plugins w)
    (hobject : w.object name = some call) (hdown : Down host.lists m' (call, name))
    (hframe : Frame (call, name) w.threads m') :
    Hosts host (plugins.erase name)
      { threads := m', calls := w.calls + 1, object := Function.update w.object name none } where
  nodup := h.nodup.erase name
  object other := by
    rw [h.nodup.mem_erase_iff]
    by_cases hname : other = name
    · simp [hname]
    · simp [hname, h.object]
  made other call' hheld := by
    by_cases hname : other = name
    · simp [hname] at hheld
    · simp only [Function.update_of_ne hname] at hheld
      exact (h.made other call' hheld).trans (Nat.lt_succ_self _)
  up other call' hheld := by
    by_cases hname : other = name
    · simp [hname] at hheld
    · simp only [Function.update_of_ne hname] at hheld
      exact hframe.up own_lists (by simp [hname]) (h.up other call' hheld)
  down other call' hheld := by
    by_cases heq : (call', other) = (call, name)
    · cases heq
      exact hdown
    · refine hframe.down own_lists heq (h.down other call' ?_)
      intro hbefore
      by_cases hname : other = name
      · subst hname
        rw [hobject, Option.some.injEq] at hbefore
        exact heq (by rw [hbefore])
      · exact hheld (by simpa [hname] using hbefore)
  fresh other call' hcall := by
    have hne : (call', other) ≠ (call, name) := by
      intro heq
      cases heq
      exact absurd (h.made _ _ hobject) (Nat.not_lt.mpr (Nat.le_of_succ_le hcall))
    rw [hframe.isSealed (call', other) hne]
    exact h.fresh other call' (Nat.le_of_succ_le hcall)

end Hosts

/-- The modules keep the threads of the plugins running. -/
theorem keeps (hprepared : host.Prepared) : host.modules.Keeps (Hosts host) where
  loaded name plugins w hnew h hattempt := by
    rcases h.load_cases hnew with ⟨e, hload, hnot⟩ | ⟨m', hload, hup, hframe⟩ | ⟨f, hload⟩
    · rw [hload] at hattempt
      exact absurd hattempt hnot
    · rw [hload]
      exact h.loaded hnew hup hframe
    · rw [hload] at hattempt
      cases hattempt
  thrown name plugins w hnew h hattempt hfailed := by
    rcases h.load_cases hnew with ⟨e, hload, -⟩ | ⟨m', hload, -, -⟩ | ⟨f, hload⟩
    · rw [hload]
      exact h.tick
    · rw [hload] at hattempt
      exact absurd rfl hattempt
    · exact absurd hload (hfailed f)
  unloaded name plugins w hmem h hremoved := by
    obtain ⟨call, hobject⟩ := Option.isSome_iff_exists.mp ((h.object name).mpr hmem)
    simp only [modules, hobject] at hremoved ⊢
    rcases h.remove_cases hprepared hobject with ⟨e, hremove⟩ | ⟨m', hremove, hdown, hframe⟩
    · simp [hremove] at hremoved
    · simp only [hremove]
      exact h.unloaded hobject hdown hframe
  refused name plugins w hmem h hremoved := by
    obtain ⟨call, hobject⟩ := Option.isSome_iff_exists.mp ((h.object name).mpr hmem)
    simp only [modules, hobject] at hremoved ⊢
    rcases h.remove_cases hprepared hobject with ⟨e, hremove⟩ | ⟨m', hremove, -, -⟩
    · simp only [hremove]
      exact h.tick
    · simp [hremove] at hremoved

end Host

/-- Over every run of calls of the plugin manager after which the lock of the plugins is free, the threads of
each plugin that is loaded run, all of them and with all their aspects, and those of every other object that
was made of a plugin do not. -/
theorem plugins_run {host : Host} {inifins : List String} {metaPluginPrefix : String}
    {tr : List (Step (PluginManager World) Call)} {m : PluginManager World} (hprepared : host.Prepared)
    (hrun : Run (PluginStep metaPluginPrefix host.modules) { world := { threads := { inifins } } } tr m)
    (hfree : m.locked = false) :
    (∀ name, (m.world.object name).isSome = true ↔ name ∈ m.plugins) ∧
      ∀ name call, (m.world.object name = some call → Up host.lists m.world.threads (call, name)) ∧
        (m.world.object name ≠ some call → Down host.lists m.world.threads (call, name)) := by
  have h := (Host.keeps hprepared).run hrun Host.Hosts.init hfree
  exact ⟨h.object, fun name call => ⟨h.up name call, h.down name call⟩⟩

/-- The second thread of the second plugin throws while it is initialized. -/
def failingBelt : Host where
  threads name :=
    if name = "clips" then [⟨"clips", ["LoggingAspect"], ["LoggingAspect"]⟩]
    else [⟨"belt", ["LoggingAspect"], ["LoggingAspect"]⟩, ⟨"drill", [], []⟩]
  outcomes _ := { init := fun t => if t.index = 1 then some .unknown else none }

def freshManager : PluginManager World where
  world := { threads := { inifins := ["LoggingAspect"] } }

theorem isSome_load_failingBelt :
    (PluginManager.load "/llsfrb/meta_plugins/" .new failingBelt.modules 1 "clips,belt"
      freshManager).isSome = true := by
  decide +kernel

/-- What the call leaves. -/
def clipsOnly : PluginManager World :=
  ((PluginManager.load "/llsfrb/meta_plugins/" .new failingBelt.modules 1 "clips,belt"
    freshManager).get isSome_load_failingBelt).1

theorem plugins_run_of_failing : ∃ tr, Run (PluginStep "/llsfrb/meta_plugins/" failingBelt.modules)
      freshManager tr clipsOnly ∧
    clipsOnly.plugins = ["clips"] ∧ Up failingBelt.lists clipsOnly.world.threads (0, "clips") ∧
      Down failingBelt.lists clipsOnly.world.threads (1, "belt") := by
  have hrun : Run (PluginStep "/llsfrb/meta_plugins/" failingBelt.modules) freshManager
      [⟨freshManager, .load .new "clips,belt", clipsOnly⟩] clipsOnly :=
    .step .init ⟨1, _, (Option.some_get isSome_load_failingBelt).symm⟩
  obtain ⟨-, hthreads⟩ := plugins_run (fun _ _ => rfl) hrun (by decide +kernel)
  refine ⟨_, hrun, by decide +kernel, ?_, ?_⟩
  · exact (hthreads "clips" 0).1 (by decide +kernel)
  · exact (hthreads "belt" 1).2 (by decide +kernel)

end FactoryHub.Plugin
