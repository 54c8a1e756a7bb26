import FactoryHub.Plugin.Manager

/-!
# What the plugin manager accounts for

Over the runs of calls of `load` and `unload` that return, with whatever is beneath the manager.

* `PluginManager.notices_account` — as long as the plugins are not left locked, what a listener was told is
  what is loaded, and the ids are those of the real plugins.
* `PluginManager.components_loaded` — the real plugins that a loaded meta plugin lists are loaded.
-/

namespace FactoryHub.Plugin

open Lib Config

variable {ω : Type} {w : ω} {metaPluginPrefix : String} {root : YamlConfigurationNode} {modules : Modules ω}
  {m m' : PluginManager ω} {name pset : String} {names pending : List String} {r : Result ω}

/-! ## Notices and ids -/

/-- What holds of a manager while the pending meta plugins are being loaded. -/
structure Sound (pending : List String) (m : PluginManager ω) : Prop where
  sorted : SortedMap.Sorted m.metaPlugins
  nodup : m.plugins.Nodup
  loader : ∀ name, name ∈ m.namePluginMap ↔ name ∈ m.plugins
  ids : ∀ name, (SortedMap.get name m.pluginIds).isSome = true ↔ name ∈ m.plugins
  ids_lt : ∀ name id, SortedMap.get name m.pluginIds = some id → id < m.nextPluginId
  ids_inj : ∀ name name' id, SortedMap.get name m.pluginIds = some id →
    SortedMap.get name' m.pluginIds = some id → name = name'
  told : ∀ name, m.notices.count (.loaded name) + pending.count name =
    m.notices.count (.unloaded name) + m.getLoadedPlugins.count name

namespace Sound

theorem init : Sound [] { world := w } where
  sorted := .nil
  nodup := .nil
  loader _ := Iff.rfl
  ids name := by simp
  ids_lt name id h := by simp at h
  ids_inj name name' id h := by simp at h
  told name := rfl

theorem added (h : Sound pending m) (hnew : name ∉ m.plugins) : Sound pending (m.added name) where
  sorted := h.sorted
  nodup := by simpa [PluginManager.added] using h.nodup.concat hnew
  loader other := by
    simp only [PluginManager.added, List.mem_cons, List.mem_append, h.loader, List.not_mem_nil, or_false]
    exact or_comm
  ids other := by
    rw [PluginManager.added, SortedMap.get_set, List.mem_append, List.mem_singleton, ← h.ids]
    by_cases hother : name = other
    · simp [hother]
    · simp [hother, Ne.symm hother]
  ids_lt other id hget := by
    simp only [PluginManager.added, SortedMap.get_set] at hget ⊢
    split at hget
    · cases hget
      exact Nat.lt_succ_self _
    · exact Nat.lt_succ_of_lt (h.ids_lt other id hget)
  ids_inj other other' id hget hget' := by
    simp only [PluginManager.added, SortedMap.get_set] at hget hget'
    split at hget <;> split at hget'
    · next heq heq' => exact heq.symm.trans heq'
    · cases hget
      exact absurd (h.ids_lt other' _ hget') (lt_irrefl _)
    · cases hget'
      exact absurd (h.ids_lt other _ hget) (lt_irrefl _)
    · exact h.ids_inj other other' id hget hget'
  told other := by
    have htold := h.told other
    simp only [PluginManager.added, PluginManager.getLoadedPlugins, List.count_append,
      List.count_singleton] at htold ⊢
    by_cases hother : name = other
    · subst hother
      simp
      omega
    · simpa [hother] using htold

theorem setWorld (h : Sound pending m) : Sound pending (m.setWorld w) := { h with }

/-- A real plugin keeps it, as long as it does not leave the plugins locked. -/
theorem loadsReal (hload : LoadsReal modules name m r) (h : m.locked = false → Sound pending m)
    (hfree : r.1.locked = false) : Sound pending r.1 := by
  cases hload with
  | there hmem => exact h hfree
  | added hnew hload => exact (h hfree).setWorld.added hnew
  | thrown hnew hload hfailed hmeta => exact (h hfree).setWorld
  | failed hload hmeta => cases hfree

theorem setMeta (h : Sound pending m) (hnot : m.isMeta name = false) :
    Sound (name :: pending) (m.setMeta name pset) :=
  { h with
    sorted := h.sorted.set
    told := by
      intro other
      have hnone : SortedMap.get name m.metaPlugins = none := by
        simpa [PluginManager.isMeta] using hnot
      have hperm := ((SortedMap.set_perm (a := pset) hnone).map Prod.fst).count_eq other
      have htold := h.told other
      simp only [PluginManager.getLoadedPlugins, PluginManager.setMeta, List.count_append, hperm,
        List.map_cons, List.count_cons] at htold ⊢
      omega }

theorem notify (h : Sound (name :: pending) m) : Sound pending (m.notify (.loaded name)) :=
  { h with
    told := by
      intro other
      have htold := h.told other
      simp only [PluginManager.getLoadedPlugins, PluginManager.notify, List.count_append,
        List.count_cons] at htold ⊢
      by_cases hother : name = other
      · subst hother
        simp at htold ⊢
        omega
      · simpa [hother] using htold }

theorem eraseMeta (h : Sound (name :: pending) m) (hmeta : m.isMeta name = true) :
    Sound pending (m.eraseMeta name) :=
  { h with
    sorted := h.sorted.del
    told := by
      intro other
      obtain ⟨pset, hget⟩ := Option.isSome_iff_exists.mp hmeta
      have hperm := ((SortedMap.del_perm h.sorted hget).map Prod.fst).count_eq other
      have htold := h.told other
      simp only [PluginManager.getLoadedPlugins, PluginManager.eraseMeta, List.count_append, hperm,
        List.map_cons, List.count_cons] at htold ⊢
      omega }

/-- Loading keeps it, as long as the plugins are not left locked. A meta plugin is pending while its list is
loaded. -/
theorem loads (hloads : Loads metaPluginPrefix root modules names m r)
    (h : m.locked = false → Sound pending m) (hfree : r.1.locked = false) : Sound pending r.1 := by
  have hset : ∀ {name pset : String} {m m' : PluginManager ω}, Grows (m.setMeta name pset) m' →
      m'.isMeta name = true := fun {name pset m m'} hgrows => hgrows.isMeta (by
    simp [PluginManager.isMeta, PluginManager.setMeta, SortedMap.get_set_self])
  induction hloads generalizing pending with
  | nil => exact h hfree
  | cons _ _ ih ih' => exact ih' (ih h) hfree
  | stop _ ih => exact ih h hfree
  | real _ hload => exact loadsReal hload h hfree
  | refused _ => exact h hfree
  | metaLoaded hnot _ _ ih => exact (ih (fun hfree => (h hfree).setMeta hnot) hfree).notify
  | metaFailed hnot _ hnested ih =>
      exact (ih (fun hfree => (h hfree).setMeta hnot) hfree).eraseMeta (hset hnested.grows)
  | metaNotFound hnot _ hnested hload ih =>
      refine loadsReal hload (fun hfree => ?_) hfree
      exact (ih (fun hfree => (h hfree).setMeta hnot) hfree).eraseMeta (hset hnested.grows)

theorem removed (h : Sound pending m) (hmem : name ∈ m.plugins) : Sound pending (m.removed name) where
  sorted := h.sorted
  nodup := h.nodup.erase name
  loader other := by
    simp only [PluginManager.removed, List.mem_filter, decide_eq_true_eq, h.loader,
      h.nodup.mem_erase_iff]
    exact and_comm
  ids other := by
    rw [PluginManager.removed, SortedMap.get_del, h.nodup.mem_erase_iff, ← h.ids]
    by_cases hother : name = other
    · simp [hother]
    · simp [hother, Ne.symm hother]
  ids_lt other id hget := by
    simp only [PluginManager.removed, SortedMap.get_del] at hget
    split at hget
    · cases hget
    · exact h.ids_lt other id hget
  ids_inj other other' id hget hget' := by
    simp only [PluginManager.removed, SortedMap.get_del] at hget hget'
    split at hget <;> split at hget'
    · cases hget
    · cases hget
    · cases hget'
    · exact h.ids_inj other other' id hget hget'
  told other := by
    have htold := h.told other
    have hperm := (List.perm_cons_erase hmem).count_eq other
    simp only [PluginManager.removed, PluginManager.getLoadedPlugins, List.count_append,
      List.count_cons] at htold hperm ⊢
    by_cases hother : name = other
    · subst hother
      simp at htold hperm ⊢
      omega
    · simp [hother] at htold hperm ⊢
      omega

theorem unloadMetaPlugins (h : Sound pending m) : Sound pending (m.unloadMetaPlugins name) :=
  { h with
    sorted := h.sorted.filter _
    told := by
      intro other
      have htold := h.told other
      have hperm := ((List.filter_append_perm (fun e : String × String => name ∈ parsePluginList e.2)
        m.metaPlugins).map Prod.fst).count_eq other
      have hloaded : ∀ l : List (String × String),
          (l.map fun e => Notice.unloaded e.1).count (.loaded other) = 0 := by
        intro l
        simp [List.count_eq_zero]
      have hunloaded : ∀ l : List (String × String),
          (l.map fun e => Notice.unloaded e.1).count (.unloaded other) = (l.map Prod.fst).count other := by
        intro l
        induction l with
        | nil => rfl
        | cons e l ih => simp [List.count_cons, ih]
      simp only [PluginManager.unloadMetaPlugins, PluginManager.getLoadedPlugins, List.count_append,
        List.map_append, hloaded, hunloaded] at htold hperm ⊢
      simp only [decide_not] at hperm ⊢
      omega }

theorem unload (h : m.locked = false → Sound pending m) (hunload : m.unload name modules = some r)
    (hfree : r.1.locked = false) : Sound pending r.1 := by
  rcases PluginManager.unload_cases hunload with ⟨hmem, -, heq⟩ | ⟨-, -, heq⟩ | ⟨-, heq⟩
  · rw [heq] at hfree ⊢
    have hworld : Sound pending (m.setWorld (modules.unload name m.world).1) := (h hfree).setWorld
    exact (hworld.removed hmem).unloadMetaPlugins
  · rw [heq] at hfree ⊢
    exact (h hfree).setWorld
  · rw [heq] at hfree ⊢
    exact h hfree

end Sound

namespace PluginManager

/-- Over every run of calls after which the lock of the plugins is free, a listener was told once more that
a plugin was loaded than that it was unloaded for every time that it is listed as loaded. Exactly what is
listed is said to be loaded. A real plugin is loaded once and has an id that no other has. -/
theorem notices_account {tr : List (Step (PluginManager ω) Call)}
    (hrun : Run (PluginStep metaPluginPrefix modules) { world := w } tr m) (hfree : m.locked = false) :
    (∀ name, m.notices.count (.loaded name) =
        m.notices.count (.unloaded name) + m.getLoadedPlugins.count name) ∧
      (∀ name, m.isLoaded name = true ↔ name ∈ m.getLoadedPlugins) ∧ m.plugins.Nodup ∧
      (∀ name, name ∈ m.plugins ↔ ∃ id, SortedMap.get name m.pluginIds = some id) ∧
      ∀ name name' id, SortedMap.get name m.pluginIds = some id →
        SortedMap.get name' m.pluginIds = some id → name = name' := by
  have hsound : Sound [] m := by
    refine @Run.invariant _ _ _ _ _ _ (fun m => m.locked = false → Sound [] m)
      (fun _ => Sound.init) ?_ hrun hfree
    rintro m (⟨root, pluginList⟩ | ⟨name⟩) m' hm ⟨_, h⟩
    · obtain ⟨e, h⟩ := h
      exact Sound.loads (loads_of_load h) hm
    · exact Sound.unload hm h
  refine ⟨fun name => ?_, fun name => ?_, hsound.nodup, fun name => ?_, hsound.ids_inj⟩
  · simpa using hsound.told name
  · rw [mem_getLoadedPlugins, isLoaded, Bool.or_eq_true, decide_eq_true_eq, hsound.loader]
  · rw [← hsound.ids, Option.isSome_iff_exists]

/-- The manager that has loaded the meta plugin. -/
def allLoaded : PluginManager ℕ where
  world := 2
  plugins := ["clips"]
  pluginIds := [("clips", 1)]
  nextPluginId := 2
  metaPlugins := [("all", "clips,all")]
  namePluginMap := ["clips"]
  notices := [.loaded "clips", .loaded "all"]

theorem run_allLoaded : Run (PluginStep "/llsfrb/meta_plugins/" firstOnly) { world := 0 }
    [⟨{ world := 0 }, .load withAll "all", allLoaded⟩] allLoaded :=
  .step .init ⟨3, none, by decide +kernel⟩

/-- With its plugin the meta plugin is unloaded. -/
theorem notices_account_of_all : ∃ tr m, Run (PluginStep "/llsfrb/meta_plugins/" firstOnly) { world := 0 } tr m ∧
    m.notices = [.loaded "clips", .loaded "all", .unloaded "clips", .unloaded "all"] ∧
    ∀ name, m.notices.count (.loaded name) =
      m.notices.count (.unloaded name) + m.getLoadedPlugins.count name := by
  have hunload : PluginStep "/llsfrb/meta_plugins/" firstOnly allLoaded (.unload "clips")
      ((allLoaded.removed "clips").unloadMetaPlugins "clips") := ⟨none, rfl⟩
  have hrun := run_allLoaded.step hunload
  exact ⟨_, _, hrun, by decide +kernel, (notices_account hrun rfl).1⟩

end PluginManager

/-! ## What is beneath the manager -/

section

variable {I : List String → ω → Prop}

/-- What holds of the real plugins and of what is beneath, and is kept by the modules as long as they do not
leave the plugins locked. -/
structure Modules.Keeps (modules : Modules ω) (I : List String → ω → Prop) : Prop where
  loaded : ∀ name plugins w, name ∉ plugins → I plugins w → (modules.load name w).2 = .loaded →
    I (plugins ++ [name]) (modules.load name w).1
  thrown : ∀ name plugins w, name ∉ plugins → I plugins w → (modules.load name w).2 ≠ .loaded →
    (∀ f, (modules.load name w).2 ≠ .failed f) → I plugins (modules.load name w).1
  unloaded : ∀ name plugins w, name ∈ plugins → I plugins w → (modules.unload name w).2 = none →
    I (plugins.erase name) (modules.unload name w).1
  refused : ∀ name plugins w, name ∈ plugins → I plugins w → (modules.unload name w).2 ≠ none →
    I plugins (modules.unload name w).1

namespace Modules.Keeps

theorem loadsReal (h : modules.Keeps I) (hload : LoadsReal modules name m r)
    (hI : m.locked = false → I m.plugins m.world) (hfree : r.1.locked = false) :
    I r.1.plugins r.1.world := by
  cases hload with
  | there hmem => exact hI hfree
  | added hnew hload => exact h.loaded name _ _ hnew (hI hfree) hload
  | thrown hnew hload hfailed hmeta => exact h.thrown name _ _ hnew (hI hfree) hload hfailed
  | failed hload hmeta => cases hfree

theorem loads (h : modules.Keeps I) (hloads : Loads metaPluginPrefix root modules names m r)
    (hI : m.locked = false → I m.plugins m.world) (hfree : r.1.locked = false) :
    I r.1.plugins r.1.world := by
  induction hloads with
  | nil => exact hI hfree
  | cons _ _ ih ih' => exact ih' (ih hI) hfree
  | stop _ ih => exact ih hI hfree
  | real _ hload => exact h.loadsReal hload hI hfree
  | refused _ => exact hI hfree
  | metaLoaded _ _ _ ih => exact ih hI hfree
  | metaFailed _ _ _ ih => exact ih hI hfree
  | metaNotFound _ _ _ hload ih => exact h.loadsReal hload (ih hI) hfree

theorem unload (h : modules.Keeps I) (hunload : m.unload name modules = some r)
    (hI : m.locked = false → I m.plugins m.world) (hfree : r.1.locked = false) :
    I r.1.plugins r.1.world := by
  rcases PluginManager.unload_cases hunload with ⟨hmem, hunloaded, heq⟩ | ⟨hmem, hrefused, heq⟩ | ⟨-, heq⟩
  · rw [heq] at hfree ⊢
    exact h.unloaded name _ _ hmem (hI hfree) hunloaded
  · rw [heq] at hfree ⊢
    exact h.refused name _ _ hmem (hI hfree) hrefused
  · rw [heq] at hfree ⊢
    exact hI hfree

/-- It holds in every run after which the lock of the plugins is free. -/
theorem run (h : modules.Keeps I) {tr : List (Step (PluginManager ω) Call)}
    (hrun : Run (PluginStep metaPluginPrefix modules) { world := w } tr m) (hinit : I [] w)
    (hfree : m.locked = false) : I m.plugins m.world := by
  refine @Run.invariant _ _ _ _ _ _ (fun m => m.locked = false → I m.plugins m.world)
    (fun _ => hinit) ?_ hrun hfree
  rintro m (⟨root, pluginList⟩ | ⟨name⟩) m' hm ⟨_, hcall⟩
  · obtain ⟨e, hcall⟩ := hcall
    exact h.loads (PluginManager.loads_of_load hcall) hm
  · exact h.unload hcall hm

end Modules.Keeps

end

/-! ## Components -/

/-- The configuration has no meta plugin of this name. -/
def NoMeta (metaPluginPrefix : String) (root : YamlConfigurationNode) (name : String) : Prop :=
  ∃ e, metaPlugin metaPluginPrefix root name = .error e ∧ e.entryNotFound = true

/-- The meta plugins are those of the configuration, and those that are not pending have their real plugins
loaded. -/
structure Complete (metaPluginPrefix : String) (root : YamlConfigurationNode) (pending : List String)
    (m : PluginManager ω) : Prop where
  configured : ∀ name pset, (name, pset) ∈ m.metaPlugins → metaPlugin metaPluginPrefix root name = .ok pset
  components : ∀ name pset, (name, pset) ∈ m.metaPlugins → name ∉ pending →
    ∀ c ∈ parsePluginList pset, NoMeta metaPluginPrefix root c → c ∈ m.plugins

namespace Complete

theorem not_isMeta (h : Complete metaPluginPrefix root pending m) (hname : NoMeta metaPluginPrefix root name) :
    m.isMeta name = false := by
  rw [← Bool.not_eq_true]
  intro hmeta
  obtain ⟨pset, hget⟩ := Option.isSome_iff_exists.mp hmeta
  obtain ⟨e, he, -⟩ := hname
  have hok := h.configured name pset (SortedMap.mem_of_get hget)
  rw [he] at hok
  cases hok

theorem loadsReal (hload : LoadsReal modules name m r) (h : Complete metaPluginPrefix root pending m) :
    Complete metaPluginPrefix root pending r.1 := by
  have hmetas : r.1.metaPlugins = m.metaPlugins := by cases hload <;> rfl
  have hgrows : Grows m r.1 := .loadsReal hload
  constructor
  · rw [hmetas]
    exact h.configured
  · rw [hmetas]
    exact fun name pset hmem hname c hc hno =>
      hgrows.plugins.subset (h.components name pset hmem hname c hc hno)

/-- Without a meta plugin of its name, a plugin is loaded unless something is thrown. -/
theorem mem_loadsReal (hload : LoadsReal modules name m r) (h : Complete metaPluginPrefix root pending m)
    (hname : NoMeta metaPluginPrefix root name) (hr : r.2 = none) : name ∈ r.1.plugins := by
  have hmem := hload.mem hr
  rw [mem_getLoadedPlugins, (h.loadsReal hload).not_isMeta hname] at hmem
  simpa using hmem

theorem setMeta (h : Complete metaPluginPrefix root pending m)
    (hmeta : metaPlugin metaPluginPrefix root name = .ok pset) :
    Complete metaPluginPrefix root (name :: pending) (m.setMeta name pset) := by
  constructor
  · intro other pset' hmem
    rcases SortedMap.mem_set hmem with heq | hmem
    · cases heq
      exact hmeta
    · exact h.configured other pset' hmem
  · intro other pset' hmem hother c hc hno
    rw [List.mem_cons, not_or] at hother
    rcases SortedMap.mem_set hmem with heq | hmem
    · cases heq
      exact absurd rfl hother.1
    · exact h.components other pset' hmem hother.2 c hc hno

theorem notify (h : Complete metaPluginPrefix root (name :: pending) m)
    (hmeta : metaPlugin metaPluginPrefix root name = .ok pset)
    (hloaded : ∀ c ∈ parsePluginList pset, NoMeta metaPluginPrefix root c → c ∈ m.plugins) :
    Complete metaPluginPrefix root pending (m.notify (.loaded name)) := by
  refine ⟨h.configured, fun other pset' hmem hother c hc hno => ?_⟩
  by_cases heq : other = name
  · subst heq
    have hok := h.configured other pset' hmem
    rw [hmeta] at hok
    cases hok
    exact hloaded c hc hno
  · exact h.components other pset' hmem (by simp [heq, hother]) c hc hno

theorem eraseMeta (h : Complete metaPluginPrefix root (name :: pending) m) :
    Complete metaPluginPrefix root pending (m.eraseMeta name) := by
  constructor
  · exact fun other pset hmem => h.configured other pset (List.mem_filter.mp hmem).1
  · intro other pset hmem hother c hc hno
    obtain ⟨hmem, hne⟩ := List.mem_filter.mp hmem
    exact h.components other pset hmem (by simpa [hother] using hne) c hc hno

/-- Loading keeps it, and loads the real plugins of the list unless something is thrown. -/
theorem loads (hloads : Loads metaPluginPrefix root modules names m r)
    (h : Complete metaPluginPrefix root pending m) :
    Complete metaPluginPrefix root pending r.1 ∧
      (r.2 = none → ∀ c ∈ names, NoMeta metaPluginPrefix root c → c ∈ r.1.plugins) := by
  have hno : ∀ {name pset : String}, metaPlugin metaPluginPrefix root name = .ok pset →
      ¬ NoMeta metaPluginPrefix root name := by
    rintro name pset hok ⟨e, he, -⟩
    cases hok.symm.trans he
  induction hloads generalizing pending with
  | nil => exact ⟨h, fun _ => by simp⟩
  | cons _ hrest ih ih' =>
      obtain ⟨hname, hloaded⟩ := ih h
      obtain ⟨hnames, hloaded'⟩ := ih' hname
      refine ⟨hnames, fun hr => List.forall_mem_cons.mpr ⟨fun hno => ?_, hloaded' hr⟩⟩
      exact hrest.grows.plugins.subset (hloaded rfl _ (List.mem_singleton_self _) hno)
  | stop _ ih => exact ⟨(ih h).1, fun hr => by cases hr⟩
  | real _ hload =>
      refine ⟨h.loadsReal hload, fun hr => List.forall_mem_singleton.mpr fun hname => ?_⟩
      exact h.mem_loadsReal hload hname hr
  | refused _ => exact ⟨h, fun hr => by cases hr⟩
  | metaLoaded _ hmeta _ ih =>
      obtain ⟨hlist, hloaded⟩ := ih (h.setMeta hmeta)
      refine ⟨hlist.notify hmeta (hloaded rfl), fun _ => List.forall_mem_singleton.mpr fun hname => ?_⟩
      exact absurd hname (hno hmeta)
  | metaFailed _ hmeta _ ih =>
      exact ⟨(ih (h.setMeta hmeta)).1.eraseMeta, fun hr => by cases hr⟩
  | metaNotFound _ hmeta _ hload ih =>
      refine ⟨(ih (h.setMeta hmeta)).1.eraseMeta.loadsReal hload, fun _ => ?_⟩
      exact List.forall_mem_singleton.mpr fun hname => absurd hname (hno hmeta)

theorem unload (h : Complete metaPluginPrefix root pending m)
    (hunload : m.unload name modules = some r) : Complete metaPluginPrefix root pending r.1 := by
  rcases PluginManager.unload_cases hunload with ⟨-, -, heq⟩ | ⟨-, -, heq⟩ | ⟨-, heq⟩
  · rw [heq]
    constructor
    · exact fun other pset hmem => h.configured other pset (List.mem_filter.mp hmem).1
    · intro other pset hmem hother c hc hno
      obtain ⟨hmem, hnot⟩ := List.mem_filter.mp hmem
      have hne : c ≠ name := by
        rintro rfl
        simp [hc] at hnot
      exact (List.mem_erase_of_ne hne).mpr (h.components other pset hmem hother c hc hno)
  · rw [heq]
    exact ⟨h.configured, h.components⟩
  · rw [heq]
    exact h

end Complete

namespace PluginManager

/-- Over every run of calls under one configuration, a meta plugin that is loaded has all its real plugins
loaded. -/
theorem components_loaded {tr : List (Step (PluginManager ω) Call)}
    (hrun : Run (PluginStep metaPluginPrefix modules) { world := w } tr m)
    (hroot : ∀ t ∈ tr, ∀ root' pluginList, t.label = .load root' pluginList → root' = root) :
    ∀ name pset, (name, pset) ∈ m.metaPlugins → metaPlugin metaPluginPrefix root name = .ok pset ∧
      ∀ c ∈ parsePluginList pset, NoMeta metaPluginPrefix root c → c ∈ m.plugins := by
  have hinit : Complete metaPluginPrefix root [] { world := w } := by constructor <;> simp
  have hcomplete : Complete metaPluginPrefix root [] m := by
    refine Run.invariant_of (C := fun _ call => ∀ root' pluginList, call = .load root' pluginList →
      root' = root) hinit ?_ hrun hroot
    rintro m (⟨root', pluginList⟩ | ⟨name⟩) m' hm hcall ⟨_, h⟩
    · obtain ⟨e, h⟩ := h
      cases hcall root' pluginList rfl
      exact (hm.loads (loads_of_load h)).1
    · exact hm.unload h
  intro name pset hmem
  exact ⟨hcomplete.configured name pset hmem,
    hcomplete.components name pset hmem List.not_mem_nil⟩

theorem components_loaded_of_all : NoMeta "/llsfrb/meta_plugins/" withAll "clips" ∧
    ∃ tr m, Run (PluginStep "/llsfrb/meta_plugins/" firstOnly) { world := 0 } tr m ∧
      m.metaPlugins = [("all", "clips,all")] ∧ "clips" ∈ m.plugins := by
  have hno : NoMeta "/llsfrb/meta_plugins/" withAll "clips" := by
    refine ⟨.ofConfig (.entryNotFound "/llsfrb/meta_plugins/clips"), ?_, rfl⟩
    decide +kernel
  have hroot : ∀ t ∈ [(⟨{ world := 0 }, .load withAll "all", allLoaded⟩ : Step (PluginManager ℕ) Call)],
      ∀ root' pluginList, t.label = .load root' pluginList → root' = withAll := by
    intro t ht root' pluginList heq
    cases List.mem_singleton.mp ht
    cases heq
    rfl
  have hmem : ("all", "clips,all") ∈ allLoaded.metaPlugins := List.mem_singleton_self _
  obtain ⟨-, hcomponents⟩ := components_loaded run_allLoaded hroot "all" "clips,all" hmem
  exact ⟨hno, _, allLoaded, run_allLoaded, rfl, hcomponents "clips" (by decide +kernel) hno⟩

end PluginManager

end FactoryHub.Plugin
