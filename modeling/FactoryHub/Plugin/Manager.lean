import Mathlib.Data.Finset.Card
import FactoryHub.Config.Settings
import FactoryHub.Lib.Run

/-!
# The plugin manager

`PluginManager` of `libs/plugin/manager.cpp`, and the `PluginLoader` that it asks. A meta plugin is the list
of plugins that the configuration has under its name, meta plugins among them. A plugin is taken for its
name. How a module is opened and its threads are started is that of the `Modules` beneath the manager.

`load` holds the lock of the plugins while it adds the threads of a plugin, and gives it back unless
`ThreadCollector::add` throws another exception than its comment says. A call that waits for the lock then
does not return.

* `Loads` — the cases of a call of `load`.
* `PluginManager.load_returns` — every call of `load` returns, however the meta plugins list each other, if
  adding threads fails as `ThreadCollector` says.
-/

namespace FactoryHub.Plugin

open Lib Config

/-! ## The manager -/

/-- What a listener is told. -/
inductive Notice where
  | loaded (name : String)
  | unloaded (name : String)
  deriving DecidableEq, Repr

/-- An exception. A `ConfigEntryNotFoundException` is caught on its own. -/
structure Failure where
  entryNotFound : Bool := false
  messages : List String
  deriving DecidableEq, Repr

/-- How a try to load a plugin ends. -/
inductive Attempt where
  | loaded
  /-- `PluginLoader::load` throws, or the factory of the plugin. -/
  | notLoaded (e : Failure)
  /-- `ThreadCollector::add` throws a `CannotInitializeThreadException`. -/
  | notInitialized (messages : List String)
  /-- `ThreadCollector::add` throws another exception. -/
  | failed (e : Failure)
  deriving DecidableEq, Repr

namespace Failure

def ofConfig : Error → Failure
  | .entryNotFound path => { entryNotFound := true, messages := [(Error.entryNotFound path).what] }
  | e => { messages := [e.what] }

def append (message : String) (e : Failure) : Failure := { e with messages := e.messages ++ [message] }

@[simp] theorem entryNotFound_append {message : String} {e : Failure} :
    (e.append message).entryNotFound = e.entryNotFound := rfl

end Failure

/-- `PluginManager`. The names in `name_plugin_map` are those of its loader. -/
structure PluginManager (ω : Type) where
  /-- What the modules change. -/
  world : ω
  plugins : List String := []
  pluginIds : List (String × ℕ) := []
  nextPluginId : ℕ := 1
  metaPlugins : List (String × String) := []
  namePluginMap : List String := []
  /-- The lock of the plugins is held, and was not given back. -/
  locked : Bool := false
  /-- What a listener was told that was there from the start. -/
  notices : List Notice := []
  deriving DecidableEq, Repr

/-- A manager, and what was thrown. -/
abbrev Result (ω : Type) := PluginManager ω × Option Failure

/-- What is beneath the manager. -/
structure Modules (ω : Type) where
  /-- `PluginLoader::load` and `ThreadCollector::add`. A plugin whose threads cannot be initialized is
  unloaded, one whose threads cannot be added for another reason is not. -/
  load : String → ω → ω × Attempt
  /-- `ThreadCollector::remove` and `PluginLoader::unload`. -/
  unload : String → ω → ω × Option Failure

/-- `parse_plugin_list`. -/
def parsePluginList (pluginList : String) : List String := strSplit pluginList ','

/-- What the configuration has for a meta plugin of this name. -/
def metaPlugin (metaPluginPrefix : String) (root : YamlConfigurationNode) (name : String) :
    Except Failure String :=
  match root.getValueAs (metaPluginPrefix ++ name) some with
  | .error e => .error (.ofConfig e)
  | .ok pset =>
      if pset = "" then .error { messages := ["Refusing to load an empty meta plugin"] } else .ok pset

variable {ω : Type}

namespace PluginManager

variable (m : PluginManager ω) (name : String)

/-- `get_loaded_plugins`. -/
def getLoadedPlugins : List String := m.plugins ++ m.metaPlugins.map Prod.fst

def isMeta : Bool := (SortedMap.get name m.metaPlugins).isSome

/-- `is_loaded`. -/
def isLoaded : Bool := decide (name ∈ m.namePluginMap) || m.isMeta name

def notify (notice : Notice) : PluginManager ω := { m with notices := m.notices ++ [notice] }

def setMeta (pset : String) : PluginManager ω :=
  { m with metaPlugins := SortedMap.set name pset m.metaPlugins }

def eraseMeta : PluginManager ω := { m with metaPlugins := SortedMap.del name m.metaPlugins }

def setWorld (w : ω) : PluginManager ω := { m with world := w }

/-- A plugin that is loaded. -/
def added : PluginManager ω :=
  { m with
    plugins := m.plugins ++ [name]
    pluginIds := SortedMap.set name m.nextPluginId m.pluginIds
    nextPluginId := m.nextPluginId + 1
    namePluginMap := name :: m.namePluginMap
    notices := m.notices ++ [.loaded name] }

/-- The exception of the threads of a plugin leaves the plugin with the loader, and the plugins locked. -/
def leftLocked : PluginManager ω :=
  { m with namePluginMap := name :: m.namePluginMap, locked := true }

/-- What is done with the lock of the plugins. -/
def withLock (r : Result ω) : Option (Result ω) := if m.locked then none else some r

/-! ## Loading -/

section

variable (metaPluginPrefix : String) (root : YamlConfigurationNode) (modules : Modules ω)

/-- A try to load a real plugin. The lock is taken when the loader has the plugin. -/
def tryPlugin : Option (Result ω) :=
  match modules.load name m.world with
  | (w, .notLoaded e) => some (m.setWorld w, some e)
  | (w, .loaded) => m.withLock ((m.setWorld w).added name, none)
  | (w, .notInitialized messages) =>
      let message := "Plugin >>> " ++ name ++ " <<< could not be initialized, unloading"
      m.withLock (m.setWorld w, some { messages := message :: messages })
  | (w, .failed e) => m.withLock ((m.setWorld w).leftLocked name, some e)

/-- `load`, where it goes for a real plugin. What a try throws is dropped under the name of a meta plugin. -/
def loadReal : Option (Result ω) :=
  if name ∈ m.plugins then some (m, none)
  else
    match m.tryPlugin name modules with
    | some (m, some e) => if m.isMeta name then some (m, none) else some (m, some e)
    | r => r

/-- `load`, of one name. -/
def loadOne (load : String → PluginManager ω → Option (Result ω)) : Option (Result ω) :=
  if m.isMeta name then m.loadReal name modules
  else
    match metaPlugin metaPluginPrefix root name with
    | .error e => if e.entryNotFound then m.loadReal name modules else some (m, some e)
    | .ok pset =>
        -- The list is there before its plugins are loaded, for a meta plugin may list itself.
        match load pset (m.setMeta name pset) with
        | none => none
        | some (m, none) => some (m.notify (.loaded name), none)
        | some (m, some e) =>
            let m := m.eraseMeta name
            -- An entry that was not found further down is caught as if it were the entry of this name.
            if e.entryNotFound then m.loadReal name modules
            else
              let message := "Could not initialize meta plugin " ++ name ++ ", aborting loading."
              some (m, some (e.append message))

def loadNames (load : String → PluginManager ω → Option (Result ω)) :
    List String → PluginManager ω → Option (Result ω)
  | [], m => some (m, none)
  | name :: names, m =>
      match m.loadOne name metaPluginPrefix root modules load with
      | some (m, none) => loadNames load names m
      | r => r

/-- `load`, with so many calls nested. Nothing comes of one that waits for the lock. -/
def load : ℕ → String → PluginManager ω → Option (Result ω)
  | 0, _, _ => none
  | fuel + 1, pluginList, m =>
      loadNames metaPluginPrefix root modules (load fuel) (parsePluginList pluginList) m

end

/-! ## Unloading -/

/-- The meta plugins that list a plugin are no longer loaded. -/
def unloadMetaPlugins : PluginManager ω :=
  let gone := m.metaPlugins.filter fun e => name ∈ parsePluginList e.2
  { m with
    metaPlugins := m.metaPlugins.filter fun e => name ∉ parsePluginList e.2
    notices := m.notices ++ gone.map fun e => .unloaded e.1 }

/-- A real plugin whose threads are removed is unloaded. -/
def removed : PluginManager ω :=
  { m with
    plugins := m.plugins.erase name
    pluginIds := SortedMap.del name m.pluginIds
    namePluginMap := m.namePluginMap.filter (· ≠ name)
    notices := m.notices ++ [.unloaded name] }

/-- The plugins of a meta plugin, the last one first. Each is unloaded with the lock of the plugins held,
for which `unload` waits. -/
def unloadNames : List String → PluginManager ω → Option (Result ω)
  | [], m => some (m, none)
  | name :: names, m =>
      if name ∉ m.plugins ∧ m.isMeta name then unloadNames names m else none

/-- `unload`. Nothing comes of one that waits for its own lock. -/
def unload (modules : Modules ω) : Option (Result ω) :=
  if m.locked then none
  else if name ∈ m.plugins then
    match modules.unload name m.world with
    | (w, some e) => some (m.setWorld w, some e)
    | (w, none) => some (((m.setWorld w).removed name).unloadMetaPlugins name, none)
  else
    match SortedMap.get name m.metaPlugins with
    | none => some (m, none)
    | some pset => unloadNames (parsePluginList pset).reverse m

end PluginManager

/-! ## Runs -/

/-- A call. The configuration may have changed when plugins are loaded. -/
inductive Call where
  | load (root : YamlConfigurationNode) (pluginList : String)
  | unload (name : String)

/-- A call that returns, or throws. -/
def PluginStep (metaPluginPrefix : String) (modules : Modules ω) (m : PluginManager ω) :
    Call → PluginManager ω → Prop
  | .load root pluginList, m' =>
      ∃ fuel e, PluginManager.load metaPluginPrefix root modules fuel pluginList m = some (m', e)
  | .unload name, m' => ∃ e, m.unload name modules = some (m', e)

/-! ## The cases of loading -/

section

variable {metaPluginPrefix : String} {root : YamlConfigurationNode} {modules : Modules ω}

/-- What is done for a real plugin. -/
inductive LoadsReal (modules : Modules ω) (name : String) (m : PluginManager ω) : Result ω → Prop
  | there (hmem : name ∈ m.plugins) : LoadsReal modules name m (m, none)
  | added (hnew : name ∉ m.plugins) (hload : (modules.load name m.world).2 = .loaded) :
      LoadsReal modules name m ((m.setWorld (modules.load name m.world).1).added name, none)
  | thrown {e : Option Failure} (hnew : name ∉ m.plugins)
      (hload : (modules.load name m.world).2 ≠ .loaded)
      (hfailed : ∀ f, (modules.load name m.world).2 ≠ .failed f)
      (hmeta : e = none → m.isMeta name = true) :
      LoadsReal modules name m (m.setWorld (modules.load name m.world).1, e)
  | failed {e : Option Failure} {f : Failure} (hload : (modules.load name m.world).2 = .failed f)
      (hmeta : e = none → m.isMeta name = true) :
      LoadsReal modules name m ((m.setWorld (modules.load name m.world).1).leftLocked name, e)

/-- What a call of `load` does for the names of its list. -/
inductive Loads (metaPluginPrefix : String) (root : YamlConfigurationNode) (modules : Modules ω) :
    List String → PluginManager ω → Result ω → Prop
  | nil {m : PluginManager ω} : Loads metaPluginPrefix root modules [] m (m, none)
  | cons {name : String} {names : List String} {m m' : PluginManager ω} {r : Result ω} :
      Loads metaPluginPrefix root modules [name] m (m', none) →
      Loads metaPluginPrefix root modules names m' r →
      Loads metaPluginPrefix root modules (name :: names) m r
  | stop {name : String} {names : List String} {m m' : PluginManager ω} {e : Failure} :
      Loads metaPluginPrefix root modules [name] m (m', some e) →
      Loads metaPluginPrefix root modules (name :: names) m (m', some e)
  | real {name : String} {m : PluginManager ω} {r : Result ω}
      (hreal : m.isMeta name = true ∨
        ∃ e, metaPlugin metaPluginPrefix root name = .error e ∧ e.entryNotFound = true)
      (hload : LoadsReal modules name m r) :
      Loads metaPluginPrefix root modules [name] m r
  | refused {name : String} {m : PluginManager ω} {e : Failure}
      (hmeta : metaPlugin metaPluginPrefix root name = .error e) :
      Loads metaPluginPrefix root modules [name] m (m, some e)
  | metaLoaded {name pset : String} {m m' : PluginManager ω} (hnot : m.isMeta name = false)
      (hmeta : metaPlugin metaPluginPrefix root name = .ok pset) :
      Loads metaPluginPrefix root modules (parsePluginList pset) (m.setMeta name pset) (m', none) →
      Loads metaPluginPrefix root modules [name] m (m'.notify (.loaded name), none)
  | metaFailed {name pset message : String} {m m' : PluginManager ω} {e : Failure}
      (hnot : m.isMeta name = false) (hmeta : metaPlugin metaPluginPrefix root name = .ok pset) :
      Loads metaPluginPrefix root modules (parsePluginList pset) (m.setMeta name pset) (m', some e) →
      Loads metaPluginPrefix root modules [name] m (m'.eraseMeta name, some (e.append message))
  | metaNotFound {name pset : String} {m m' : PluginManager ω} {e : Failure} {r : Result ω}
      (hnot : m.isMeta name = false) (hmeta : metaPlugin metaPluginPrefix root name = .ok pset) :
      Loads metaPluginPrefix root modules (parsePluginList pset) (m.setMeta name pset) (m', some e) →
      LoadsReal modules name (m'.eraseMeta name) r →
      Loads metaPluginPrefix root modules [name] m r

namespace PluginManager

variable {m m' : PluginManager ω} {name : String} {names : List String} {r : Result ω}

theorem withLock_eq_some {s r : Result ω} : m.withLock s = some r ↔ m.locked = false ∧ s = r := by
  unfold withLock
  cases m.locked <;> simp

theorem tryPlugin_cases (h : m.tryPlugin name modules = some r) :
    (modules.load name m.world).2 = .loaded ∧
        r = ((m.setWorld (modules.load name m.world).1).added name, none) ∨
      (modules.load name m.world).2 ≠ .loaded ∧
        (∀ f, (modules.load name m.world).2 ≠ .failed f) ∧
        (∃ e, r = (m.setWorld (modules.load name m.world).1, some e)) ∨
      ∃ f, (modules.load name m.world).2 = .failed f ∧
        r = ((m.setWorld (modules.load name m.world).1).leftLocked name, some f) := by
  unfold tryPlugin at h
  split at h
  · next w e hmodules =>
      cases h
      rw [hmodules]
      exact .inr (.inl ⟨by simp, by simp, e, rfl⟩)
  · next w hmodules =>
      obtain ⟨-, rfl⟩ := withLock_eq_some.mp h
      rw [hmodules]
      exact .inl ⟨rfl, rfl⟩
  · next w messages hmodules =>
      obtain ⟨-, rfl⟩ := withLock_eq_some.mp h
      rw [hmodules]
      exact .inr (.inl ⟨by simp, by simp, _, rfl⟩)
  · next w e hmodules =>
      obtain ⟨-, rfl⟩ := withLock_eq_some.mp h
      rw [hmodules]
      exact .inr (.inr ⟨e, rfl, rfl⟩)

/-- What is thrown is dropped for a meta plugin. -/
theorem dropped {e : Failure}
    (h : (if m.isMeta name then some (m, none) else some (m, some e)) = some r) :
    ∃ e, r = (m, e) ∧ (e = none → m.isMeta name = true) := by
  split at h
  · next hmeta =>
      cases h
      exact ⟨none, rfl, fun _ => hmeta⟩
  · cases h
    exact ⟨some e, rfl, nofun⟩

theorem loadsReal_of_loadReal (h : m.loadReal name modules = some r) : LoadsReal modules name m r := by
  unfold loadReal at h
  split at h
  · next hmem =>
      cases h
      exact .there hmem
  · next hnew =>
      split at h
      · next m' e htry =>
          rcases tryPlugin_cases htry with ⟨-, heq⟩ | ⟨hload, hfailed, e', heq⟩ | ⟨f, hload, heq⟩
          · cases heq
          · cases heq
            obtain ⟨e, rfl, hmeta⟩ := dropped h
            exact .thrown hnew hload hfailed hmeta
          · cases heq
            obtain ⟨e, rfl, hmeta⟩ := dropped h
            exact .failed hload hmeta
      · next hnone =>
          rcases tryPlugin_cases h with ⟨hload, rfl⟩ | ⟨-, -, e', rfl⟩ | ⟨f, -, rfl⟩
          · exact .added hnew hload
          · exact absurd h (hnone _ _)
          · exact absurd h (hnone _ _)

/-- One name is loaded by the cases, where the nested call is. -/
theorem loads_of_loadOne {load : String → PluginManager ω → Option (Result ω)}
    (hload : ∀ pset m r, load pset m = some r →
      Loads metaPluginPrefix root modules (parsePluginList pset) m r)
    (h : m.loadOne name metaPluginPrefix root modules load = some r) :
    Loads metaPluginPrefix root modules [name] m r := by
  unfold loadOne at h
  split at h
  · next hmeta => exact .real (.inl hmeta) (loadsReal_of_loadReal h)
  · next hnot =>
      rw [Bool.not_eq_true] at hnot
      split at h
      · next e hmeta =>
          split at h
          · next hfound => exact .real (.inr ⟨e, hmeta, hfound⟩) (loadsReal_of_loadReal h)
          · cases h
            exact .refused hmeta
      · next pset hmeta =>
          split at h
          · cases h
          · next m' hnested =>
              cases h
              exact .metaLoaded hnot hmeta (hload _ _ _ hnested)
          · next m' e hnested =>
              dsimp only at h
              split at h
              · exact .metaNotFound hnot hmeta (hload _ _ _ hnested) (loadsReal_of_loadReal h)
              · cases h
                exact .metaFailed hnot hmeta (hload _ _ _ hnested)

theorem loads_of_loadNames {load : String → PluginManager ω → Option (Result ω)}
    (hload : ∀ pset m r, load pset m = some r →
      Loads metaPluginPrefix root modules (parsePluginList pset) m r)
    (h : loadNames metaPluginPrefix root modules load names m = some r) :
    Loads metaPluginPrefix root modules names m r := by
  induction names generalizing m with
  | nil =>
      cases h
      exact .nil
  | cons name names ih =>
      rw [loadNames] at h
      split at h
      · next m' hone => exact .cons (loads_of_loadOne hload hone) (ih h)
      · next hstop =>
          have hone := loads_of_loadOne hload h
          obtain ⟨m', e⟩ := r
          cases e with
          | none => exact absurd h (hstop m')
          | some e => exact .stop hone

/-- What `load` does, by the cases. -/
theorem loads_of_load {fuel : ℕ} {pluginList : String}
    (h : load metaPluginPrefix root modules fuel pluginList m = some r) :
    Loads metaPluginPrefix root modules (parsePluginList pluginList) m r := by
  induction fuel generalizing pluginList m r with
  | zero => cases h
  | succ fuel ih => exact loads_of_loadNames (fun pset m r => ih) h

theorem unloadNames_eq (h : m.unloadNames names = some r) : r = (m, none) := by
  induction names with
  | nil => exact (Option.some.inj h).symm
  | cons name names ih =>
      rw [unloadNames] at h
      split at h
      · exact ih h
      · cases h

/-- A call of `unload` that returns has unloaded a real plugin, or nothing. -/
theorem unload_cases (h : m.unload name modules = some r) :
    name ∈ m.plugins ∧ (modules.unload name m.world).2 = none ∧
        r.1 = ((m.setWorld (modules.unload name m.world).1).removed name).unloadMetaPlugins name ∨
      name ∈ m.plugins ∧ (modules.unload name m.world).2 ≠ none ∧
        r.1 = m.setWorld (modules.unload name m.world).1 ∨
      name ∉ m.plugins ∧ r.1 = m := by
  unfold unload at h
  split at h
  · cases h
  · split at h
    · next hmem =>
        split at h
        · next w e hunload =>
            cases h
            exact .inr (.inl ⟨hmem, by simp [hunload], by rw [hunload]⟩)
        · next w hunload =>
            cases h
            exact .inl ⟨hmem, by rw [hunload], by rw [hunload]⟩
    · next hmem =>
        split at h
        · cases h
          exact .inr (.inr ⟨hmem, rfl⟩)
        · rw [unloadNames_eq h]
          exact .inr (.inr ⟨hmem, rfl⟩)

end PluginManager

end

/-! ## What loading keeps -/

/-- No real plugin is unloaded, and no meta plugin forgotten. -/
structure Grows (m m' : PluginManager ω) : Prop where
  plugins : m.plugins <+: m'.plugins
  metaPlugins : ∀ name pset, SortedMap.get name m.metaPlugins = some pset →
    SortedMap.get name m'.metaPlugins = some pset

namespace Grows

variable {m m' m'' : PluginManager ω} {name pset : String} {modules : Modules ω}

theorem refl (m : PluginManager ω) : Grows m m := ⟨List.prefix_rfl, fun _ _ h => h⟩

theorem trans (h : Grows m m') (h' : Grows m' m'') : Grows m m'' :=
  ⟨h.plugins.trans h'.plugins, fun _ _ hget => h'.metaPlugins _ _ (h.metaPlugins _ _ hget)⟩

theorem loadsReal {r : Result ω} (h : LoadsReal modules name m r) : Grows m r.1 := by
  cases h with
  | there hmem => exact refl m
  | added hnew hload => exact ⟨List.prefix_append _ _, fun _ _ hget => hget⟩
  | thrown hnew hload hfailed hmeta => exact ⟨List.prefix_rfl, fun _ _ hget => hget⟩
  | failed hload hmeta => exact ⟨List.prefix_rfl, fun _ _ hget => hget⟩

/-- A new meta plugin is all that is forgotten of what was loaded for it. -/
theorem eraseMeta (hnot : m.isMeta name = false) (h : Grows (m.setMeta name pset) m') :
    Grows m (m'.eraseMeta name) := by
  refine ⟨h.plugins, fun other pset' hget => ?_⟩
  have hne : name ≠ other := by
    rintro rfl
    simp [PluginManager.isMeta, hget] at hnot
  refine (SortedMap.get_del.trans (if_neg hne)).trans (h.metaPlugins other pset' ?_)
  exact (SortedMap.get_set_of_ne hne).trans hget

theorem metaLoaded (hnot : m.isMeta name = false) (h : Grows (m.setMeta name pset) m') : Grows m m' := by
  refine ⟨h.plugins, fun other pset' hget => h.metaPlugins other pset' ?_⟩
  have hne : name ≠ other := by
    rintro rfl
    simp [PluginManager.isMeta, hget] at hnot
  exact (SortedMap.get_set_of_ne hne).trans hget

theorem isMeta (h : Grows m m') (hmeta : m.isMeta name = true) : m'.isMeta name = true := by
  obtain ⟨pset, hget⟩ := Option.isSome_iff_exists.mp hmeta
  simp [PluginManager.isMeta, h.metaPlugins name pset hget]

end Grows

section

variable {metaPluginPrefix : String} {root : YamlConfigurationNode} {modules : Modules ω}
  {m m' : PluginManager ω} {names : List String} {r : Result ω}

theorem Loads.grows (h : Loads metaPluginPrefix root modules names m r) : Grows m r.1 := by
  induction h with
  | nil => exact .refl _
  | cons _ _ ih ih' => exact ih.trans ih'
  | stop _ ih => exact ih
  | real _ hload => exact .loadsReal hload
  | refused _ => exact .refl _
  | metaLoaded hnot _ _ ih =>
      obtain ⟨hplugins, hmetas⟩ := ih.metaLoaded hnot
      exact ⟨hplugins, hmetas⟩
  | metaFailed hnot _ _ ih => exact ih.eraseMeta hnot
  | metaNotFound hnot _ _ hload ih => exact (ih.eraseMeta hnot).trans (.loadsReal hload)

theorem mem_getLoadedPlugins {name : String} :
    name ∈ m.getLoadedPlugins ↔ name ∈ m.plugins ∨ m.isMeta name = true := by
  rw [PluginManager.getLoadedPlugins, List.mem_append, PluginManager.isMeta, SortedMap.isSome_get_iff]

theorem Grows.mem_getLoadedPlugins {name : String} (h : Grows m m') (hmem : name ∈ m.getLoadedPlugins) :
    name ∈ m'.getLoadedPlugins := by
  rw [Plugin.mem_getLoadedPlugins] at hmem ⊢
  exact hmem.imp (h.plugins.subset ·) h.isMeta

theorem LoadsReal.mem {name : String} (h : LoadsReal modules name m r) (hr : r.2 = none) :
    name ∈ r.1.getLoadedPlugins := by
  rw [mem_getLoadedPlugins]
  cases h with
  | there hmem => exact .inl hmem
  | added hnew hload => exact .inl (List.mem_append_right _ (List.mem_singleton_self name))
  | thrown hnew hload hfailed hmeta => exact .inr (hmeta hr)
  | failed hload hmeta => exact .inr (hmeta hr)

/-- Unless something is thrown, the whole list is loaded. -/
theorem Loads.all_loaded (h : Loads metaPluginPrefix root modules names m r) (hr : r.2 = none) :
    ∀ name ∈ names, name ∈ r.1.getLoadedPlugins := by
  induction h with
  | nil => simp
  | cons _ hrest ih ih' =>
      refine List.forall_mem_cons.mpr ⟨?_, ih' hr⟩
      exact hrest.grows.mem_getLoadedPlugins (ih rfl _ (List.mem_singleton_self _))
  | stop _ _ => cases hr
  | real _ hload => simpa using hload.mem hr
  | refused _ => cases hr
  | @metaLoaded name pset m m' hnot _ hnested _ =>
      have hset : (m.setMeta name pset).isMeta name = true := by
        simp [PluginManager.isMeta, PluginManager.setMeta, SortedMap.get_set_self]
      have hmeta : m'.isMeta name = true := hnested.grows.isMeta hset
      exact List.forall_mem_singleton.mpr (mem_getLoadedPlugins.mpr (.inr hmeta))
  | metaFailed _ _ _ _ => cases hr
  | metaNotFound _ _ _ hload _ => simpa using hload.mem hr

/-! ## Loading returns -/

/-- A call of `ThreadCollector::add` that throws throws a `CannotInitializeThreadException`. -/
def Modules.FailsAsSaid (modules : Modules ω) : Prop :=
  ∀ name w e, (modules.load name w).2 ≠ .failed e

theorem LoadsReal.locked_eq {name : String} (hmodules : modules.FailsAsSaid)
    (h : LoadsReal modules name m r) : r.1.locked = m.locked := by
  cases h with
  | failed hload hmeta => exact absurd hload (hmodules name m.world _)
  | _ => rfl

theorem Loads.locked_eq (hmodules : modules.FailsAsSaid)
    (h : Loads metaPluginPrefix root modules names m r) : r.1.locked = m.locked := by
  induction h with
  | nil => rfl
  | cons _ _ ih ih' => exact ih'.trans ih
  | stop _ ih => exact ih
  | real _ hload => exact hload.locked_eq hmodules
  | refused _ => rfl
  | metaLoaded _ _ _ ih => exact ih
  | metaFailed _ _ _ ih => exact ih
  | metaNotFound _ _ _ hload ih => exact (hload.locked_eq hmodules).trans ih

/-- The texts in the configuration. -/
def texts (root : YamlConfigurationNode) : List String :=
  root.data.scalarValue :: root.leaves.map fun e => e.2.scalarValue

/-- The names that can come up when a list is loaded. -/
def namesOf (root : YamlConfigurationNode) (pluginList : String) : Finset String :=
  (parsePluginList pluginList ++ (texts root).flatMap parsePluginList).toFinset

theorem mem_texts {name pset : String} (h : metaPlugin metaPluginPrefix root name = .ok pset) :
    pset ∈ texts root := by
  unfold metaPlugin YamlConfigurationNode.getValueAs at h
  cases hfind : YamlConfigurationNode.find (metaPluginPrefix ++ name) root with
  | error e => simp [hfind] at h
  | ok n =>
      rw [hfind] at h
      cases hchildren : n.hasChildren with
      | true => simp [hchildren] at h
      | false =>
          have hpset : n.data.scalarValue = pset := by
            by_cases hlist : n.data.type = .sequence
            · simp [hchildren, NodeData.getValue, hlist] at h
            · simp only [hchildren, NodeData.getValue, hlist] at h
              split at h
              · simp at h
              · next text htext =>
                  split at h
                  · cases h
                  · cases h
                    simpa using htext
          have hn := (YamlConfigurationNode.findFrom_eq_ok_iff "").mp hfind
          by_cases hpath : strSplit (metaPluginPrefix ++ name) = []
          · rw [hpath] at hn
            cases hn
            exact hpset ▸ List.mem_cons_self
          · refine List.mem_cons_of_mem _ (List.mem_map.mpr
              ⟨(strSplit (metaPluginPrefix ++ name), n.data), ?_, hpset⟩)
            refine KeyTree.mem_leaves_of_get hpath ?_
            rw [KeyTree.get, hn, Option.bind_some, hchildren]
            rfl

/-- How many of the names are no meta plugins that are loaded, or being loaded. -/
def unknown (names : Finset String) (m : PluginManager ω) : ℕ :=
  (names.filter fun name => m.isMeta name = false).card

variable {known : Finset String}

theorem Grows.unknown_le (h : Grows m m') : unknown known m' ≤ unknown known m := by
  apply Finset.card_le_card
  intro name hname
  rw [Finset.mem_filter] at hname ⊢
  refine ⟨hname.1, ?_⟩
  rw [← Bool.not_eq_true]
  intro hmeta
  rw [h.isMeta hmeta] at hname
  cases hname.2

theorem unknown_setMeta_lt {name pset : String} (hmem : name ∈ known) (hnot : m.isMeta name = false) :
    unknown known (m.setMeta name pset) < unknown known m := by
  have hset : (m.setMeta name pset).isMeta name = true := by
    simp [PluginManager.isMeta, PluginManager.setMeta, SortedMap.get_set_self]
  have hle : Grows m (m.setMeta name pset) := (Grows.refl _).metaLoaded hnot
  apply Finset.card_lt_card
  refine ⟨?_, ?_⟩
  · intro other hother
    rw [Finset.mem_filter] at hother ⊢
    refine ⟨hother.1, ?_⟩
    rw [← Bool.not_eq_true]
    intro hmeta
    rw [hle.isMeta hmeta] at hother
    cases hother.2
  · intro hsub
    have hmem' := hsub (Finset.mem_filter.mpr ⟨hmem, hnot⟩)
    rw [Finset.mem_filter, hset] at hmem'
    cases hmem'.2

namespace PluginManager

variable {fuel : ℕ} {name pluginList : String}

/-- Where the lock is free, a real plugin is loaded, or something is thrown. -/
theorem exists_loadReal (hfree : m.locked = false) : ∃ r, m.loadReal name modules = some r := by
  have hlock : ∀ r, m.withLock r = some r := fun r => withLock_eq_some.mpr ⟨hfree, rfl⟩
  unfold loadReal
  split
  · exact ⟨_, rfl⟩
  · obtain ⟨⟨m', e⟩, htry⟩ : ∃ r, m.tryPlugin name modules = some r := by
      unfold tryPlugin
      split
      · exact ⟨_, rfl⟩
      all_goals exact ⟨_, hlock _⟩
    rw [htry]
    cases e with
    | none => exact ⟨_, rfl⟩
    | some e =>
        dsimp only
        split <;> exact ⟨_, rfl⟩

/-- A name is loaded where the nested calls with fewer unknown names return, and keep the lock free. -/
theorem exists_loadOne {load : String → PluginManager ω → Option (Result ω)} (hmem : name ∈ known)
    (hfree : m.locked = false)
    (htexts : ∀ text ∈ texts root, ∀ n ∈ parsePluginList text, n ∈ known)
    (hload : ∀ pset m', (∀ n ∈ parsePluginList pset, n ∈ known) → m'.locked = false →
      unknown known m' < unknown known m → ∃ r, load pset m' = some r ∧ r.1.locked = false) :
    ∃ r, m.loadOne name metaPluginPrefix root modules load = some r := by
  unfold loadOne
  split
  · exact exists_loadReal hfree
  · next hnot =>
      rw [Bool.not_eq_true] at hnot
      split
      · split
        · exact exists_loadReal hfree
        · exact ⟨_, rfl⟩
      · next pset hmeta =>
          obtain ⟨⟨m', e⟩, hr, hfree'⟩ := hload pset (m.setMeta name pset)
            (htexts pset (mem_texts hmeta)) hfree (unknown_setMeta_lt hmem hnot)
          rw [hr]
          cases e with
          | none => exact ⟨_, rfl⟩
          | some e =>
              dsimp only
              split
              · exact exists_loadReal hfree'
              · exact ⟨_, rfl⟩

theorem exists_load (hmodules : modules.FailsAsSaid) (hfree : m.locked = false)
    (htexts : ∀ text ∈ texts root, ∀ n ∈ parsePluginList text, n ∈ known)
    (hlist : ∀ n ∈ parsePluginList pluginList, n ∈ known) (hfuel : unknown known m < fuel) :
    ∃ r, load metaPluginPrefix root modules fuel pluginList m = some r := by
  induction fuel generalizing pluginList m with
  | zero => cases hfuel
  | succ fuel ih =>
      rw [load]
      generalize parsePluginList pluginList = names at hlist
      induction names generalizing m with
      | nil => exact ⟨_, rfl⟩
      | cons name names ih' =>
          obtain ⟨hname, hnames⟩ := List.forall_mem_cons.mp hlist
          obtain ⟨⟨m', e⟩, hone⟩ : ∃ r, m.loadOne name metaPluginPrefix root modules
              (load metaPluginPrefix root modules fuel) = some r := by
            refine exists_loadOne hname hfree htexts fun pset m' hpset hfree' hlt => ?_
            obtain ⟨r, hr⟩ := ih hfree' hpset (by omega)
            exact ⟨r, hr, ((loads_of_load hr).locked_eq hmodules).trans hfree'⟩
          rw [loadNames, hone]
          cases e with
          | some e => exact ⟨_, rfl⟩
          | none =>
              have hloads := loads_of_loadOne (fun pset m r => loads_of_load) hone
              exact ih' ((hloads.locked_eq hmodules).trans hfree)
                (lt_of_le_of_lt hloads.grows.unknown_le hfuel) hnames

theorem loadOne_mono {load load' : String → PluginManager ω → Option (Result ω)}
    (hload : ∀ pset m r, load pset m = some r → load' pset m = some r)
    (h : m.loadOne name metaPluginPrefix root modules load = some r) :
    m.loadOne name metaPluginPrefix root modules load' = some r := by
  unfold loadOne at h ⊢
  split
  · next hmeta => simpa only [hmeta, if_true] using h
  · next hnot =>
      rw [if_neg hnot] at h
      split
      · next e hmeta => simpa only [hmeta] using h
      · next pset hmeta =>
          simp only [hmeta] at h
          split at h
          · cases h
          · next m' hnested => rw [hload _ _ _ hnested]; exact h
          · next m' e hnested => rw [hload _ _ _ hnested]; exact h

/-- What is returned stays with more calls nested. -/
theorem load_mono {fuel' : ℕ} (hle : fuel ≤ fuel')
    (h : load metaPluginPrefix root modules fuel pluginList m = some r) :
    load metaPluginPrefix root modules fuel' pluginList m = some r := by
  induction fuel generalizing pluginList m r fuel' with
  | zero => cases h
  | succ fuel ih =>
      obtain ⟨fuel', rfl⟩ := Nat.exists_eq_add_of_lt hle
      rw [load] at h ⊢
      generalize parsePluginList pluginList = names at h
      induction names generalizing m with
      | nil => exact h
      | cons name names ih' =>
          rw [loadNames] at h ⊢
          split at h
          · next m' hone =>
              rw [loadOne_mono (fun pset m r => ih (by omega)) hone]
              exact ih' h
          · next hstop =>
              rw [loadOne_mono (fun pset m r => ih (by omega)) h]
              obtain ⟨m', e⟩ := r
              cases e with
              | none => exact absurd h (hstop m')
              | some e => rfl

/-- Where the lock of the plugins is free and adding threads fails as `ThreadCollector` says, every call of
`load` returns, or throws, however the meta plugins list each other and themselves, and the lock is free
again. What was loaded is kept, and the whole list is loaded unless something is thrown. -/
theorem load_returns (metaPluginPrefix : String) (root : YamlConfigurationNode) (modules : Modules ω)
    (hmodules : modules.FailsAsSaid) (pluginList : String) (m : PluginManager ω)
    (hfree : m.locked = false) :
    ∃ m' e, (∀ fuel, (namesOf root pluginList).card < fuel →
        load metaPluginPrefix root modules fuel pluginList m = some (m', e)) ∧
      m'.locked = false ∧ Grows m m' ∧ (e = none → ∀ name ∈ parsePluginList pluginList, name ∈ m'.getLoadedPlugins) := by
  have htexts : ∀ text ∈ texts root, ∀ n ∈ parsePluginList text, n ∈ namesOf root pluginList := by
    intro text htext n hn
    rw [namesOf, List.mem_toFinset, List.mem_append]
    exact .inr (List.mem_flatMap.mpr ⟨text, htext, hn⟩)
  have hlist : ∀ n ∈ parsePluginList pluginList, n ∈ namesOf root pluginList := by
    intro n hn
    rw [namesOf, List.mem_toFinset, List.mem_append]
    exact .inl hn
  have hle : unknown (namesOf root pluginList) m ≤ (namesOf root pluginList).card :=
    Finset.card_filter_le _ _
  obtain ⟨⟨m', e⟩, hr⟩ : ∃ r, load metaPluginPrefix root modules ((namesOf root pluginList).card + 1)
      pluginList m = some r := exists_load hmodules hfree htexts hlist (Nat.lt_succ_of_le hle)
  have hloads := loads_of_load hr
  exact ⟨m', e, fun fuel hfuel => load_mono hfuel hr, (hloads.locked_eq hmodules).trans hfree,
    hloads.grows, hloads.all_loaded⟩

/-- A configuration with a meta plugin that lists itself. -/
def withAll : YamlConfigurationNode :=
  (YamlConfigurationNode.setValue decimal "/llsfrb/meta_plugins/all" "clips,all" .new).1

/-- There is a module for the first name only. -/
def firstOnly : Modules ℕ where
  load _ tries :=
    (tries + 1, if tries = 0 then .loaded else .notLoaded { messages := ["failed to open module"] })
  unload _ tries := (tries, none)

theorem failsAsSaid_firstOnly : firstOnly.FailsAsSaid := by
  intro name tries e
  unfold firstOnly
  dsimp only
  split <;> simp

/-- The meta plugin is loaded, for which the plugin of its own name is missing. -/
theorem load_returns_of_all :
    ∃ m', load "/llsfrb/meta_plugins/" withAll firstOnly 4 "all" { world := 0 } = some (m', none) ∧
      m'.locked = false ∧ "all" ∈ m'.getLoadedPlugins := by
  have hcard : (namesOf withAll "all").card < 4 := by decide +kernel
  obtain ⟨m', e, hload, hfree, -, hloaded⟩ := load_returns "/llsfrb/meta_plugins/" withAll firstOnly
    failsAsSaid_firstOnly "all" { world := 0 } rfl
  have hr := hload 4 hcard
  have hnone : (load "/llsfrb/meta_plugins/" withAll firstOnly 4 "all" { world := 0 }).map Prod.snd =
      some none := by
    decide +kernel
  obtain rfl : e = none := by simpa [hr] using hnone
  exact ⟨m', hr, hfree, hloaded rfl "all" (by decide +kernel)⟩

end PluginManager

end

end FactoryHub.Plugin
