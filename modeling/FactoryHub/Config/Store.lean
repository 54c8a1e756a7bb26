import FactoryHub.Config.Settings

/-!
# The configuration and its host file

`YamlConfiguration` of `config/yaml.cpp`: the tree of all files and the tree of the host file, which the
setters change along with it and write. The files other than the host file are not modelled: their tree is
`base`. A file is taken for the document that `yaml-cpp` loads from it.

* `calls_atomic` — a call changes both trees and the file, or throws and changes nothing, unless the type
  of its text cannot be determined.
-/

namespace FactoryHub.Config

open Lib

/-- `YamlConfiguration`, and its host file: the name, whether it can be written, and its document. -/
structure YamlConfiguration where
  root : YamlConfigurationNode
  hostRoot : YamlConfigurationNode
  hostFile : String
  writable : Bool := true
  hostDoc : Option Doc := none

namespace YamlConfiguration

variable (conv : Conversions)

/-- The host file as `read_yaml_file` reads it. -/
def readHostFile : Option Doc → Except Error (Option YamlConfigurationNode)
  | none => .ok none
  | some doc => (YamlConfigurationNode.readConfigDoc conv doc (.leaf {})).map some

/-- `read_yaml_config`, from where the other files have been read. -/
def readYamlConfig (base : YamlConfigurationNode) (hostFile : String) (writable : Bool)
    (hostDoc : Option Doc) : Except Error YamlConfiguration :=
  if hostFile = "" then .ok { root := base, hostRoot := .new, hostFile, writable, hostDoc }
  else
    match readHostFile conv hostDoc with
    | .ok none => .ok { root := base, hostRoot := .new, hostFile, writable, hostDoc }
    | .ok (some hostRoot) =>
        match base.addAssign conv hostRoot with
        | .ok root => .ok { root, hostRoot, hostFile, writable, hostDoc }
        | .error e => .error e
    | .error e => .error e

/-- The document of a tree of nodes. Nothing is emitted of a node without children. -/
def emitted (n : YamlConfigurationNode) : Option Doc := if n.hasChildren then some n.emit else none

variable (c : YamlConfiguration)

/-- `write_host_file`. -/
def writeHostFile : YamlConfiguration × Option Error :=
  if c.hostFile = "" then (c, some .noHostFile)
  else if c.writable then ({ c with hostDoc := emitted c.hostRoot }, none)
  else (c, some .cannotWriteHostFile)

/-- The setters: of the tree of all files first. -/
def set (op : Op) : YamlConfiguration × Option Error :=
  match op.onNode conv c.root with
  | (root, some e) => ({ c with root }, some e)
  | (root, none) =>
      match op.onNode conv c.hostRoot with
      | (hostRoot, some e) => ({ c with root, hostRoot }, some e)
      | (hostRoot, none) => writeHostFile { c with root, hostRoot }

/-- `erase`: from the tree of the host file first. -/
def erase (op : Op) : YamlConfiguration × Option Error :=
  match op.onNode conv c.hostRoot with
  | (hostRoot, some e) => ({ c with hostRoot }, some e)
  | (hostRoot, none) =>
      match op.onNode conv c.root with
      | (root, some e) => ({ c with root, hostRoot }, some e)
      | (root, none) => writeHostFile { c with root, hostRoot }

/-- The setters and `erase`. -/
def call (op : Op) : YamlConfiguration × Option Error :=
  match op with
  | .setValue _ _ | .setList _ _ => c.set conv op
  | .erase _ => c.erase conv op

/-! ## Atomic calls -/

/-- What the host file sets is set. -/
def HostIn : Prop := c.hostRoot.settings.Included c.root.settings

/-- The host file can be written. -/
def Writes : Prop := c.hostFile ≠ "" ∧ c.writable = true

end YamlConfiguration

/-- A call on a configuration. -/
abbrev ConfigStep (conv : Conversions) := CallStep (YamlConfiguration.call conv)

/-- Both trees have changed, and the host file has been written. -/
structure Done (conv : Conversions) (c : YamlConfiguration) (op : Op) (c' : YamlConfiguration) : Prop where
  root : c'.root.settings = op.onSettings c.root.settings
  hostRoot : op.onNode conv c.hostRoot = (c'.hostRoot, none)
  hostSettings : c'.hostRoot.settings = op.onSettings c.hostRoot.settings
  hostDoc : c'.hostDoc = YamlConfiguration.emitted c'.hostRoot

/-- Nothing that is set has changed, nor has the host file. -/
structure Unchanged (c c' : YamlConfiguration) : Prop where
  root : c'.root.settings = c.root.settings
  hostRoot : c'.hostRoot = c.hostRoot
  hostDoc : c'.hostDoc = c.hostDoc

/-- A call that is atomic. -/
def Atomic (conv : Conversions) (c : YamlConfiguration) (op : Op) (r : YamlConfiguration × Option Error) :
    Prop :=
  r.2 = none ∧ Done conv c op r.1 ∨ r.2 ≠ none ∧ Unchanged c r.1

namespace YamlConfiguration

variable {conv : Conversions} {c c' : YamlConfiguration} {op : Op}

theorem writeHostFile_eq (h : c.Writes) :
    c.writeHostFile = ({ c with hostDoc := emitted c.hostRoot }, none) := by
  rw [writeHostFile, if_neg h.1, if_pos h.2]

theorem set_atomic (hp : op.pel ≠ []) (htyped : op.Typed conv) (hset : ∀ path, op ≠ .erase path)
    (hin : c.HostIn) (hwrites : c.Writes) : Atomic conv c op (c.set conv op) := by
  unfold set
  by_cases hpossible : op.Possible conv c.root.settings
  · obtain ⟨root, hroot, hsettings⟩ := onNode_done hp htyped hpossible
    obtain ⟨hostRoot, hhost, hhostSettings⟩ := onNode_done hp htyped (hin.possible hset hpossible)
    rw [hroot, hhost]
    dsimp only
    rw [writeHostFile_eq (c := { c with root, hostRoot }) hwrites]
    exact .inl ⟨rfl, hsettings, hhost, hhostSettings, rfl⟩
  · obtain ⟨root, e, hroot, hsettings⟩ := onNode_thrown hp hpossible
    rw [hroot]
    exact .inr ⟨by simp, hsettings, rfl, rfl⟩

theorem erase_atomic {path : String} (hp : (Op.erase path).pel ≠ []) (hin : c.HostIn)
    (hwrites : c.Writes) : Atomic conv c (.erase path) (c.erase conv (.erase path)) := by
  unfold erase
  by_cases hpossible : (Op.erase path).Possible conv c.hostRoot.settings
  · obtain ⟨hostRoot, hhost, hhostSettings⟩ := onNode_done hp trivial hpossible
    -- what the host file sets is set
    have hroot_possible : (Op.erase path).Possible conv c.root.settings := by
      obtain ⟨v, hv⟩ := Option.ne_none_iff_exists'.mp hpossible
      simp [Op.Possible, hin _ v hv]
    obtain ⟨root, hroot, hsettings⟩ := onNode_done hp trivial hroot_possible
    rw [hroot, hhost]
    dsimp only
    rw [writeHostFile_eq (c := { c with root, hostRoot }) hwrites]
    exact .inl ⟨rfl, hsettings, hhost, hhostSettings, rfl⟩
  · obtain ⟨hostRoot, e, hhost, -⟩ := onNode_thrown hp hpossible
    rw [hhost]
    exact .inr ⟨by simp, rfl, YamlConfigurationNode.erase_thrown hhost, rfl⟩

theorem call_atomic (hp : op.pel ≠ []) (htyped : op.Typed conv) (hin : c.HostIn)
    (hwrites : c.Writes) : Atomic conv c op (c.call conv op) := by
  cases op with
  | setValue path text => exact set_atomic hp htyped (by simp) hin hwrites
  | setList path texts => exact set_atomic hp htyped (by simp) hin hwrites
  | erase path => exact erase_atomic hp hin hwrites

/-- The host file and its name stay. -/
theorem call_file (conv : Conversions) (c : YamlConfiguration) (op : Op) :
    (c.call conv op).1.hostFile = c.hostFile ∧ (c.call conv op).1.writable = c.writable := by
  have hwrite : ∀ c : YamlConfiguration,
      c.writeHostFile.1.hostFile = c.hostFile ∧ c.writeHostFile.1.writable = c.writable := by
    intro c
    unfold writeHostFile
    repeat' split
    all_goals exact ⟨rfl, rfl⟩
  cases op with
  | setValue path text | setList path texts =>
      simp only [call, set]
      repeat' split
      all_goals first
        | exact ⟨rfl, rfl⟩
        | exact hwrite _
  | erase path =>
      simp only [call, erase]
      repeat' split
      all_goals first
        | exact ⟨rfl, rfl⟩
        | exact hwrite _

theorem hostIn_of_atomic {r : YamlConfiguration × Option Error} (h : Atomic conv c op r) (hin : c.HostIn) :
    r.1.HostIn := by
  unfold HostIn
  rcases h with ⟨-, hdone⟩ | ⟨-, hunchanged⟩
  · rw [hdone.root, hdone.hostSettings]
    exact Settings.Included.onSettings hin op
  · rw [hunchanged.root, hunchanged.hostRoot]
    exact hin

end YamlConfiguration

/-- **Calls are atomic**, along every run from a configuration that sets what its host file sets, in
which the types of all texts can be determined: a call changes both trees and writes the host file, or
throws and changes nothing. -/
theorem calls_atomic {conv : Conversions} {c c' : YamlConfiguration}
    {tr : List (Step YamlConfiguration Call)} (hrun : Run (ConfigStep conv) c tr c') (hin : c.HostIn)
    (hwrites : c.Writes) (htyped : ∀ t ∈ tr, t.label.op.Typed conv) :
    c'.HostIn ∧ ∀ t ∈ tr, t.label.error = none ∧ Done conv t.pre t.label.op t.post ∨
      t.label.error ≠ none ∧ Unchanged t.pre t.post := by
  have hstep : ∀ c call c', c.HostIn ∧ c.Writes → Op.Typed conv (Call.op call) →
      ConfigStep conv c call c' → (c'.HostIn ∧ c'.Writes) ∧ Atomic conv c call.op (c', call.error) := by
    rintro c call c' ⟨hin, hwrites⟩ htyped ⟨hp, hcall⟩
    have hatomic := YamlConfiguration.call_atomic hp htyped hin hwrites
    have hfile := YamlConfiguration.call_file conv c call.op
    rw [hcall] at hatomic hfile
    refine ⟨⟨YamlConfiguration.hostIn_of_atomic hatomic hin, ?_⟩, hatomic⟩
    exact ⟨hfile.1 ▸ hwrites.1, hfile.2.trans hwrites.2⟩
  have hinv := fun c call c' h ht hs => (hstep c call c' h ht hs).1
  constructor
  · exact (Run.invariant_of ⟨hin, hwrites⟩ hinv hrun htyped).1
  · exact Run.forall_steps ⟨hin, hwrites⟩ hinv (fun c call c' h ht hs => (hstep c call c' h ht hs).2) hrun
      htyped

/-- The calls of a run: a value is set, another stands in its way, and one is not found. -/
def valueCalls : List Call :=
  [⟨.setValue "/a/b" "5", none⟩, ⟨.setValue "/a" "on", some (.nonLeaf "/a")⟩,
    ⟨.erase "/a/c", some (.entryNotFound "/a/c")⟩]

theorem calls_atomic_of_values :
    ∃ tr c, Run (ConfigStep decimal) { root := .new, hostRoot := .new, hostFile := "host.yaml" } tr c ∧
      tr.reverse.map (fun t => t.label) = valueCalls ∧ c.HostIn := by
  let c₀ : YamlConfiguration := { root := .new, hostRoot := .new, hostFile := "host.yaml" }
  have hpaths : ∀ op ∈ valueCalls.map Call.op, op.pel ≠ [] := by decide +kernel
  obtain ⟨tr, c, hrun, hcalls⟩ := @exists_run _ (YamlConfiguration.call decimal) _ c₀ hpaths
  have hlabels : tr.reverse.map (fun t => t.label) = valueCalls := hcalls.trans (by decide +kernel)
  have htyped : ∀ call ∈ valueCalls, call.op.Typed decimal := by decide +kernel
  refine ⟨tr, c, hrun, hlabels, (calls_atomic hrun (fun _ _ h => h) ⟨by decide, rfl⟩ ?_).1⟩
  intro t ht
  exact htyped _ (hlabels ▸ List.mem_map_of_mem (List.mem_reverse.mpr ht))

end FactoryHub.Config
