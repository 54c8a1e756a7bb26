import FactoryHub.AtWork.Benchmark
import FactoryHub.Comm.Communicator
import FactoryHub.Lib.Run

/-!
# Who controls the @Work refbox

The communicator and the rules of `net.clp` and `benchmark.clp` on the facts it asserts. The rules
accept a control message that was received via STREAM and reject one that was received via
BROADCAST; the communicator says so from the id of the sender. Hence messages of a broadcast peer
are kept from the benchmark only if they come from a peer whose id is cut to 0
(`peersRejected_iff`).
-/

namespace FactoryHub.AtWork

open Clips Comm Lib

/-- The types of message that control the benchmark, and the others. -/
inductive Message where
  | setBenchmarkScenario (type : BenchmarkType) (typeId : ℕ)
  | setBenchmarkTransitionEvent (event : TransitionEvent)
  | other (typeName : String)
  deriving DecidableEq, Repr

/-- SetBenchmarkScenario or SetBenchmarkTransitionEvent. -/
def Message.isControl : Message → Bool
  | .setBenchmarkScenario _ _ | .setBenchmarkTransitionEvent _ => true
  | .other _ => false

/-- What a SetBenchmarkScenario asks of the benchmark. -/
def Message.scenario : Message → Option Input
  | .setBenchmarkScenario type typeId => some (.setBenchmarkScenario type typeId)
  | _ => none

/-- What a SetBenchmarkTransitionEvent asks of the benchmark. -/
def Message.transitionEvent : Message → Option Input
  | .setBenchmarkTransitionEvent event => some (.setBenchmarkTransitionEvent event)
  | _ => none

/-- The facts `network-client`. -/
structure NetworkClient where
  id : ℕ
  host : String
  port : ℕ
  deriving DecidableEq, Repr

/-- What the refbox has in memory. -/
structure Refbox where
  comm : Communicator
  facts : List (Fact Message)
  networkClients : List NetworkClient
  benchmark : Benchmark

namespace Refbox

/-- The refbox after the `init` rules that do not concern the network. -/
def start : Refbox where
  comm := {}
  facts := []
  networkClients := []
  benchmark := .start

/-! ## Rules -/

section

variable (clock : Clock) (rand : ℕ → ℕ)

/-- `retract`. -/
def retract (f : Fact Message) (r : Refbox) : Refbox := { r with facts := r.facts.erase f }

/-- The benchmark is sent what an input sends. -/
def receive (input : Input) (r : Refbox) : Refbox :=
  { r with benchmark := r.benchmark.receive clock rand input }

/-- A message was received via `via`. -/
def Received (r : Refbox) (mf : ProtobufMsg Message) (via : RcvdVia) : Prop :=
  .protobufMsg mf ∈ r.facts ∧ mf.rcvdVia = via

instance (r : Refbox) (mf : ProtobufMsg Message) (via : RcvdVia) : Decidable (r.Received mf via) := by
  unfold Received
  infer_instance

/-- A rule for the control messages that `input` reads and that were received via `via`. -/
def netRecvControl (input : Message → Option Input) (via : RcvdVia) (act : Input → Refbox → Refbox)
    (mf : ProtobufMsg Message) (r : Refbox) : Option Refbox :=
  match input mf.ptr with
  | some i => if r.Received mf via then some (act i (r.retract (.protobufMsg mf))) else none
  | none => none

/-- `net-recv-SetBenchmarkScenario`. -/
def netRecvSetBenchmarkScenario : ProtobufMsg Message → Refbox → Option Refbox :=
  netRecvControl Message.scenario .stream (receive clock rand)

/-- `net-recv-SetBenchmarkScenario-illegal`. -/
def netRecvSetBenchmarkScenarioIllegal : ProtobufMsg Message → Refbox → Option Refbox :=
  netRecvControl Message.scenario .broadcast (fun _ r => r)

/-- `net-recv-SetBenchmarkTransitionEvent`. -/
def netRecvSetBenchmarkTransitionEvent : ProtobufMsg Message → Refbox → Option Refbox :=
  netRecvControl Message.transitionEvent .stream (receive clock rand)

/-- `net-recv-SetBenchmarkTransitionEvent-illegal`. -/
def netRecvSetBenchmarkTransitionEventIllegal : ProtobufMsg Message → Refbox → Option Refbox :=
  netRecvControl Message.transitionEvent .broadcast (fun _ r => r)

/-- The rules for the other types of message: none of them concerns the benchmark. -/
def netRecvOther (mf : ProtobufMsg Message) (r : Refbox) : Option Refbox :=
  if ¬ mf.ptr.isControl ∧ .protobufMsg mf ∈ r.facts then some (r.retract (.protobufMsg mf))
  else none

/-- `net-client-connected`. -/
def netClientConnected (client : NetworkClient) (r : Refbox) : Option Refbox :=
  let cf : Fact Message := .serverClientConnected client.id client.host client.port
  if cf ∈ r.facts then some { r.retract cf with networkClients := client :: r.networkClients }
  else none

/-- `net-client-disconnected`. -/
def netClientDisconnected (client : NetworkClient) (r : Refbox) : Option Refbox :=
  let cf : Fact Message := .serverClientDisconnected client.id
  if cf ∈ r.facts ∧ client ∈ r.networkClients then
    some { r.retract cf with networkClients := r.networkClients.erase client }
  else none

/-- `benchmark-update`. -/
def benchmarkUpdate (r : Refbox) : Refbox := r.receive clock rand .tick

/-- A message that a rule of a higher salience matches. -/
def isPending : Fact Message → Bool
  | .protobufMsg mf => mf.ptr.isControl
  | _ => false

/-- `protobuf-cleanup-message`, whose salience is low. -/
def protobufCleanupMessage (mf : ProtobufMsg Message) (r : Refbox) : Option Refbox :=
  if .protobufMsg mf ∈ r.facts ∧ r.facts.all (fun f => !isPending f) then
    some (r.retract (.protobufMsg mf))
  else none

end

/-- The activations of the rules. -/
inductive Activation where
  | netRecvSetBenchmarkScenario (mf : ProtobufMsg Message)
  | netRecvSetBenchmarkScenarioIllegal (mf : ProtobufMsg Message)
  | netRecvSetBenchmarkTransitionEvent (mf : ProtobufMsg Message)
  | netRecvSetBenchmarkTransitionEventIllegal (mf : ProtobufMsg Message)
  | netRecvOther (mf : ProtobufMsg Message)
  | netClientConnected (client : NetworkClient)
  | netClientDisconnected (client : NetworkClient)
  | benchmarkUpdate
  | protobufCleanupMessage (mf : ProtobufMsg Message)

namespace Activation

/-- The message an activation is for. -/
def message : Activation → Option (ProtobufMsg Message)
  | .netRecvSetBenchmarkScenario mf | .netRecvSetBenchmarkScenarioIllegal mf
  | .netRecvSetBenchmarkTransitionEvent mf | .netRecvSetBenchmarkTransitionEventIllegal mf
  | .netRecvOther mf | .protobufCleanupMessage mf => some mf
  | .netClientConnected _ | .netClientDisconnected _ | .benchmarkUpdate => none

/-- One of the `-illegal` rules. -/
def isIllegal : Activation → Bool
  | .netRecvSetBenchmarkScenarioIllegal _ | .netRecvSetBenchmarkTransitionEventIllegal _ => true
  | _ => false

end Activation

/-- A signal or call of the communicator, or a rule that fires. -/
inductive Event where
  | comm (e : CommEvent Message)
  | fire (a : Activation)

section

variable (clock : Clock) (rand : ℕ → ℕ)

def fire (r : Refbox) : Activation → Option Refbox
  | .netRecvSetBenchmarkScenario mf => r.netRecvSetBenchmarkScenario clock rand mf
  | .netRecvSetBenchmarkScenarioIllegal mf => r.netRecvSetBenchmarkScenarioIllegal mf
  | .netRecvSetBenchmarkTransitionEvent mf => r.netRecvSetBenchmarkTransitionEvent clock rand mf
  | .netRecvSetBenchmarkTransitionEventIllegal mf => r.netRecvSetBenchmarkTransitionEventIllegal mf
  | .netRecvOther mf => r.netRecvOther mf
  | .netClientConnected client => r.netClientConnected client
  | .netClientDisconnected client => r.netClientDisconnected client
  | .benchmarkUpdate => some (r.benchmarkUpdate clock rand)
  | .protobufCleanupMessage mf => r.protobufCleanupMessage mf

def step (r : Refbox) : Event → Option Refbox
  | .comm e =>
      (r.comm.step e).map fun (comm, fact) => { r with comm, facts := fact.toList ++ r.facts }
  | .fire a => r.fire clock rand a

/-- A run of the refbox. -/
def RefboxRun (tr : List (Step Refbox Event)) (r : Refbox) : Prop :=
  Run (fun r e r' => step clock rand r e = some r') start tr r

end

/-! ## What the rules do to a message -/

section

variable {clock : Clock} {rand : ℕ → ℕ} {r r' : Refbox} {a : Activation}

theorem mem_retract {f g : Fact Message} (h : f ∈ (r.retract g).facts) : f ∈ r.facts :=
  List.mem_of_mem_erase h

theorem netRecvControl_cases {input : Message → Option Input} {via : RcvdVia}
    {act : Input → Refbox → Refbox} {mf : ProtobufMsg Message}
    (h : netRecvControl input via act mf r = some r') :
    r.Received mf via ∧ ∃ i, r' = act i (r.retract (.protobufMsg mf)) := by
  unfold netRecvControl at h
  split at h
  · next i _ =>
      rw [Option.ite_none_right_eq_some, Option.some.injEq] at h
      exact ⟨h.1, i, h.2.symm⟩
  · cases h

/-- The rules assert nothing that the communicator would. -/
theorem fire_facts (h : r.fire clock rand a = some r') {f : Fact Message} (hf : f ∈ r'.facts) :
    f ∈ r.facts := by
  cases a with
  | netRecvSetBenchmarkScenario | netRecvSetBenchmarkScenarioIllegal
    | netRecvSetBenchmarkTransitionEvent | netRecvSetBenchmarkTransitionEventIllegal =>
      rw [fire] at h
      obtain ⟨_, i, rfl⟩ := netRecvControl_cases h
      exact mem_retract hf
  | benchmarkUpdate =>
      rw [fire, Option.some.injEq] at h
      rw [← h] at hf
      exact hf
  | netRecvOther | netClientConnected | netClientDisconnected | protobufCleanupMessage =>
      simp only [fire, netRecvOther, netClientConnected, netClientDisconnected,
        protobufCleanupMessage, Option.ite_none_right_eq_some, Option.some.injEq] at h
      rw [← h.2] at hf
      exact mem_retract hf

/-- The rules do not reach the communicator's tables. -/
theorem fire_comm (h : r.fire clock rand a = some r') : r'.comm = r.comm := by
  cases a with
  | netRecvSetBenchmarkScenario | netRecvSetBenchmarkTransitionEvent =>
      rw [fire] at h
      obtain ⟨_, i, rfl⟩ := netRecvControl_cases h
      rfl
  | netRecvSetBenchmarkScenarioIllegal | netRecvSetBenchmarkTransitionEventIllegal =>
      rw [fire] at h
      obtain ⟨_, i, rfl⟩ := netRecvControl_cases h
      rfl
  | benchmarkUpdate =>
      rw [fire, Option.some.injEq] at h
      rw [← h]
      rfl
  | netRecvOther | netClientConnected | netClientDisconnected | protobufCleanupMessage =>
      simp only [fire, netRecvOther, netClientConnected, netClientDisconnected,
        protobufCleanupMessage, Option.ite_none_right_eq_some, Option.some.injEq] at h
      rw [← h.2]
      rfl

/-- A rule fires for a message in memory. -/
theorem mem_of_fire (h : r.fire clock rand a = some r') {mf : ProtobufMsg Message}
    (ha : a.message = some mf) : .protobufMsg mf ∈ r.facts := by
  cases a with
  | netRecvSetBenchmarkScenario mf' | netRecvSetBenchmarkScenarioIllegal mf'
    | netRecvSetBenchmarkTransitionEvent mf' | netRecvSetBenchmarkTransitionEventIllegal mf' =>
      obtain rfl : mf' = mf := Option.some.inj ha
      rw [fire] at h
      exact (netRecvControl_cases h).1.1
  | netRecvOther mf' =>
      obtain rfl : mf' = mf := Option.some.inj ha
      rw [fire, netRecvOther, Option.ite_none_right_eq_some] at h
      exact h.1.2
  | protobufCleanupMessage mf' =>
      obtain rfl : mf' = mf := Option.some.inj ha
      rw [fire, protobufCleanupMessage, Option.ite_none_right_eq_some] at h
      exact h.1.1
  | netClientConnected | netClientDisconnected | benchmarkUpdate => cases ha

/-- A control message that was received via BROADCAST is consumed by an `-illegal` rule, without
effect on the benchmark. -/
theorem fire_broadcast (h : r.fire clock rand a = some r') {mf : ProtobufMsg Message}
    (ha : a.message = some mf) (hcontrol : mf.ptr.isControl) (hvia : mf.rcvdVia = .broadcast) :
    a.isIllegal ∧ r'.benchmark = r.benchmark := by
  cases a with
  | netRecvSetBenchmarkScenario mf' | netRecvSetBenchmarkTransitionEvent mf' =>
      -- these want it received via STREAM
      obtain rfl : mf' = mf := Option.some.inj ha
      rw [fire] at h
      obtain ⟨⟨_, hstream⟩, _⟩ := netRecvControl_cases h
      rw [hvia] at hstream
      cases hstream
  | netRecvSetBenchmarkScenarioIllegal mf' | netRecvSetBenchmarkTransitionEventIllegal mf' =>
      rw [fire] at h
      obtain ⟨_, i, rfl⟩ := netRecvControl_cases h
      exact ⟨rfl, rfl⟩
  | netRecvOther mf' =>
      obtain rfl : mf' = mf := Option.some.inj ha
      rw [fire, netRecvOther, Option.ite_none_right_eq_some] at h
      exact absurd hcontrol h.1.1
  | protobufCleanupMessage mf' =>
      -- the message itself is pending
      obtain rfl : mf' = mf := Option.some.inj ha
      rw [fire, protobufCleanupMessage, Option.ite_none_right_eq_some] at h
      have hclean := List.all_eq_true.mp h.1.2 _ h.1.1
      simp [isPending, hcontrol] at hclean
  | netClientConnected | netClientDisconnected | benchmarkUpdate => cases ha

end

/-! ## Along a run -/

/-- What a control message must not change. -/
def Unchanged (b b' : Benchmark) : Prop :=
  b'.requestedScenario = b.requestedScenario ∧ b'.currentScenario = b.currentScenario ∧
    b'.stateMachine.current = b.stateMachine.current ∧
    b'.content.items = b.content.items ∧ b'.content.tasks = b.content.tasks

instance (b b' : Benchmark) : Decidable (Unchanged b b') := by
  unfold Unchanged
  infer_instance

/-- The message of a peer is asserted as BROADCAST. -/
def AssertedBroadcast (t : Step Refbox Event) : Prop :=
  match t.label, t.post.facts with
  | .comm (.peerMsg ..), .protobufMsg mf :: _ => mf.rcvdVia = .broadcast
  | .comm (.peerMsg ..), _ => False
  | _, _ => True

/-- A control message of a peer is consumed by an `-illegal` rule and changes nothing. -/
def Rejected (t : Step Refbox Event) : Prop :=
  match t.label with
  | .fire a =>
      match a.message with
      | some mf =>
          mf.clientType = .peer → mf.ptr.isControl →
            a.isIllegal ∧ Unchanged t.pre.benchmark t.post.benchmark
      | none => True
  | .comm _ => True

instance (t : Step Refbox Event) : Decidable (AssertedBroadcast t) := by
  unfold AssertedBroadcast
  split <;> infer_instance

instance (t : Step Refbox Event) : Decidable (Rejected t) := by
  unfold Rejected
  split
  · split <;> infer_instance
  · infer_instance

/-- A message of a peer comes from one whose id is 0 as an `unsigned int`. -/
def PeerIdZero (e : Event) : Prop :=
  match e with
  | .comm (.peerMsg peerId ..) => peerId % 2 ^ 32 = 0
  | _ => True

instance (e : Event) : Decidable (PeerIdZero e) := by
  unfold PeerIdZero
  split <;> infer_instance

/-- The messages of peers in memory were received via BROADCAST. -/
def PeersBroadcast (r : Refbox) : Prop :=
  ∀ mf, .protobufMsg mf ∈ r.facts → mf.clientType = .peer → mf.rcvdVia = .broadcast

section

variable {clock : Clock} {rand : ℕ → ℕ} {r r' : Refbox} {e : Event}

/-- What the communicator asserts in a step comes first in memory. -/
theorem step_comm {ce : CommEvent Message} (h : step clock rand r (.comm ce) = some r') :
    ∃ comm fact, r.comm.step ce = some (comm, fact) ∧
      r' = { r with comm, facts := fact.toList ++ r.facts } := by
  obtain ⟨⟨comm, fact⟩, hstep, heq⟩ := Option.map_eq_some_iff.mp h
  exact ⟨comm, fact, hstep, heq.symm⟩

/-- The message of a peer is asserted as BROADCAST if and only if its id is 0. -/
theorem assertedBroadcast_iff (h : step clock rand r e = some r') :
    AssertedBroadcast ⟨r, e, r'⟩ ↔ PeerIdZero e := by
  cases e with
  | fire a => exact ⟨fun _ => trivial, fun _ => trivial⟩
  | comm ce =>
      cases ce with
      | peerMsg peerId endpoint compId msgType msg tv =>
          obtain ⟨comm, fact, hstep, rfl⟩ := step_comm h
          obtain ⟨_, _, rfl⟩ := Communicator.peers_of_step hstep
          exact Communicator.handlePeerMsg_rcvdVia ..
      | _ => exact ⟨fun _ => trivial, fun _ => trivial⟩

theorem step_peersBroadcast (hinv : PeersBroadcast r) (hzero : PeerIdZero e)
    (h : step clock rand r e = some r') : PeersBroadcast r' := by
  intro mf hmf hpeer
  cases e with
  | fire a => exact hinv mf (fire_facts h hmf) hpeer
  | comm ce =>
      obtain ⟨comm, fact, hstep, rfl⟩ := step_comm h
      rcases List.mem_append.mp hmf with hnew | hold
      · obtain rfl : fact = some (.protobufMsg mf) := by simpa using hnew
        obtain ⟨peerId, endpoint, compId, msgType, msg, tv, rfl, rfl⟩ :=
          Communicator.step_peer hstep hpeer
        exact (Communicator.handlePeerMsg_rcvdVia ..).mpr hzero
      · exact hinv mf hold hpeer

theorem step_rejected (hinv : PeersBroadcast r) (h : step clock rand r e = some r') :
    Rejected ⟨r, e, r'⟩ := by
  cases e with
  | comm ce => trivial
  | fire a =>
      show match a.message with
        | some mf => _
        | none => True
      split
      · next mf ha =>
          intro hpeer hcontrol
          have hvia := hinv mf (mem_of_fire h ha) hpeer
          obtain ⟨hillegal, hbenchmark⟩ := fire_broadcast h ha hcontrol hvia
          rw [hbenchmark]
          exact ⟨hillegal, rfl, rfl, rfl, rfl, rfl⟩
      · trivial

variable (clock rand) in
/-- Messages of peers are asserted as BROADCAST and their control messages rejected along a run if
and only if all come from peers whose id is 0 as an `unsigned int`. -/
theorem peersRejected_iff {tr : List (Step Refbox Event)} (h : RefboxRun clock rand tr r) :
    (∀ t ∈ tr, AssertedBroadcast t ∧ Rejected t) ↔ ∀ t ∈ tr, PeerIdZero t.label := by
  constructor
  · intro hall t ht
    exact (assertedBroadcast_iff (h.mem_run ht).1).mp (hall t ht).1
  · intro hzero
    have hinit : PeersBroadcast start := by
      intro mf hmf
      cases hmf
    refine h.forall_steps (C := fun _ e => PeerIdZero e) hinit ?_ ?_ hzero
    · intro r e r' hinv hzero hstep
      exact step_peersBroadcast hinv hzero hstep
    · intro r e r' hinv hzero hstep
      exact ⟨(assertedBroadcast_iff hstep).mpr hzero, step_rejected hinv hstep⟩

/-- The id of a peer that delivers a message is one that the counter has handed out, from 1. -/
theorem peerId_pos {tr : List (Step Refbox Event)} (h : RefboxRun clock rand tr r)
    {t : Step Refbox Event} (ht : t ∈ tr) {peerId : ℕ} {endpoint : Endpoint}
    {compId msgType : UInt16} {msg : Message} {tv : Time}
    (hlabel : t.label = .comm (.peerMsg peerId endpoint compId msgType msg tv)) :
    0 < peerId ∧ peerId ≤ t.pre.comm.nextClientId := by
  obtain ⟨hstep, tr', hrun, _⟩ := h.mem_run ht
  have hkeep : ∀ (r : Refbox) (e : Event) (r' : Refbox), r.comm.Numbered →
      step clock rand r e = some r' → r'.comm.Numbered := by
    intro r e r' hinv hstep
    cases e with
    | fire a => exact fire_comm hstep ▸ hinv
    | comm ce =>
        obtain ⟨comm, fact, hcomm, rfl⟩ := step_comm hstep
        exact Communicator.step_numbered hinv hcomm
  have hnumbered := @Run.invariant _ _ _ _ _ _ (fun r => r.comm.Numbered)
    Communicator.numbered_init hkeep hrun
  rw [hlabel] at hstep
  obtain ⟨comm, fact, hcomm, _⟩ := step_comm hstep
  exact hnumbered peerId (Communicator.peers_of_step hcomm).1

end

/-! ## A client and the first peer -/

/-- The events in which a control message is asserted and its rule fires. -/
def clientSets (msgType : UInt16) (msg : Message) (rule : ProtobufMsg Message → Activation) :
    List Event :=
  [.comm (.serverClientMsg 1 2000 msgType msg ⟨0, 0⟩),
    .fire (rule (clipsAssertMessage ("192.168.1.2", 50000) 2000 msgType msg ⟨0, 0⟩ .server 2))]

/-- The same for the first peer. -/
def peerSets (msgType : UInt16) (msg : Message) (rule : ProtobufMsg Message → Activation) :
    List Event :=
  [.comm (.peerMsg 1 ("192.168.1.20", 4445) 2000 msgType msg ⟨0, 0⟩),
    .fire (rule (Communicator.handlePeerMsg 1 ("192.168.1.20", 4445) 2000 msgType msg ⟨0, 0⟩))]

/-- The refbox listens to clients and has one peer, and a client has connected. -/
def connected : List Event :=
  [.comm (.enableServer 4444), .comm (.peerCreateLocalCrypto "192.168.1.255" 4444 4445 "" ""),
    .comm (.serverClientConnected 1 ("192.168.1.2", 50000)),
    .fire (.netClientConnected ⟨2, "192.168.1.2", 50000⟩)]

/-- The client sets up BTT1 while the peer is silent. -/
theorem peersRejected_of_silent :
    ∃ tr r, RefboxRun everySecond id tr r ∧ r.benchmark.currentScenario = .btt1 ∧
      ∀ t ∈ tr, AssertedBroadcast t ∧ Rejected t := by
  have hrun : (trace (step everySecond id) start (connected ++
      clientSets 102 (.setBenchmarkScenario .btt 1) .netRecvSetBenchmarkScenario ++
      clientSets 103 (.setBenchmarkTransitionEvent .reset) .netRecvSetBenchmarkTransitionEvent)).any
      (fun p => decide (p.2.benchmark.currentScenario = .btt1 ∧
        ∀ t ∈ p.1, PeerIdZero t.label)) = true := by decide +kernel
  obtain ⟨⟨tr, r⟩, htrace, hr⟩ := (Option.any_eq_true _ _).mp hrun
  obtain ⟨hscenario, hzero⟩ := of_decide_eq_true hr
  have hrun := run_of_trace htrace
  exact ⟨tr, r, hrun, hscenario, (peersRejected_iff _ _ hrun).mpr hzero⟩

/-- The peer sets up BTT1: its messages are asserted as STREAM and take effect. -/
theorem not_peersRejected_of_first :
    ∃ tr r, RefboxRun everySecond id tr r ∧ r.benchmark.currentScenario = .btt1 ∧
      (¬ ∀ t ∈ tr, AssertedBroadcast t) ∧ ¬ ∀ t ∈ tr, Rejected t := by
  have hrun : (trace (step everySecond id) start (connected ++
      peerSets 102 (.setBenchmarkScenario .btt 1) .netRecvSetBenchmarkScenario ++
      peerSets 103 (.setBenchmarkTransitionEvent .reset) .netRecvSetBenchmarkTransitionEvent)).any
      (fun p => decide (p.2.benchmark.currentScenario = .btt1 ∧
        (¬ ∀ t ∈ p.1, AssertedBroadcast t) ∧ ¬ ∀ t ∈ p.1, Rejected t)) = true := by decide +kernel
  obtain ⟨⟨tr, r⟩, htrace, hr⟩ := (Option.any_eq_true _ _).mp hrun
  exact ⟨tr, r, run_of_trace htrace, of_decide_eq_true hr⟩

end Refbox

end FactoryHub.AtWork
