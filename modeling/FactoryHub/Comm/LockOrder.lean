import FactoryHub.Comm.Communicator
import FactoryHub.Lib.Locks

/-!
# The two mutexes of the communicator

`clips_mutex_`, under which the CLIPS environment is used, and `map_mutex_`, under which the tables
are. The signal handlers of `communicator.cpp` and the timer of `refbox.cpp` run in threads of their
own, and the rules they run call the functions for CLIPS while `clips_mutex_` is held. What counts
here is which mutex a function takes while it holds the other one; the facts it asserts are those of
`Communicator`.

* `disciplined` — every function takes `clips_mutex_` first, but for the branch of
  `handle_server_client_fail` that knows the client.
* `no_lock_cycle` — so no two threads wait for each other as long as that branch is not taken.
* `lock_cycle_of_fail` — where it is, they may.
-/

namespace FactoryHub.Comm

open Lib Threads

inductive Mutex where
  | clips  -- clips_mutex_
  | map  -- map_mutex_
  deriving DecidableEq, Repr

/-- `clips_mutex_` is created as `Mutex::RECURSIVE`. -/
def Mutex.recursive : Mutex → Bool
  | .clips => true
  | .map => false

/-- The lookups in `rev_server_clients_` on which it depends what is locked. -/
inductive Lookup where
  | disconnected (client : ClientID)
  | fail (client : ClientID)

def Lookup.found (q : Lookup) (c : Communicator) : Bool :=
  match q with
  | .disconnected client | .fail client => (c.revServerClients client).isSome

abbrev Code := Prog Mutex (Communicator → Communicator) Lookup

/-! ## Functions for CLIPS -/

/-- The functions that rules call, with their arguments. A message may be invalid. -/
inductive ClipsFunction where
  | enableServer (port : Int)
  | disableServer
  | peerCreateLocalCrypto (address : String) (sendPort recvPort : Int) (cryptoKey cipher : String)
  | peerDestroy (peerId : ℕ)
  | clientConnect (host : String) (port : Int)
  | send (clientId : ℕ) (valid : Bool)
  | broadcast (peerId : ℕ) (valid : Bool)
  | disconnect (clientId : ℕ)

namespace LockOrder

/-- Only `map_mutex_` is held while the tables are used. -/
def underMap (f : Communicator → Communicator) : Code :=
  .lock .map <| .update f <| .unlock .map .done

/-- `clips_pb_send`. -/
def clipsPbSend (_clientId : ℕ) (valid : Bool) : Code := if valid then underMap id else .done

/-- `clips_pb_broadcast`. -/
def clipsPbBroadcast (_peerId : ℕ) (valid : Bool) : Code := if valid then underMap id else .done

/-- `clips_pb_disconnect`. -/
def clipsPbDisconnect (clientId : ℕ) : Code := underMap (Communicator.clipsPbDisconnect clientId)

/-- `clips_pb_peer_create_local_crypto`. -/
def clipsPbPeerCreateLocalCrypto (address : String) (sendPort recvPort : Int)
    (cryptoKey cipher : String) : Code :=
  if sendPort > 0 then
    underMap fun c => (c.clipsPbPeerCreateLocalCrypto address sendPort recvPort cryptoKey cipher).2
  else .done

/-- `clips_pb_client_connect`. -/
def clipsPbClientConnect (host : String) (port : Int) : Code :=
  if port ≤ 0 then .done else underMap fun c => (c.clipsPbClientConnect host port).2

/-- The functions that lock nothing. -/
def unlocked (f : Communicator → Communicator) : Code := .update f .done

def code : ClipsFunction → Code
  | .enableServer port => unlocked (Communicator.enableServer port)
  | .disableServer => unlocked Communicator.disableServer
  | .peerCreateLocalCrypto address sendPort recvPort cryptoKey cipher =>
      clipsPbPeerCreateLocalCrypto address sendPort recvPort cryptoKey cipher
  | .peerDestroy peerId => unlocked (Communicator.clipsPbPeerDestroy peerId)
  | .clientConnect host port => clipsPbClientConnect host port
  | .send clientId valid => clipsPbSend clientId valid
  | .broadcast peerId valid => clipsPbBroadcast peerId valid
  | .disconnect clientId => clipsPbDisconnect clientId

end LockOrder

/-! ## Callbacks -/

/-- What threads begin: the set-up, the timer and the signals. -/
inductive Callback where
  | setupProtobufComm (port : Int)
  | timer
  | serverClientConnected (client : ClientID) (endpoint : Endpoint)
  | serverClientDisconnected (client : ClientID)
  | serverClientMsg (client : ClientID)
  | serverClientFail (client : ClientID)
  | peerMsg (peerId : ℕ)
  | clientConnected (clientId : ℕ)
  | clientDisconnected (clientId : ℕ)
  | clientMsg (clientId : ℕ)
  | clientReceiveFail (clientId : ℕ)

namespace LockOrder

/-- `clips_->run()`, under `clips_mutex_`. -/
def run : Code := .lock .clips <| .calls <| .unlock .clips .done

/-- A fact is asserted, under `clips_mutex_`. -/
def assert : Code := .lock .clips <| .unlock .clips .done

/-- `handle_server_client_connected`. -/
def handleServerClientConnected (client : ClientID) (endpoint : Endpoint) : Code :=
  .lock .map <|
  .update (fun c => (c.handleServerClientConnected (M := Unit) client endpoint).1) <|
  .unlock .map run

/-- `handle_server_client_disconnected`. -/
def handleServerClientDisconnected (client : ClientID) : Code :=
  .lock .map <|
  .test (.disconnected client)
    (.update (fun c => (c.handleServerClientDisconnected (M := Unit) client).1) <|
      .unlock .map run)
    (.unlock .map .done)

/-- `handle_server_client_msg`. The lockers are destroyed in the reverse order. -/
def handleServerClientMsg (_client : ClientID) : Code :=
  .lock .clips <| .lock .map <| .unlock .map <| .unlock .clips .done

/-- `handle_server_client_fail`. The fact is asserted while `map_mutex_` is held. -/
def handleServerClientFail (client : ClientID) : Code :=
  .lock .map <|
  .test (.fail client)
    (.lock .clips <| .unlock .clips <| .unlock .map .done)
    (.unlock .map .done)

def callback : Callback → Code
  | .setupProtobufComm port => unlocked (Communicator.enableServer port)
  | .timer => run
  | .serverClientConnected client endpoint => handleServerClientConnected client endpoint
  | .serverClientDisconnected client => handleServerClientDisconnected client
  | .serverClientMsg client => handleServerClientMsg client
  | .serverClientFail client => handleServerClientFail client
  | .clientConnected _ | .clientDisconnected _ => run
  | .peerMsg _ | .clientMsg _ | .clientReceiveFail _ => assert

/-- Only a server, a peer or a client that exists gives signals. -/
def signals (c : Communicator) : Callback → Bool
  | .setupProtobufComm _ | .timer => true
  | .serverClientConnected _ _ | .serverClientDisconnected _ | .serverClientMsg _
  | .serverClientFail _ => c.server.isSome
  | .peerMsg peerId => (c.peers peerId).isSome
  | .clientConnected clientId | .clientDisconnected clientId | .clientMsg clientId
  | .clientReceiveFail clientId => (c.clients clientId).isSome

/-- The threads of the refbox. -/
def refbox : Threads Mutex (Communicator → Communicator) Lookup Communicator Callback
    ClipsFunction where
  recursive := Mutex.recursive
  apply f c := f c
  answer := Lookup.found
  starts e c := signals c e
  entry := callback
  callee := code

end LockOrder

open LockOrder

/-- The threads `T` of the refbox, with the tables of the communicator. -/
abbrev RefboxConfig (T : Type) := Config Mutex (Communicator → Communicator) Lookup Communicator T

/-- A run of the threads, from where none has begun. -/
abbrev RefboxRun {T : Type} [DecidableEq T]
    (tr : List (Step (RefboxConfig T) (Act Callback ClipsFunction T))) (c : RefboxConfig T) :
    Prop :=
  Run (Moves refbox) { shared := {} } tr c

/-! ## The property -/

variable {T : Type}

/-- One thread holds `clips_mutex_` and waits for `map_mutex_`, another one holds `map_mutex_` and
waits for `clips_mutex_`. -/
def LockCycle (c : RefboxConfig T) : Prop :=
  ∃ t t', t' ≠ t ∧ .clips ∈ c.held t ∧ c.Wants t .map ∧ .map ∈ c.held t' ∧ c.Wants t' .clips

/-- `handle_server_client_fail` finds the client. -/
def failsKnown (c : RefboxConfig T) : Act Callback ClipsFunction T → Bool
  | .go t =>
      match c.prog t with
      | .test (.fail client) _ _ => (c.shared.revServerClients client).isSome
      | _ => false
  | .start _ _ | .call _ _ => false

/-! ## The order -/

/-- `clips_mutex_` comes first, and rules run while it alone is held. -/
def clipsFirst : Discipline Mutex Lookup where
  rank
    | .clips => 0
    | .map => 1
  allowed
    | .fail _, true => False
    | _, _ => True
  callable held := held = [.clips]

theorem underMap_obeys (f : Communicator → Communicator) :
    (underMap f).Obeys clipsFirst Mutex.recursive [.clips] (· = [.clips]) := by
  simp [underMap, Prog.Obeys, clipsFirst]

theorem run_obeys : run.Obeys clipsFirst Mutex.recursive [] (· = []) := by
  simp [run, Prog.Obeys, clipsFirst]

theorem assert_obeys : assert.Obeys clipsFirst Mutex.recursive [] (· = []) := by
  simp [assert, Prog.Obeys, clipsFirst]

/-- Every function keeps the order, on the branches it may take. -/
theorem disciplined : refbox.Disciplined clipsFirst where
  entry e := by
    show (callback e).Obeys clipsFirst Mutex.recursive [] (· = [])
    cases e with
    | setupProtobufComm port => rfl
    | timer => exact run_obeys
    | serverClientConnected client endpoint =>
        refine ⟨Or.inr nofun, ?_⟩
        show run.Obeys clipsFirst Mutex.recursive [] (· = [])
        exact run_obeys
    | serverClientDisconnected client =>
        refine ⟨Or.inr nofun, fun _ => ?_, fun _ => rfl⟩
        show run.Obeys clipsFirst Mutex.recursive [] (· = [])
        exact run_obeys
    | serverClientMsg client =>
        simp [callback, handleServerClientMsg, Prog.Obeys, clipsFirst]
    | serverClientFail client =>
        -- the branch that locks `clips_mutex_` is not allowed
        refine ⟨Or.inr nofun, fun hfound => ?_, fun _ => rfl⟩
        exact absurd hfound id
    | peerMsg peerId => exact assert_obeys
    | clientConnected clientId => exact run_obeys
    | clientDisconnected clientId => exact run_obeys
    | clientMsg clientId => exact assert_obeys
    | clientReceiveFail clientId => exact assert_obeys
  callee f held hheld := by
    have hclips : held = [.clips] := hheld
    subst hclips
    show (code f).Obeys clipsFirst Mutex.recursive [.clips] (· = [.clips])
    cases f with
    | enableServer port => rfl
    | disableServer => rfl
    | peerCreateLocalCrypto address sendPort recvPort cryptoKey cipher =>
        rw [code, clipsPbPeerCreateLocalCrypto]
        split
        · exact underMap_obeys _
        · rfl
    | peerDestroy peerId => rfl
    | clientConnect host port =>
        rw [code, clipsPbClientConnect]
        split
        · rfl
        · exact underMap_obeys _
    | send clientId valid =>
        cases valid with
        | false => rfl
        | true => exact underMap_obeys _
    | broadcast peerId valid =>
        cases valid with
        | false => rfl
        | true => exact underMap_obeys _
    | disconnect clientId => exact underMap_obeys _

theorem answers_of_not_failsKnown {c : RefboxConfig T} {a : Act Callback ClipsFunction T}
    (h : failsKnown c a = false) : Answers refbox clipsFirst c a := by
  cases a with
  | start t e => trivial
  | call t f => trivial
  | go t =>
      intro q yes no hprog
      cases q with
      | disconnected client => trivial
      | fail client =>
          simp only [failsKnown, hprog] at h
          show clipsFirst.allowed (.fail client) (c.shared.revServerClients client).isSome
          rw [h]
          trivial

/-- As long as `handle_server_client_fail` does not find its client, no two threads wait for each
other, in any interleaving. -/
theorem no_lock_cycle [DecidableEq T] {c : RefboxConfig T}
    {tr : List (Step (RefboxConfig T) (Act Callback ClipsFunction T))} (hrun : RefboxRun tr c)
    (hfail : ∀ u ∈ tr, failsKnown u.pre u.label = false) : ¬ LockCycle c := by
  rintro ⟨t, t', hne, hclips, hmap, hheld, hwants⟩
  have hsafe := safe_of_run disciplined hrun fun u hu => answers_of_not_failsKnown (hfail u hu)
  apply hsafe.not_cycle t
  have hthere : c.WaitsFor t t' := ⟨hne, .map, hmap, hheld⟩
  have hback : c.WaitsFor t' t := ⟨hne.symm, .clips, hwants, hclips⟩
  exact .tail (.single hthere) hback

/-! ## Two runs -/

/-- A server with a client. No thread has anything to do. -/
def connected : RefboxConfig (Fin 2) where
  shared := ((({} : Communicator).enableServer 4444).handleServerClientConnected (M := Unit) 1
    ("10.0.0.2", 5000)).1

theorem config_ext {c c' : RefboxConfig T} (hshared : c.shared = c'.shared)
    (hprog : ∀ t, c.prog t = c'.prog t) (hheld : ∀ t, c.held t = c'.held t) : c = c' := by
  obtain ⟨shared, prog, held⟩ := c
  obtain ⟨shared', prog', held'⟩ := c'
  obtain rfl : prog = prog' := funext hprog
  obtain rfl : held = held' := funext hheld
  cases hshared
  rfl

/-- The server is set up by thread 0, and thread 1 tells of the client. -/
theorem run_to_connected :
    ∃ tr, RefboxRun tr connected ∧ ∀ u ∈ tr, failsKnown u.pre u.label = false := by
  have hinit : RefboxRun (T := Fin 2) [] { shared := {} } := Run.init
  have hrun := ((((((((hinit.step
    (Moves.start (t := 0) (e := .setupProtobufComm 4444) rfl rfl)).step
    (Moves.update (t := 0) rfl)).step
    (Moves.start (t := 1) (e := .serverClientConnected 1 ("10.0.0.2", 5000)) rfl rfl)).step
    (Moves.lock (t := 1) rfl (by decide))).step
    (Moves.update (t := 1) rfl)).step
    (Moves.unlock (t := 1) rfl)).step
    (Moves.lock (t := 1) rfl (by decide))).step
    (Moves.returns (t := 1) rfl)).step
    (Moves.unlock (t := 1) rfl)
  have hend : ∃ tr c, RefboxRun tr c ∧ (∀ u ∈ tr, failsKnown u.pre u.label = false) ∧
      c = connected :=
    ⟨_, _, hrun, by decide, config_ext rfl (Fin.forall_fin_two.mpr ⟨rfl, rfl⟩)
      (Fin.forall_fin_two.mpr ⟨rfl, rfl⟩)⟩
  obtain ⟨tr, c, hrun, hfail, rfl⟩ := hend
  exact ⟨tr, hrun, hfail⟩

/-- Thread 1 is to look up the client of a failure, and thread 0 is at the send of a rule. -/
def lookingUp (client : ClientID) : RefboxConfig (Fin 2) where
  shared := connected.shared
  prog
    | 0 => (clipsPbSend 1 true).seq (.calls (.unlock .clips .done))
    | 1 => .test (.fail client) (.lock .clips <| .unlock .clips <| .unlock .map .done)
        (.unlock .map .done)
  held
    | 0 => [.clips]
    | 1 => [.map]

theorem run_to_lookingUp (client : ClientID) :
    ∃ tr, RefboxRun tr (lookingUp client) ∧ ∀ u ∈ tr, failsKnown u.pre u.label = false := by
  obtain ⟨tr, hrun, hfail⟩ := run_to_connected
  have hrun' := ((((hrun.step
    (Moves.start (t := 1) (e := .serverClientFail client) rfl rfl)).step
    (Moves.lock (t := 1) rfl (by simp [Config.goOn, connected]))).step
    (Moves.start (t := 0) (e := .timer) rfl rfl)).step
    (Moves.lock (t := 0) rfl (by simp [Config.goOn, connected, Fin.forall_fin_two]))).step
    (Moves.call (t := 0) (.send 1 true) rfl)
  have hend : ∃ tr c, RefboxRun tr c ∧ (∀ u ∈ tr, failsKnown u.pre u.label = false) ∧
      c = lookingUp client := by
    refine ⟨_, _, hrun', ?_, ?_⟩
    · simp only [List.forall_mem_cons]
      exact ⟨rfl, rfl, rfl, rfl, rfl, hfail⟩
    · exact config_ext rfl (Fin.forall_fin_two.mpr ⟨rfl, rfl⟩) (Fin.forall_fin_two.mpr ⟨rfl, rfl⟩)
  obtain ⟨tr, c, hrun, hfail, rfl⟩ := hend
  exact ⟨tr, hrun, hfail⟩

/-- Thread 1 has a failure of a client that is not known, and thread 0, in a rule that sends, waits
for it. -/
theorem no_lock_cycle_of_unknown :
    ∃ tr c, RefboxRun (T := Fin 2) tr c ∧ c.WaitsFor 0 1 ∧ ¬ LockCycle c := by
  obtain ⟨tr, hrun, hfail⟩ := run_to_lookingUp 2
  have hrun' := hrun.step (Moves.test (t := 1) rfl)
  refine ⟨_, _, hrun', ⟨by decide, .map, ⟨_, rfl⟩, by decide⟩, no_lock_cycle hrun' ?_⟩
  simp only [List.forall_mem_cons]
  exact ⟨rfl, hfail⟩

/-- Thread 1 has a failure of the client, thread 0 a rule that sends to it: each waits for the other
one. -/
theorem lock_cycle_of_fail : ∃ tr c, RefboxRun (T := Fin 2) tr c ∧ LockCycle c := by
  obtain ⟨tr, hrun, -⟩ := run_to_lookingUp 1
  have hrun' := hrun.step (Moves.test (t := 1) rfl)
  exact ⟨_, _, hrun', 0, 1, by decide, by decide, ⟨_, rfl⟩, by decide, ⟨_, rfl⟩⟩

end FactoryHub.Comm
