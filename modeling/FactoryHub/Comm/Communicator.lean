import FactoryHub.Clips.Time
import Mathlib.Logic.Function.Basic

/-!
# The protobuf communicator

`communicator.cpp` of protobuf_clips: stream server, stream clients and broadcast peers share one
counter of ids, and each message they deliver is asserted as a `protobuf-msg` fact. The slot `type`
is the type of `ptr` here. Facts about failed receptions are left out.

* `step_peer` — a fact with client-type PEER is asserted for the message of a peer.
* `handlePeerMsg_rcvdVia` — it says BROADCAST if and only if the id of the peer, cut to an
  `unsigned int`, is 0.
* `step_numbered` — the ids of the peers run from 1 to the counter.
-/

namespace FactoryHub.Comm

open Clips

/-! ## Facts -/

inductive RcvdVia where
  | stream | broadcast
  deriving DecidableEq, Repr

inductive ClientType where
  | server | client | peer
  deriving DecidableEq, Repr

/-- Address and port. -/
abbrev Endpoint := String × ℕ

/-- The fact `protobuf-msg`, for messages `M`. -/
structure ProtobufMsg (M : Type) where
  compId : UInt16
  msgType : UInt16
  rcvdVia : RcvdVia
  rcvdFrom : Endpoint
  rcvdAt : Time
  clientType : ClientType
  clientId : ℕ
  ptr : M
  deriving DecidableEq

/-- What the communicator asserts. -/
inductive Fact (M : Type) where
  | serverClientConnected (clientId : ℕ) (host : String) (port : ℕ)
  | serverClientDisconnected (clientId : ℕ)
  | clientConnected (clientId : ℕ)
  | clientDisconnected (clientId : ℕ)
  | protobufMsg (msg : ProtobufMsg M)
  deriving DecidableEq

/-! ## State -/

/-- `ProtobufStreamServer::ClientID`. -/
abbrev ClientID := ℕ

/-- What a `ProtobufBroadcastPeer` is created with. -/
structure BroadcastPeer where
  address : String
  sendPort : Int
  recvPort : Int
  cryptoKey : String
  cipher : String
  deriving DecidableEq, Repr

/-- `ClipsProtobufCommunicator`. A `std::map` is the function of its entries, and a client stands
for the endpoint it connects to. -/
structure Communicator where
  server : Option Int := none
  nextClientId : ℕ := 0
  serverClients : ℕ → Option ClientID := fun _ => none
  revServerClients : ClientID → Option ℕ := fun _ => none
  clients : ℕ → Option (String × Int) := fun _ => none
  peers : ℕ → Option BroadcastPeer := fun _ => none
  clientEndpoints : ℕ → Endpoint := fun _ => ("", 0)

variable {M : Type}

/-- `clips_assert_message`. The parameter `client_id` is an `unsigned int`. -/
def clipsAssertMessage (endpoint : Endpoint) (compId msgType : UInt16) (msg : M) (tv : Time)
    (ct : ClientType) (clientId : ℕ) : ProtobufMsg M :=
  let clientId := clientId % 2 ^ 32
  { compId
    msgType
    -- the id decides, not the client type
    rcvdVia := if clientId = 0 then .broadcast else .stream
    rcvdFrom := endpoint
    rcvdAt := tv
    clientType := ct
    clientId
    ptr := msg }

namespace Communicator

/-! ## Functions for CLIPS -/

/-- `enable_server`. -/
def enableServer (port : Int) (c : Communicator) : Communicator :=
  if port > 0 ∧ c.server = none then { c with server := some port } else c

/-- `disable_server`. -/
def disableServer (c : Communicator) : Communicator := { c with server := none }

/-- `clips_pb_peer_create_local_crypto`. -/
def clipsPbPeerCreateLocalCrypto (address : String) (sendPort recvPort : Int)
    (cryptoKey cipher : String) (c : Communicator) : ℕ × Communicator :=
  let recvPort := if recvPort ≤ 0 then sendPort else recvPort
  if sendPort > 0 then
    let peerId := c.nextClientId + 1
    let peer : BroadcastPeer := { address, sendPort, recvPort, cryptoKey, cipher }
    (peerId, { c with nextClientId := peerId, peers := Function.update c.peers peerId peer })
  else (0, c)

/-- `clips_pb_peer_destroy`. -/
def clipsPbPeerDestroy (peerId : ℕ) (c : Communicator) : Communicator :=
  { c with peers := Function.update c.peers peerId none }

/-- `clips_pb_client_connect`. -/
def clipsPbClientConnect (host : String) (port : Int) (c : Communicator) : ℕ × Communicator :=
  if port ≤ 0 then (0, c)
  else
    let clientId := c.nextClientId + 1
    (clientId,
      { c with
        nextClientId := clientId
        clients := Function.update c.clients clientId (some (host, port)) })

/-- `clips_pb_disconnect`. -/
def clipsPbDisconnect (clientId : ℕ) (c : Communicator) : Communicator :=
  match c.serverClients clientId with
  | some srvClient =>
      { c with
        serverClients := Function.update c.serverClients clientId none
        revServerClients := Function.update c.revServerClients srvClient none }
  | none =>
      -- a peer is in neither of the tables
      { c with clients := Function.update c.clients clientId none }

/-! ## Signal handlers -/

/-- `handle_server_client_connected`. -/
def handleServerClientConnected (client : ClientID) (endpoint : Endpoint) (c : Communicator) :
    Communicator × Fact M :=
  let clientId := c.nextClientId + 1
  ({ c with
      nextClientId := clientId
      clientEndpoints := Function.update c.clientEndpoints clientId endpoint
      serverClients := Function.update c.serverClients clientId (some client)
      revServerClients := Function.update c.revServerClients client (some clientId) },
    .serverClientConnected clientId endpoint.1 endpoint.2)

/-- `handle_server_client_disconnected`. -/
def handleServerClientDisconnected (client : ClientID) (c : Communicator) :
    Communicator × Option (Fact M) :=
  match c.revServerClients client with
  | some clientId =>
      ({ c with
          revServerClients := Function.update c.revServerClients client none
          serverClients := Function.update c.serverClients clientId none },
        some (.serverClientDisconnected clientId))
  | none => (c, none)

/-- `handle_server_client_msg`. -/
def handleServerClientMsg (client : ClientID) (compId msgType : UInt16) (msg : M) (tv : Time)
    (c : Communicator) : Option (ProtobufMsg M) :=
  (c.revServerClients client).map fun clientId =>
    clipsAssertMessage (c.clientEndpoints clientId) compId msgType msg tv .server clientId

/-- `handle_peer_msg`. -/
def handlePeerMsg (peerId : ℕ) (endpoint : Endpoint) (compId msgType : UInt16) (msg : M)
    (tv : Time) : ProtobufMsg M :=
  clipsAssertMessage endpoint compId msgType msg tv .peer peerId

/-- `handle_client_msg`. -/
def handleClientMsg (clientId : ℕ) (compId msgType : UInt16) (msg : M) (tv : Time) :
    ProtobufMsg M :=
  clipsAssertMessage ("", 0) compId msgType msg tv .client clientId

end Communicator

/-! ## Steps -/

/-- Calls of the functions for CLIPS, and signals of the server, the clients and the peers. A message
comes with the time of day at its reception. -/
inductive CommEvent (M : Type) where
  | enableServer (port : Int)
  | disableServer
  | peerCreateLocalCrypto (address : String) (sendPort recvPort : Int) (cryptoKey cipher : String)
  | peerDestroy (peerId : ℕ)
  | clientConnect (host : String) (port : Int)
  | disconnect (clientId : ℕ)
  | serverClientConnected (client : ClientID) (endpoint : Endpoint)
  | serverClientDisconnected (client : ClientID)
  | serverClientMsg (client : ClientID) (compId msgType : UInt16) (msg : M) (tv : Time)
  | peerMsg (peerId : ℕ) (endpoint : Endpoint) (compId msgType : UInt16) (msg : M) (tv : Time)
  | clientConnected (clientId : ℕ)
  | clientDisconnected (clientId : ℕ)
  | clientMsg (clientId : ℕ) (compId msgType : UInt16) (msg : M) (tv : Time)

namespace Communicator

/-- The communicator and the fact it asserts. Only a server, a client or a peer that exists gives
signals. -/
def step (c : Communicator) : CommEvent M → Option (Communicator × Option (Fact M))
  | .enableServer port => some (c.enableServer port, none)
  | .disableServer => some (c.disableServer, none)
  | .peerCreateLocalCrypto address sendPort recvPort cryptoKey cipher =>
      some ((c.clipsPbPeerCreateLocalCrypto address sendPort recvPort cryptoKey cipher).2, none)
  | .peerDestroy peerId => some (c.clipsPbPeerDestroy peerId, none)
  | .clientConnect host port => some ((c.clipsPbClientConnect host port).2, none)
  | .disconnect clientId => some (c.clipsPbDisconnect clientId, none)
  | .serverClientConnected client endpoint =>
      if c.server.isSome then
        let (c, fact) := c.handleServerClientConnected client endpoint
        some (c, some fact)
      else none
  | .serverClientDisconnected client =>
      if c.server.isSome then some (c.handleServerClientDisconnected client) else none
  | .serverClientMsg client compId msgType msg tv =>
      if c.server.isSome then
        some (c, (c.handleServerClientMsg client compId msgType msg tv).map .protobufMsg)
      else none
  | .peerMsg peerId endpoint compId msgType msg tv =>
      if (c.peers peerId).isSome then
        some (c, some (.protobufMsg (handlePeerMsg peerId endpoint compId msgType msg tv)))
      else none
  | .clientConnected clientId =>
      if (c.clients clientId).isSome then some (c, some (.clientConnected clientId)) else none
  | .clientDisconnected clientId =>
      if (c.clients clientId).isSome then some (c, some (.clientDisconnected clientId)) else none
  | .clientMsg clientId compId msgType msg tv =>
      if (c.clients clientId).isSome then
        some (c, some (.protobufMsg (handleClientMsg clientId compId msgType msg tv)))
      else none

variable {c c' : Communicator} {e : CommEvent M} {fact : Option (Fact M)}

/-- Only a peer that exists delivers messages. -/
theorem peers_of_step {peerId : ℕ} {endpoint : Endpoint} {compId msgType : UInt16} {msg : M}
    {tv : Time} (h : c.step (.peerMsg peerId endpoint compId msgType msg tv) = some (c', fact)) :
    (c.peers peerId).isSome ∧ c' = c ∧
      fact = some (.protobufMsg (handlePeerMsg peerId endpoint compId msgType msg tv)) := by
  rw [step] at h
  split at h
  · next hpeer =>
      rw [Option.some.injEq, Prod.mk.injEq] at h
      exact ⟨hpeer, h.1.symm, h.2.symm⟩
  · cases h

/-- A fact with client-type PEER is asserted for the message of a peer. -/
theorem step_peer {mf : ProtobufMsg M} (h : c.step e = some (c', some (.protobufMsg mf)))
    (hpeer : mf.clientType = .peer) :
    ∃ peerId endpoint compId msgType msg tv,
      e = .peerMsg peerId endpoint compId msgType msg tv ∧
        mf = handlePeerMsg peerId endpoint compId msgType msg tv := by
  cases e with
  | peerMsg peerId endpoint compId msgType msg tv =>
      obtain ⟨_, _, heq⟩ := peers_of_step h
      rw [Option.some.injEq, Fact.protobufMsg.injEq] at heq
      exact ⟨_, _, _, _, _, _, rfl, heq⟩
  | serverClientMsg client compId msgType msg tv =>
      -- the client type is SERVER
      rw [step, handleServerClientMsg] at h
      cases hclient : c.revServerClients client with
      | none => simp [hclient] at h
      | some clientId =>
          simp only [hclient, Option.map_some, Option.ite_none_right_eq_some, Option.some.injEq,
            Prod.mk.injEq, Fact.protobufMsg.injEq] at h
          rw [← h.2.2] at hpeer
          cases hpeer
  | clientMsg clientId compId msgType msg tv =>
      -- the client type is CLIENT
      simp only [step, Option.ite_none_right_eq_some, Option.some.injEq, Prod.mk.injEq,
        Fact.protobufMsg.injEq] at h
      rw [← h.2.2] at hpeer
      cases hpeer
  | serverClientDisconnected client =>
      rw [step, handleServerClientDisconnected] at h
      cases hclient : c.revServerClients client with
      | none => simp [hclient] at h
      | some clientId => simp [hclient] at h
  | enableServer | disableServer | peerCreateLocalCrypto | peerDestroy | clientConnect
    | disconnect | clientConnected | clientDisconnected =>
      simp [step] at h
  | serverClientConnected client endpoint =>
      simp [step, handleServerClientConnected] at h

/-- The message of a peer is asserted as BROADCAST if its id is 0 as an `unsigned int`. -/
theorem handlePeerMsg_rcvdVia (peerId : ℕ) (endpoint : Endpoint) (compId msgType : UInt16) (msg : M)
    (tv : Time) :
    (handlePeerMsg peerId endpoint compId msgType msg tv).rcvdVia = .broadcast ↔
      peerId % 2 ^ 32 = 0 := by
  show (if peerId % 2 ^ 32 = 0 then RcvdVia.broadcast else RcvdVia.stream) = .broadcast ↔ _
  split <;> simp_all

/-! ## Ids -/

/-- The ids of the peers were handed out by the counter, which starts with 1. -/
def Numbered (c : Communicator) : Prop :=
  ∀ peerId, (c.peers peerId).isSome → 0 < peerId ∧ peerId ≤ c.nextClientId

theorem numbered_init : Numbered {} := by
  intro peerId h
  cases h

/-- The counter can only grow. -/
theorem Numbered.of_le (h : Numbered c) (hpeers : c'.peers = c.peers)
    (hnext : c.nextClientId ≤ c'.nextClientId) : Numbered c' := by
  intro peerId hpeer
  rw [hpeers] at hpeer
  exact ⟨(h peerId hpeer).1, (h peerId hpeer).2.trans hnext⟩

theorem numbered_peerCreate (h : Numbered c) (address : String) (sendPort recvPort : Int)
    (cryptoKey cipher : String) :
    Numbered (c.clipsPbPeerCreateLocalCrypto address sendPort recvPort cryptoKey cipher).2 := by
  by_cases hport : sendPort > 0
  · rw [clipsPbPeerCreateLocalCrypto, if_pos hport]
    intro peerId hpeer
    by_cases heq : peerId = c.nextClientId + 1
    · -- the new peer
      subst heq
      exact ⟨Nat.succ_pos _, le_refl (c.nextClientId + 1)⟩
    · simp only [Function.update_of_ne heq] at hpeer
      obtain ⟨hpos, hle⟩ := h peerId hpeer
      exact ⟨hpos, hle.trans (Nat.le_succ _)⟩
  · rw [clipsPbPeerCreateLocalCrypto, if_neg hport]
    exact h

theorem numbered_peerDestroy (h : Numbered c) (peerId : ℕ) :
    Numbered (c.clipsPbPeerDestroy peerId) := by
  intro other hother
  by_cases heq : other = peerId
  · subst heq
    simp [clipsPbPeerDestroy] at hother
  · apply h
    rw [← Function.update_of_ne heq none c.peers]
    exact hother

theorem step_numbered (h : Numbered c) (hstep : c.step e = some (c', fact)) : Numbered c' := by
  cases e with
  | peerCreateLocalCrypto address sendPort recvPort cryptoKey cipher =>
      simp only [step, Option.some.injEq, Prod.mk.injEq] at hstep
      rw [← hstep.1]
      exact numbered_peerCreate h _ _ _ _ _
  | peerDestroy peerId =>
      simp only [step, Option.some.injEq, Prod.mk.injEq] at hstep
      rw [← hstep.1]
      exact numbered_peerDestroy h peerId
  | enableServer port =>
      simp only [step, enableServer, Option.some.injEq, Prod.mk.injEq] at hstep
      rw [← hstep.1]
      split <;> exact h
  | disableServer =>
      simp only [step, Option.some.injEq, Prod.mk.injEq] at hstep
      rw [← hstep.1]
      exact h
  | clientConnect host port =>
      simp only [step, clipsPbClientConnect, Option.some.injEq, Prod.mk.injEq] at hstep
      rw [← hstep.1]
      split
      · exact h
      · exact h.of_le rfl (Nat.le_succ _)
  | disconnect clientId =>
      simp only [step, clipsPbDisconnect, Option.some.injEq, Prod.mk.injEq] at hstep
      rw [← hstep.1]
      split <;> exact h
  | serverClientConnected client endpoint =>
      simp only [step, Option.ite_none_right_eq_some, Option.some.injEq, Prod.mk.injEq] at hstep
      rw [← hstep.2.1]
      exact h.of_le rfl (Nat.le_succ _)
  | serverClientDisconnected client =>
      simp only [step, handleServerClientDisconnected, Option.ite_none_right_eq_some,
        Option.some.injEq] at hstep
      rw [show c' = (c', fact).1 from rfl, ← hstep.2]
      split <;> exact h
  | serverClientMsg | peerMsg | clientConnected | clientDisconnected | clientMsg =>
      simp only [step, Option.ite_none_right_eq_some, Option.some.injEq, Prod.mk.injEq] at hstep
      rw [← hstep.2.1]
      exact h

end Communicator

end FactoryHub.Comm
