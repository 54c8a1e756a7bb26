import FactoryHub.Comm.Communicator
import FactoryHub.Lib.Run
import FactoryHub.Lib.TwoWay

/-!
# Addresses of server clients, clients and peers

The communicator gives every server client, client and peer an id of its own, and finds the server
clients by their id and by the `ClientID` of the server, an `unsigned int` of which the server takes
the next one for each connection it waits for.

* `step_addressed` — what one operation keeps, unless a connection gets a `ClientID` in use.
* `unambiguous_iff` — the tables are inverse to each other, no id is used twice and a disconnection is
  reported once, along the runs in which that does not happen, and only along these.
-/

namespace FactoryHub.Comm

open Lib

variable {M : Type}

/-! ## The server and the communicator -/

/-- The communicator, the `ClientID` of the session that waits for a connection and the facts
asserted so far. -/
structure Bridge (M : Type) where
  communicator : Communicator := {}
  nextCid : ClientID := 1
  facts : List (Fact M) := []

/-- What happens: the server accepts a connection, or fails to, or another call or signal of the
communicator. -/
inductive BridgeEvent (M : Type) where
  | accept (endpoint : Endpoint)
  | acceptFailed
  | comm (e : CommEvent M)

namespace Bridge

variable (b : Bridge M)

/-- `next_cid_++`, of an `unsigned int`. -/
def cidAfter : ClientID := (b.nextCid + 1) % 2 ^ 32

/-- The communicator after a call or signal, with the fact it asserts. -/
def assert (r : Communicator × Option (Fact M)) : Bridge M :=
  { b with communicator := r.1, facts := b.facts ++ r.2.toList }

/-- One event. -/
def step : BridgeEvent M → Option (Bridge M)
  | .accept endpoint =>
      (b.communicator.step (.serverClientConnected b.nextCid endpoint)).map fun r =>
        { b.assert r with nextCid := b.cidAfter }
  | .acceptFailed =>
      if b.communicator.server.isSome then some { b with nextCid := b.cidAfter } else none
  | .comm (.serverClientConnected _ _) =>
      -- only for a connection that the server has accepted
      none
  | .comm (.enableServer port) =>
      (b.communicator.step (.enableServer port)).map fun r =>
        -- a new server starts with the first `ClientID`
        { b.assert r with nextCid := if b.communicator.server = none then 1 else b.nextCid }
  | .comm e => (b.communicator.step e).map b.assert

end Bridge

/-- A run of the server and the communicator. -/
abbrev BridgeRun (M : Type) := Run (fun (b : Bridge M) e b' => b.step e = some b')

/-! ## The property -/

def Fact.isServerClientDisconnected (clientId : ℕ) : Fact M → Bool
  | .serverClientDisconnected id => id = clientId
  | _ => false

/-- The server has taken another `ClientID`. -/
def BridgeEvent.takesCid : BridgeEvent M → Bool
  | .accept _ | .acceptFailed => true
  | .comm _ => false

def BridgeEvent.disables : BridgeEvent M → Bool
  | .comm .disableServer => true
  | _ => false

namespace Communicator

/-- A key of one of the tables by which `pb-send` chooses what to send with. -/
def IsKey (c : Communicator) (id : ℕ) : Prop :=
  (c.serverClients id).isSome ∨ (c.clients id).isSome ∨ (c.peers id).isSome

/-- The tables of server clients are inverse to each other, and no id is a key of two tables. -/
structure Unambiguous (c : Communicator) : Prop where
  inverse : Inverse c.serverClients c.revServerClients
  serverClients : ∀ id, (c.serverClients id).isSome → c.clients id = none ∧ c.peers id = none
  clients : ∀ id, (c.clients id).isSome → c.peers id = none

/-- As it is created. The counter is not initialized. -/
structure Fresh (c : Communicator) : Prop where
  serverClients : c.serverClients = fun _ => none
  revServerClients : c.revServerClients = fun _ => none
  clients : c.clients = fun _ => none
  peers : c.peers = fun _ => none

end Communicator

namespace Bridge

/-- The addresses are unambiguous, and no disconnection was reported twice. -/
structure Unambiguous (b : Bridge M) : Prop where
  tables : b.communicator.Unambiguous
  once : ∀ id, b.facts.countP (Fact.isServerClientDisconnected id) ≤ 1

/-- A key that is new has not been a key before. -/
def NeverReused (tr : List (Step (Bridge M) (BridgeEvent M))) : Prop :=
  ∀ later t earlier, tr = later ++ t :: earlier →
    ∀ id, t.post.communicator.IsKey id → ¬ t.pre.communicator.IsKey id →
      ∀ u ∈ earlier, ¬ u.pre.communicator.IsKey id

/-- A connection is accepted under a `ClientID` that is in use. -/
def Reconnects (b : Bridge M) : BridgeEvent M → Prop
  | .accept _ => (b.communicator.revServerClients b.nextCid).isSome
  | _ => False

/-- Nothing has happened. -/
structure Fresh (b : Bridge M) : Prop where
  communicator : b.communicator.Fresh
  facts : b.facts = []

end Bridge

/-! ## What one operation keeps -/

/-- The invariant, with the facts asserted so far: ids come from the counter, and that of a client
whose disconnection was reported is gone. -/
structure Addressed (c : Communicator) (facts : List (Fact M)) : Prop where
  tables : c.Unambiguous
  keys : ∀ id, c.IsKey id → id ≤ c.nextClientId
  once : ∀ id, facts.countP (Fact.isServerClientDisconnected id) ≤ 1
  gone : ∀ id, 0 < facts.countP (Fact.isServerClientDisconnected id) →
    id ≤ c.nextClientId ∧ c.serverClients id = none

namespace Addressed

variable {c c' : Communicator} {facts : List (Fact M)}

theorem isKey_succ (h : Addressed c facts) : ¬ c.IsKey (c.nextClientId + 1) := fun hkey =>
  absurd (h.keys _ hkey) (Nat.not_succ_le_self _)

theorem serverClients_succ (h : Addressed c facts) :
    c.serverClients (c.nextClientId + 1) = none :=
  Option.not_isSome_iff_eq_none.mp fun hkey => h.isKey_succ (Or.inl hkey)

theorem clients_succ (h : Addressed c facts) : c.clients (c.nextClientId + 1) = none :=
  Option.not_isSome_iff_eq_none.mp fun hkey => h.isKey_succ (Or.inr (Or.inl hkey))

theorem peers_succ (h : Addressed c facts) : c.peers (c.nextClientId + 1) = none :=
  Option.not_isSome_iff_eq_none.mp fun hkey => h.isKey_succ (Or.inr (Or.inr hkey))

/-- A fact that is no disconnection of a server client. -/
theorem assert_fact (h : Addressed c facts) {fact : Fact M}
    (hfact : ∀ id, fact.isServerClientDisconnected id = false) : Addressed c (facts ++ [fact]) := by
  have hcount : ∀ id, (facts ++ [fact]).countP (Fact.isServerClientDisconnected id) =
      facts.countP (Fact.isServerClientDisconnected id) := by
    intro id
    rw [List.countP_append, Nat.add_eq_left, List.countP_eq_zero]
    intro f hf
    rw [List.mem_singleton.mp hf, hfact id]
    exact Bool.false_ne_true
  refine ⟨h.tables, h.keys, ?_, ?_⟩
  · intro id
    rw [hcount]
    exact h.once id
  · intro id
    rw [hcount]
    exact h.gone id

theorem assert_none (h : Addressed c facts) :
    Addressed c (facts ++ (none : Option (Fact M)).toList) := by
  rw [Option.toList_none, List.append_nil]
  exact h

/-- A connection gets the next id, and is in both tables. -/
theorem connected (h : Addressed c facts) {client : ClientID} {endpoint : Endpoint}
    (hfree : c.revServerClients client = none) :
    Addressed (c.handleServerClientConnected (M := M) client endpoint).1 facts := by
  have hinverse := h.tables.inverse.insert h.serverClients_succ hfree
  refine ⟨⟨hinverse, ?_, h.tables.clients⟩, ?_, h.once, ?_⟩
  · intro id hkey
    by_cases heq : id = c.nextClientId + 1
    · subst heq
      exact ⟨h.clients_succ, h.peers_succ⟩
    · apply h.tables.serverClients id
      rwa [← Function.update_of_ne heq (some client) c.serverClients]
  · intro id hkey
    show id ≤ c.nextClientId + 1
    by_cases heq : id = c.nextClientId + 1
    · exact heq.le
    · refine (h.keys id ?_).trans (Nat.le_succ _)
      refine hkey.imp_left fun hserver => ?_
      rwa [← Function.update_of_ne heq (some client) c.serverClients]
  · intro id hcount
    obtain ⟨hle, hnone⟩ := h.gone id hcount
    refine ⟨hle.trans (Nat.le_succ _), ?_⟩
    show Function.update c.serverClients (c.nextClientId + 1) (some client) id = none
    rw [Function.update_of_ne (Nat.lt_succ_of_le hle).ne]
    exact hnone

/-- A server client leaves both tables. -/
theorem erase (h : Addressed c facts) {id : ℕ} {client : ClientID}
    (hclient : c.serverClients id = some client) :
    Addressed { c with
      serverClients := Function.update c.serverClients id none
      revServerClients := Function.update c.revServerClients client none } facts := by
  refine ⟨⟨h.tables.inverse.erase hclient, ?_, h.tables.clients⟩, ?_, h.once, ?_⟩
  · exact fun i hi => h.tables.serverClients i (isSome_of_erase hi)
  · exact fun i hi => h.keys i (hi.imp_left isSome_of_erase)
  · intro i hcount
    obtain ⟨hle, hnone⟩ := h.gone i hcount
    exact ⟨hle, erase_eq_none id hnone⟩

/-- **A disconnection is reported** for a client that is in the tables, so it was not before. -/
theorem disconnected (h : Addressed c facts) {client : ClientID} :
    Addressed (c.handleServerClientDisconnected (M := M) client).1
      (facts ++ (c.handleServerClientDisconnected (M := M) client).2.toList) := by
  unfold Communicator.handleServerClientDisconnected
  split
  · next clientId hrev =>
      have hclient := (h.tables.inverse clientId client).mpr hrev
      have hzero : facts.countP (Fact.isServerClientDisconnected clientId) = 0 := by
        by_contra hne
        have hnone := (h.gone clientId (Nat.pos_of_ne_zero hne)).2
        rw [hclient] at hnone
        cases hnone
      have hkey : clientId ≤ c.nextClientId :=
        h.keys clientId (Or.inl (by rw [hclient]; rfl))
      have herase := h.erase hclient
      have hcount : ∀ id, (facts ++ [Fact.serverClientDisconnected clientId]).countP
          (Fact.isServerClientDisconnected id) =
            facts.countP (Fact.isServerClientDisconnected id) + if clientId = id then 1 else 0 := by
        intro id
        rw [List.countP_append]
        simp [List.countP_cons, Fact.isServerClientDisconnected]
      refine ⟨herase.tables, herase.keys, ?_, ?_⟩
      · intro id
        simp only [Option.toList_some, hcount]
        split
        · next heq =>
            subst heq
            omega
        · exact h.once id
      · intro id hpos
        simp only [Option.toList_some, hcount] at hpos
        split at hpos
        · next heq =>
            subst heq
            exact ⟨hkey, Function.update_self ..⟩
        · exact herase.gone id hpos
  · rw [Option.toList_none, List.append_nil]
    exact h

/-- `clients_` loses a key. -/
theorem eraseClient (h : Addressed c facts) (id : ℕ) :
    Addressed { c with clients := Function.update c.clients id none } facts := by
  refine ⟨⟨h.tables.inverse, ?_, ?_⟩, ?_, h.once, h.gone⟩
  · intro i hi
    obtain ⟨hclient, hpeer⟩ := h.tables.serverClients i hi
    exact ⟨erase_eq_none id hclient, hpeer⟩
  · exact fun i hi => h.tables.clients i (isSome_of_erase hi)
  · exact fun i hi => h.keys i (hi.imp_right (Or.imp_left isSome_of_erase))

/-- `peers_` loses a key. -/
theorem peerDestroy (h : Addressed c facts) (id : ℕ) :
    Addressed (c.clipsPbPeerDestroy id) facts := by
  refine ⟨⟨h.tables.inverse, ?_, ?_⟩, ?_, h.once, h.gone⟩
  · intro i hi
    obtain ⟨hclient, hpeer⟩ := h.tables.serverClients i hi
    exact ⟨hclient, erase_eq_none id hpeer⟩
  · exact fun i hi => erase_eq_none id (h.tables.clients i hi)
  · exact fun i hi => h.keys i (hi.imp_right (Or.imp_right isSome_of_erase))

/-- The counter gives the id of a new client. -/
theorem clientConnect (h : Addressed c facts) (host : String) (port : Int) :
    Addressed (c.clipsPbClientConnect host port).2 facts := by
  unfold Communicator.clipsPbClientConnect
  split
  · exact h
  · refine ⟨⟨h.tables.inverse, ?_, ?_⟩, ?_, h.once, ?_⟩
    · intro i hi
      refine ⟨?_, (h.tables.serverClients i hi).2⟩
      have hne : i ≠ c.nextClientId + 1 := by
        rintro rfl
        exact h.isKey_succ (Or.inl hi)
      exact (Function.update_of_ne hne _ _).trans (h.tables.serverClients i hi).1
    · intro i hi
      rcases isSome_of_update hi with hold | ⟨rfl, -⟩
      · exact h.tables.clients i hold
      · exact h.peers_succ
    · intro i hi
      show i ≤ c.nextClientId + 1
      rcases hi with hi | hi | hi
      · exact (h.keys i (Or.inl hi)).trans (Nat.le_succ _)
      · rcases isSome_of_update hi with hold | ⟨rfl, -⟩
        · exact (h.keys i (Or.inr (Or.inl hold))).trans (Nat.le_succ _)
        · exact le_rfl
      · exact (h.keys i (Or.inr (Or.inr hi))).trans (Nat.le_succ _)
    · intro i hcount
      obtain ⟨hle, hnone⟩ := h.gone i hcount
      exact ⟨hle.trans (Nat.le_succ _), hnone⟩

/-- The counter gives the id of a new peer. -/
theorem peerCreate (h : Addressed c facts) (address : String) (sendPort recvPort : Int)
    (cryptoKey cipher : String) :
    Addressed (c.clipsPbPeerCreateLocalCrypto address sendPort recvPort cryptoKey cipher).2
      facts := by
  unfold Communicator.clipsPbPeerCreateLocalCrypto
  dsimp only
  split
  · generalize (⟨address, sendPort, if recvPort ≤ 0 then sendPort else recvPort, cryptoKey,
      cipher⟩ : BroadcastPeer) = peer
    have hother : ∀ i, i ≠ c.nextClientId + 1 → c.peers i = none →
        Function.update c.peers (c.nextClientId + 1) (some peer) i = none := by
      intro i hne hi
      rw [Function.update_of_ne hne]
      exact hi
    refine ⟨⟨h.tables.inverse, ?_, ?_⟩, ?_, h.once, ?_⟩
    · intro i hi
      have hne : i ≠ c.nextClientId + 1 := by
        rintro rfl
        exact h.isKey_succ (Or.inl hi)
      exact ⟨(h.tables.serverClients i hi).1, hother i hne (h.tables.serverClients i hi).2⟩
    · intro i hi
      have hne : i ≠ c.nextClientId + 1 := by
        rintro rfl
        exact h.isKey_succ (Or.inr (Or.inl hi))
      exact hother i hne (h.tables.clients i hi)
    · intro i hi
      show i ≤ c.nextClientId + 1
      by_cases heq : i = c.nextClientId + 1
      · exact heq.le
      · refine (h.keys i ?_).trans (Nat.le_succ _)
        refine hi.imp_right (Or.imp_right fun hpeer => ?_)
        rwa [← Function.update_of_ne heq (some peer) c.peers]
    · intro i hcount
      obtain ⟨hle, hnone⟩ := h.gone i hcount
      exact ⟨hle.trans (Nat.le_succ _), hnone⟩
  · exact h

theorem pbDisconnect (h : Addressed c facts) (id : ℕ) :
    Addressed (c.clipsPbDisconnect id) facts := by
  unfold Communicator.clipsPbDisconnect
  split
  · next client hclient => exact h.erase hclient
  · exact h.eraseClient id

/-- The tables and the counter stay as they are. -/
theorem of_eq (h : Addressed c facts) (hserver : c'.serverClients = c.serverClients)
    (hrev : c'.revServerClients = c.revServerClients) (hclients : c'.clients = c.clients)
    (hpeers : c'.peers = c.peers) (hnext : c'.nextClientId = c.nextClientId) :
    Addressed c' facts := by
  constructor
  · constructor
    · rw [hserver, hrev]
      exact h.tables.inverse
    · rw [hserver, hclients, hpeers]
      exact h.tables.serverClients
    · rw [hclients, hpeers]
      exact h.tables.clients
  · intro id hkey
    rw [Communicator.IsKey, hserver, hclients, hpeers] at hkey
    rw [hnext]
    exact h.keys id hkey
  · exact h.once
  · rw [hserver, hnext]
    exact h.gone

end Addressed

namespace Bridge

variable {b b' : Bridge M} {e : BridgeEvent M}

/-- The invariant of the bridge. -/
def IsAddressed (b : Bridge M) : Prop := Addressed b.communicator b.facts

theorem Fresh.isAddressed (h : b.Fresh) : b.IsAddressed := by
  have hkey : ∀ id, ¬ b.communicator.IsKey id := by
    intro id hkey
    rw [Communicator.IsKey, h.communicator.serverClients, h.communicator.clients,
      h.communicator.peers] at hkey
    simp at hkey
  refine ⟨⟨?_, ?_, ?_⟩, fun id hid => absurd hid (hkey id), ?_, ?_⟩
  · intro id client
    rw [h.communicator.serverClients, h.communicator.revServerClients]
    exact ⟨nofun, nofun⟩
  · exact fun id hid => absurd (Or.inl hid) (hkey id)
  · exact fun id hid => absurd (Or.inr (Or.inl hid)) (hkey id)
  · intro id
    rw [h.facts]
    exact Nat.zero_le 1
  · intro id hpos
    rw [h.facts] at hpos
    cases hpos

/-- What a call or signal other than a connection keeps. -/
theorem comm_addressed {c c' : Communicator} {facts : List (Fact M)} {e : CommEvent M}
    {fact : Option (Fact M)} (h : Addressed c facts)
    (hconnect : ∀ client endpoint, e ≠ .serverClientConnected client endpoint)
    (hs : c.step e = some (c', fact)) : Addressed c' (facts ++ fact.toList) := by
  cases e with
  | serverClientConnected client endpoint => exact absurd rfl (hconnect client endpoint)
  | serverClientDisconnected client =>
      obtain ⟨-, hs⟩ := Option.ite_none_right_eq_some.mp hs
      rw [Option.some.injEq] at hs
      have hdisconnected : Addressed (c.handleServerClientDisconnected (M := M) client).1
          (facts ++ (c.handleServerClientDisconnected (M := M) client).2.toList) := h.disconnected
      rw [hs] at hdisconnected
      exact hdisconnected
  | peerCreateLocalCrypto address sendPort recvPort cryptoKey cipher =>
      cases hs
      exact (h.peerCreate address sendPort recvPort cryptoKey cipher).assert_none
  | peerDestroy peerId =>
      cases hs
      exact (h.peerDestroy peerId).assert_none
  | clientConnect host port =>
      cases hs
      exact (h.clientConnect host port).assert_none
  | disconnect clientId =>
      cases hs
      exact (h.pbDisconnect clientId).assert_none
  | enableServer port =>
      cases hs
      unfold Communicator.enableServer
      split
      · have hkept : Addressed { c with server := some port } facts := h.of_eq rfl rfl rfl rfl rfl
        exact hkept.assert_none
      · exact h.assert_none
  | disableServer =>
      cases hs
      have hkept : Addressed c.disableServer facts := h.of_eq rfl rfl rfl rfl rfl
      exact hkept.assert_none
  | serverClientMsg client compId msgType msg tv =>
      obtain ⟨-, hs⟩ := Option.ite_none_right_eq_some.mp hs
      cases hs
      cases c.handleServerClientMsg client compId msgType msg tv with
      | none => exact h.assert_none
      | some msg => exact h.assert_fact fun _ => rfl
  | peerMsg peerId endpoint compId msgType msg tv =>
      obtain ⟨-, hs⟩ := Option.ite_none_right_eq_some.mp hs
      cases hs
      exact h.assert_fact fun _ => rfl
  | clientConnected clientId =>
      obtain ⟨-, hs⟩ := Option.ite_none_right_eq_some.mp hs
      cases hs
      exact h.assert_fact fun _ => rfl
  | clientDisconnected clientId =>
      obtain ⟨-, hs⟩ := Option.ite_none_right_eq_some.mp hs
      cases hs
      exact h.assert_fact fun _ => rfl
  | clientMsg clientId compId msgType msg tv =>
      obtain ⟨-, hs⟩ := Option.ite_none_right_eq_some.mp hs
      cases hs
      exact h.assert_fact fun _ => rfl

/-- An event other than an accepted connection is a call or signal of the communicator, or changes
the server alone. -/
theorem step_comm (haccept : ∀ endpoint, e ≠ .accept endpoint) (hs : b.step e = some b') :
    (b'.communicator = b.communicator ∧ b'.facts = b.facts) ∨
      ∃ ce fact, (∀ client endpoint, ce ≠ .serverClientConnected client endpoint) ∧
        b.communicator.step ce = some (b'.communicator, fact) ∧
          b'.facts = b.facts ++ fact.toList := by
  cases e with
  | accept endpoint => exact absurd rfl (haccept endpoint)
  | acceptFailed =>
      obtain ⟨-, hs⟩ := Option.ite_none_right_eq_some.mp hs
      cases hs
      exact Or.inl ⟨rfl, rfl⟩
  | comm ce =>
      refine Or.inr ?_
      cases ce
      case serverClientConnected => cases hs
      all_goals
        simp only [step, Option.map_eq_some_iff] at hs
        obtain ⟨⟨c, fact⟩, hstep, rfl⟩ := hs
        exact ⟨_, fact, by simp, hstep, rfl⟩

/-- An accepted connection. -/
theorem step_accept {endpoint : Endpoint} (hs : b.step (.accept endpoint) = some b') :
    b'.communicator = (b.communicator.handleServerClientConnected (M := M) b.nextCid endpoint).1 ∧
      b'.facts = b.facts ++
        [(b.communicator.handleServerClientConnected (M := M) b.nextCid endpoint).2] := by
  obtain ⟨r, hstep, rfl⟩ := Option.map_eq_some_iff.mp hs
  obtain ⟨-, hr⟩ := Option.ite_none_right_eq_some.mp hstep
  cases hr
  exact ⟨rfl, rfl⟩

/-- **One event** keeps the invariant, unless a connection gets a `ClientID` in use. -/
theorem step_addressed (h : b.IsAddressed) (hnew : ¬ b.Reconnects e) (hs : b.step e = some b') :
    b'.IsAddressed := by
  by_cases haccept : ∃ endpoint, e = .accept endpoint
  · obtain ⟨endpoint, rfl⟩ := haccept
    obtain ⟨hc, hfacts⟩ := step_accept hs
    have hfree : b.communicator.revServerClients b.nextCid = none :=
      Option.not_isSome_iff_eq_none.mp hnew
    unfold IsAddressed
    rw [hc, hfacts]
    exact (Addressed.connected h hfree).assert_fact fun _ => rfl
  · rcases step_comm (fun endpoint heq => haccept ⟨endpoint, heq⟩) hs with
      ⟨hc, hfacts⟩ | ⟨ce, fact, hconnect, hstep, hfacts⟩
    · unfold IsAddressed
      rw [hc, hfacts]
      exact h
    · unfold IsAddressed
      rw [hfacts]
      exact comm_addressed h hconnect hstep

/-- What a call or signal may change: the counter does not fall and gives the keys that are new, only
a connection adds a `ClientID`, and only one operation takes the server away. -/
structure Changes (c c' : Communicator) (e : CommEvent M) : Prop where
  counter : c.nextClientId ≤ c'.nextClientId
  keys : ∀ id, c'.IsKey id → c.IsKey id ∨ c.nextClientId < id
  rev : (∀ client endpoint, e ≠ .serverClientConnected client endpoint) →
    ∀ client, (c'.revServerClients client).isSome → (c.revServerClients client).isSome
  server : c'.server = none → c.server = none ∨ e = .disableServer

theorem Changes.refl (c : Communicator) (e : CommEvent M) : Changes c c e where
  counter := le_rfl
  keys _ hid := Or.inl hid
  rev _ _ hclient := hclient
  server hnone := Or.inl hnone

theorem comm_changes {c c' : Communicator} {e : CommEvent M} {fact : Option (Fact M)}
    (hs : c.step e = some (c', fact)) : Changes c c' e := by
  cases e with
  | enableServer port =>
      cases hs
      unfold Communicator.enableServer
      split
      · exact ⟨le_rfl, fun id hid => Or.inl hid, fun _ _ hclient => hclient, nofun⟩
      · exact Changes.refl c _
  | disableServer =>
      cases hs
      exact ⟨le_rfl, fun id hid => Or.inl hid, fun _ _ hclient => hclient, fun _ => Or.inr rfl⟩
  | peerCreateLocalCrypto address sendPort recvPort cryptoKey cipher =>
      cases hs
      unfold Communicator.clipsPbPeerCreateLocalCrypto
      dsimp only
      split
      · refine ⟨Nat.le_succ _, ?_, fun _ _ hclient => hclient, Or.inl⟩
        rintro id (hid | hid | hid)
        · exact Or.inl (Or.inl hid)
        · exact Or.inl (Or.inr (Or.inl hid))
        · rcases isSome_of_update hid with hold | ⟨rfl, -⟩
          · exact Or.inl (Or.inr (Or.inr hold))
          · exact Or.inr (Nat.lt_succ_self _)
      · exact Changes.refl c _
  | peerDestroy peerId =>
      cases hs
      refine ⟨le_rfl, fun id hid => Or.inl ?_, fun _ _ hclient => hclient, Or.inl⟩
      exact hid.imp_right (Or.imp_right isSome_of_erase)
  | clientConnect host port =>
      cases hs
      unfold Communicator.clipsPbClientConnect
      split
      · exact Changes.refl c _
      · refine ⟨Nat.le_succ _, ?_, fun _ _ hclient => hclient, Or.inl⟩
        rintro id (hid | hid | hid)
        · exact Or.inl (Or.inl hid)
        · rcases isSome_of_update hid with hold | ⟨rfl, -⟩
          · exact Or.inl (Or.inr (Or.inl hold))
          · exact Or.inr (Nat.lt_succ_self _)
        · exact Or.inl (Or.inr (Or.inr hid))
  | disconnect clientId =>
      cases hs
      unfold Communicator.clipsPbDisconnect
      split
      · refine ⟨le_rfl, fun id hid => Or.inl ?_, fun _ _ hclient => isSome_of_erase hclient, Or.inl⟩
        exact hid.imp_left isSome_of_erase
      · refine ⟨le_rfl, fun id hid => Or.inl ?_, fun _ _ hclient => hclient, Or.inl⟩
        exact hid.imp_right (Or.imp_left isSome_of_erase)
  | serverClientConnected client endpoint =>
      obtain ⟨-, hs⟩ := Option.ite_none_right_eq_some.mp hs
      cases hs
      refine ⟨Nat.le_succ _, ?_, fun hconnect => absurd rfl (hconnect client endpoint), Or.inl⟩
      rintro id (hid | hid)
      · rcases isSome_of_update hid with hold | ⟨rfl, -⟩
        · exact Or.inl (Or.inl hold)
        · exact Or.inr (Nat.lt_succ_self _)
      · exact Or.inl (Or.inr hid)
  | serverClientDisconnected client =>
      obtain ⟨-, hs⟩ := Option.ite_none_right_eq_some.mp hs
      unfold Communicator.handleServerClientDisconnected at hs
      split at hs <;> cases hs
      · refine ⟨le_rfl, fun id hid => Or.inl ?_, fun _ _ hclient => isSome_of_erase hclient, Or.inl⟩
        exact hid.imp_left isSome_of_erase
      · exact Changes.refl c _
  | serverClientMsg | peerMsg | clientConnected | clientDisconnected | clientMsg =>
      obtain ⟨-, hs⟩ := Option.ite_none_right_eq_some.mp hs
      cases hs
      exact Changes.refl c _

theorem step_keys (hs : b.step e = some b') :
    b.communicator.nextClientId ≤ b'.communicator.nextClientId ∧
      ∀ id, b'.communicator.IsKey id →
        b.communicator.IsKey id ∨ b.communicator.nextClientId < id := by
  by_cases haccept : ∃ endpoint, e = .accept endpoint
  · obtain ⟨endpoint, rfl⟩ := haccept
    obtain ⟨r, hstep, rfl⟩ := Option.map_eq_some_iff.mp hs
    exact ⟨(comm_changes hstep).counter, (comm_changes hstep).keys⟩
  · rcases step_comm (fun endpoint heq => haccept ⟨endpoint, heq⟩) hs with
      ⟨hc, -⟩ | ⟨ce, fact, -, hstep, -⟩
    · rw [hc]
      exact ⟨le_rfl, fun id hid => Or.inl hid⟩
    · exact ⟨(comm_changes hstep).counter, (comm_changes hstep).keys⟩

/-- A connection under a `ClientID` in use gives two ids to it. -/
theorem not_unambiguous_of_reconnects (h : b.Unambiguous) (hreconnects : b.Reconnects e)
    (hs : b.step e = some b') (hkeys : ¬ b.communicator.IsKey (b.communicator.nextClientId + 1)) :
    ¬ b'.Unambiguous := by
  cases e with
  | accept endpoint =>
      obtain ⟨hc, -⟩ := step_accept hs
      obtain ⟨id, hrev⟩ := Option.isSome_iff_exists.mp hreconnects
      have hserver := (h.tables.inverse id b.nextCid).mpr hrev
      have hne : id ≠ b.communicator.nextClientId + 1 := by
        rintro rfl
        exact hkeys (Or.inl (by rw [hserver]; rfl))
      intro hb'
      have hinverse := hb'.tables.inverse
      rw [hc] at hinverse
      exact not_inverse_of_overwrite hserver hne hinverse
  | acceptFailed => cases hreconnects
  | comm ce => cases hreconnects

/-! ## Along a run -/

theorem isAddressed_of_run {b₀ : Bridge M} {tr : List (Step (Bridge M) (BridgeEvent M))}
    (hinit : b₀.Fresh) (hrun : BridgeRun M b₀ tr b) (hnew : ∀ t ∈ tr, ¬ t.pre.Reconnects t.label) :
    b.IsAddressed :=
  hrun.invariant_of (C := fun b e => ¬ b.Reconnects e) hinit.isAddressed
    (fun _ _ _ h hnew hs => step_addressed h hnew hs) hnew

theorem IsAddressed.unambiguous (h : b.IsAddressed) : b.Unambiguous := ⟨h.tables, h.once⟩

theorem neverReused_of_run {b₀ : Bridge M} {tr : List (Step (Bridge M) (BridgeEvent M))}
    (hinit : b₀.Fresh) (hrun : BridgeRun M b₀ tr b) (hnew : ∀ t ∈ tr, ¬ t.pre.Reconnects t.label) :
    NeverReused tr := by
  rintro later t earlier rfl id hpost hpre u hu hkey
  obtain ⟨hrun', hs⟩ := hrun.split
  have hmem : ∀ v ∈ earlier, v ∈ later ++ t :: earlier := fun v hv =>
    List.mem_append_right _ (List.mem_cons_of_mem _ hv)
  -- the key is above the counter of the step, and those of the past are not
  have hlt := ((step_keys hs).2 id hpost).resolve_left hpre
  have hle := hrun'.related (R := fun b b' : Bridge M =>
      b.communicator.nextClientId ≤ b'.communicator.nextClientId)
    (fun _ _ _ => le_trans) (fun _ _ _ hs => (step_keys hs).1) u hu
  obtain ⟨-, tr', hrun'', hsub⟩ := hrun'.mem_run hu
  have hbound := (isAddressed_of_run hinit hrun'' fun v hv => hnew v (hmem v (hsub v hv))).keys id hkey
  omega

/-- **The addresses are unambiguous** in every state of a run, and no id is used twice, if and only
if no connection gets a `ClientID` that is in use. -/
theorem unambiguous_iff {b₀ : Bridge M} {tr : List (Step (Bridge M) (BridgeEvent M))}
    (hinit : b₀.Fresh) (hrun : BridgeRun M b₀ tr b) :
    (b₀.Unambiguous ∧ (∀ t ∈ tr, t.post.Unambiguous) ∧ NeverReused tr) ↔
      ∀ t ∈ tr, ¬ t.pre.Reconnects t.label := by
  constructor
  · rintro ⟨-, hposts, -⟩
    -- the first connection under a `ClientID` in use is ambiguous
    induction hrun with
    | init =>
        intro t ht
        cases ht
    | @step tr b b' e hrun hs ih =>
        have hearlier := ih fun t ht => hposts t (List.mem_cons_of_mem _ ht)
        intro t ht
        rcases List.mem_cons.mp ht with rfl | ht
        · intro hreconnects
          have haddressed := isAddressed_of_run hinit hrun hearlier
          have hpost : b'.Unambiguous := hposts ⟨b, e, b'⟩ (List.mem_cons_self ..)
          exact not_unambiguous_of_reconnects haddressed.unambiguous hreconnects hs
            haddressed.isKey_succ hpost
        · exact hearlier t ht
  · intro hnew
    refine ⟨hinit.isAddressed.unambiguous, ?_, neverReused_of_run hinit hrun hnew⟩
    exact hrun.forall_steps (C := fun b e => ¬ b.Reconnects e) hinit.isAddressed
      (fun _ _ _ h hnew hs => step_addressed h hnew hs)
      (fun _ _ _ h hnew hs => (step_addressed h hnew hs).unambiguous) hnew

/-! ## When a `ClientID` comes again -/

/-- How often the server has taken another `ClientID`. -/
def taken (tr : List (Step (Bridge M) (BridgeEvent M))) : ℕ :=
  tr.countP fun t => t.label.takesCid

/-- The `ClientID`s of a server that has not run out of them. -/
structure Counted (b : Bridge M) (n : ℕ) : Prop where
  nextCid : b.nextCid = n + 1
  known : ∀ client, (b.communicator.revServerClients client).isSome → client < b.nextCid
  server : b.communicator.server = none → n = 0

theorem step_counted {n : ℕ} (h : b.Counted n) (hn : n + 2 < 2 ^ 32) (hdisables : e.disables = false)
    (hs : b.step e = some b') : b'.Counted (n + if e.takesCid then 1 else 0) := by
  have hcid : b.cidAfter = n + 2 := by
    rw [cidAfter, h.nextCid]
    exact Nat.mod_eq_of_lt hn
  cases e with
  | accept endpoint =>
      obtain ⟨r, hstep, rfl⟩ := Option.map_eq_some_iff.mp hs
      obtain ⟨hserver, hr⟩ := Option.ite_none_right_eq_some.mp hstep
      cases hr
      refine ⟨hcid, ?_, fun hnone => ?_⟩
      · intro client hclient
        show client < b.cidAfter
        rw [hcid]
        by_cases heq : client = b.nextCid
        · rw [heq, h.nextCid]
          exact Nat.lt_succ_self _
        · have hold : client < b.nextCid := by
            apply h.known client
            rwa [← Function.update_of_ne heq (some _) b.communicator.revServerClients]
          rw [h.nextCid] at hold
          exact Nat.lt_succ_of_lt hold
      · exact absurd hnone (Option.isSome_iff_ne_none.mp hserver)
  | acceptFailed =>
      obtain ⟨hserver, hs⟩ := Option.ite_none_right_eq_some.mp hs
      cases hs
      refine ⟨hcid, ?_, fun hnone => absurd hnone (Option.isSome_iff_ne_none.mp hserver)⟩
      intro client hclient
      have hold := h.known client hclient
      rw [h.nextCid] at hold
      show client < b.cidAfter
      rw [hcid]
      exact Nat.lt_succ_of_lt hold
  | comm ce =>
      have hcount : (n + if (BridgeEvent.comm ce).takesCid then 1 else 0) = n := rfl
      rw [hcount]
      have hkept : ∀ c fact, b.communicator.step ce = some (c, fact) →
          (∀ client endpoint, ce ≠ .serverClientConnected client endpoint) →
            (∀ client, (c.revServerClients client).isSome → client < b.nextCid) ∧
              (c.server = none → n = 0) := by
        intro c fact hstep hconnect
        have hchanges := comm_changes hstep
        refine ⟨fun client hclient => h.known client (hchanges.rev hconnect client hclient), ?_⟩
        intro hnone
        rcases hchanges.server hnone with hserver | rfl
        · exact h.server hserver
        · cases hdisables
      cases ce
      case serverClientConnected => cases hs
      case enableServer port =>
        simp only [step, Option.map_eq_some_iff] at hs
        obtain ⟨⟨c, fact⟩, hstep, rfl⟩ := hs
        obtain ⟨hknown, hserver⟩ := hkept c fact hstep (by simp)
        have hcid' : (if b.communicator.server = none then 1 else b.nextCid) = b.nextCid := by
          split
          · next hnone => rw [h.nextCid, h.server hnone]
          · rfl
        refine ⟨hcid'.trans h.nextCid, fun client hclient => ?_, hserver⟩
        rw [hcid']
        exact hknown client hclient
      all_goals
        simp only [step, Option.map_eq_some_iff] at hs
        obtain ⟨⟨c, fact⟩, hstep, rfl⟩ := hs
        obtain ⟨hknown, hserver⟩ := hkept c fact hstep (by simp)
        exact ⟨h.nextCid, hknown, hserver⟩

/-- A server that has taken fewer than 2 ^ 32 of them, and was not created anew, does not come to
the `ClientID` of a client again. -/
theorem not_reconnects_of_few {tr : List (Step (Bridge M) (BridgeEvent M))}
    (hrun : BridgeRun M {} tr b) (hdisables : ∀ t ∈ tr, t.label.disables = false)
    (hfew : taken tr + 2 < 2 ^ 32) : ∀ t ∈ tr, ¬ t.pre.Reconnects t.label := by
  have hcounted : ∀ {tr : List (Step (Bridge M) (BridgeEvent M))} {b : Bridge M},
      BridgeRun M {} tr b → (∀ t ∈ tr, t.label.disables = false) → taken tr + 2 < 2 ^ 32 →
        b.Counted (taken tr) := by
    intro tr b hrun hdisables hfew
    induction hrun with
    | init => exact ⟨rfl, fun client hclient => absurd hclient Bool.false_ne_true, fun _ => rfl⟩
    | @step tr b b' e hrun hs ih =>
        have hcount : taken (⟨b, e, b'⟩ :: tr) = taken tr + if e.takesCid then 1 else 0 :=
          List.countP_cons
        rw [hcount] at hfew ⊢
        have hb := ih (fun t ht => hdisables t (List.mem_cons_of_mem _ ht)) (by omega)
        exact step_counted hb (by omega) (hdisables _ (List.mem_cons_self ..)) hs
  intro t ht hreconnects
  obtain ⟨later, earlier, rfl⟩ := List.append_of_mem ht
  obtain ⟨hrun', -⟩ := hrun.split
  have hmem : ∀ u ∈ earlier, u ∈ later ++ t :: earlier := fun u hu =>
    List.mem_append_right _ (List.mem_cons_of_mem _ hu)
  have hle : taken earlier ≤ taken (later ++ t :: earlier) := by
    unfold taken
    rw [List.countP_append, List.countP_cons]
    omega
  have hb := hcounted hrun' (fun u hu => hdisables u (hmem u hu)) (by omega)
  cases t with
  | mk pre label post =>
      cases label with
      | accept endpoint => exact absurd (hb.known _ hreconnects) (lt_irrefl _)
      | acceptFailed => cases hreconnects
      | comm ce => cases hreconnects

/-! ## Two runs -/

theorem fresh_init : ({} : Bridge M).Fresh := ⟨⟨rfl, rfl, rfl, rfl⟩, rfl⟩

/-- A client of the server, a client and a peer; the session of the former ends with two errors. -/
theorem unambiguous_of_two_errors :
    ∃ tr b, BridgeRun Unit {} tr b ∧ tr.length = 6 ∧ ∀ t ∈ tr, t.post.Unambiguous := by
  have hrun : BridgeRun Unit {} _ _ :=
    (((((((Run.init : BridgeRun Unit {} [] {}).step
      (i := .comm (.enableServer 4444)) rfl).step
      (i := .accept ("10.0.0.1", 5000)) rfl).step
      (i := .comm (.clientConnect "10.0.0.2" 4444)) rfl).step
      (i := .comm (.peerCreateLocalCrypto "10.0.0.255" 4445 4446 "" "")) rfl).step
      (i := .comm (.serverClientDisconnected 1)) rfl).step
      (i := .comm (.serverClientDisconnected 1)) rfl)
  refine ⟨_, _, hrun, rfl, ((unambiguous_iff fresh_init hrun).mpr ?_).2.1⟩
  refine not_reconnects_of_few hrun ?_ ?_
  · simp [BridgeEvent.disables]
  · simp [taken, BridgeEvent.takesCid]

/-- Client 1 is connected, and the server waits for its client number `n + 2`. -/
structure FirstConnected (b : Bridge Unit) (n : ℕ) : Prop where
  server : b.communicator.server.isSome
  nextCid : b.nextCid = (n + 2) % 2 ^ 32
  serverClients : b.communicator.serverClients 1 = some 1
  revServerClients : b.communicator.revServerClients 1 = some 1
  pos : 0 < b.communicator.nextClientId

/-- The next client connects and leaves again. -/
theorem visit {b : Bridge Unit} {n : ℕ} (h : FirstConnected b n) (hn : (n + 2) % 2 ^ 32 ≠ 1) :
    ∃ b₁ b₂, b.step (.accept ("10.0.0.2", 5000)) = some b₁ ∧
      b₁.step (.comm (.serverClientDisconnected b.nextCid)) = some b₂ ∧
        FirstConnected b₂ (n + 1) := by
  have hcid : b.nextCid ≠ 1 := h.nextCid ▸ hn
  have hid : (1 : ℕ) ≠ b.communicator.nextClientId + 1 := by
    have := h.pos
    omega
  let c₁ := (b.communicator.handleServerClientConnected (M := Unit) b.nextCid ("10.0.0.2", 5000)).1
  have hrev : c₁.revServerClients b.nextCid = some (b.communicator.nextClientId + 1) :=
    Function.update_self ..
  have hs₁ : b.step (.accept ("10.0.0.2", 5000)) = some
      { b with
        communicator := c₁
        nextCid := b.cidAfter
        facts := b.facts ++
          [.serverClientConnected (b.communicator.nextClientId + 1) "10.0.0.2" 5000] } := by
    simp only [step, Communicator.step, if_pos h.server]
    rfl
  have hs₂ : c₁.step (M := Unit) (.serverClientDisconnected b.nextCid) = some
      ({ c₁ with
          revServerClients := Function.update c₁.revServerClients b.nextCid none
          serverClients :=
            Function.update c₁.serverClients (b.communicator.nextClientId + 1) none },
        some (.serverClientDisconnected (b.communicator.nextClientId + 1))) := by
    have hserver : c₁.server.isSome := h.server
    simp only [Communicator.step, if_pos hserver, Communicator.handleServerClientDisconnected, hrev]
  refine ⟨_, _, hs₁, congrArg (Option.map _) hs₂, ⟨h.server, ?_, ?_, ?_, Nat.succ_pos _⟩⟩
  · show b.cidAfter = _
    rw [cidAfter, h.nextCid, Nat.mod_add_mod]
  · show Function.update (Function.update b.communicator.serverClients _ _) _ none 1 = some 1
    rw [Function.update_of_ne hid, Function.update_of_ne hid]
    exact h.serverClients
  · show Function.update (Function.update b.communicator.revServerClients _ _) _ none 1 = some 1
    rw [Function.update_of_ne (Ne.symm hcid), Function.update_of_ne (Ne.symm hcid)]
    exact h.revServerClients

/-- While the first client stays, others come and go, until the server comes to the first
`ClientID` again. -/
theorem run_to_first {n : ℕ} (hn : n < 2 ^ 32) :
    ∃ tr b, BridgeRun Unit {} tr b ∧ FirstConnected b n := by
  induction n with
  | zero =>
      exact ⟨_, _, ((Run.init : BridgeRun Unit {} [] {}).step (i := .comm (.enableServer 4444))
        rfl).step (i := .accept ("10.0.0.1", 5000)) rfl, rfl, rfl, rfl, rfl, Nat.one_pos⟩
  | succ n ih =>
      obtain ⟨tr, b, hrun, hb⟩ := ih (by omega)
      obtain ⟨b₁, b₂, hs₁, hs₂, hb₂⟩ := visit hb (by omega)
      exact ⟨_, b₂, (hrun.step hs₁).step hs₂, hb₂⟩

/-- The first client and the one that comes 2 ^ 32 clients later have one `ClientID`. -/
theorem ambiguous_of_wrap :
    ∃ tr b, BridgeRun Unit {} tr b ∧ ¬ b.Unambiguous := by
  obtain ⟨tr, b, hrun, hb⟩ := run_to_first (n := 2 ^ 32 - 1) (by norm_num)
  have hcid : b.nextCid = 1 := hb.nextCid
  by_cases hb' : b.Unambiguous
  · have hid : 1 ≠ b.communicator.nextClientId + 1 := by
      have := hb.pos
      omega
    have hs : ∃ b', b.step (.accept ("10.0.0.2", 5000)) = some b' := by
      simp only [step, Communicator.step, if_pos hb.server]
      exact ⟨_, rfl⟩
    obtain ⟨b', hs⟩ := hs
    refine ⟨_, b', hrun.step hs, fun hpost => ?_⟩
    have hinverse := hpost.tables.inverse
    rw [(step_accept hs).1, hcid] at hinverse
    exact not_inverse_of_overwrite hb.serverClients hid hinverse
  · exact ⟨tr, b, hrun, hb'⟩

end Bridge

end FactoryHub.Comm
