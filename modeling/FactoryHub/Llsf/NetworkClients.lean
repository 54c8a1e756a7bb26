import FactoryHub.Clips.Draws
import FactoryHub.Llsf.Game

/-!
# The network clients in a reset

`reset-game` resets the environment, which retracts all facts. Before it does so, it notes the ids,
the hosts and the ports of the network clients in three lists; after it, it asserts the clients
again. The lists of hosts and of ports are made from the list of ids, and the ports are taken from
the list of hosts.

* `mem_resetClients` — the clients after a reset.
* `reset_game_keeps_clients_iff` — when they are those before it.
-/

namespace FactoryHub.Llsf

open Clips

/-- A value in a slot, whose type is not checked when a fact is asserted. -/
inductive SlotValue where
  | nil
  | integer (n : Int)
  | string (s : String)
  deriving DecidableEq, Repr, Inhabited

/-- `network-client`. -/
structure NetworkClient where
  id : SlotValue
  host : SlotValue
  port : SlotValue
  isSlave : Bool := false
  deriving DecidableEq, Repr

/-- A client as `net-client-connected` asserts it. -/
structure ConnectedClient where
  id : Int
  host : String
  port : Int
  deriving DecidableEq, Repr

def ConnectedClient.fact (c : ConnectedClient) : NetworkClient where
  id := .integer c.id
  host := .string c.host
  port := .integer c.port

/-! ## The rule -/

/-- `nc-id`, `nc-host` and `nc-port`. -/
structure RememberedClients where
  ncId : List SlotValue := []
  ncHost : List SlotValue := []
  ncPort : List SlotValue := []
  deriving DecidableEq, Repr

/-- The body of the loop that remembers the clients. -/
def rememberClient (nc : RememberedClients) (client : NetworkClient) : RememberedClients :=
  let ncId := nc.ncId ++ [client.id]
  -- both lists begin with the ids
  { ncId, ncHost := ncId ++ [client.host], ncPort := ncId ++ [client.port] }

/-- The body of the loop that asserts the clients again. -/
def restoreClient (nc : RememberedClients) (facts : List NetworkClient) (cid : SlotValue × ℕ) :
    List NetworkClient :=
  assertFact { id := cid.1, host := nth cid.2 nc.ncHost, port := nth cid.2 nc.ncHost } facts

/-- The network clients after the actions of `reset-game`. -/
def resetClients (clients : List NetworkClient) : List NetworkClient :=
  let nc := clients.foldl rememberClient {}
  (nc.ncId.zipIdx 1).foldl (restoreClient nc) []

/-- Rule `reset-game`, with the network clients. -/
def resetGame (g : Game) (clients : List NetworkClient) : Option (Game × List NetworkClient) :=
  g.resetGame.map (fun g' => (g', resetClients clients))

/-! ## The remembered clients -/

variable {clients : List NetworkClient} {x : NetworkClient}

theorem ncId_rememberClient (clients : List NetworkClient) (nc : RememberedClients) :
    (clients.foldl rememberClient nc).ncId = nc.ncId ++ clients.map NetworkClient.id := by
  induction clients generalizing nc with
  | nil => simp
  | cons client clients ih =>
      rw [List.foldl_cons, ih]
      simp [rememberClient]

/-- In place of the hosts, the ids are remembered. -/
theorem nth_ncHost {i : ℕ} (hpos : 0 < i) (hle : i ≤ clients.length) :
    nth i (clients.foldl rememberClient {}).ncHost =
      nth i (clients.foldl rememberClient {}).ncId := by
  rcases List.eq_nil_or_concat' clients with rfl | ⟨clients, client, rfl⟩
  · simp at hle
    omega
  · have hlast : ((clients ++ [client]).foldl rememberClient {}).ncHost =
        ((clients ++ [client]).foldl rememberClient {}).ncId ++ [client.host] := by
      rw [List.foldl_append]
      rfl
    obtain ⟨i, rfl⟩ := Nat.exists_eq_add_of_lt hpos
    rw [hlast, ncId_rememberClient, Nat.zero_add, nth_succ, nth_succ]
    apply List.getD_append
    simp only [List.nil_append, List.length_map, List.length_append, List.length_singleton] at hle ⊢
    omega

/-- The index that `foreach` counts is the position in the list. -/
theorem nth_of_mem_zipIdx {l : List SlotValue} {cid : SlotValue × ℕ} (h : cid ∈ l.zipIdx 1) :
    0 < cid.2 ∧ cid.2 ≤ l.length ∧ nth cid.2 l = cid.1 := by
  obtain ⟨hle, hget⟩ := List.mem_zipIdx_iff_le_and_getElem?_sub.mp h
  obtain ⟨hlt, -⟩ := List.getElem?_eq_some_iff.mp hget
  obtain ⟨i, hi⟩ := Nat.exists_eq_add_of_le' hle
  rw [hi, Nat.add_sub_cancel] at hget hlt
  refine ⟨hle, by omega, ?_⟩
  rw [hi, nth_succ, List.getD_eq_getElem?_getD, hget]
  rfl

theorem mem_foldl_restoreClient (nc : RememberedClients) (cids : List (SlotValue × ℕ))
    (facts : List NetworkClient) :
    x ∈ cids.foldl (restoreClient nc) facts ↔ x ∈ facts ∨ ∃ cid ∈ cids,
      x = { id := cid.1, host := nth cid.2 nc.ncHost, port := nth cid.2 nc.ncHost } := by
  induction cids generalizing facts with
  | nil => simp
  | cons cid cids ih =>
      rw [List.foldl_cons, ih, restoreClient, mem_assertFact]
      simp [or_assoc, or_left_comm]

/-- **What is asserted again**: clients with their id as host and port. -/
theorem mem_resetClients :
    x ∈ resetClients clients ↔ ∃ c ∈ clients, x = { id := c.id, host := c.id, port := c.id } := by
  unfold resetClients
  dsimp only
  rw [mem_foldl_restoreClient]
  have hids : (clients.foldl rememberClient {}).ncId = clients.map NetworkClient.id := by
    rw [ncId_rememberClient]
    rfl
  have hhost (cid : SlotValue × ℕ) (hcid : cid ∈ (clients.foldl rememberClient {}).ncId.zipIdx 1) :
      nth cid.2 (clients.foldl rememberClient {}).ncHost = cid.1 := by
    obtain ⟨hpos, hle, hnth⟩ := nth_of_mem_zipIdx hcid
    rw [hids, List.length_map] at hle
    rw [nth_ncHost hpos hle, hnth]
  constructor
  · rintro (hnil | ⟨cid, hcid, rfl⟩)
    · cases hnil
    · have hmem : cid.1 ∈ clients.map NetworkClient.id := by
        rw [← hids, ← List.zipIdx_map_fst 1 (clients.foldl rememberClient {}).ncId]
        exact List.mem_map_of_mem hcid
      obtain ⟨c, hc, hid⟩ := List.mem_map.mp hmem
      exact ⟨c, hc, by rw [hhost cid hcid, hid]⟩
  · rintro ⟨c, hc, rfl⟩
    have hmem : c.id ∈ ((clients.foldl rememberClient {}).ncId.zipIdx 1).map Prod.fst := by
      rw [List.zipIdx_map_fst, hids]
      exact List.mem_map_of_mem hc
    obtain ⟨cid, hcid, hid⟩ := List.mem_map.mp hmem
    exact Or.inr ⟨cid, hcid, by rw [hhost cid hcid, hid]⟩

/-! ## When the clients are kept -/

/-- The clients of `facts` are those of `clients`, with the same ids, hosts and ports. -/
def SameClients (clients facts : List NetworkClient) : Prop :=
  ∀ id host port, (∃ x ∈ clients, x.id = id ∧ x.host = host ∧ x.port = port) ↔
    ∃ x ∈ facts, x.id = id ∧ x.host = host ∧ x.port = port

/-- **When a reset keeps the clients**: when there are none. -/
theorem reset_game_keeps_clients_iff {g g' : Game} {clients : List ConnectedClient}
    {facts : List NetworkClient}
    (h : resetGame g (clients.map ConnectedClient.fact) = some (g', facts)) :
    SameClients (clients.map ConnectedClient.fact) facts ↔ clients = [] := by
  obtain ⟨_, -, heq⟩ := Option.map_eq_some_iff.mp h
  obtain rfl : resetClients (clients.map ConnectedClient.fact) = facts := congrArg Prod.snd heq
  constructor
  · intro hsame
    apply List.eq_nil_iff_forall_not_mem.mpr
    intro c hc
    -- the host of a client that is asserted again is a number
    obtain ⟨x, hx, -, hhost, -⟩ := (hsame _ _ _).mp ⟨c.fact, List.mem_map_of_mem hc, rfl, rfl, rfl⟩
    obtain ⟨y, hy, rfl⟩ := mem_resetClients.mp hx
    obtain ⟨d, -, rfl⟩ := List.mem_map.mp hy
    cases hhost
  · rintro rfl id host port
    simp [resetClients]

/-- The game is sent back to INIT. -/
def backToInit : Game :=
  { Game.startup with
    gamestate := { Game.startup.gamestate with state := .init, prevState := .running } }

theorem reset_game_keeps_no_clients : SameClients [] [] := by
  have h : resetGame backToInit (([] : List ConnectedClient).map ConnectedClient.fact) =
      some (Game.startup, []) := by
    simp [resetGame, Game.resetGame, backToInit, resetClients]
  exact (reset_game_keeps_clients_iff h).mpr rfl

/-- Client 1 at 10.0.0.1:4444 has the host 1 and the port 1 after a reset. -/
theorem reset_game_changes_client :
    ¬ ∀ (g g' : Game) (clients : List ConnectedClient) (facts : List NetworkClient),
      resetGame g (clients.map ConnectedClient.fact) = some (g', facts) →
        SameClients (clients.map ConnectedClient.fact) facts := by
  intro h
  have hreset : resetGame backToInit ([⟨1, "10.0.0.1", 4444⟩].map ConnectedClient.fact) =
      some (Game.startup, [⟨.integer 1, .integer 1, .integer 1, false⟩]) := by
    rfl
  obtain ⟨x, hx, -, hhost, -⟩ := (h _ _ _ _ hreset (.integer 1) (.string "10.0.0.1")
    (.integer 4444)).mp ⟨_, List.mem_singleton.mpr rfl, rfl, rfl, rfl⟩
  obtain rfl := List.mem_singleton.mp hx
  cases hhost

end FactoryHub.Llsf
