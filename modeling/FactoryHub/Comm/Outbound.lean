import FactoryHub.Lib.Fifo
import FactoryHub.Lib.Settle

/-!
# Outbound queues

How `peer.cpp` and `server.cpp` hand entries to the socket, one at a time. `outbound_mutex_` is held
for a part of each function only, so the steps of a run are these parts: any number of threads call
`send`, and between two parts of a function other threads run theirs.

* `peer_simulates`, `session_simulates` — both are first in, first out, one at a time.
* `outbound_in_order` — what follows for every interleaving.
* `PeerQueue.settles`, `SessionQueue.settles` — without further calls of `send`, all entries get
  written.

The bytes that are written for an entry are those of `Peer.startSend`.
-/

namespace FactoryHub.Comm

open Lib

variable {α : Type}

/-! ## Asynchronous writes -/

/-- The asynchronous writes of a socket: all that were started, those that are under way and those
that have completed, of which the callback has not run yet. -/
structure Socket (α : Type) where
  writes : List α := []
  underWay : List α := []
  completed : List α := []

namespace Socket

/-- `async_write` or `async_send_to`. -/
def write (s : Socket α) (entry : α) : Socket α :=
  { s with writes := s.writes ++ [entry], underWay := s.underWay ++ [entry] }

/-- One of the writes under way completes. -/
def complete (s : Socket α) (i : ℕ) : Option (Socket α) :=
  (s.underWay[i]?).map fun entry =>
    { s with underWay := s.underWay.eraseIdx i, completed := s.completed ++ [entry] }

/-- The callback of one of the completed writes begins. It deletes the entry. -/
def callback (s : Socket α) (i : ℕ) : Option (Socket α) :=
  if i < s.completed.length then some { s with completed := s.completed.eraseIdx i } else none

end Socket

/-! ## `ProtobufBroadcastPeer` -/

/-- `outbound_queue_`, `outbound_active_` and the socket, as the constructor leaves them. The calls of
`send`, and the callbacks, that have left their first locked part and not yet called `start_send` are
counted. -/
structure PeerQueue (α : Type) where
  queue : List α := []
  active : Bool := true
  socket : Socket α := {}
  /-- `handle_resolve` has not been called. -/
  resolving : Bool := true
  sends : ℕ := 0
  handlers : ℕ := 0

/-- The locked parts of the functions, and the completion of a write. -/
inductive PeerEvent (α : Type) where
  /-- `send` or `send_raw`, for the entry they make, or the exception that keeps them from it. -/
  | send (entry : Except String α)
  | startSendOfSend
  | complete (i : ℕ)
  | handleSent (i : ℕ)
  | handleResolve
  | startSendOfHandler

namespace PeerQueue

variable (o : PeerQueue α)

/-- `start_send`. -/
def startSend : PeerQueue α :=
  match o.queue with
  | [] => o
  | entry :: queue =>
      if o.active then o else { o with active := true, queue, socket := o.socket.write entry }

def step : PeerEvent α → Option (PeerQueue α)
  | .send (.error _) => some o
  | .send (.ok entry) => some { o with queue := o.queue ++ [entry], sends := o.sends + 1 }
  | .startSendOfSend =>
      if 0 < o.sends then some { o with sends := o.sends - 1 }.startSend else none
  | .complete i => (o.socket.complete i).map fun socket => { o with socket }
  | .handleSent i =>
      (o.socket.callback i).map fun socket =>
        { o with socket, active := false, handlers := o.handlers + 1 }
  | .handleResolve =>
      if o.resolving then
        some { o with resolving := false, active := false, handlers := o.handlers + 1 }
      else none
  | .startSendOfHandler =>
      if 0 < o.handlers then some { o with handlers := o.handlers - 1 }.startSend else none

/-- The callbacks that have not returned. -/
def callbacks : ℕ :=
  o.socket.underWay.length + o.socket.completed.length + o.resolving.toNat + o.handlers

end PeerQueue

/-- The entry an event puts into the queue. -/
def PeerEvent.enqueued : PeerEvent α → List α
  | .send (.ok entry) => [entry]
  | .send (.error _) | .startSendOfSend | .complete _ | .handleSent _ | .handleResolve
  | .startSendOfHandler => []

/-- A run of a peer from its constructor on. -/
abbrev PeerQueueRun (tr : List (Step (PeerQueue α) (PeerEvent α))) (o : PeerQueue α) : Prop :=
  Run (fun (o : PeerQueue α) e o' => o.step e = some o') {} tr o

/-! ## `ProtobufStreamServer::Session` -/

/-- `outbound_queue_`, `outbound_active_` and the socket of a session. -/
structure SessionQueue (α : Type) where
  queue : List α := []
  active : Bool := false
  socket : Socket α := {}

inductive SessionEvent (α : Type) where
  /-- `send`, for the entry it makes, or the exception that keeps it from it. -/
  | send (entry : Except String α)
  | complete (i : ℕ)
  | handleWrite (i : ℕ)

namespace SessionQueue

variable (o : SessionQueue α)

def step : SessionEvent α → Option (SessionQueue α)
  | .send (.error _) => some o
  | .send (.ok entry) =>
      some (if o.active then { o with queue := o.queue ++ [entry] }
        else { o with active := true, socket := o.socket.write entry })
  | .complete i => (o.socket.complete i).map fun socket => { o with socket }
  | .handleWrite i =>
      (o.socket.callback i).map fun socket =>
        match o.queue with
        | entry :: queue => { o with queue, socket := socket.write entry }
        | [] => { o with socket, active := false }

/-- The callbacks that have not returned. -/
def callbacks : ℕ := o.socket.underWay.length + o.socket.completed.length

end SessionQueue

/-- The entry an event puts into the queue, or hands to the socket in its place. -/
def SessionEvent.enqueued : SessionEvent α → List α
  | .send (.ok entry) => [entry]
  | .send (.error _) | .complete _ | .handleWrite _ => []

/-- A run of a session from its constructor on. -/
abbrev SessionQueueRun (tr : List (Step (SessionQueue α) (SessionEvent α)))
    (o : SessionQueue α) : Prop :=
  Run (fun (o : SessionQueue α) e o' => o.step e = some o') {} tr o

/-! ## The property -/

/-- At most one write is under way, and what was written and what waits are the entries that came,
each of them once and in order. -/
structure InOrder (enqueued : List α) (socket : Socket α) (queue : List α) : Prop where
  one : socket.underWay.length ≤ 1
  order : socket.writes ++ queue = enqueued

/-! ## The socket of a queue -/

/-- The entries of `f` are those of the socket and of the queue in front of it. -/
structure Carries (socket : Socket α) (queue : List α) (f : Fifo α) : Prop where
  waiting : f.waiting = queue
  underWay : f.underWay.toList = socket.underWay
  started : f.started = socket.writes

namespace Carries

variable {socket socket' : Socket α} {queue : List α} {f : Fifo α} {entry : α} {i : ℕ}

theorem one (h : Carries socket queue f) : socket.underWay.length ≤ 1 := by
  rw [← h.underWay]
  cases f.underWay <;> simp

theorem enqueue (h : Carries socket queue f) (entry : α) :
    ∃ f', f.step (.enqueue entry) = some f' ∧ Carries socket (queue ++ [entry]) f' := by
  refine ⟨{ f with waiting := f.waiting ++ [entry] }, rfl, ?_, h.underWay, h.started⟩
  rw [h.waiting]

/-- A write may be started where none is under way. -/
theorem write (h : Carries socket (entry :: queue) f) (hidle : socket.underWay = []) :
    ∃ f', f.step .start = some f' ∧ Carries (socket.write entry) queue f' := by
  obtain ⟨waiting, underWay, done⟩ := f
  have hwaiting : waiting = entry :: queue := h.waiting
  have hnone : underWay = none := by
    apply Option.toList_eq_nil_iff.mp
    rw [← hidle]
    exact h.underWay
  subst hwaiting hnone
  refine ⟨⟨queue, some entry, done⟩, rfl, rfl, ?_, ?_⟩
  · simp [Socket.write, hidle]
  · rw [Socket.write, ← h.started]
    simp [Fifo.started]

/-- The write that completes is the only one. -/
theorem complete (h : Carries socket queue f) (hi : socket.complete i = some socket') :
    ∃ f', f.step .finish = some f' ∧ Carries socket' queue f' := by
  obtain ⟨waiting, underWay, done⟩ := f
  obtain ⟨entry, hentry, rfl⟩ := Option.map_eq_some_iff.mp hi
  have hunderWay : underWay.toList = socket.underWay := h.underWay
  rw [← hunderWay] at hentry
  cases underWay with
  | none => simp at hentry
  | some a =>
      cases i with
      | succ i => simp at hentry
      | zero =>
          refine ⟨⟨waiting, none, done ++ [a]⟩, rfl, h.waiting, ?_, ?_⟩
          · simp [← hunderWay]
          · show (done ++ [a]) ++ [] = socket.writes
            rw [List.append_nil]
            exact h.started

theorem callback (h : Carries socket queue f) (hi : socket.callback i = some socket') :
    Carries socket' queue f := by
  unfold Socket.callback at hi
  split at hi
  · cases hi
    exact ⟨h.waiting, h.underWay, h.started⟩
  · cases hi

end Carries

/-- A write that completes goes from those under way to those whose callback is to run. -/
theorem Socket.length_complete {socket socket' : Socket α} {i : ℕ}
    (h : socket.complete i = some socket') :
    socket'.underWay.length + 1 = socket.underWay.length ∧
      socket'.completed.length = socket.completed.length + 1 := by
  obtain ⟨entry, hentry, rfl⟩ := Option.map_eq_some_iff.mp h
  obtain ⟨hlt, -⟩ := List.getElem?_eq_some_iff.mp hentry
  refine ⟨?_, by simp⟩
  rw [List.length_eraseIdx_of_lt hlt]
  omega

theorem Socket.length_callback {socket socket' : Socket α} {i : ℕ}
    (h : socket.callback i = some socket') :
    socket'.underWay = socket.underWay ∧
      socket'.completed.length + 1 = socket.completed.length := by
  unfold Socket.callback at h
  split at h
  · next hlt =>
    cases h
    refine ⟨rfl, ?_⟩
    show (socket.completed.eraseIdx i).length + 1 = _
    rw [List.length_eraseIdx_of_lt hlt]
    omega
  · cases h

theorem Socket.complete_zero_eq_none {socket : Socket α} (h : socket.complete 0 = none) :
    socket.underWay = [] := by
  rw [complete, Option.map_eq_none_iff, List.getElem?_eq_none_iff] at h
  exact List.eq_nil_of_length_eq_zero (Nat.le_zero.mp h)

theorem Socket.callback_zero_eq_none {socket : Socket α} (h : socket.callback 0 = none) :
    socket.completed = [] := by
  unfold callback at h
  split at h
  · cases h
  · next hle => exact List.eq_nil_of_length_eq_zero (Nat.eq_zero_of_not_pos hle)

/-! ## The peer -/

namespace PeerQueue

/-- The peer's entries are those of `f`. While `outbound_active_` is set, one callback is to clear it,
and a function that leaves the queue to another one has a `start_send` to come. -/
structure Refines (o : PeerQueue α) (f : Fifo α) : Prop where
  carries : Carries o.socket o.queue f
  token : o.socket.underWay.length + o.socket.completed.length + o.resolving.toNat = o.active.toNat
  waits : o.queue ≠ [] → o.active = true ∨ 0 < o.sends + o.handlers

variable {o o' : PeerQueue α} {f : Fifo α}

/-- `start_send` starts the next write or leaves that to a callback. -/
theorem startSend_refines (hcarries : Carries o.socket o.queue f)
    (htoken : o.socket.underWay.length + o.socket.completed.length + o.resolving.toNat =
      o.active.toNat) :
    ∃ tr f', Run (fun f op f' => Fifo.step f op = some f') f tr f' ∧ o.startSend.Refines f' ∧
      shown FifoOp.enqueued tr = [] := by
  unfold startSend
  split
  · next hqueue =>
    exact Fifo.matched_by_none ⟨hcarries, htoken, fun hne => absurd hqueue hne⟩
  · next entry queue hqueue =>
    split
    · next hactive => exact Fifo.matched_by_none ⟨hcarries, htoken, fun _ => Or.inl hactive⟩
    · next hactive =>
      rw [Bool.not_eq_true] at hactive
      rw [hactive, Bool.toNat_false] at htoken
      have hidle : o.socket.underWay = [] := by
        apply List.eq_nil_of_length_eq_zero
        omega
      rw [hqueue] at hcarries
      obtain ⟨f', hstep, hcarries'⟩ := hcarries.write hidle
      refine Fifo.matched_by .start hstep ⟨hcarries', ?_, fun _ => Or.inl rfl⟩
      show (o.socket.underWay ++ [entry]).length + o.socket.completed.length + o.resolving.toNat = 1
      rw [List.length_append, List.length_singleton]
      omega

/-- Every locked part is matched by an operation of the queue it is meant to be, or by none. -/
theorem step_refines {e : PeerEvent α} (h : o.Refines f) (hs : o.step e = some o') :
    ∃ tr f', Run (fun f op f' => Fifo.step f op = some f') f tr f' ∧ o'.Refines f' ∧
      shown FifoOp.enqueued tr = e.enqueued := by
  cases e with
  | send entry =>
      cases entry with
      | error what =>
          cases hs
          exact Fifo.matched_by_none h
      | ok entry =>
          cases hs
          obtain ⟨f', hstep, hcarries⟩ := h.carries.enqueue entry
          have hwaits : 0 < o.sends + 1 + o.handlers := by omega
          exact Fifo.matched_by (.enqueue entry) hstep ⟨hcarries, h.token, fun _ => Or.inr hwaits⟩
  | startSendOfSend =>
      rw [step, Option.ite_none_right_eq_some, Option.some.injEq] at hs
      obtain ⟨-, rfl⟩ := hs
      exact startSend_refines h.carries h.token
  | complete i =>
      obtain ⟨socket, hsocket, rfl⟩ := Option.map_eq_some_iff.mp hs
      obtain ⟨f', hstep, hcarries⟩ := h.carries.complete hsocket
      obtain ⟨hunderWay, hcompleted⟩ := Socket.length_complete hsocket
      have htoken := h.token
      refine Fifo.matched_by .finish hstep ⟨hcarries, ?_, h.waits⟩
      show socket.underWay.length + socket.completed.length + o.resolving.toNat = o.active.toNat
      omega
  | handleSent i =>
      obtain ⟨socket, hsocket, rfl⟩ := Option.map_eq_some_iff.mp hs
      obtain ⟨hunderWay, hcompleted⟩ := Socket.length_callback hsocket
      have htoken := h.token
      have hle := o.active.toNat_le
      have hwaits : 0 < o.sends + (o.handlers + 1) := by omega
      refine Fifo.matched_by_none ⟨h.carries.callback hsocket, ?_, fun _ => Or.inr hwaits⟩
      -- the write was the one thing that kept the flag set
      show socket.underWay.length + socket.completed.length + o.resolving.toNat = 0
      rw [hunderWay]
      omega
  | handleResolve =>
      rw [step, Option.ite_none_right_eq_some, Option.some.injEq] at hs
      obtain ⟨hresolving, rfl⟩ := hs
      have htoken := h.token
      have hle := o.active.toNat_le
      rw [hresolving, Bool.toNat_true] at htoken
      have hwaits : 0 < o.sends + (o.handlers + 1) := by omega
      refine Fifo.matched_by_none ⟨h.carries, ?_, fun _ => Or.inr hwaits⟩
      show o.socket.underWay.length + o.socket.completed.length + 0 = 0
      omega
  | startSendOfHandler =>
      rw [step, Option.ite_none_right_eq_some, Option.some.injEq] at hs
      obtain ⟨-, rfl⟩ := hs
      exact startSend_refines h.carries h.token

/-- Nobody is left to start the write of an entry, so none waits. -/
theorem Refines.queue_eq_nil (h : o.Refines f) (hcallbacks : o.callbacks = 0) (hsends : o.sends = 0) :
    o.queue = [] := by
  by_contra hne
  have htoken := h.token
  unfold callbacks at hcallbacks
  rcases h.waits hne with hactive | hcalls
  · rw [hactive, Bool.toNat_true] at htoken
    omega
  · omega

end PeerQueue

/-- A peer is first in, first out, one at a time. -/
theorem peer_simulates :
    Simulation (PeerQueue.Refines (α := α)) (fun o e o' => o.step e = some o')
      (fun f op f' => Fifo.step f op = some f') PeerEvent.enqueued FifoOp.enqueued :=
  ⟨PeerQueue.step_refines⟩

theorem PeerQueue.fresh_refines : (({} : PeerQueue α)).Refines {} :=
  ⟨⟨rfl, rfl, rfl⟩, rfl, fun hne => absurd rfl hne⟩

/-! ## The session -/

namespace SessionQueue

/-- The session's entries are those of `f`. While `outbound_active_` is set, one callback is to come,
and only then entries wait. -/
structure Refines (o : SessionQueue α) (f : Fifo α) : Prop where
  carries : Carries o.socket o.queue f
  token : o.socket.underWay.length + o.socket.completed.length = o.active.toNat
  waits : o.queue ≠ [] → o.active = true

variable {o o' : SessionQueue α} {f : Fifo α}

theorem step_refines {e : SessionEvent α} (h : o.Refines f) (hs : o.step e = some o') :
    ∃ tr f', Run (fun f op f' => Fifo.step f op = some f') f tr f' ∧ o'.Refines f' ∧
      shown FifoOp.enqueued tr = e.enqueued := by
  have htoken := h.token
  have hle := o.active.toNat_le
  cases e with
  | send entry =>
      cases entry with
      | error what =>
          cases hs
          exact Fifo.matched_by_none h
      | ok entry =>
          cases hs
          obtain ⟨f', hstep, hcarries⟩ := h.carries.enqueue entry
          split
          · next hactive =>
            exact Fifo.matched_by (.enqueue entry) hstep ⟨hcarries, h.token, fun _ => hactive⟩
          · next hactive =>
            -- nothing waits and nothing is under way: the entry overtakes none
            have hqueue : o.queue = [] := by
              by_contra hne
              exact hactive (h.waits hne)
            rw [Bool.not_eq_true] at hactive
            rw [hactive, Bool.toNat_false] at htoken
            have hidle : o.socket.underWay = [] := by
              apply List.eq_nil_of_length_eq_zero
              omega
            rw [hqueue, List.nil_append] at hcarries
            obtain ⟨f'', hstart, hcarries'⟩ := hcarries.write hidle
            refine ⟨[⟨f', .start, f''⟩, ⟨f, .enqueue entry, f'⟩], f'',
              (Run.init.step hstep).step hstart, ⟨?_, ?_, fun _ => rfl⟩, rfl⟩
            · show Carries (o.socket.write entry) o.queue f''
              rw [hqueue]
              exact hcarries'
            · show (o.socket.underWay ++ [entry]).length + o.socket.completed.length = 1
              rw [List.length_append, List.length_singleton]
              omega
  | complete i =>
      obtain ⟨socket, hsocket, rfl⟩ := Option.map_eq_some_iff.mp hs
      obtain ⟨f', hstep, hcarries⟩ := h.carries.complete hsocket
      obtain ⟨hunderWay, hcompleted⟩ := Socket.length_complete hsocket
      refine Fifo.matched_by .finish hstep ⟨hcarries, ?_, h.waits⟩
      show socket.underWay.length + socket.completed.length = o.active.toNat
      omega
  | handleWrite i =>
      obtain ⟨socket, hsocket, rfl⟩ := Option.map_eq_some_iff.mp hs
      obtain ⟨hunderWay, hcompleted⟩ := Socket.length_callback hsocket
      have hcarries := h.carries.callback hsocket
      have hidle : socket.underWay = [] := by
        apply List.eq_nil_of_length_eq_zero
        rw [hunderWay]
        omega
      cases hqueue : o.queue with
      | nil =>
          rw [hqueue] at hcarries
          refine Fifo.matched_by_none ⟨hcarries, ?_, fun hne => absurd rfl hne⟩
          show socket.underWay.length + socket.completed.length = 0
          rw [hunderWay]
          omega
      | cons entry queue =>
          have hactive : o.active = true := by
            apply h.waits
            rw [hqueue]
            exact List.cons_ne_nil _ _
          rw [hqueue] at hcarries
          obtain ⟨f', hstep, hcarries'⟩ := hcarries.write hidle
          refine Fifo.matched_by .start hstep ⟨hcarries', ?_, fun _ => hactive⟩
          show (socket.underWay ++ [entry]).length + socket.completed.length = o.active.toNat
          rw [List.length_append, List.length_singleton, hidle, List.length_nil]
          rw [hactive, Bool.toNat_true] at htoken ⊢
          omega

theorem Refines.queue_eq_nil (h : o.Refines f) (hcallbacks : o.callbacks = 0) : o.queue = [] := by
  by_contra hne
  have htoken := h.token
  unfold callbacks at hcallbacks
  rw [h.waits hne, Bool.toNat_true] at htoken
  omega

end SessionQueue

/-- A session is first in, first out, one at a time. -/
theorem session_simulates :
    Simulation (SessionQueue.Refines (α := α)) (fun o e o' => o.step e = some o')
      (fun f op f' => Fifo.step f op = some f') SessionEvent.enqueued FifoOp.enqueued :=
  ⟨SessionQueue.step_refines⟩

theorem SessionQueue.fresh_refines : (({} : SessionQueue α)).Refines {} :=
  ⟨⟨rfl, rfl, rfl⟩, rfl, fun hne => absurd rfl hne⟩

/-! ## Every interleaving -/

/-- What the queue is meant to be keeps the order, so what carries its entries does. -/
theorem Carries.inOrder {socket : Socket α} {queue : List α} {f : Fifo α}
    {tr : List (Step (Fifo α) (FifoOp α))} (h : Carries socket queue f)
    (hrun : Run (fun f op f' => Fifo.step f op = some f') {} tr f) :
    InOrder (shown FifoOp.enqueued tr) socket queue where
  one := h.one
  order := by
    rw [← h.started, ← h.waiting]
    exact Fifo.conserved hrun

theorem PeerQueue.refines_of_run {tr : List (Step (PeerQueue α) (PeerEvent α))} {o : PeerQueue α}
    (h : PeerQueueRun tr o) :
    ∃ f, o.Refines f ∧ InOrder (shown PeerEvent.enqueued tr) o.socket o.queue := by
  obtain ⟨tr', f, hrun, hrefines, hshown⟩ := peer_simulates.run PeerQueue.fresh_refines h
  refine ⟨f, hrefines, ?_⟩
  rw [← hshown]
  exact hrefines.carries.inOrder hrun

theorem SessionQueue.refines_of_run {tr : List (Step (SessionQueue α) (SessionEvent α))}
    {o : SessionQueue α} (h : SessionQueueRun tr o) :
    ∃ f, o.Refines f ∧ InOrder (shown SessionEvent.enqueued tr) o.socket o.queue := by
  obtain ⟨tr', f, hrun, hrefines, hshown⟩ := session_simulates.run SessionQueue.fresh_refines h
  refine ⟨f, hrefines, ?_⟩
  rw [← hshown]
  exact hrefines.carries.inOrder hrun

/-- For every interleaving, a peer and a session write one entry at a time, each once and in order.
When no callback is pending, and no call of the peer's `send` has yet to call `start_send`, nothing
waits. -/
theorem outbound_in_order {trP : List (Step (PeerQueue α) (PeerEvent α))} {peer : PeerQueue α}
    {trS : List (Step (SessionQueue α) (SessionEvent α))} {session : SessionQueue α}
    (hpeer : PeerQueueRun trP peer) (hsession : SessionQueueRun trS session) :
    (InOrder (shown PeerEvent.enqueued trP) peer.socket peer.queue ∧
      (peer.callbacks = 0 → peer.sends = 0 → peer.queue = [])) ∧
    InOrder (shown SessionEvent.enqueued trS) session.socket session.queue ∧
      (session.callbacks = 0 → session.queue = []) := by
  obtain ⟨f, hrefines, hinOrder⟩ := PeerQueue.refines_of_run hpeer
  obtain ⟨f', hrefines', hinOrder'⟩ := SessionQueue.refines_of_run hsession
  exact ⟨⟨hinOrder, hrefines.queue_eq_nil⟩, hinOrder', hrefines'.queue_eq_nil⟩

/-- A peer that has resolved its address and was asked for two writes at once, and a session that
was; the second write of each begins when the first one is done. -/
theorem outbound_in_order_of_two :
    ∃ (trP : List (Step (PeerQueue ℕ) (PeerEvent ℕ))) (peer : PeerQueue ℕ)
      (trS : List (Step (SessionQueue ℕ) (SessionEvent ℕ))) (session : SessionQueue ℕ),
      shown PeerEvent.enqueued trP = [10, 20] ∧ shown SessionEvent.enqueued trS = [30, 40] ∧
      (InOrder (shown PeerEvent.enqueued trP) peer.socket peer.queue ∧
        (peer.callbacks = 0 → peer.sends = 0 → peer.queue = [])) ∧
      InOrder (shown SessionEvent.enqueued trS) session.socket session.queue ∧
        (session.callbacks = 0 → session.queue = []) := by
  have hpeer := @run_of_trace (PeerQueue ℕ) (PeerEvent ℕ) PeerQueue.step {}
    [.send (.ok 10), .handleResolve, .send (.ok 20), .startSendOfHandler, .startSendOfSend,
      .complete 0, .handleSent 0, .startSendOfSend, .startSendOfHandler] _ rfl
  have hsession := @run_of_trace (SessionQueue ℕ) (SessionEvent ℕ) SessionQueue.step {}
    [.send (.ok 30), .send (.ok 40), .complete 0, .handleWrite 0] _ rfl
  exact ⟨_, _, _, _, rfl, rfl, outbound_in_order hpeer hsession⟩

/-- Between the two locked parts of `send`, an entry may wait although no callback is pending. -/
theorem waits_between_parts_of_send :
    ∃ (tr : List (Step (PeerQueue ℕ) (PeerEvent ℕ))) (peer : PeerQueue ℕ),
      PeerQueueRun tr peer ∧ peer.callbacks = 0 ∧ peer.queue ≠ [] := by
  have hrun := @run_of_trace (PeerQueue ℕ) (PeerEvent ℕ) PeerQueue.step {}
    [.handleResolve, .startSendOfHandler, .send (.ok 10)] _ rfl
  exact ⟨_, _, hrun, rfl, List.cons_ne_nil _ _⟩

/-! ## No entry is left -/

/-- A step of a call or a callback that has begun, or of the socket. -/
def PeerEvent.isSend : PeerEvent α → Bool
  | .send _ => true
  | .startSendOfSend | .complete _ | .handleSent _ | .handleResolve | .startSendOfHandler => false

def SessionEvent.isSend : SessionEvent α → Bool
  | .send _ => true
  | .complete _ | .handleWrite _ => false

namespace PeerQueue

/-- A step other than a further call of `send`. -/
def Works (o o' : PeerQueue α) : Prop := ∃ e : PeerEvent α, e.isSend = false ∧ o.step e = some o'

/-- The steps that are left: an entry that waits is written, completes and has its callback. -/
def work (o : PeerQueue α) : ℕ :=
  4 * o.queue.length + 3 * o.socket.underWay.length + 2 * o.socket.completed.length +
    2 * o.resolving.toNat + o.handlers + o.sends

theorem work_startSend (o : PeerQueue α) : o.startSend.work ≤ o.work := by
  unfold startSend
  split
  · exact Nat.le_refl _
  · next entry queue hqueue =>
    split
    · exact Nat.le_refl _
    · simp only [work, Socket.write, hqueue, List.length_append, List.length_cons, List.length_nil]
      omega

theorem work_lt {o o' : PeerQueue α} (h : o.Works o') : o'.work < o.work := by
  obtain ⟨e, he, hs⟩ := h
  cases e with
  | send entry => cases he
  | startSendOfSend =>
      rw [step, Option.ite_none_right_eq_some, Option.some.injEq] at hs
      obtain ⟨hsends, rfl⟩ := hs
      apply Nat.lt_of_le_of_lt (work_startSend _)
      simp only [work]
      omega
  | complete i =>
      obtain ⟨socket, hsocket, rfl⟩ := Option.map_eq_some_iff.mp hs
      obtain ⟨hunderWay, hcompleted⟩ := Socket.length_complete hsocket
      simp only [work]
      omega
  | handleSent i =>
      obtain ⟨socket, hsocket, rfl⟩ := Option.map_eq_some_iff.mp hs
      obtain ⟨hunderWay, hcompleted⟩ := Socket.length_callback hsocket
      simp only [work, hunderWay]
      omega
  | handleResolve =>
      rw [step, Option.ite_none_right_eq_some, Option.some.injEq] at hs
      obtain ⟨hresolving, rfl⟩ := hs
      simp only [work, hresolving, Bool.toNat_true, Bool.toNat_false]
      omega
  | startSendOfHandler =>
      rw [step, Option.ite_none_right_eq_some, Option.some.injEq] at hs
      obtain ⟨hhandlers, rfl⟩ := hs
      apply Nat.lt_of_le_of_lt (work_startSend _)
      simp only [work]
      omega

theorem step_eq_none_of_atRest {o : PeerQueue α} (h : AtRest Works o) {e : PeerEvent α}
    (he : e.isSend = false) : o.step e = none := by
  cases hs : o.step e with
  | none => rfl
  | some o' => exact absurd ⟨e, he, hs⟩ (h o')

/-- A callback that is pending, and a call that has begun, have a step to take. -/
theorem callbacks_of_atRest {o : PeerQueue α} (h : AtRest Works o) : o.callbacks = 0 ∧ o.sends = 0 := by
  have hcomplete : o.step (.complete 0) = none := step_eq_none_of_atRest h rfl
  have hsent : o.step (.handleSent 0) = none := step_eq_none_of_atRest h rfl
  have hresolve : o.step .handleResolve = none := step_eq_none_of_atRest h rfl
  have hhandler : o.step .startSendOfHandler = none := step_eq_none_of_atRest h rfl
  have hsend : o.step .startSendOfSend = none := step_eq_none_of_atRest h rfl
  rw [step, Option.map_eq_none_iff] at hcomplete
  rw [step, Option.map_eq_none_iff] at hsent
  simp only [step, ite_eq_right_iff, reduceCtorEq, imp_false, Nat.not_lt, Nat.le_zero,
    Bool.not_eq_true] at hresolve hhandler hsend
  refine ⟨?_, hsend⟩
  rw [callbacks, Socket.complete_zero_eq_none hcomplete, Socket.callback_zero_eq_none hsent, hresolve,
    hhandler]
  rfl

/-- No sequence of steps without a further call of `send` goes on for ever, and where it ends all
entries have been written. -/
theorem settles {tr : List (Step (PeerQueue α) (PeerEvent α))} {o : PeerQueue α}
    (h : PeerQueueRun tr o) :
    Settles Works o ∧ (AtRest Works o → o.socket.writes = shown PeerEvent.enqueued tr) := by
  refine ⟨settles_of_measure (I := fun _ => True) work (fun _ _ _ hw => ⟨trivial, work_lt hw⟩)
    trivial, fun hrest => ?_⟩
  obtain ⟨f, hrefines, hinOrder⟩ := refines_of_run h
  obtain ⟨hcallbacks, hsends⟩ := callbacks_of_atRest hrest
  rw [← hinOrder.order, hrefines.queue_eq_nil hcallbacks hsends, List.append_nil]

end PeerQueue

namespace SessionQueue

/-- A step other than a further call of `send`. -/
def Works (o o' : SessionQueue α) : Prop :=
  ∃ e : SessionEvent α, e.isSend = false ∧ o.step e = some o'

def work (o : SessionQueue α) : ℕ :=
  3 * o.queue.length + 2 * o.socket.underWay.length + o.socket.completed.length

theorem work_lt {o o' : SessionQueue α} (h : o.Works o') : o'.work < o.work := by
  obtain ⟨e, he, hs⟩ := h
  cases e with
  | send entry => cases he
  | complete i =>
      obtain ⟨socket, hsocket, rfl⟩ := Option.map_eq_some_iff.mp hs
      obtain ⟨hunderWay, hcompleted⟩ := Socket.length_complete hsocket
      simp only [work]
      omega
  | handleWrite i =>
      obtain ⟨socket, hsocket, rfl⟩ := Option.map_eq_some_iff.mp hs
      obtain ⟨hunderWay, hcompleted⟩ := Socket.length_callback hsocket
      cases hqueue : o.queue with
      | nil =>
          simp only [work, hunderWay, hqueue]
          omega
      | cons entry queue =>
          simp only [work, Socket.write, hunderWay, hqueue, List.length_append, List.length_cons,
            List.length_nil]
          omega

theorem callbacks_of_atRest {o : SessionQueue α} (h : AtRest Works o) : o.callbacks = 0 := by
  have hcomplete : o.socket.complete 0 = none := by
    cases hs : o.socket.complete 0 with
    | none => rfl
    | some socket =>
        refine absurd ⟨.complete 0, rfl, ?_⟩ (h { o with socket })
        rw [step, hs, Option.map_some]
  have hwrite : o.socket.callback 0 = none := by
    cases hs : o.socket.callback 0 with
    | none => rfl
    | some socket => exact absurd ⟨.handleWrite 0, rfl, by rw [step, hs, Option.map_some]⟩ (h _)
  rw [callbacks, Socket.complete_zero_eq_none hcomplete, Socket.callback_zero_eq_none hwrite]
  rfl

theorem settles {tr : List (Step (SessionQueue α) (SessionEvent α))} {o : SessionQueue α}
    (h : SessionQueueRun tr o) :
    Settles Works o ∧ (AtRest Works o → o.socket.writes = shown SessionEvent.enqueued tr) := by
  refine ⟨settles_of_measure (I := fun _ => True) work (fun _ _ _ hw => ⟨trivial, work_lt hw⟩)
    trivial, fun hrest => ?_⟩
  obtain ⟨f, hrefines, hinOrder⟩ := refines_of_run h
  rw [← hinOrder.order, hrefines.queue_eq_nil (callbacks_of_atRest hrest), List.append_nil]

end SessionQueue

end FactoryHub.Comm
