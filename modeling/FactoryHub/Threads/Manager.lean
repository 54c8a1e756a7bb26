import Mathlib.Data.Int.Basic

/-!
# Threads and their aspects

`ThreadManager` of `libs/baseapp/thread_manager.cpp`, over `ThreadList` and `Thread` of
`libs/core/threading`, with the `AspectManager` of `libs/aspect/manager.cpp` for the initializer and the
finalizer. The threads of a list are known by the list that they belong to, of an arbitrary type, and their
place in it. How often an aspect was initialized for a thread and finalized again, and the thread itself, is
counted along.

What a thread does in `init`, `prepare_finalize_user` and `finalize`, and whether it can be started, is not
modelled: every call comes with the `Outcomes`. The calls for a single thread are left out, which the plugin
manager does not use, and so are locks, notification listeners and the bodies of the threads.
-/

namespace FactoryHub.Threads

/-! ## Threads -/

/-- The classes of the exceptions that are told apart. -/
inductive ExceptionKind where
  | cannotInitializeThread
  | cannotFinalizeThread
  | threadListNotSealed
  | other
  deriving DecidableEq, Repr

structure Exception where
  kind : ExceptionKind := .other
  messages : List String
  deriving DecidableEq, Repr

/-- What the code of a thread throws. -/
inductive Thrown where
  | exception (e : Exception)
  | stdException (what : String)
  | unknown
  deriving DecidableEq, Repr

structure Thread (ι : Type) where
  list : ι
  index : ℕ
  name : String
  /-- `get_aspects`. -/
  aspects : List String
  /-- The aspects that its class has. -/
  rtti : List String
  deriving DecidableEq, Repr

/-- What the threads do in a call. -/
structure Outcomes (ι : Type) where
  init : Thread ι → Option Thrown := fun _ => none
  /-- `pthread_create` succeeds. -/
  start : Thread ι → Bool := fun _ => true
  prepareFinalizeUser : Thread ι → Bool := fun _ => true
  finalize : Thread ι → Option Thrown := fun _ => none

/-- The state of a thread. -/
@[ext]
structure ThreadState where
  started : Bool := false
  finalizePrepared : Bool := false
  /-- How often `init` has returned, and `finalize` was not called since. -/
  inits : ℤ := 0
  /-- The same for each aspect. -/
  held : String → ℤ := fun _ => 0

variable {ι : Type} [DecidableEq ι]

/-- `ThreadManager`, with the `AspectManager`. -/
@[ext]
structure ThreadManager (ι : Type) where
  /-- The aspects that have an `AspectIniFin`. -/
  inifins : List String
  /-- `__threads` of the `AspectManager`. -/
  threads : String → List (Thread ι) := fun _ => []
  untimedThreads : List (Thread ι) := []
  isSealed : ι → Bool := fun _ => false
  state : Thread ι → ThreadState := fun _ => {}

/-- A manager, and what was thrown. -/
abbrev Result (ι : Type) := ThreadManager ι × Option Exception

namespace ThreadManager

variable (m : ThreadManager ι) (t : Thread ι)

def modify (f : ThreadState → ThreadState) : ThreadManager ι :=
  { m with state := Function.update m.state t (f (m.state t)) }

/-! ## Aspects -/

/-- An aspect of a thread was initialized, or finalized again. -/
def hold (n : ℤ) (aspect : String) : ThreadManager ι :=
  m.modify t fun s => { s with held := Function.update s.held aspect (s.held aspect + n) }

/-- `register_inifin`. -/
def registerInifin (aspect : String) : Result ι :=
  if aspect ∈ m.inifins then
    (m, some { messages := ["An initializer for " ++ aspect ++ " has already been registered"] })
  else ({ m with inifins := aspect :: m.inifins }, none)

/-- `unregister_inifin`. -/
def unregisterInifin (aspect : String) : Result ι :=
  if aspect ∉ m.inifins then
    (m, some { messages := ["An initializer for " ++ aspect ++ " has not been registered"] })
  else if m.threads aspect ≠ [] then
    (m, some { messages := ["Threads with the " ++ aspect ++
      " aspect are still alive, cannot unregister the aspect"] })
  else ({ m with inifins := m.inifins.filter (· ≠ aspect) }, none)

/-- `AspectManager::init`, of the aspects one after the other. Those that are initialized come last first;
they are finalized when one throws. -/
def initAspects (t : Thread ι) : List String → List String → ThreadManager ι → Result ι
  | [], _, m => (m, none)
  | aspect :: aspects, initialized, m =>
      if aspect ∉ m.inifins then
        (initialized.foldl (fun m a => m.hold t (-1) a) m, some {
          kind := .cannotInitializeThread
          messages := ["Thread '" ++ t.name ++ "' has the " ++ aspect ++
            ", but no initiliazer is known."] })
      else if aspect ∉ t.rtti then
        (initialized.foldl (fun m a => m.hold t (-1) a) m, some {
          kind := .cannotInitializeThread
          messages := ["Thread '" ++ t.name ++ "' claims to have the " ++ aspect ++
            ", but RTTI says it has not. "] })
      else initAspects t aspects (aspect :: initialized) (m.hold t 1 aspect)

/-- The thread comes last among those with its aspects. -/
def enlist : ThreadManager ι :=
  { m with threads := fun aspect => m.threads aspect ++ List.replicate (t.aspects.count aspect) t }

/-- The thread is no longer among those with its aspects. -/
def delist : ThreadManager ι :=
  { m with
    threads := fun aspect =>
      if aspect ∈ t.aspects then (m.threads aspect).filter (· ≠ t) else m.threads aspect }

/-- `AspectManager::init`. -/
def aspectInit : Result ι :=
  match initAspects t t.aspects [] m with
  | (m, none) => (m.enlist t, none)
  | (m, some e) => (m, some e)

def finalizeAspects (t : Thread ι) : List String → ThreadManager ι → Result ι
  | [], m => (m, none)
  | aspect :: aspects, m =>
      if aspect ∉ m.inifins then
        (m, some {
          kind := .cannotFinalizeThread
          messages := ["Thread '" ++ t.name ++ "' has the " ++ aspect ++
            ", but no finalizer is known."] })
      else finalizeAspects t aspects (m.hold t (-1) aspect)

/-- `AspectManager::finalize`. -/
def aspectFinalize : Result ι :=
  match finalizeAspects t t.aspects m with
  | (m, none) => (m.delist t, none)
  | (m, some e) => (m, some e)

/-- `AspectManager::prepare_finalize`. Every `AspectIniFin` returns true. -/
def aspectPrepareFinalize : Option Exception :=
  (t.aspects.find? fun aspect => aspect ∉ m.inifins).map fun aspect =>
    { kind := .cannotFinalizeThread
      messages := ["Thread '" ++ t.name ++ "' has the " ++ aspect ++ ", but no finalizer is known."] }

/-! ## Lists of threads -/

end ThreadManager

/-- The lists of threads, and their names. -/
structure ThreadLists (ι : Type) where
  threads : ι → List (Thread ι)
  name : ι → String

/-- What `ThreadList::init` makes of what the `init` of a thread throws. -/
def Thrown.initMessages (t : Thread ι) (listName : String) : Thrown → List String
  | .exception e =>
      if e.kind = .cannotInitializeThread then
        ("Initializing thread '" ++ t.name ++ "' in list '" ++ listName ++ "' failed") :: e.messages
      else ("Could not initialize thread '" ++ t.name ++ "'") :: e.messages
  | .stdException what => ["Could not initialize thread '" ++ t.name ++ "'",
      "Caught std::exception or derivative: " ++ what]
  | .unknown => ["Could not initialize thread '" ++ t.name ++ "'", "Unknown exception caught"]

/-- What `ThreadList::finalize` makes of what the `finalize` of a thread throws. -/
def Thrown.finalizeMessages (t : Thread ι) : Thrown → List String
  | .exception e =>
      ("AspectIniFin called Thread[" ++ t.name ++ "]::finalize() which failed") :: e.messages
  | .stdException _ | .unknown => ["Thread[" ++ t.name ++ "]::finalize() threw unsupported exception"]

/-- A `CannotFinalizeThreadException`. -/
def Thrown.isCannotFinalize : Thrown → Bool
  | .exception e => decide (e.kind = .cannotFinalizeThread)
  | _ => false

/-- The thread says, when it is finalized, that it cannot be. -/
def Outcomes.refuses (o : Outcomes ι) (t : Thread ι) : Bool := (o.finalize t).any Thrown.isCannotFinalize

namespace ThreadManager

/-- `ThreadList::finalize`, of the threads with the last one first: what is thrown is gathered. -/
def finalizeThreads (o : Outcomes ι) (listName : String) :
    List (Thread ι) → Bool → List String → ThreadManager ι → Result ι
  | [], error, me, m => (m, if error then some { messages := me } else none)
  | t :: ts, error, me, m =>
      match m.aspectFinalize t with
      | (m, e) =>
          let caught := (e.map fun e => ("Could not finalize thread '" ++ t.name ++ "' in list '" ++
            listName ++ "'") :: e.messages).getD []
          let thrown := ((o.finalize t).map fun e => e.finalizeMessages t).getD []
          finalizeThreads o listName ts (error || e.isSome || o.refuses t) (me ++ caught ++ thrown)
            (m.modify t fun s => { s with inits := s.inits - 1 })

/-- The end of a `ThreadList::init` that fails: the threads that are initialized, the last one first, are
finalized. -/
def failInit (o : Outcomes ι) (initialized : List (Thread ι)) (cite : List String) (m : ThreadManager ι) :
    Result ι :=
  match finalizeThreads o "" initialized false ["One or more threads failed to finalize"] m with
  | (m, some e) => (m, some e)
  | (m, none) => (m, some { kind := .cannotInitializeThread, messages := cite })

/-- `ThreadList::init`. -/
def initThreads (o : Outcomes ι) (listName : String) :
    List (Thread ι) → List (Thread ι) → ThreadManager ι → Result ι
  | [], _, m => (m, none)
  | t :: ts, initialized, m =>
      match m.aspectInit t with
      | (m, some e) =>
          failInit o initialized (("Initialized failed to initialize thread '" ++ t.name ++ "'") ::
            e.messages) m
      | (m, none) =>
          match o.init t with
          | none =>
              initThreads o listName ts (t :: initialized)
                (m.modify t fun s => { s with inits := s.inits + 1 })
          | some e =>
              -- Of the thread whose `init` throws, the aspects alone are finalized.
              match m.aspectFinalize t with
              | (m, some e) => (m, some e)
              | (m, none) => failInit o initialized (e.initMessages t listName) m

/-- `ThreadList::start`. A thread that cannot be started says that it is, and nothing is taken back. -/
def startThreads (o : Outcomes ι) : List (Thread ι) → ThreadManager ι → Result ι
  | [], m => (m, none)
  | t :: ts, m =>
      if (m.state t).started then (m, some { messages := ["You cannot start the same thread twice!"] })
      else
        let m := m.modify t fun s => { s with started := true }
        if o.start t then startThreads o ts m else (m, some { messages := ["Could not start thread"] })

/-- `ThreadList::stop`. -/
def stopThreads (ts : List (Thread ι)) (m : ThreadManager ι) : ThreadManager ι :=
  ts.foldl (fun m t => m.modify t fun s => { s with started := false }) m

/-- `ThreadList::prepare_finalize`: every thread is asked, whatever the others say. -/
def prepareThreads (o : Outcomes ι) (listName : String) :
    List (Thread ι) → Bool → Option (List String) → ThreadManager ι →
      ThreadManager ι × Except Exception Bool
  | [], canFinalize, threw, m =>
      (m, match threw with
        | some cfte => .error { kind := .cannotFinalizeThread, messages := cfte }
        | none => .ok canFinalize)
  | t :: ts, canFinalize, threw, m =>
      -- `Thread::prepare_finalize` throws of a thread that does not run, and of one that is prepared.
      if (m.aspectPrepareFinalize t).isSome || !(m.state t).started || (m.state t).finalizePrepared then
        let message := "Thread '" ++ t.name ++ "' throw an exception while preparing finalization of " ++
          "ThreadList '" ++ listName ++ "'"
        prepareThreads o listName ts canFinalize
          (some (threw.getD ["Cannot finalize one or more threads"] ++ [message])) m
      else
        prepareThreads o listName ts (canFinalize && o.prepareFinalizeUser t) threw
          (m.modify t fun s => { s with finalizePrepared := true })

/-- `ThreadList::cancel_finalize`. -/
def cancelFinalizeThreads : List (Thread ι) → ThreadManager ι → Result ι
  | [], m => (m, none)
  | t :: ts, m =>
      if !(m.state t).started then
        (m, some {
          kind := .cannotFinalizeThread
          messages := ["Cannot cancel finalize, thread has not been started"] })
      else cancelFinalizeThreads ts (m.modify t fun s => { s with finalizePrepared := false })

/-! ## The manager -/

section

variable (lists : ThreadLists ι) (o : Outcomes ι) (l : ι) (m : ThreadManager ι)

/-- `add`. -/
def add : Result ι :=
  if m.isSealed l then
    (m, some { messages := ["Not accepting new threads from list that is not fresh, list '" ++
      lists.name l ++ "' already sealed"] })
  else
    match initThreads o (lists.name l) (lists.threads l) [] m with
    | (m, some e) => (m, some e)
    | (m, none) =>
        match startThreads o (lists.threads l) { m with isSealed := Function.update m.isSealed l true } with
        | (m, some e) => (m, some e)
        | (m, none) => ({ m with untimedThreads := m.untimedThreads ++ lists.threads l }, none)

/-- The threads of a list are no longer managed. -/
def internalRemove : ThreadManager ι :=
  { m with untimedThreads := m.untimedThreads.filter (· ∉ lists.threads l) }

/-- `remove`. -/
def remove : Result ι :=
  if !m.isSealed l then
    (m, some {
      kind := .threadListNotSealed
      messages := ["(ThreadManager) Cannot remove unsealed thread list. Not accepting unsealed list '" ++
        lists.name l ++ "' for removal"] })
  else
    match prepareThreads o (lists.name l) (lists.threads l).reverse true none m with
    | (m, .error e) => (m, some e)
    | (m, .ok false) =>
        match cancelFinalizeThreads (lists.threads l).reverse m with
        | (m, some e) => (m, some e)
        | (m, none) =>
            (m, some {
              kind := .cannotFinalizeThread
              messages := ["One or more threads in list '" ++ lists.name l ++ "' cannot be finalized"] })
    | (m, .ok true) =>
        let m := stopThreads (lists.threads l).reverse m
        match finalizeThreads o (lists.name l) (lists.threads l).reverse false
            ["One or more threads failed to finalize"] m with
        | (m, some e) => (m, some e)
        | (m, none) => (m.internalRemove lists l, none)

/-- `ThreadList::force_stop`. Nothing is stopped when the preparation throws. -/
def forceStop : ThreadManager ι :=
  match prepareThreads o (lists.name l) (lists.threads l).reverse true none m with
  | (m, .error _) => m
  | (m, .ok _) =>
      let m := stopThreads (lists.threads l).reverse m
      (finalizeThreads o (lists.name l) (lists.threads l).reverse false
        ["One or more threads failed to finalize"] m).1

/-- `force_remove`. -/
def forceRemove : Result ι :=
  if !m.isSealed l then
    (m, some {
      kind := .threadListNotSealed
      messages := ["Not accepting unsealed list '" ++ lists.name l ++ "' for removal"] })
  else ((m.forceStop lists o l).internalRemove lists l, none)

end

end ThreadManager

/-- A call of the manager, or of the `AspectManager`. -/
inductive Call (ι : Type) where
  | registerInifin (aspect : String)
  | unregisterInifin (aspect : String)
  | add (l : ι) (o : Outcomes ι)
  | remove (l : ι) (o : Outcomes ι)
  | forceRemove (l : ι) (o : Outcomes ι)

/-- What a call changes, and what it throws. -/
def ThreadManager.call (lists : ThreadLists ι) (m : ThreadManager ι) : Call ι → Result ι
  | .registerInifin aspect => m.registerInifin aspect
  | .unregisterInifin aspect => m.unregisterInifin aspect
  | .add l o => m.add lists o l
  | .remove l o => m.remove lists o l
  | .forceRemove l o => m.forceRemove lists o l

end FactoryHub.Threads
