import FactoryHub.Rockin.Benchmark
import FactoryHub.Lib.Heap
import FactoryHub.Lib.Run

/-!
# Commands to devices

Clients command the conveyor belt, robots and clients the drilling machine. The rules for clients look
for a client with the port of the sender, and take its host for whatever it is.

* `Outcome.of_step` — what an event does to messages and calls.
* `authorised_step_iff` — when the sender of a command is one who may give it.
* `authorised_iff` — the commands of a run.
-/

namespace FactoryHub.Rockin

open Lib

/-! ## Messages and facts -/

/-- `ConveyorBeltRunMode`. -/
inductive ConveyorBeltRunMode where
  | start | stop
  deriving DecidableEq, Repr

/-- The enum `Command` of a DrillingMachineCommand. -/
inductive DrillingMachineMove where
  | moveDown | moveUp
  deriving DecidableEq, Repr

/-- A ConveyorBeltCommand or a DrillingMachineCommand. -/
inductive DeviceCommand where
  | conveyorBelt (command : ConveyorBeltRunMode)
  | drillingMachine (command : DrillingMachineMove)
  deriving DecidableEq, Repr

/-- The fact `protobuf-msg` of a command. -/
structure CommandMessage where
  rcvdVia : Comm.RcvdVia
  fromHost : String
  fromPort : ℕ
  command : DeviceCommand
  deriving DecidableEq, Repr

/-- `network-client`. -/
structure NetworkClient where
  id : ℕ
  host : String
  port : ℕ
  deriving DecidableEq, Repr

/-- The functions that command a device. -/
inductive DeviceCall where
  | conveyorBeltStopBelt | conveyorBeltStartBelt | drillingMachineMoveDrillUp
  | drillingMachineMoveDrillDown
  deriving DecidableEq, Repr

/-- The command is a ConveyorBeltCommand. -/
def DeviceCommand.isConveyorBelt : DeviceCommand → Bool
  | .conveyorBelt _ => true
  | .drillingMachine _ => false

/-- What is called for a command. -/
def DeviceCommand.call : DeviceCommand → DeviceCall
  | .conveyorBelt .stop => .conveyorBeltStopBelt
  | .conveyorBelt .start => .conveyorBeltStartBelt
  | .drillingMachine .moveUp => .drillingMachineMoveDrillUp
  | .drillingMachine .moveDown => .drillingMachineMoveDrillDown

/-- The facts that the rules for commands depend on, each command under a name of its own, and the calls
with the command they were made for, newest first. -/
structure DeviceRefbox where
  serverClientConnected : List NetworkClient := []
  serverClientDisconnected : List ℕ := []
  clients : List NetworkClient := []
  robots : List Robot := []
  messages : Heap CommandMessage := .empty
  calls : List (ℕ × DeviceCall) := []

/-- What the communicator asserts, beacons and removals of robots, and the rules that fire. -/
inductive DeviceEvent where
  | serverClientConnected (client : NetworkClient)
  | serverClientDisconnected (clientId : ℕ)
  | receive (msg : CommandMessage)
  | netClientConnected (client : NetworkClient)
  | netClientDisconnected (client : NetworkClient)
  | beacon (robot : Robot)
  | robotRemove (robot : Robot)
  | netRecvConveyorBeltCommandClient (name : ℕ) (client : NetworkClient)
  | netRecvDrillingMachineCommand (name : ℕ) (robot : Robot)
  | netRecvDrillingMachineCommandClient (name : ℕ) (client : NetworkClient)
  | protobufCleanupMessage (name : ℕ)
  deriving DecidableEq, Repr

namespace DeviceRefbox

/-! ## Rules -/

/-- `net-client-connected`. -/
def netClientConnected (client : NetworkClient) (r : DeviceRefbox) : Option DeviceRefbox :=
  if client ∈ r.serverClientConnected then
    some { r with
      serverClientConnected := r.serverClientConnected.erase client
      clients := r.clients.insert client }
  else none

/-- `net-client-disconnected`. -/
def netClientDisconnected (client : NetworkClient) (r : DeviceRefbox) : Option DeviceRefbox :=
  if client.id ∈ r.serverClientDisconnected ∧ client ∈ r.clients then
    some { r with
      serverClientDisconnected := r.serverClientDisconnected.erase client.id
      clients := r.clients.erase client }
  else none

/-- `net-recv-beacon-unknown`. -/
def beacon (robot : Robot) (r : DeviceRefbox) : DeviceRefbox :=
  if ∃ other ∈ r.robots, other.host = robot.host ∧ other.port = robot.port then r
  else { r with robots := robot :: r.robots }

/-- A rule that matches a command, retracts it and calls the device. -/
def command (name : ℕ) (test : CommandMessage → Prop) [DecidablePred test] (r : DeviceRefbox) :
    Option DeviceRefbox :=
  match r.messages.get? name with
  | some msg =>
      if test msg then
        some { r with
          messages := r.messages.unmake name
          calls := (name, msg.command.call) :: r.calls }
      else none
  | none => none

/-- `net-recv-ConveyorBeltCommand-client`. The variable for the host of the client stands nowhere
else. -/
def netRecvConveyorBeltCommandClient (name : ℕ) (client : NetworkClient) (r : DeviceRefbox) :
    Option DeviceRefbox :=
  r.command name fun msg =>
    msg.command.isConveyorBelt = true ∧ client ∈ r.clients ∧ client.port = msg.fromPort

/-- `net-recv-DrillingMachineCommand`. -/
def netRecvDrillingMachineCommand (name : ℕ) (robot : Robot) (r : DeviceRefbox) :
    Option DeviceRefbox :=
  r.command name fun msg =>
    msg.command.isConveyorBelt = false ∧ robot ∈ r.robots ∧ robot.host = msg.fromHost

/-- `net-recv-DrillingMachineCommand-client`. -/
def netRecvDrillingMachineCommandClient (name : ℕ) (client : NetworkClient) (r : DeviceRefbox) :
    Option DeviceRefbox :=
  r.command name fun msg =>
    msg.command.isConveyorBelt = false ∧ client ∈ r.clients ∧ client.port = msg.fromPort

/-- The refbox after an event, if it can happen. -/
def step (r : DeviceRefbox) : DeviceEvent → Option DeviceRefbox
  | .serverClientConnected client =>
      some { r with serverClientConnected := r.serverClientConnected.insert client }
  | .serverClientDisconnected clientId =>
      some { r with serverClientDisconnected := r.serverClientDisconnected.insert clientId }
  | .receive msg => some { r with messages := r.messages.make msg }
  | .netClientConnected client => r.netClientConnected client
  | .netClientDisconnected client => r.netClientDisconnected client
  | .beacon robot => some (r.beacon robot)
  | .robotRemove robot => some { r with robots := r.robots.erase robot }
  | .netRecvConveyorBeltCommandClient name client => r.netRecvConveyorBeltCommandClient name client
  | .netRecvDrillingMachineCommand name robot => r.netRecvDrillingMachineCommand name robot
  | .netRecvDrillingMachineCommandClient name client =>
      r.netRecvDrillingMachineCommandClient name client
  | .protobufCleanupMessage name => some { r with messages := r.messages.unmake name }

/-! ## Who may command -/

/-- Host and port of the sender are those of a connected client. -/
def IsClient (r : DeviceRefbox) (msg : CommandMessage) : Prop :=
  ∃ client ∈ r.clients, client.host = msg.fromHost ∧ client.port = msg.fromPort

/-- The sender is on the host of a known robot. -/
def IsRobot (r : DeviceRefbox) (msg : CommandMessage) : Prop :=
  ∃ robot ∈ r.robots, robot.host = msg.fromHost

/-- The sender may give the command. -/
def MayCommand (r : DeviceRefbox) (msg : CommandMessage) : Prop :=
  match msg.command with
  | .conveyorBelt _ => r.IsClient msg
  | .drillingMachine _ => r.IsRobot msg ∨ r.IsClient msg

/-- A step calls no device, or one for a command in memory whose sender may give it. -/
def AuthorisedStep (t : Step DeviceRefbox DeviceEvent) : Prop :=
  t.post.calls = t.pre.calls ∨
    ∃ name msg, (name, msg) ∈ t.pre.messages.live ∧
      t.post.calls = (name, msg.command.call) :: t.pre.calls ∧ t.pre.MayCommand msg

/-- No command is the cause of two calls, and each sender may give its command. -/
structure Authorised (tr : List (Step DeviceRefbox DeviceEvent)) (r : DeviceRefbox) : Prop where
  once : (r.calls.map Prod.fst).Nodup
  may : ∀ t ∈ tr, AuthorisedStep t

/-- A rule for clients takes a command that no client with its port has the host of; nor has a robot, if it
is one for the drilling machine. -/
def Misdirected (r : DeviceRefbox) : DeviceEvent → Prop
  | .netRecvConveyorBeltCommandClient name _ | .netRecvDrillingMachineCommandClient name _ =>
      ∃ msg ∈ r.messages.get? name,
        (∀ client ∈ r.clients, client.port = msg.fromPort → client.host ≠ msg.fromHost) ∧
          (msg.command.isConveyorBelt = true ∨ ∀ robot ∈ r.robots, robot.host ≠ msg.fromHost)
  | _ => False

instance (r : DeviceRefbox) (e : DeviceEvent) : Decidable (Misdirected r e) := by
  unfold Misdirected
  split <;> infer_instance

/-! ## One step -/

section

variable {r r' : DeviceRefbox} {e : DeviceEvent} {name : ℕ} {msg : CommandMessage}

/-- What an event does to commands and calls: nothing is called, or one device for a command that is
retracted. -/
inductive Outcome (r r' : DeviceRefbox) (e : DeviceEvent) : Prop
  | silent (hcalls : r'.calls = r.calls) (hnext : r.messages.next ≤ r'.messages.next)
      (hlive : ∀ o ∈ r'.messages.live, o ∈ r.messages.live ∨ r.messages.next ≤ o.1)
      (hrule : ¬ Misdirected r e)
  | called (name : ℕ) (msg : CommandMessage) (hmsg : r.messages.get? name = some msg)
      (hcalls : r'.calls = (name, msg.command.call) :: r.calls)
      (hmessages : r'.messages = r.messages.unmake name)
      (hrule : r.MayCommand msg ↔ ¬ Misdirected r e)

theorem of_command {test : CommandMessage → Prop} [DecidablePred test]
    (h : r.command name test = some r') : ∃ msg, r.messages.get? name = some msg ∧ test msg ∧
      r'.calls = (name, msg.command.call) :: r.calls ∧ r'.messages = r.messages.unmake name := by
  unfold command at h
  cases hmsg : r.messages.get? name with
  | none =>
      rw [hmsg] at h
      cases h
  | some msg =>
      rw [hmsg] at h
      obtain ⟨htest, h⟩ := Option.ite_none_right_eq_some.mp h
      cases h
      exact ⟨msg, rfl, htest, rfl, rfl⟩

theorem isClient_iff : r.IsClient msg ↔
    ¬ ∀ client ∈ r.clients, client.port = msg.fromPort → client.host ≠ msg.fromHost := by
  simp [IsClient, and_comm]

/-- A rule for clients takes a command of one who may give it, or of one with the port of a client. -/
theorem mayCommand_iff (hmsg : r.messages.get? name = some msg)
    (he : Misdirected r e ↔ ∃ msg ∈ r.messages.get? name,
      (∀ client ∈ r.clients, client.port = msg.fromPort → client.host ≠ msg.fromHost) ∧
        (msg.command.isConveyorBelt = true ∨ ∀ robot ∈ r.robots, robot.host ≠ msg.fromHost)) :
    r.MayCommand msg ↔ ¬ Misdirected r e := by
  have hrobot : r.IsRobot msg ↔ ¬ ∀ robot ∈ r.robots, robot.host ≠ msg.fromHost := by
    simp [IsRobot]
  rw [he, hmsg]
  simp only [Option.mem_some, exists_eq_left']
  unfold MayCommand
  cases hcommand : msg.command with
  | conveyorBelt _ => simp [DeviceCommand.isConveyorBelt, isClient_iff]
  | drillingMachine _ =>
      rw [hrobot, isClient_iff]
      simp only [DeviceCommand.isConveyorBelt, Bool.false_eq_true, false_or]
      tauto

theorem Outcome.of_step (h : r.step e = some r') : Outcome r r' e := by
  have hsame {r' : DeviceRefbox} (hcalls : r'.calls = r.calls) (hmessages : r'.messages = r.messages)
      (hrule : ¬ Misdirected r e) : Outcome r r' e := by
    refine .silent hcalls ?_ ?_ hrule
    · rw [hmessages]
    · rw [hmessages]
      exact fun o ho => Or.inl ho
  cases e with
  | serverClientConnected client =>
      cases h
      exact hsame rfl rfl not_false
  | serverClientDisconnected clientId =>
      cases h
      exact hsame rfl rfl not_false
  | receive msg =>
      cases h
      refine .silent rfl (Nat.le_succ _) (fun o ho => ?_) not_false
      rcases Heap.mem_make.mp ho with rfl | ho
      · exact Or.inr (le_refl _)
      · exact Or.inl ho
  | netClientConnected client =>
      obtain ⟨-, h⟩ := Option.ite_none_right_eq_some.mp h
      cases h
      exact hsame rfl rfl not_false
  | netClientDisconnected client =>
      obtain ⟨-, h⟩ := Option.ite_none_right_eq_some.mp h
      cases h
      exact hsame rfl rfl not_false
  | beacon robot =>
      cases h
      unfold beacon
      split
      · exact hsame rfl rfl not_false
      · exact hsame rfl rfl not_false
  | robotRemove robot =>
      cases h
      exact hsame rfl rfl not_false
  | netRecvConveyorBeltCommandClient name client =>
      obtain ⟨msg, hmsg, -, hcalls, hmessages⟩ := of_command h
      exact .called name msg hmsg hcalls hmessages (mayCommand_iff hmsg Iff.rfl)
  | netRecvDrillingMachineCommand name robot =>
      obtain ⟨msg, hmsg, ⟨hcommand, hmem, hhost⟩, hcalls, hmessages⟩ := of_command h
      refine .called name msg hmsg hcalls hmessages (iff_of_true ?_ not_false)
      unfold MayCommand
      cases hkind : msg.command with
      | conveyorBelt _ =>
          rw [hkind] at hcommand
          cases hcommand
      | drillingMachine _ => exact Or.inl ⟨robot, hmem, hhost⟩
  | netRecvDrillingMachineCommandClient name client =>
      obtain ⟨msg, hmsg, -, hcalls, hmessages⟩ := of_command h
      exact .called name msg hmsg hcalls hmessages (mayCommand_iff hmsg Iff.rfl)
  | protobufCleanupMessage name =>
      cases h
      exact .silent rfl (le_refl _) (fun o ho => Or.inl (Heap.mem_unmake.mp ho).1) not_false

/-- The device is commanded by one who may do so iff no rule for clients takes a command from another
host. -/
theorem authorised_step_iff (h : r.step e = some r') :
    AuthorisedStep ⟨r, e, r'⟩ ↔ ¬ Misdirected r e := by
  cases Outcome.of_step h with
  | silent hcalls hnext hlive hrule => exact iff_of_true (Or.inl hcalls) hrule
  | called name msg hmsg hcalls hmessages hrule =>
      rw [← hrule]
      constructor
      · rintro (hsame | ⟨name', msg', hlive, hcalls', hmay⟩)
        · -- the list of calls has grown
          have hsame : r'.calls = r.calls := hsame
          rw [hcalls] at hsame
          exact absurd hsame (List.cons_ne_self _ _)
        · have hboth : (name, msg.command.call) :: r.calls =
              (name', msg'.command.call) :: r.calls := hcalls.symm.trans hcalls'
          obtain ⟨rfl, -⟩ := Prod.mk.inj (List.cons.inj hboth).1
          obtain rfl := Heap.eq_of_mem hlive (Heap.get?_eq_some_iff.mp hmsg)
          exact hmay
      · intro hmay
        exact Or.inr ⟨name, msg, Heap.get?_eq_some_iff.mp hmsg, hcalls, hmay⟩

/-- Calls are made for different commands, none of which is in memory any more. -/
structure Answered (r : DeviceRefbox) : Prop where
  nodup : (r.calls.map Prod.fst).Nodup
  lt_next : ∀ c ∈ r.calls, c.1 < r.messages.next
  notMem : ∀ c ∈ r.calls, ∀ msg, (c.1, msg) ∉ r.messages.live

theorem Answered.step (hr : r.Answered) (h : r.step e = some r') : r'.Answered := by
  cases Outcome.of_step h with
  | silent hcalls hnext hlive hrule =>
      refine ⟨?_, ?_, ?_⟩
      · rw [hcalls]
        exact hr.nodup
      · rw [hcalls]
        exact fun c hc => lt_of_lt_of_le (hr.lt_next c hc) hnext
      · rw [hcalls]
        intro c hc msg hmem
        rcases hlive _ hmem with hold | hnew
        · exact hr.notMem c hc msg hold
        · exact absurd (hr.lt_next c hc) (not_lt_of_ge hnew)
  | called name msg hmsg hcalls hmessages hrule =>
      have hlive := Heap.get?_eq_some_iff.mp hmsg
      refine ⟨?_, ?_, ?_⟩
      · rw [hcalls, List.map_cons, List.nodup_cons]
        refine ⟨fun hmem => ?_, hr.nodup⟩
        obtain ⟨c, hc, rfl⟩ := List.mem_map.mp hmem
        exact hr.notMem c hc msg hlive
      · rw [hcalls, hmessages]
        intro c hc
        rcases List.mem_cons.mp hc with rfl | hc
        · exact r.messages.name_lt _ hlive
        · exact hr.lt_next c hc
      · rw [hcalls, hmessages]
        intro c hc other hmem
        obtain ⟨hold, hne⟩ := Heap.mem_unmake.mp hmem
        rcases List.mem_cons.mp hc with rfl | hc
        · exact hne rfl
        · exact hr.notMem c hc other hold

end

/-! ## Runs -/

section

variable {r : DeviceRefbox} {tr : List (Step DeviceRefbox DeviceEvent)}

abbrev DeviceRun : List (Step DeviceRefbox DeviceEvent) → DeviceRefbox → Prop :=
  Run (fun r e r' => step r e = some r') {}

theorem answered_start : Answered {} := by
  constructor <;> simp

theorem answered_run (h : DeviceRun tr r) : r.Answered :=
  Run.invariant answered_start (fun _ _ _ hr hstep => hr.step hstep) h

/-- **Commands are authorised** in a run iff no rule for clients takes a command that comes from another
host than the clients with its port. No command is ever the cause of two calls. -/
theorem authorised_iff (h : DeviceRun tr r) :
    Authorised tr r ↔ ∀ t ∈ tr, ¬ Misdirected t.pre t.label := by
  constructor
  · intro hauthorised t ht
    exact (authorised_step_iff (Run.mem_run h ht).1).mp (hauthorised.may t ht)
  · intro hnone
    refine ⟨(answered_run h).nodup, fun t ht => ?_⟩
    exact (authorised_step_iff (Run.mem_run h ht).1).mpr (hnone t ht)

/-- A client in the hall. -/
def controller : NetworkClient := { id := 1, host := "10.0.0.5", port := 40000 }

/-- A robot. -/
def youBot : Robot := { team := "b-it-bots", name := "youBot", host := "10.0.0.9", port := 4445 }

/-- Client and robot command a device each, and the client goes. -/
def bothCommand : List DeviceEvent :=
  [.serverClientConnected controller, .netClientConnected controller, .beacon youBot,
    .receive ⟨.stream, "10.0.0.5", 40000, .conveyorBelt .start⟩,
    .receive ⟨.broadcast, "10.0.0.9", 4445, .drillingMachine .moveUp⟩,
    .netRecvDrillingMachineCommand 1 youBot, .netRecvConveyorBeltCommandClient 0 controller,
    .serverClientDisconnected 1, .netClientDisconnected controller]

theorem authorised_of_bothCommand :
    ∃ tr r, DeviceRun tr r ∧ r.calls.length = 2 ∧ Authorised tr r := by
  have hrun : (trace step {} bothCommand).any (fun p =>
      decide (p.2.calls.length = 2 ∧ ∀ t ∈ p.1, ¬ Misdirected t.pre t.label)) = true := by
    decide +kernel
  obtain ⟨⟨tr, r⟩, htrace, hrun⟩ := (Option.any_eq_true _ _).mp hrun
  obtain ⟨hcalls, hnone⟩ := of_decide_eq_true hrun
  have h := run_of_trace htrace
  exact ⟨tr, r, h, hcalls, (authorised_iff h).mpr hnone⟩

/-- A stranger broadcasts from the port that a client has on its own host. -/
def strangerCommands : List DeviceEvent :=
  [.serverClientConnected controller, .netClientConnected controller,
    .receive ⟨.broadcast, "10.0.0.66", 40000, .conveyorBelt .start⟩,
    .netRecvConveyorBeltCommandClient 0 controller]

theorem not_authorised_of_strangerCommands : ∃ tr r, DeviceRun tr r ∧ ¬ Authorised tr r := by
  have hrun : (trace step {} strangerCommands).any (fun p =>
      decide (∃ t ∈ p.1, Misdirected t.pre t.label)) = true := by
    decide +kernel
  obtain ⟨⟨tr, r⟩, htrace, hrun⟩ := (Option.any_eq_true _ _).mp hrun
  obtain ⟨t, ht, hmisdirected⟩ := of_decide_eq_true hrun
  have h := run_of_trace htrace
  refine ⟨tr, r, h, fun hauthorised => ?_⟩
  exact (authorised_step_iff (Run.mem_run h ht).1).mp (hauthorised.may t ht) hmisdirected

end

end DeviceRefbox

end FactoryHub.Rockin
