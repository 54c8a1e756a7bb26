import FactoryHub.AtWork.CreateMsg
import FactoryHub.Lib.Run

/-!
# What happens to the handles of messages

The rules of `net.clp` and of the devices as programs over the handles: those that send a message make
it and destroy it. For a message that is received, `clips_assert_message` makes a handle and asserts a
fact, and the rule that matches the fact retracts it and reads the message; neither the rules nor
`protobuf-cleanup-message` destroy the handle, and a field that is a message is read to a handle of its
own.

* `send_balanced` — what is sent is what was made, and no handle stays.
* `handles_accounted` — a run leaves exactly the handles of what was received and of what was read of
  it.
-/

namespace FactoryHub.AtWork

open Clips Lib Handles Comm.Pb

/-! ## What is sent -/

/-- The messages that `net.clp` and the devices send. -/
inductive OutMsg where
  | publicMsg (msg : PublicMsg)
  | robotInfo (robots : List (Robot × Bool))
  | attentionMessage (text team : String) (time : Int)
  | benchmarkInfo (object : String)
  | conveyorBeltStatus (isConnected isRunning : Bool)
  | rotatingTurntableStatus (isConnected isRunning : Bool)

namespace OutMsg

def createMsg : OutMsg → Program ℕ
  | .publicMsg msg => msg.createMsg
  | .robotInfo robots => netCreateRobotInfo robots
  | .attentionMessage text team time => createAttentionMessage text team time
  | .benchmarkInfo object => netCreateBenchmarkInfo object
  | .conveyorBeltStatus isConnected isRunning => netCreateConveyorBeltStatus isConnected isRunning
  | .rotatingTurntableStatus isConnected isRunning =>
      netCreateRotatingTurntableStatus isConnected isRunning

def message : OutMsg → PbMessage
  | .publicMsg msg => msg.message
  | .robotInfo robots => robotInfoMessage robots
  | .attentionMessage text team time => AtWork.attentionMessage text team time
  | .benchmarkInfo object => benchmarkInfoMessage object
  | .conveyorBeltStatus isConnected isRunning =>
      Device.conveyorBelt.statusMessage isConnected isRunning
  | .rotatingTurntableStatus isConnected isRunning =>
      Device.rotatingTurntable.statusMessage isConnected isRunning

theorem builds (msg : OutMsg) (P : Handles (Option PbMessage) → Prop) :
    Builds P msg.createMsg (some msg.message) := by
  cases msg with
  | publicMsg msg => exact builds_publicMsg msg P
  | robotInfo robots => exact builds_robotInfo robots P
  | attentionMessage text team time => exact builds_attentionMessage text team time P
  | benchmarkInfo object => exact builds_benchmarkInfo object P
  | conveyorBeltStatus isConnected isRunning => exact builds_deviceStatus _ isConnected isRunning P
  | rotatingTurntableStatus isConnected isRunning =>
      exact builds_deviceStatus _ isConnected isRunning P

end OutMsg

/-- A `RobotStatus`. -/
structure RobotStatus where
  functionality : Option String
  capability : Option String
  metaData : Option String

def RobotStatus.message (self : RobotStatus) : PbMessage :=
  ({ type := "atwork_pb_msgs.RobotStatus" } : PbMessage)
    |>.setOption "functionality" (self.functionality.map .string)
    |>.setOption "capability" (self.capability.map .enum)
    |>.setOption "meta_data" (self.metaData.map .string)

/-- A message that is received, with the rule that retracts its fact. -/
inductive InMsg where
  | beaconKnown (time : TimeMsg) (seq : ℕ) (teamName peerName : String)
  | beaconUnknown (time : TimeMsg) (seq : ℕ) (teamName peerName : String)
  | setBenchmarkScenario (scenario : ScenarioMsg)
  | setBenchmarkTransitionEvent (event : String)
  | loggingStatus (isLogging : Bool)
  | robotStatusReport (statuses : List RobotStatus)
  | deviceCommand (device : Device) (run : Bool)
  /-- Rules that do not read the message: those for illegal ones, and `protobuf-cleanup-message`. -/
  | other (m : PbMessage)

namespace InMsg

def message : InMsg → PbMessage
  | .beaconKnown time seq teamName peerName | .beaconUnknown time seq teamName peerName =>
      (PublicMsg.beaconSignal time seq teamName peerName).message
  | .setBenchmarkScenario scenario =>
      ({ type := "atwork_pb_msgs.SetBenchmarkScenario" } : PbMessage)
        |>.set "scenario" scenario.message.toValue
  | .setBenchmarkTransitionEvent event =>
      ({ type := "atwork_pb_msgs.SetBenchmarkTransitionEvent" } : PbMessage)
        |>.set "event" (.enum event)
  | .loggingStatus isLogging =>
      ({ type := "atwork_pb_msgs.LoggingStatus" } : PbMessage) |>.set "is_logging" (.bool isLogging)
  | .robotStatusReport statuses =>
      ({ type := "atwork_pb_msgs.RobotStatusReport" } : PbMessage)
        |>.addAll "status" (statuses.map fun status => status.message.toValue)
  | .deviceCommand device run =>
      ({ type := device.commandType } : PbMessage) |>.set "command" (.enum (device.runMode run))
  | .other m => m

/-- `pb-field-value` of these fields. -/
def readFields (p : ℕ) (names : List String) : Program Unit :=
  names.forM fun name => do let _ ← clipsPbFieldValue atworkTypes p name

/-- What is read of a message that is a field. -/
def readChild (value : Value) (names : List String) : Program Unit :=
  match value with
  | .address p => readFields p names
  | _ => return ()

/-- `print-RobotStatus`. -/
def printRobotStatus (value : Value) : Program Unit :=
  match value with
  | .address p =>
      ["functionality", "capability", "meta_data"].forM fun name => do
        if ← clipsPbHasField atworkTypes p name then readFields p [name]
  | _ => return ()

/-- What the rule that matches the fact reads of its message. -/
def rule (p : ℕ) : InMsg → Program Unit
  | .beaconKnown .. => readFields p ["team_name", "peer_name", "time"]
  | .beaconUnknown .. => do
      readFields p ["team_name", "peer_name"]
      readChild (← clipsPbFieldValue atworkTypes p "time") ["sec", "nsec"]
  | .setBenchmarkScenario _ => do
      readChild (← clipsPbFieldValue atworkTypes p "scenario") ["type", "type_id"]
  | .setBenchmarkTransitionEvent _ => readFields p ["event"]
  | .loggingStatus _ => readFields p ["is_logging"]
  | .robotStatusReport _ => do
      (← clipsPbFieldList atworkTypes p "status").forM printRobotStatus
  | .deviceCommand .. => readFields p ["command"]
  | .other _ => return ()

/-- What the rule reads of the message to handles of their own, and leaves: the fields that are
messages. -/
def copies : InMsg → List PbMessage
  | .beaconKnown time .. | .beaconUnknown time .. => [time.message]
  | .setBenchmarkScenario scenario => [scenario.message]
  | .robotStatusReport statuses => statuses.map RobotStatus.message
  | .setBenchmarkTransitionEvent _ | .loggingStatus _ | .deviceCommand .. | .other _ => []

section

variable {p : ℕ}

/-- The store has the message at its handle. -/
def Holds (p : ℕ) (m : PbMessage) (H : Handles (Option PbMessage)) : Prop :=
  H.object p = some (some m)

theorem stable_holds (p : ℕ) (m : PbMessage) : Stable (Holds p m) := stable_object p (some m)

/-- Only a field that is a message gets a handle. -/
theorem leaks_readFields (m : PbMessage) (type : String) (names : List String)
    (htype : m.type = type)
    (hlist : ∀ name ∈ names, ∀ field ∈ atworkTypes.findFieldByName type name,
      field.isRepeated = false) :
    Leaks (Holds p m) (readFields p names) (names.flatMap (atworkTypes.copies m)) := by
  subst htype
  apply Leaks.forM (stable_holds p m)
  intro name hname
  exact Leaks.bind_return (leaks_fieldValue (fun _ h => h) (hlist name hname))

/-- Fields are read of a message that is a field, which has a handle of its own then. -/
theorem leaks_readChild (m : PbMessage) (type name sub : String) (names : List String)
    (htype : m.type = type)
    (hfield : atworkTypes.findFieldByName type name = some ⟨name, .message sub, false⟩)
    (hchild : (m.child name sub).type = sub)
    (hlist : ∀ name ∈ names, ∀ field ∈ atworkTypes.findFieldByName sub name,
      field.isRepeated = false) :
    Leaks (Holds p m) (do readChild (← clipsPbFieldValue atworkTypes p name) names)
      (some (m.child name sub) :: names.flatMap (atworkTypes.copies (m.child name sub))) := by
  subst htype
  have hvalue := leaks_fieldValue_message (P := Holds p m) (fun _ h => h) hfield rfl rfl
  refine Leaks.bind_of (stable_holds p m) hvalue fun value => ?_
  rintro H₀ ⟨-, p', rfl, hobject⟩
  exact leaks_readFields _ sub names hchild hlist H₀ hobject

/-- It reads no messages. -/
theorem leaks_printRobotStatus {sub : PbMessage} (hsub : sub.type = "atwork_pb_msgs.RobotStatus") :
    Leaks (Holds p sub) (printRobotStatus (.address p)) [] := by
  apply Leaks.forM (stable_holds p sub) (fun _ => [])
  intro name hname
  have hread := leaks_readFields (p := p) sub _ [name] hsub
  refine Leaks.bind_nil (stable_holds p sub) (leaks_hasField fun _ h => h) fun has => ?_
  split
  · simp only [List.mem_cons, List.not_mem_nil, or_false] at hname
    have hcopies : [name].flatMap (atworkTypes.copies sub) = [] := by
      rw [List.flatMap_singleton, Types.copies, hsub]
      obtain rfl | rfl | rfl := hname <;> rfl
    rw [← hcopies]
    obtain rfl | rfl | rfl := hname
    · exact hread (by decide)
    · exact hread (by decide)
    · exact hread (by decide)
  · exact Leaks.pure _

/-- All messages of the list are read. -/
theorem leaks_robotStatusReport (statuses : List RobotStatus) :
    Leaks (Holds p (robotStatusReport statuses).message) ((robotStatusReport statuses).rule p)
      ((statuses.map RobotStatus.message).map some) := by
  have hlist : LeaksTo (Holds p (robotStatusReport statuses).message)
      (clipsPbFieldList atworkTypes p "status") ((statuses.map RobotStatus.message).map some)
      fun values H => ∀ value ∈ values, ∃ p sub, value = .address p ∧ Holds p sub H ∧
        sub.type = "atwork_pb_msgs.RobotStatus" := by
    refine leaks_fieldList (fun _ h => h) rfl ?_ ?_
    · simp [message, Function.comp_def]
    · rintro _ hsub
      obtain ⟨status, -, rfl⟩ := List.mem_map.mp hsub
      rfl
  refine Leaks.bind_of_nil (stable_holds p _) hlist fun values => ?_
  refine Leaks.mono (P := fun H => ∀ value ∈ values, ∃ p sub, value = .address p ∧ Holds p sub H ∧
    sub.type = "atwork_pb_msgs.RobotStatus") ?_ fun H hH => hH.2
  have hnil : (values.flatMap fun _ => []) = ([] : List (Option PbMessage)) := by simp
  rw [← hnil]
  apply Leaks.forM
  · rintro H H' left hgrows hvalues value hvalue
    obtain ⟨p, sub, rfl, hsub, htype⟩ := hvalues value hvalue
    exact ⟨p, sub, rfl, stable_holds p sub H H' left hgrows hsub, htype⟩
  · intro value hvalue H₀ hvalues
    obtain ⟨p, sub, rfl, hsub, htype⟩ := hvalues value hvalue
    exact leaks_printRobotStatus htype H₀ hsub

end

/-- **The rule** leaves the handles on the copies. -/
theorem leaks_rule (msg : InMsg) (p : ℕ) :
    Leaks (Holds p msg.message) (msg.rule p) (msg.copies.map some) := by
  cases msg with
  | beaconKnown time seq teamName peerName =>
      exact leaks_readFields _ "atwork_pb_msgs.BeaconSignal" ["team_name", "peer_name", "time"] rfl
        (by decide)
  | beaconUnknown time seq teamName peerName =>
      refine Leaks.bind_nil (stable_holds p _) ?_ fun _ => ?_
      · exact leaks_readFields _ "atwork_pb_msgs.BeaconSignal" ["team_name", "peer_name"] rfl
          (by decide)
      · exact leaks_readChild _ "atwork_pb_msgs.BeaconSignal" "time" "atwork_pb_msgs.Time"
          ["sec", "nsec"] rfl rfl rfl (by decide)
  | setBenchmarkScenario scenario =>
      exact leaks_readChild _ "atwork_pb_msgs.SetBenchmarkScenario" "scenario"
        "atwork_pb_msgs.BenchmarkScenario" ["type", "type_id"] rfl rfl rfl (by decide)
  | setBenchmarkTransitionEvent event =>
      exact leaks_readFields _ "atwork_pb_msgs.SetBenchmarkTransitionEvent" ["event"] rfl (by decide)
  | loggingStatus isLogging =>
      exact leaks_readFields _ "atwork_pb_msgs.LoggingStatus" ["is_logging"] rfl (by decide)
  | robotStatusReport statuses => exact leaks_robotStatusReport statuses
  | deviceCommand device run =>
      cases device
      · exact leaks_readFields _ "atwork_pb_msgs.ConveyorBeltCommand" ["command"] rfl (by decide)
      · exact leaks_readFields _ "atwork_pb_msgs.RotatingTurntableCommand" ["command"] rfl (by decide)
  | other m => exact Leaks.pure _

end InMsg

/-! ## Accounts of a run -/

/-- The handles, and the facts `protobuf-msg` with their handles. -/
structure NetState where
  handles : Handles (Option PbMessage) := {}
  protobufMsgs : List (ℕ × InMsg) := []

/-- A message is received, the rule for the fact with a handle fires, or a message is sent to clients
or peers. -/
inductive NetEvent where
  | receive (msg : InMsg)
  | fire (p : ℕ)
  | send (msg : OutMsg) (ids : List ℕ)

namespace NetState

/-- The fact with a handle. -/
def fact (s : NetState) (p : ℕ) : Option InMsg := s.protobufMsgs.lookup p

/-- The state after an event. There is none if a handle is misused, or no fact has the handle. -/
def step (s : NetState) : NetEvent → Option NetState
  -- `clips_assert_message`
  | .receive msg =>
      (HandleProgram.new (some msg.message) s.handles).map fun r =>
        { s with handles := r.2, protobufMsgs := (r.1, msg) :: s.protobufMsgs }
  | .fire p =>
      (s.fact p).bind fun msg =>
        (msg.rule p s.handles).map fun r =>
          { handles := r.2
            protobufMsgs := s.protobufMsgs.filter fun fact => fact.1 ≠ p }
  | .send msg ids => (sendTo msg.createMsg ids s.handles).map fun r => { s with handles := r.2 }

/-- The messages an event leaves with handles of their own: what is received, and the copies that a
rule reads. -/
def left (s : NetState) : NetEvent → List PbMessage
  | .receive msg => [msg.message]
  | .fire p => ((s.fact p).map InMsg.copies).getD []
  | .send .. => []

/-- The event is the arrival of a message, the firing of a rule whose fact is there, or a send. -/
def Enabled (s : NetState) : NetEvent → Prop
  | .fire p => (s.fact p).isSome
  | .receive _ | .send .. => True

/-- Each fact has the handle of its message. -/
def Sound (s : NetState) : Prop :=
  ∀ p msg, (p, msg) ∈ s.protobufMsgs → s.handles.object p = some (some msg.message)

variable {s s' : NetState} {e : NetEvent}

theorem Sound.fact (h : s.Sound) {p : ℕ} {msg : InMsg} (hfact : s.fact p = some msg) :
    s.handles.object p = some (some msg.message) := by
  obtain ⟨l₁, l₂, hlist, -⟩ := List.lookup_eq_some_iff.mp hfact
  exact h p msg (by simp [hlist])

/-- An event that can happen misuses no handle, and leaves its messages; the facts that stay have
their handles. -/
theorem step_grows (h : s.Sound) (henabled : s.Enabled e) :
    ∃ s', s.step e = some s' ∧ s'.Sound ∧
      Grows ((s.left e).map some) s.handles s'.handles := by
  cases e with
  | receive msg =>
      have hown := owns_alloc (some msg.message) s.handles
      refine ⟨_, rfl, ?_, hown.grows⟩
      rintro p msg' hmem
      rcases List.mem_cons.mp hmem with heq | hmem
      · cases heq
        exact hown.object_eq
      · exact hown.grows.object_eq (h p msg' hmem)
  | fire p =>
      obtain ⟨msg, hfact⟩ := Option.isSome_iff_exists.mp henabled
      obtain ⟨r, H, hrun, hgrows, -⟩ := msg.leaks_rule p s.handles (h.fact hfact) s.handles rfl
      refine ⟨{ handles := H, protobufMsgs := s.protobufMsgs.filter fun fact => fact.1 ≠ p }, ?_, ?_,
        ?_⟩
      · simp [step, hfact, hrun]
      · intro p' msg' hmem
        exact hgrows.object_eq (h p' msg' (List.mem_of_mem_filter hmem))
      · simpa [left, hfact] using hgrows
  | send msg ids =>
      obtain ⟨_, H, hrun, -, hgrows⟩ :=
        endsIn_sendTo (P := fun _ => True) (msg.builds _) trivial ids s.handles rfl
      refine ⟨{ s with handles := H }, by simp [step, hrun], ?_, hgrows⟩
      exact fun p msg' hmem => hgrows.object_eq (h p msg' hmem)

theorem enabled_of_step (h : s.step e = some s') : s.Enabled e := by
  cases e with
  | fire p =>
      obtain ⟨msg, hfact, -⟩ := Option.bind_eq_some_iff.mp h
      exact Option.isSome_iff_exists.mpr ⟨msg, hfact⟩
  | receive msg => trivial
  | send msg ids => trivial

end NetState

/-- A run of the network rules. -/
abbrev NetRun := Run fun s (event : NetEvent) s' => NetState.step s event = some s'

/-- The messages that the events of a run leave with handles of their own, oldest first. -/
def allLeft (tr : List (Step NetState NetEvent)) : List PbMessage :=
  tr.reverse.flatMap fun t => t.pre.left t.label

theorem grows_of_run {H₀ : Handles (Option PbMessage)} {s : NetState}
    {tr : List (Step NetState NetEvent)} (hrun : NetRun { handles := H₀ } tr s) :
    s.Sound ∧ Grows ((allLeft tr).map some) H₀ s.handles := by
  induction hrun with
  | init =>
      refine ⟨?_, Grows.refl H₀⟩
      intro p msg hmem
      cases hmem
  | @step tr s s' event _ hstep ih =>
      obtain ⟨_, hstep', hsound, hgrows⟩ :=
        NetState.step_grows ih.1 (NetState.enabled_of_step hstep)
      obtain rfl := Option.some.inj (hstep.symm.trans hstep')
      refine ⟨hsound, ?_⟩
      simpa [allLeft] using ih.2.trans hgrows

/-- **The handles of a run** are those of the beginning and one for each message that was received and
for each copy that a rule read of one, be the fact still there or not; what was sent does not matter.
Each fact has the handle of its message, the handles from the beginning are as they were, and any
message can be received or sent and the rule for any fact fire, without a misuse of a handle. -/
theorem handles_accounted {H₀ : Handles (Option PbMessage)} {s : NetState}
    {tr : List (Step NetState NetEvent)} (hrun : NetRun { handles := H₀ } tr s) :
    (∃ new, s.handles.live = new ++ H₀.live ∧ new.map Prod.snd = (allLeft tr).reverse.map some) ∧
      s.Sound ∧ (∀ h m, H₀.object h = some m → s.handles.object h = some m) ∧
      ∀ event : NetEvent, (s.step event).isSome ↔ s.Enabled event := by
  obtain ⟨hsound, hgrows⟩ := grows_of_run hrun
  obtain ⟨new, hlive, hnew, -⟩ := hgrows.2
  refine ⟨⟨new, hlive, by rw [hnew, List.map_reverse]⟩, hsound, fun h m hm => hgrows.object_eq hm,
    fun event => ⟨fun hsome => ?_, fun henabled => ?_⟩⟩
  · obtain ⟨s', hs'⟩ := Option.isSome_iff_exists.mp hsome
    exact NetState.enabled_of_step hs'
  · obtain ⟨s', hs', -⟩ := NetState.step_grows hsound henabled
    simp [hs']

/-- A report of two robots is received and read, an attention message goes to two clients, and a
beacon is still there as a fact. -/
def reportAndBeacon : List NetEvent :=
  [.receive (.robotStatusReport [⟨some "arm", none, none⟩, ⟨none, some "TASK", some "done"⟩]),
    .receive (.beaconKnown ⟨5, 0⟩ 1 "Team" "Robot"), .fire 0,
    .send (.attentionMessage "Task done" "" 5) [1, 2]]

theorem handles_accounted_of_report :
    ∃ tr s, NetRun {} tr s ∧ (allLeft tr).length = 4 ∧ s.protobufMsgs.length = 1 ∧
      ((∃ new, s.handles.live = new ++ [] ∧ new.map Prod.snd = (allLeft tr).reverse.map some) ∧
        s.Sound ∧ (∀ h m, ({} : Handles (Option PbMessage)).object h = some m →
          s.handles.object h = some m) ∧
        ∀ event : NetEvent, (s.step event).isSome ↔ s.Enabled event) := by
  have hrun : (trace NetState.step {} reportAndBeacon).any (fun r =>
      decide ((allLeft r.1).length = 4 ∧ r.2.protobufMsgs.length = 1)) = true := by
    decide +kernel
  obtain ⟨⟨tr, s⟩, htrace, hr⟩ := (Option.any_eq_true _ _).mp hrun
  have hrun := run_of_trace htrace
  obtain ⟨hleft, hfacts⟩ := of_decide_eq_true hr
  exact ⟨tr, s, hrun, hleft, hfacts, handles_accounted hrun⟩

end FactoryHub.AtWork
