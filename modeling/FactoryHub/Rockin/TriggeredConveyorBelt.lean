import FactoryHub.Lib.Run
import FactoryHub.Rockin.ConveyorBelt

/-!
# The thread of the triggered conveyor belt

`TriggeredConveyorBeltThread` sends the requested mode of the belt again and again, until the device
reports the next cycle. The device executes one command for each cycle. A status tells the cycle the
device is in, and not the mode of the command that has led to it, so that the answer to one request
may be taken for the answer to another.

* `Sound`, `sound_step` — what holds of the cycles and messages in every run.
* `notLost_run` — the requests that get lost: those that change the mode while a command is executed
  and not yet acknowledged, and those overtaken by an older command.
* `start_lost` — a START that is never sent.
-/

namespace FactoryHub.Rockin

open Lib

/-! ## Messages -/

/-- `ConveyorBeltCommand` of the device. -/
structure ConveyorBeltCommand where
  mode : RunMode
  reset : Option Bool
  nextCycle : Int
  deriving DecidableEq, Repr

/-- `ConveyorBeltStatus` of the device. The thread starts with an empty one. -/
structure ConveyorBeltStatus where
  isDeviceConnected : Bool := false
  mode : Option RunMode := none
  cycle : Int := 0
  deriving DecidableEq, Repr

/-! ## The thread -/

/-- `TriggeredConveyorBeltThread`, without the camera. Times are in milliseconds. -/
structure TriggeredConveyorBeltThread where
  cycle : Int := 0
  sendConveyorCommand : Bool := false
  sendResetCommand : Bool := true
  requestedRunMode : RunMode := .stop
  lastConveyorStatusMsg : ConveyorBeltStatus := {}
  lastSentCommandTimestamp : Option Int := none
  prevConveyorUpdateTimestamp : Option Int := none
  deriving DecidableEq, Repr

namespace TriggeredConveyorBeltThread

/-- The body of `clips_start_belt` and `clips_stop_belt`. -/
def clipsSetBelt (mode : RunMode) (t : TriggeredConveyorBeltThread) : TriggeredConveyorBeltThread :=
  { t with requestedRunMode := mode, sendConveyorCommand := true }

def clipsStartBelt (t : TriggeredConveyorBeltThread) : TriggeredConveyorBeltThread :=
  t.clipsSetBelt .start

def clipsStopBelt (t : TriggeredConveyorBeltThread) : TriggeredConveyorBeltThread :=
  t.clipsSetBelt .stop

/-- The function that CLIPS calls for a request. -/
def request : RunMode → TriggeredConveyorBeltThread → TriggeredConveyorBeltThread
  | .start => clipsStartBelt
  | .stop => clipsStopBelt

/-- `clips_is_belt_running`. -/
def clipsIsBeltRunning (t : TriggeredConveyorBeltThread) : Bool :=
  t.lastConveyorStatusMsg.mode = some .start

/-- `setConveyorBeltRunMode`, with the commands it sends. -/
def setConveyorBeltRunMode (now : Int) (mode : RunMode) (t : TriggeredConveyorBeltThread) :
    List ConveyorBeltCommand × TriggeredConveyorBeltThread :=
  -- the timestamp is no time before the first command
  if ∃ sent ∈ t.lastSentCommandTimestamp, now - sent < 1000 then ([], t)
  else
    let reset := if t.sendResetCommand then some true else none
    ([{ mode, reset, nextCycle := t.cycle + 1 }], { t with lastSentCommandTimestamp := some now })

/-- `receiveAndBufferConveyorStatusMsg`. -/
def receiveAndBufferConveyorStatusMsg (now : Int) (message : Option ConveyorBeltStatus)
    (t : TriggeredConveyorBeltThread) : TriggeredConveyorBeltThread :=
  match message with
  | some status =>
      let expectedCycle := t.cycle + 1
      let t := { t with
        lastConveyorStatusMsg := status
        prevConveyorUpdateTimestamp := some now }
      if status.cycle = expectedCycle then
        { t with cycle := t.cycle + 1, sendConveyorCommand := false, sendResetCommand := false }
      else if status.cycle > expectedCycle then { t with sendResetCommand := true }
      else t
  | none =>
      if ∃ prev ∈ t.prevConveyorUpdateTimestamp, now - prev < 3000 then t
      else
        let status :=
          { t.lastConveyorStatusMsg with isDeviceConnected := false, mode := some .stop }
        { t with lastConveyorStatusMsg := status }

/-- The second part of `loop`, after the messages are received. -/
def sendCommand (now : Int) (t : TriggeredConveyorBeltThread) :
    List ConveyorBeltCommand × TriggeredConveyorBeltThread :=
  if t.sendConveyorCommand then
    if t.cycle + 1 = t.lastConveyorStatusMsg.cycle then ([], t)
    else t.setConveyorBeltRunMode now t.requestedRunMode
  else if t.sendResetCommand then t.setConveyorBeltRunMode now t.requestedRunMode
  else ([], t)

end TriggeredConveyorBeltThread

/-! ## Thread, device and network -/

/-- The device: its cycle, and the mode of the last command it executed. -/
structure BeltDevice where
  cycle : Int := 0
  executed : Option RunMode := none
  deriving DecidableEq, Repr

/-- The device takes a command. -/
def BeltDevice.take (command : ConveyorBeltCommand) (d : BeltDevice) : BeltDevice :=
  if command.nextCycle = d.cycle + 1 then
    { cycle := d.cycle + 1, executed := some command.mode }
  else d

/-- What `loop` does next. -/
inductive LoopStage where
  | receive | send
  deriving DecidableEq, Repr

/-- The thread, the device, the messages under way between them and the latest request. -/
structure BeltLink where
  thread : TriggeredConveyorBeltThread
  device : BeltDevice := {}
  commands : List ConveyorBeltCommand
  statuses : List ConveyorBeltStatus := []
  stage : LoopStage := .receive
  latestRequest : Option RunMode := none
  deriving DecidableEq, Repr

/-- A request, a part of the loop of the thread, or a step of the device. What is lost stays under
way for good. -/
inductive LinkInput where
  | request (mode : RunMode)
  | receive (now : Int) (message : Option ConveyorBeltStatus)
  | send (now : Int)
  | take (command : ConveyorBeltCommand)
  | report (isDeviceConnected : Bool) (mode : Option RunMode)
  deriving DecidableEq, Repr

namespace BeltLink

/-- The end of `init`, which sends a reset. -/
def start (now : Int) : BeltLink :=
  let thread : TriggeredConveyorBeltThread := {}
  let (commands, thread) := thread.setConveyorBeltRunMode now thread.requestedRunMode
  { thread, commands }

/-- What follows on an input, which may come at its stage of the loop only and with a message that
is under way. -/
def step (s : BeltLink) : LinkInput → Option BeltLink
  | .request mode =>
      some { s with thread := s.thread.request mode, latestRequest := some mode }
  | .receive now message =>
      if s.stage = .receive ∧ ∀ status ∈ message, status ∈ s.statuses then
        some { s with
          thread := s.thread.receiveAndBufferConveyorStatusMsg now message
          statuses := message.elim s.statuses s.statuses.erase
          stage := .send }
      else none
  | .send now =>
      if s.stage = .send then
        let (commands, thread) := s.thread.sendCommand now
        some { s with thread, commands := s.commands ++ commands, stage := .receive }
      else none
  | .take command =>
      if command ∈ s.commands then
        some { s with device := s.device.take command, commands := s.commands.erase command }
      else none
  | .report isDeviceConnected mode =>
      some { s with
        statuses := s.statuses ++ [{ isDeviceConnected, mode, cycle := s.device.cycle }] }

end BeltLink

/-- A run of thread and device from the end of `init`. -/
abbrev LinkRun (now : Int) := Run (fun s i s' => BeltLink.step s i = some s') (BeltLink.start now)

/-! ## Commands and statuses -/

section

variable {t : TriggeredConveyorBeltThread} {now : Int} {mode : RunMode}
  {message : Option ConveyorBeltStatus}

theorem request_eq (t : TriggeredConveyorBeltThread) (mode : RunMode) :
    t.request mode = { t with requestedRunMode := mode, sendConveyorCommand := true } := by
  cases mode <;> rfl

/-- Only the time of the last command may change. -/
theorem setConveyorBeltRunMode_thread :
    ∃ sent, (t.setConveyorBeltRunMode now mode).2 = { t with lastSentCommandTimestamp := sent } := by
  unfold TriggeredConveyorBeltThread.setConveyorBeltRunMode
  split
  · exact ⟨_, rfl⟩
  · exact ⟨some now, rfl⟩

theorem of_mem_setConveyorBeltRunMode {command : ConveyorBeltCommand}
    (h : command ∈ (t.setConveyorBeltRunMode now mode).1) :
    command.nextCycle = t.cycle + 1 ∧ command.mode = mode := by
  unfold TriggeredConveyorBeltThread.setConveyorBeltRunMode at h
  split at h
  · cases h
  · rw [List.mem_singleton] at h
    subst h
    exact ⟨rfl, rfl⟩

theorem sendCommand_thread (t : TriggeredConveyorBeltThread) (now : Int) :
    ∃ sent, (t.sendCommand now).2 = { t with lastSentCommandTimestamp := sent } := by
  unfold TriggeredConveyorBeltThread.sendCommand
  split
  · split
    · exact ⟨_, rfl⟩
    · exact setConveyorBeltRunMode_thread
  · split
    · exact setConveyorBeltRunMode_thread
    · exact ⟨_, rfl⟩

/-- A command asks for the next cycle and the requested mode, and is sent while a flag is set. -/
theorem of_mem_sendCommand {command : ConveyorBeltCommand}
    (h : command ∈ (t.sendCommand now).1) :
    command.nextCycle = t.cycle + 1 ∧ command.mode = t.requestedRunMode ∧
      (t.sendConveyorCommand = true ∨ t.sendResetCommand = true) := by
  unfold TriggeredConveyorBeltThread.sendCommand at h
  split at h
  · next hsend =>
      split at h
      · cases h
      · obtain ⟨hcycle, hmode⟩ := of_mem_setConveyorBeltRunMode h
        exact ⟨hcycle, hmode, Or.inl hsend⟩
  · split at h
    · next hreset =>
        obtain ⟨hcycle, hmode⟩ := of_mem_setConveyorBeltRunMode h
        exact ⟨hcycle, hmode, Or.inr hreset⟩
    · cases h

/-- What the thread takes from a message, if no status is ahead of the next cycle: the status of the
next cycle moves the cycle and clears both flags, and all else leaves them alone. -/
theorem receive_cases (now : Int) (hnext : ∀ status ∈ message, status.cycle ≤ t.cycle + 1) :
    let t' := t.receiveAndBufferConveyorStatusMsg now message
    t'.requestedRunMode = t.requestedRunMode ∧
      ((∃ status ∈ message, status.cycle = t.cycle + 1 ∧ t'.cycle = t.cycle + 1 ∧
          t'.sendConveyorCommand = false ∧ t'.sendResetCommand = false) ∨
        (∀ status ∈ message, status.cycle ≠ t.cycle + 1) ∧ t'.cycle = t.cycle ∧
          t'.sendConveyorCommand = t.sendConveyorCommand ∧
          t'.sendResetCommand = t.sendResetCommand) := by
  unfold TriggeredConveyorBeltThread.receiveAndBufferConveyorStatusMsg
  cases message with
  | none =>
      dsimp only
      split
      · exact ⟨rfl, Or.inr ⟨fun _ h => (Option.not_mem_none _ h).elim, rfl, rfl, rfl⟩⟩
      · exact ⟨rfl, Or.inr ⟨fun _ h => (Option.not_mem_none _ h).elim, rfl, rfl, rfl⟩⟩
  | some status =>
      have hle : status.cycle ≤ t.cycle + 1 := hnext status rfl
      dsimp only
      split
      · next heq => exact ⟨rfl, Or.inl ⟨status, rfl, heq, rfl, rfl, rfl⟩⟩
      · next hne =>
          rw [if_neg (not_lt.mpr hle)]
          refine ⟨rfl, Or.inr ⟨?_, rfl, rfl, rfl⟩⟩
          intro other hother
          rw [Option.mem_some] at hother
          subst hother
          exact hne

end

/-! ## Every run -/

/-- What holds in every reached state: the device is in the cycle of the thread or in the next one,
and no message is ahead of that; before the first request only STOP is sent; after a request, the
thread stops sending only when nothing under way is left for the next cycle. -/
structure Sound (s : BeltLink) : Prop where
  le_device : s.thread.cycle ≤ s.device.cycle
  device_le : s.device.cycle ≤ s.thread.cycle + 1
  command_le : ∀ command ∈ s.commands, command.nextCycle ≤ s.thread.cycle + 1
  status_le : ∀ status ∈ s.statuses, status.cycle ≤ s.device.cycle
  unrequested : s.latestRequest = none →
    s.thread.requestedRunMode = .stop ∧ ∀ command ∈ s.commands, command.mode = .stop
  requested : ∀ mode, s.latestRequest = some mode → s.thread.requestedRunMode = mode
  quiet : s.latestRequest ≠ none → s.thread.sendConveyorCommand = false →
    s.thread.sendResetCommand = false ∧
      ∀ command ∈ s.commands, command.nextCycle ≠ s.thread.cycle + 1

section

variable {s s' : BeltLink} {now : Int}

theorem of_mem_start {command : ConveyorBeltCommand} (h : command ∈ (BeltLink.start now).commands) :
    command.nextCycle = 1 ∧ command.mode = .stop := by
  have hsent : command ∈
      (({} : TriggeredConveyorBeltThread).setConveyorBeltRunMode now .stop).1 := h
  exact of_mem_setConveyorBeltRunMode hsent

theorem sound_start (now : Int) : Sound (BeltLink.start now) where
  le_device := le_refl _
  device_le := Int.le_add_one (le_refl _)
  command_le := fun command hmem => (of_mem_start hmem).1.le
  status_le := fun _ hmem => absurd hmem List.not_mem_nil
  unrequested := by
    intro _
    exact ⟨rfl, fun command hmem => (of_mem_start hmem).2⟩
  requested := by
    intro mode h
    cases h
  quiet := fun h => absurd rfl h

theorem sound_request (h : Sound s) (mode : RunMode) :
    Sound { s with thread := s.thread.request mode, latestRequest := some mode } := by
  rw [request_eq]
  refine ⟨h.le_device, h.device_le, h.command_le, h.status_le, ?_, ?_, ?_⟩
  · intro hnone
    cases hnone
  · intro other hsome
    exact Option.some.inj hsome
  · intro _ hflag
    cases hflag

/-- A status on its way is not ahead of the next cycle. -/
theorem Sound.next_le (h : Sound s) {message : Option ConveyorBeltStatus}
    (hmessage : ∀ status ∈ message, status ∈ s.statuses) :
    ∀ status ∈ message, status.cycle ≤ s.thread.cycle + 1 := by
  intro status hstatus
  exact le_trans (h.status_le status (hmessage status hstatus)) h.device_le

theorem sound_receive (h : Sound s) {message : Option ConveyorBeltStatus}
    (hmessage : ∀ status ∈ message, status ∈ s.statuses) :
    Sound { s with
      thread := s.thread.receiveAndBufferConveyorStatusMsg now message
      statuses := message.elim s.statuses s.statuses.erase
      stage := .send } := by
  have hstatuses : ∀ status ∈ message.elim s.statuses s.statuses.erase, status ∈ s.statuses := by
    cases message with
    | none => exact fun _ hmem => hmem
    | some received => exact fun _ hmem => List.mem_of_mem_erase hmem
  obtain ⟨hmode, hcases⟩ := receive_cases now (h.next_le hmessage)
  rcases hcases with ⟨status, hstatus, hack, hcycle, hsend, hreset⟩ | ⟨-, hcycle, hsend, hreset⟩
  · -- the device has executed the command of the next cycle
    have hdevice := h.status_le status (hmessage status hstatus)
    refine ⟨?_, ?_, ?_, ?_, ?_, ?_, ?_⟩
    · rw [hcycle, ← hack]
      exact hdevice
    · rw [hcycle]
      exact le_trans h.device_le (Int.le_add_one (le_refl _))
    · intro command hmem
      rw [hcycle]
      exact le_trans (h.command_le command hmem) (Int.le_add_one (le_refl _))
    · exact fun status hmem => h.status_le status (hstatuses status hmem)
    · rw [hmode]
      exact h.unrequested
    · rw [hmode]
      exact h.requested
    · intro _ _
      refine ⟨hreset, fun command hmem => ?_⟩
      have hle := h.command_le command hmem
      rw [hcycle]
      omega
  · refine ⟨?_, ?_, ?_, ?_, ?_, ?_, ?_⟩
    · rw [hcycle]
      exact h.le_device
    · rw [hcycle]
      exact h.device_le
    · rw [hcycle]
      exact h.command_le
    · exact fun status hmem => h.status_le status (hstatuses status hmem)
    · rw [hmode]
      exact h.unrequested
    · rw [hmode]
      exact h.requested
    · rw [hcycle, hsend, hreset]
      exact h.quiet

theorem sound_send (h : Sound s) :
    Sound { s with
      thread := (s.thread.sendCommand now).2
      commands := s.commands ++ (s.thread.sendCommand now).1
      stage := .receive } := by
  obtain ⟨sent, heq⟩ := sendCommand_thread s.thread now
  rw [heq]
  refine ⟨h.le_device, h.device_le, ?_, h.status_le, ?_, h.requested, ?_⟩
  · intro command hmem
    rcases List.mem_append.mp hmem with hold | hnew
    · exact h.command_le command hold
    · exact (of_mem_sendCommand hnew).1.le
  · intro hnone
    obtain ⟨hstop, hcommands⟩ := h.unrequested hnone
    refine ⟨hstop, fun command hmem => ?_⟩
    rcases List.mem_append.mp hmem with hold | hnew
    · exact hcommands command hold
    · exact (of_mem_sendCommand hnew).2.1.trans hstop
  · intro hsome hflag
    obtain ⟨hreset, hcommands⟩ := h.quiet hsome hflag
    refine ⟨hreset, fun command hmem => ?_⟩
    rcases List.mem_append.mp hmem with hold | hnew
    · exact hcommands command hold
    · -- neither flag is set
      have hset := (of_mem_sendCommand hnew).2.2
      rw [hreset, hflag] at hset
      rcases hset with hset | hset <;> cases hset

/-- The device moves to the next cycle with a command for it, and ignores any other. -/
theorem take_cases (d : BeltDevice) (command : ConveyorBeltCommand) :
    (command.nextCycle = d.cycle + 1 ∧
      d.take command = { cycle := d.cycle + 1, executed := some command.mode }) ∨
    (command.nextCycle ≠ d.cycle + 1 ∧ d.take command = d) := by
  unfold BeltDevice.take
  split
  · next heq => exact Or.inl ⟨heq, rfl⟩
  · next hne => exact Or.inr ⟨hne, rfl⟩

theorem sound_take (h : Sound s) {command : ConveyorBeltCommand} (hmem : command ∈ s.commands) :
    Sound { s with device := s.device.take command, commands := s.commands.erase command } := by
  have hcommands : ∀ other ∈ s.commands.erase command, other ∈ s.commands :=
    fun _ hother => List.mem_of_mem_erase hother
  have hnext := h.command_le command hmem
  have hdevice : s.device.cycle ≤ (s.device.take command).cycle ∧
      (s.device.take command).cycle ≤ s.thread.cycle + 1 := by
    rcases take_cases s.device command with ⟨heq, htake⟩ | ⟨-, htake⟩
    · rw [htake, ← heq]
      exact ⟨heq ▸ Int.le_add_one (le_refl _), hnext⟩
    · rw [htake]
      exact ⟨le_refl _, h.device_le⟩
  refine ⟨le_trans h.le_device hdevice.1, hdevice.2, ?_, ?_, ?_, h.requested, ?_⟩
  · exact fun other hother => h.command_le other (hcommands other hother)
  · exact fun status hstatus => le_trans (h.status_le status hstatus) hdevice.1
  · intro hnone
    obtain ⟨hstop, hall⟩ := h.unrequested hnone
    exact ⟨hstop, fun other hother => hall other (hcommands other hother)⟩
  · intro hsome hflag
    obtain ⟨hreset, hall⟩ := h.quiet hsome hflag
    exact ⟨hreset, fun other hother => hall other (hcommands other hother)⟩

theorem sound_report (h : Sound s) (isDeviceConnected : Bool) (mode : Option RunMode) :
    Sound { s with
      statuses := s.statuses ++ [{ isDeviceConnected, mode, cycle := s.device.cycle }] } := by
  refine ⟨h.le_device, h.device_le, h.command_le, ?_, h.unrequested, h.requested, h.quiet⟩
  intro status hmem
  rcases List.mem_append.mp hmem with hold | hnew
  · exact h.status_le status hold
  · rw [List.mem_singleton] at hnew
    subst hnew
    exact le_refl _

theorem sound_step (h : Sound s) {i : LinkInput} (hstep : s.step i = some s') : Sound s' := by
  cases i with
  | request mode =>
      cases hstep
      exact sound_request h mode
  | receive now message =>
      rw [BeltLink.step, Option.ite_none_right_eq_some, Option.some.injEq] at hstep
      obtain ⟨⟨-, hmessage⟩, rfl⟩ := hstep
      exact sound_receive h hmessage
  | send now =>
      rw [BeltLink.step, Option.ite_none_right_eq_some, Option.some.injEq] at hstep
      obtain ⟨-, rfl⟩ := hstep
      exact sound_send h
  | take command =>
      rw [BeltLink.step, Option.ite_none_right_eq_some, Option.some.injEq] at hstep
      obtain ⟨hmem, rfl⟩ := hstep
      exact sound_take h hmem
  | report isDeviceConnected mode =>
      cases hstep
      exact sound_report h isDeviceConnected mode

theorem sound_of_run {tr : List (Step BeltLink LinkInput)} (h : LinkRun now tr s) : Sound s := by
  apply Run.invariant ?_ ?_ h
  · exact sound_start now
  · exact fun s i s' hs hstep => sound_step hs hstep

/-! ## Lost requests -/

/-- When the thread has stopped sending, the device has last executed the latest request. -/
def NotLost (s : BeltLink) : Prop :=
  s.thread.sendConveyorCommand = false →
    ∀ mode, s.latestRequest = some mode → s.device.executed = some mode

/-- A request comes when no command is executed and unacknowledged, or asks for the mode of that
command; and the device executes no command for a mode that is not requested any more. -/
def Timely (s : BeltLink) : LinkInput → Prop
  | .request mode => s.device.cycle = s.thread.cycle + 1 → s.device.executed = some mode
  | .take command =>
      command.nextCycle = s.device.cycle + 1 → command.mode = s.thread.requestedRunMode
  | _ => True

instance (s : BeltLink) (i : LinkInput) : Decidable (Timely s i) := by
  unfold Timely
  split <;> infer_instance

/-- What the acknowledgement will rely on. -/
structure Kept (s : BeltLink) : Prop where
  executed : s.device.cycle = s.thread.cycle + 1 →
    s.device.executed = some s.thread.requestedRunMode
  notLost : NotLost s

theorem kept_start (now : Int) : Kept (BeltLink.start now) where
  executed := by
    intro h
    have hzero : (0 : Int) = 0 + 1 := h
    omega
  notLost := by
    intro _ mode h
    cases h

theorem kept_receive (hs : Sound s) (hk : Kept s) {message : Option ConveyorBeltStatus}
    (hmessage : ∀ status ∈ message, status ∈ s.statuses) :
    Kept { s with
      thread := s.thread.receiveAndBufferConveyorStatusMsg now message
      statuses := message.elim s.statuses s.statuses.erase
      stage := .send } := by
  obtain ⟨hmode, hcases⟩ := receive_cases now (hs.next_le hmessage)
  rcases hcases with ⟨status, hstatus, hack, hcycle, -, -⟩ | ⟨-, hcycle, hsend, -⟩
  · -- the acknowledged command is the one executed last
    have hle := hs.status_le status (hmessage status hstatus)
    have hpending : s.device.cycle = s.thread.cycle + 1 := le_antisymm hs.device_le (hack ▸ hle)
    have hexecuted := hk.executed hpending
    constructor
    · rw [hcycle, hpending]
      intro h
      omega
    · intro _ mode hrequest
      rw [← hs.requested mode hrequest]
      exact hexecuted
  · constructor
    · rw [hcycle, hmode]
      exact hk.executed
    · unfold NotLost
      rw [hsend]
      exact hk.notLost

theorem kept_take (hs : Sound s) (hk : Kept s) {command : ConveyorBeltCommand}
    (hmem : command ∈ s.commands)
    (hmode : command.nextCycle = s.device.cycle + 1 → command.mode = s.thread.requestedRunMode) :
    Kept { s with device := s.device.take command, commands := s.commands.erase command } := by
  rcases take_cases s.device command with ⟨heq, htake⟩ | ⟨-, htake⟩
  · rw [htake]
    constructor
    · intro _
      exact congrArg some (hmode heq)
    · intro hflag mode hrequest
      -- a command for the next cycle is under way, and so the thread has not stopped sending
      have hsome : s.latestRequest ≠ none := by
        have heq : s.latestRequest = some mode := hrequest
        rw [heq]
        exact Option.some_ne_none mode
      have hle := hs.le_device
      have hnext := hs.command_le command hmem
      exact absurd (by omega) ((hs.quiet hsome hflag).2 command hmem)
  · rw [htake]
    exact ⟨hk.executed, hk.notLost⟩

theorem kept_step (hs : Sound s) (hk : Kept s) {i : LinkInput} (hi : Timely s i)
    (hstep : s.step i = some s') : Kept s' := by
  cases i with
  | request mode =>
      cases hstep
      rw [request_eq]
      refine ⟨hi, ?_⟩
      intro hflag
      cases hflag
  | receive now message =>
      rw [BeltLink.step, Option.ite_none_right_eq_some, Option.some.injEq] at hstep
      obtain ⟨⟨-, hmessage⟩, rfl⟩ := hstep
      exact kept_receive hs hk hmessage
  | send now =>
      rw [BeltLink.step, Option.ite_none_right_eq_some, Option.some.injEq] at hstep
      obtain ⟨-, rfl⟩ := hstep
      obtain ⟨sent, heq⟩ := sendCommand_thread s.thread now
      rw [heq]
      exact ⟨hk.executed, hk.notLost⟩
  | take command =>
      rw [BeltLink.step, Option.ite_none_right_eq_some, Option.some.injEq] at hstep
      obtain ⟨hmem, rfl⟩ := hstep
      exact kept_take hs hk hmem hi
  | report isDeviceConnected mode =>
      cases hstep
      exact ⟨hk.executed, hk.notLost⟩

/-- The acknowledgement of a command for another mode than the requested one will be taken for an
answer to the request. -/
def Doomed (s : BeltLink) : Prop :=
  s.device.cycle = s.thread.cycle + 1 ∧
    ∃ mode, s.latestRequest = some mode ∧ s.device.executed ≠ some mode

theorem doomed_of_not_timely (hs : Sound s) {i : LinkInput} (hi : ¬ Timely s i)
    (hstep : s.step i = some s') : Doomed s' := by
  cases i with
  | request mode =>
      cases hstep
      rw [request_eq]
      obtain ⟨hpending, hne⟩ := Classical.not_imp.mp hi
      exact ⟨hpending, mode, rfl, hne⟩
  | take command =>
      rw [BeltLink.step, Option.ite_none_right_eq_some, Option.some.injEq] at hstep
      obtain ⟨hmem, rfl⟩ := hstep
      obtain ⟨heq, hne⟩ := Classical.not_imp.mp hi
      rcases take_cases s.device command with ⟨-, htake⟩ | ⟨hother, -⟩
      · rw [htake]
        constructor
        · have hle := hs.le_device
          have hnext := hs.command_le command hmem
          show s.device.cycle + 1 = s.thread.cycle + 1
          omega
        · cases hrequest : s.latestRequest with
          | none =>
              -- before the first request there is only STOP
              obtain ⟨hstop, hcommands⟩ := hs.unrequested hrequest
              exact absurd ((hcommands command hmem).trans hstop.symm) hne
          | some mode =>
              refine ⟨mode, rfl, ?_⟩
              show some command.mode ≠ some mode
              rw [← hs.requested mode hrequest]
              exact fun h => hne (Option.some.inj h)
      · exact absurd heq hother
  | _ => exact absurd trivial hi

/-- The loop gets to where it receives messages. -/
theorem exists_receiving {tr : List (Step BeltLink LinkInput)} (h : LinkRun now tr s)
    (hd : Doomed s) :
    ∃ later s', LinkRun now (later ++ tr) s' ∧ Doomed s' ∧ s'.stage = .receive := by
  cases hstage : s.stage with
  | receive => exact ⟨[], s, h, hd, hstage⟩
  | send =>
      have hstep : s.step (.send now) = some { s with
          thread := (s.thread.sendCommand now).2
          commands := s.commands ++ (s.thread.sendCommand now).1
          stage := .receive } := if_pos hstage
      refine ⟨[_], _, h.step hstep, ?_, rfl⟩
      obtain ⟨sent, heq⟩ := sendCommand_thread s.thread now
      rw [heq]
      exact hd

/-- The status that the device reports next loses the request. -/
theorem exists_lost_of_doomed {tr : List (Step BeltLink LinkInput)} (h : LinkRun now tr s)
    (hd : Doomed s) : ∃ later lost, LinkRun now (later ++ tr) lost ∧ ¬ NotLost lost := by
  obtain ⟨later, s', hrun, ⟨hpending, mode, hrequest, hne⟩, hstage⟩ := exists_receiving h hd
  let status : ConveyorBeltStatus :=
    { isDeviceConnected := true, mode := s'.device.executed, cycle := s'.device.cycle }
  have hreport : s'.step (.report true s'.device.executed) =
      some { s' with statuses := s'.statuses ++ [status] } := rfl
  have hmem : ∀ other ∈ some status, other ∈ s'.statuses ++ [status] := by
    intro other hother
    rw [Option.mem_some] at hother
    exact List.mem_append_right _ (List.mem_singleton.mpr hother.symm)
  have hreceive : BeltLink.step { s' with statuses := s'.statuses ++ [status] }
      (.receive now (some status)) = some { s' with
        thread := s'.thread.receiveAndBufferConveyorStatusMsg now (some status)
        statuses := (s'.statuses ++ [status]).erase status
        stage := .send } := if_pos ⟨hstage, hmem⟩
  refine ⟨[_, _] ++ later, _, (hrun.step hreport).step hreceive, ?_⟩
  intro hlost
  have hnext : ∀ other ∈ some status, other.cycle ≤ s'.thread.cycle + 1 := by
    intro other hother
    rw [Option.mem_some] at hother
    rw [← hother]
    exact hpending.le
  obtain ⟨-, ⟨-, -, -, -, hflag, -⟩ | ⟨hno, -⟩⟩ := receive_cases now hnext
  · exact hne (hlost hflag mode hrequest)
  · exact hno status rfl hpending

/-- **A request is not lost** in the runs all of whose steps are timely. After a step that is not,
the run can go on to a state where the thread has stopped sending and the device has not executed the
latest request. -/
theorem notLost_run (now : Int) :
    (∀ tr s, LinkRun now tr s → (∀ t ∈ tr, Timely t.pre t.label) → NotLost s) ∧
      ∀ tr s i s', LinkRun now tr s → s.step i = some s' → ¬ Timely s i →
        ∃ later lost, LinkRun now (later ++ ⟨s, i, s'⟩ :: tr) lost ∧ ¬ NotLost lost := by
  constructor
  · intro tr s h htimely
    have hkept : Sound s ∧ Kept s := by
      apply Run.invariant_of (C := Timely) ?_ ?_ h htimely
      · exact ⟨sound_start now, kept_start now⟩
      · intro s i s' hs hi hstep
        exact ⟨sound_step hs.1 hstep, kept_step hs.1 hs.2 hi hstep⟩
    exact hkept.2.notLost
  · intro tr s i s' h hstep hi
    exact exists_lost_of_doomed (h.step hstep) (doomed_of_not_timely (sound_of_run h) hi hstep)

/-- The belt is reset, and then started once. -/
def startOnce : List LinkInput :=
  let stopped : ConveyorBeltStatus := { isDeviceConnected := true, mode := some .stop, cycle := 1 }
  let started : ConveyorBeltStatus := { isDeviceConnected := true, mode := some .start, cycle := 2 }
  [.take ⟨.stop, some true, 1⟩, .report true (some .stop), .receive 40 (some stopped), .send 40,
    .request .start, .receive 1080 none, .send 1080, .take ⟨.start, none, 2⟩,
    .report true (some .start), .receive 1120 (some started)]

theorem notLost_of_startOnce :
    ∃ tr s, LinkRun 0 tr s ∧ s.latestRequest = some .start ∧
      s.thread.sendConveyorCommand = false ∧ s.device.executed = some .start := by
  have hrun : (trace BeltLink.step (.start 0) startOnce).any (fun r =>
      decide (r.2.latestRequest = some .start ∧ r.2.thread.sendConveyorCommand = false ∧
        ∀ t ∈ r.1, Timely t.pre t.label)) = true := by
    decide +kernel
  obtain ⟨⟨tr, s⟩, htrace, hr⟩ := (Option.any_eq_true _ _).mp hrun
  obtain ⟨hrequest, hflag, htimely⟩ := of_decide_eq_true hr
  exact ⟨tr, s, run_of_trace htrace, hrequest, hflag,
    (notLost_run 0).1 tr s (run_of_trace htrace) htimely hflag .start hrequest⟩

/-- The device executes the reset, and START is requested before its status arrives: START is never
sent. -/
theorem start_lost :
    ∃ tr s, LinkRun 0 tr s ∧ ¬ NotLost s ∧ s.commands = [] ∧ s.thread.sendResetCommand = false := by
  have hrun : (trace BeltLink.step (.start 0)
      [.take ⟨.stop, some true, 1⟩, .report true (some .stop), .request .start,
        .receive 40 (some { isDeviceConnected := true, mode := some .stop, cycle := 1 }),
        .send 40]).any (fun r =>
      decide (r.2.latestRequest = some .start ∧ r.2.thread.sendConveyorCommand = false ∧
        r.2.device.executed = some .stop ∧ r.2.commands = [] ∧
        r.2.thread.sendResetCommand = false)) = true := by
    decide +kernel
  obtain ⟨⟨tr, s⟩, htrace, hr⟩ := (Option.any_eq_true _ _).mp hrun
  obtain ⟨hrequest, hflag, hexecuted, hcommands, hreset⟩ := of_decide_eq_true hr
  refine ⟨tr, s, run_of_trace htrace, ?_, hcommands, hreset⟩
  intro hkept
  have hstarted := hkept hflag .start hrequest
  rw [hexecuted] at hstarted
  cases hstarted

end

end FactoryHub.Rockin
