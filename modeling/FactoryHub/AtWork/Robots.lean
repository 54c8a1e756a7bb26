import FactoryHub.AtWork.Broadcasts
import Mathlib.Data.List.Nodup

/-!
# The registry of robots

The facts `robot` of the @Work refbox. A beacon makes one for a host and port not heard of before, and
sets `last-seen` of the one there is; ticks find robots lost that were not seen for some time, and
remove them in the end. Rules fire in any order, so that `last-seen` goes back when the older one of two
beacons is handled last, and a robot can be found lost while a beacon of it waits.

* `Change.of_step` — what an event does to the registry.
* `Tracked.step` — what is known of the beacons received, as long as they are handled in order.
* `isRegistry` — the registry over runs.
-/

namespace FactoryHub.AtWork

open Clips Lib

/-- Host and port of a robot. -/
def Robot.endpoint (robot : Robot) : String × ℕ := (robot.host, robot.port)

/-- Host and port a beacon was received from. -/
def Beacon.endpoint (beacon : Beacon) : String × ℕ := (beacon.fromHost, beacon.fromPort)

theorem Beacon.isFrom_iff {beacon : Beacon} {robot : Robot} :
    beacon.isFrom robot ↔ robot.endpoint = beacon.endpoint := by
  simp [Beacon.isFrom, Robot.endpoint, Beacon.endpoint]

/-- The beacon of a message. -/
def ReceivedMsg.beacon? : ReceivedMsg → Option Beacon
  | .beaconSignal beacon => some beacon
  | _ => none

/-- The event is a tick, or is about a beacon or a robot. -/
def PublicEvent.ofRegistry : PublicEvent → Bool
  | .tick _ | .receive (.beaconSignal _) | .netRecvBeaconKnown _ | .netRecvBeaconUnknown _
  | .robotLost _ | .robotRemove _ => true
  | _ => false

namespace PublicRefbox

/-- The beacon was received, and no rule has taken it yet. -/
def Pending (r : PublicRefbox) (beacon : Beacon) : Prop := .beaconSignal beacon ∈ r.messages

instance (r : PublicRefbox) (beacon : Beacon) : Decidable (r.Pending beacon) := by
  unfold Pending
  infer_instance

/-- The refbox after an event. Each beacon is one of a known robot or of an unknown one, so that one
of two rules takes it before `protobuf-cleanup-message`, whose salience is low. -/
def registryStep (clock : Clock) (rand : ℕ → ℕ) (cfg : PublicConfig) (r : PublicRefbox)
    (e : PublicEvent) : Option PublicRefbox :=
  match e with
  | .protobufCleanupMessage (.beaconSignal _) => none
  | e => r.step clock rand cfg e

/-- The runs of the refbox, in whatever order the rules fire. -/
abbrev RegistryRun (clock : Clock) (rand : ℕ → ℕ) (cfg : PublicConfig) :
    List (Step PublicRefbox PublicEvent) → PublicRefbox → Prop :=
  Run (fun r e r' => r.registryStep clock rand cfg e = some r') .start

/-! ## What an event does to the registry -/

inductive Change (r r' : PublicRefbox) : PublicEvent → Prop
  | tick (now : Time) (htime : r'.time = some now) (hrobots : r'.robots = r.robots)
      (hmessages : r'.messages = r.messages) : Change r r' (.tick now)
  | receive (beacon : Beacon) (htime : r'.time = r.time) (hrobots : r'.robots = r.robots)
      (hmessages : r'.messages = .beaconSignal beacon :: r.messages) :
      Change r r' (.receive (.beaconSignal beacon))
  | known (beacon : Beacon) (hpending : r.Pending beacon) (hknown : r.Known beacon)
      (htime : r'.time = r.time)
      (hrobots : r'.robots = r.robots.map fun robot =>
        if beacon.isFrom robot then
          { robot with lastSeen := beacon.rcvdAt, warningSent := false }
        else robot)
      (hmessages : r'.messages = r.messages.erase (.beaconSignal beacon)) :
      Change r r' (.netRecvBeaconKnown beacon)
  | unknown (beacon : Beacon) (hpending : r.Pending beacon) (hunknown : ¬ r.Known beacon)
      (htime : r'.time = r.time)
      (hrobots : r'.robots =
        { team := beacon.teamName, name := beacon.peerName, host := beacon.fromHost
          port := beacon.fromPort, lastSeen := beacon.rcvdAt } :: r.robots)
      (hmessages : r'.messages = r.messages.erase (.beaconSignal beacon)) :
      Change r r' (.netRecvBeaconUnknown beacon)
  | lost (robot : Robot) (hmem : robot ∈ r.robots) (hsent : robot.warningSent = false)
      (htime : r'.time = r.time)
      (hrobots : r'.robots = r.robots.map fun rf =>
        if rf = robot then { rf with warningSent := true } else rf)
      (hmessages : r'.messages = r.messages) : Change r r' (.robotLost robot)
  | remove (robot : Robot) (now : Time) (hnow : r.time = some now) (hmem : robot ∈ r.robots)
      (htimeout : now.timeout robot.lastSeen peerRemoveTimeout) (htime : r'.time = r.time)
      (hrobots : r'.robots = r.robots.erase robot) (hmessages : r'.messages = r.messages) :
      Change r r' (.robotRemove robot)
  | other (e : PublicEvent) (hother : e.ofRegistry = false)
      (htime : r'.time = r.time ∨ r'.time = none) (hrobots : r'.robots = r.robots)
      (hmessages : ∀ beacon, r'.Pending beacon ↔ r.Pending beacon) : Change r r' e

section

variable {clock : Clock} {rand : ℕ → ℕ} {cfg : PublicConfig} {r r' : PublicRefbox}
  {e : PublicEvent}

theorem of_onMessage {msg : ReceivedMsg} {rule : PublicRefbox → Option PublicRefbox}
    (h : r.onMessage msg rule = some r') :
    msg ∈ r.messages ∧ rule { r with messages := r.messages.erase msg } = some r' := by
  unfold onMessage at h
  exact Option.ite_none_right_eq_some.mp h

theorem of_atTick {rule : Time → PublicRefbox → Option PublicRefbox} (h : r.atTick rule = some r') :
    ∃ now, r.time = some now ∧ rule now r = some r' := Option.bind_eq_some_iff.mp h

/-- Taking another message leaves the beacons. -/
theorem pending_erase {msg : ReceivedMsg} (hmsg : ∀ beacon, msg ≠ .beaconSignal beacon)
    (beacon : Beacon) :
    .beaconSignal beacon ∈ r.messages.erase msg ↔ r.Pending beacon :=
  List.mem_erase_of_ne (hmsg beacon).symm

theorem pending_congr {beacon : Beacon} (hmessages : r'.messages = r.messages) :
    r'.Pending beacon ↔ r.Pending beacon := by
  unfold Pending
  rw [hmessages]

/-- What is sent on a tick concerns no robot. -/
theorem Change.of_sendAtTick {rule : Time → ℕ → PublicRefbox → Option PublicRefbox}
    (he : e.ofRegistry = false)
    (hrule : ∀ now peer, rule now peer r = some r' →
      r'.time = r.time ∧ r'.robots = r.robots ∧ r'.messages = r.messages)
    (h : r.sendAtTick cfg rule = some r') : Change r r' e := by
  obtain ⟨peer, -, h⟩ := Option.bind_eq_some_iff.mp h
  obtain ⟨now, -, h⟩ := of_atTick h
  obtain ⟨htime, hrobots, hmessages⟩ := hrule now peer h
  exact .other e he (Or.inl htime) hrobots fun _ => pending_congr hmessages

theorem Change.of_step (h : registryStep clock rand cfg r e = some r') : Change r r' e := by
  cases e with
  | tick now =>
      obtain ⟨-, h⟩ := Option.ite_none_right_eq_some.mp h
      cases h
      exact .tick now rfl rfl rfl
  | receive msg =>
      cases h
      cases msg with
      | beaconSignal beacon => exact .receive beacon rfl rfl rfl
      | _ =>
          refine .other _ rfl (Or.inl rfl) rfl fun beacon => ?_
          simp [Pending]
  | retractTime =>
      obtain ⟨now, -, h⟩ := of_atTick h
      cases h
      exact .other _ rfl (Or.inr rfl) rfl fun _ => Iff.rfl
  | protobufCleanupMessage msg =>
      cases msg with
      | beaconSignal beacon => cases h
      | _ =>
          obtain ⟨-, h⟩ := of_onMessage h
          cases h
          exact .other _ rfl (Or.inl rfl) rfl (pending_erase (by simp))
  | netRecvSetBenchmarkScenario type typeId =>
      obtain ⟨-, h⟩ := of_onMessage h
      cases h
      exact .other _ rfl (Or.inl rfl) rfl (pending_erase (by simp))
  | netRecvSetBenchmarkTransitionEvent event =>
      obtain ⟨-, h⟩ := of_onMessage h
      cases h
      exact .other _ rfl (Or.inl rfl) rfl (pending_erase (by simp))
  | netRecvBeaconKnown beacon =>
      obtain ⟨hpending, h⟩ := of_onMessage h
      obtain ⟨hknown, h⟩ := Option.ite_none_right_eq_some.mp h
      cases h
      exact .known beacon hpending hknown rfl rfl rfl
  | netRecvBeaconUnknown beacon =>
      obtain ⟨hpending, h⟩ := of_onMessage h
      obtain ⟨hunknown, h⟩ := Option.ite_none_right_eq_some.mp h
      cases h
      exact .unknown beacon hpending hunknown rfl rfl rfl
  | robotLost robot =>
      obtain ⟨now, -, h⟩ := of_atTick h
      obtain ⟨⟨hmem, hsent, -⟩, h⟩ := Option.ite_none_right_eq_some.mp h
      cases h
      exact .lost robot hmem hsent rfl rfl rfl
  | robotRemove robot =>
      obtain ⟨now, hnow, h⟩ := of_atTick h
      obtain ⟨⟨hmem, htimeout⟩, h⟩ := Option.ite_none_right_eq_some.mp h
      cases h
      exact .remove robot now hnow hmem htimeout rfl rfl rfl
  | benchmarkUpdate =>
      obtain ⟨now, -, h⟩ := of_atTick h
      cases h
      exact .other _ rfl (Or.inl rfl) rfl fun _ => Iff.rfl
  | netSendBeacon =>
      refine .of_sendAtTick rfl (fun now peer h => ?_) h
      obtain ⟨-, h⟩ := Option.ite_none_right_eq_some.mp h
      cases h
      exact ⟨rfl, rfl, rfl⟩
  | netSendBenchmarkState =>
      refine .of_sendAtTick rfl (fun now peer h => ?_) h
      obtain ⟨-, h⟩ := Option.ite_none_right_eq_some.mp h
      cases h
      exact ⟨rfl, rfl, rfl⟩
  | netSendInventoryPeer =>
      refine .of_sendAtTick rfl (fun now peer h => ?_) h
      unfold netSendInventoryPeer at h
      split_ifs at h <;> cases h <;> exact ⟨rfl, rfl, rfl⟩
  | netSendTaskInfoPeer =>
      refine .of_sendAtTick rfl (fun now peer h => ?_) h
      unfold netSendTaskInfoPeer at h
      split_ifs at h <;> cases h <;> exact ⟨rfl, rfl, rfl⟩
  | netSendVersionInfo =>
      refine .of_sendAtTick rfl (fun now peer h => ?_) h
      obtain ⟨-, h⟩ := Option.ite_none_right_eq_some.mp h
      cases h
      exact ⟨rfl, rfl, rfl⟩

/-- Robots that keep their host and port are told apart as before. -/
theorem unique_map {robots : List Robot} {f : Robot → Robot}
    (h : (robots.map Robot.endpoint).Nodup) (hf : ∀ robot, (f robot).endpoint = robot.endpoint) :
    ((robots.map f).map Robot.endpoint).Nodup := by
  have heq : Robot.endpoint ∘ f = Robot.endpoint := funext hf
  rw [List.map_map, heq]
  exact h

/-- There is one robot for a host and port, whatever the order of events. -/
theorem Change.unique (h : Change r r' e) (hunique : (r.robots.map Robot.endpoint).Nodup) :
    (r'.robots.map Robot.endpoint).Nodup := by
  cases h with
  | known beacon hpending hknown htime hrobots hmessages =>
      rw [hrobots]
      apply unique_map hunique
      intro robot
      split <;> rfl
  | unknown beacon hpending hunknown htime hrobots hmessages =>
      rw [hrobots]
      refine List.nodup_cons.mpr ⟨fun hmem => ?_, hunique⟩
      obtain ⟨robot, hmem, heq⟩ := List.mem_map.mp hmem
      exact hunknown ⟨robot, hmem, Beacon.isFrom_iff.mpr heq⟩
  | lost robot hmem hsent htime hrobots hmessages =>
      rw [hrobots]
      apply unique_map hunique
      intro rf
      split <;> rfl
  | remove robot now hnow hmem htimeout htime hrobots hmessages =>
      rw [hrobots]
      exact hunique.sublist ((List.erase_sublist ..).map _)
  | tick now htime hrobots hmessages => exact hrobots ▸ hunique
  | receive beacon htime hrobots hmessages => exact hrobots ▸ hunique
  | other e hother htime hrobots hmessages => exact hrobots ▸ hunique

end

/-! ## The record of a run -/

/-- The times of the ticks, newest first. -/
def ticks (tr : List (Step PublicRefbox PublicEvent)) : List Time :=
  tr.filterMap fun t =>
    match t.label with
    | .tick now => some now
    | _ => none

/-- Time does not run backwards. -/
def TicksInOrder (tr : List (Step PublicRefbox PublicEvent)) : Prop :=
  (ticks tr).Pairwise fun later earlier => earlier.toSec ≤ later.toSec

instance (tr : List (Step PublicRefbox PublicEvent)) : Decidable (TicksInOrder tr) := by
  unfold TicksInOrder
  infer_instance

/-- The beacons received, newest first. -/
def receivedBeacons (tr : List (Step PublicRefbox PublicEvent)) : List Beacon :=
  tr.filterMap fun t =>
    match t.label with
    | .receive (.beaconSignal beacon) => some beacon
    | _ => none

/-- How often a robot was found lost since the last beacon of its host and port was received. -/
def warningsSince (endpoint : String × ℕ) : List (Step PublicRefbox PublicEvent) → ℕ
  | [] => 0
  | t :: earlier =>
      match t.label with
      | .receive (.beaconSignal beacon) =>
          if beacon.endpoint = endpoint then 0 else warningsSince endpoint earlier
      | .robotLost robot =>
          if robot.endpoint = endpoint then warningsSince endpoint earlier + 1
          else warningsSince endpoint earlier
      | _ => warningsSince endpoint earlier

/-- When a robot is removed, all the beacons received from its host and port are too old. -/
def RemovedInTime (t : Step PublicRefbox PublicEvent)
    (earlier : List (Step PublicRefbox PublicEvent)) : Prop :=
  match t.label, t.pre.time with
  | .robotRemove robot, some now =>
      ∀ beacon ∈ receivedBeacons earlier, beacon.endpoint = robot.endpoint →
        now.timeout beacon.rcvdAt peerRemoveTimeout
  | _, _ => True

instance (t : Step PublicRefbox PublicEvent) (earlier : List (Step PublicRefbox PublicEvent)) :
    Decidable (RemovedInTime t earlier) := by
  unfold RemovedInTime
  split <;> infer_instance

/-- The facts `robot` are a map from hosts and ports, whose entries go when they are too old. -/
structure IsRegistry (tr : List (Step PublicRefbox PublicEvent)) (r : PublicRefbox) : Prop where
  unique : (r.robots.map Robot.endpoint).Nodup
  removed : AllSteps RemovedInTime tr
  warned : ∀ endpoint, warningsSince endpoint tr ≤ 1

/-- Beacons are handled in the order they were received in, and no robot is found lost before all its
beacons are handled. -/
def InOrder (r : PublicRefbox) : PublicEvent → Prop
  | .netRecvBeaconKnown beacon =>
      ∀ robot ∈ r.robots, robot.endpoint = beacon.endpoint →
        robot.lastSeen.toSec ≤ beacon.rcvdAt.toSec
  | .robotLost robot | .robotRemove robot =>
      ∀ msg ∈ r.messages, ∀ beacon ∈ msg.beacon?, beacon.endpoint ≠ robot.endpoint
  | _ => True

instance (r : PublicRefbox) (e : PublicEvent) : Decidable (InOrder r e) := by
  unfold InOrder
  split <;> infer_instance

/-! ## As long as beacons are handled in order -/

/-- What is known of the beacons received. -/
structure Tracked (tr : List (Step PublicRefbox PublicEvent)) (r : PublicRefbox) : Prop where
  unique : (r.robots.map Robot.endpoint).Nodup
  seen : ∀ beacon ∈ receivedBeacons tr, r.Pending beacon ∨
    (∃ robot ∈ r.robots, robot.endpoint = beacon.endpoint ∧
      beacon.rcvdAt.toSec ≤ robot.lastSeen.toSec) ∨
    ∃ now ∈ ticks tr, now.timeout beacon.rcvdAt peerRemoveTimeout
  time_mem : ∀ now, r.time = some now → now ∈ ticks tr ∧ ∀ t ∈ ticks tr, t.toSec ≤ now.toSec
  atMostOne : ∀ endpoint, warningsSince endpoint tr ≤ 1
  warned : ∀ endpoint, 0 < warningsSince endpoint tr →
    (∀ beacon, r.Pending beacon → beacon.endpoint ≠ endpoint) ∧
      ∀ robot ∈ r.robots, robot.endpoint = endpoint → robot.warningSent = true

section

variable {clock : Clock} {rand : ℕ → ℕ} {cfg : PublicConfig} {r r' : PublicRefbox}
  {e : PublicEvent} {tr : List (Step PublicRefbox PublicEvent)}

@[simp] theorem ticks_tick (now : Time) :
    ticks (⟨r, .tick now, r'⟩ :: tr) = now :: ticks tr := rfl

@[simp] theorem receivedBeacons_receive (beacon : Beacon) :
    receivedBeacons (⟨r, .receive (.beaconSignal beacon), r'⟩ :: tr) =
      beacon :: receivedBeacons tr := rfl

theorem ticks_other (h : ∀ now, e ≠ .tick now) : ticks (⟨r, e, r'⟩ :: tr) = ticks tr := by
  cases e with
  | tick now => exact absurd rfl (h now)
  | _ => rfl

theorem receivedBeacons_other (h : ∀ beacon, e ≠ .receive (.beaconSignal beacon)) :
    receivedBeacons (⟨r, e, r'⟩ :: tr) = receivedBeacons tr := by
  cases e with
  | receive msg =>
      cases msg with
      | beaconSignal beacon => exact absurd rfl (h beacon)
      | _ => rfl
  | _ => rfl

theorem warningsSince_other (hreceive : ∀ beacon, e ≠ .receive (.beaconSignal beacon))
    (hlost : ∀ robot, e ≠ .robotLost robot) (endpoint : String × ℕ) :
    warningsSince endpoint (⟨r, e, r'⟩ :: tr) = warningsSince endpoint tr := by
  cases e with
  | receive msg =>
      cases msg with
      | beaconSignal beacon => exact absurd rfl (hreceive beacon)
      | _ => rfl
  | robotLost robot => exact absurd rfl (hlost robot)
  | _ => rfl

/-- The robots of one host and port are one robot. -/
theorem Tracked.eq_of_endpoint (h : Tracked tr r) {robot other : Robot} (hmem : robot ∈ r.robots)
    (hother : other ∈ r.robots) (heq : robot.endpoint = other.endpoint) : robot = other :=
  List.inj_on_of_nodup_map h.unique hmem hother heq

/-- A beacon that is handled, in order, by a change of the robots that keeps what was seen of
others. -/
theorem Tracked.handled (h : Tracked tr r) {beacon : Beacon} (hpending : r.Pending beacon)
    (he : e = .netRecvBeaconKnown beacon ∨ e = .netRecvBeaconUnknown beacon)
    (htime : r'.time = r.time)
    (hmessages : r'.messages = r.messages.erase (.beaconSignal beacon))
    (hunique : (r'.robots.map Robot.endpoint).Nodup)
    (hnew : ∃ robot ∈ r'.robots, robot.endpoint = beacon.endpoint ∧
      beacon.rcvdAt.toSec ≤ robot.lastSeen.toSec)
    (hlater : ∀ robot ∈ r.robots, ∃ robot' ∈ r'.robots, robot'.endpoint = robot.endpoint ∧
      robot.lastSeen.toSec ≤ robot'.lastSeen.toSec)
    (hothers : ∀ robot ∈ r'.robots, robot.endpoint ≠ beacon.endpoint → robot ∈ r.robots) :
    Tracked (⟨r, e, r'⟩ :: tr) r' := by
  have hticks : ticks (⟨r, e, r'⟩ :: tr) = ticks tr := by
    rcases he with rfl | rfl <;> rfl
  have hreceived : receivedBeacons (⟨r, e, r'⟩ :: tr) = receivedBeacons tr := by
    rcases he with rfl | rfl <;> rfl
  have hwarnings : ∀ endpoint, warningsSince endpoint (⟨r, e, r'⟩ :: tr) =
      warningsSince endpoint tr := by
    intro endpoint
    rcases he with rfl | rfl <;> rfl
  refine ⟨hunique, ?_, ?_, ?_, ?_⟩
  · rw [hticks, hreceived]
    intro b hb
    rcases h.seen b hb with hb | ⟨robot, hmem, hendpoint, hseen⟩ | hold
    · by_cases heq : b = beacon
      · subst heq
        exact Or.inr (Or.inl hnew)
      · left
        unfold Pending
        rw [hmessages]
        exact (List.mem_erase_of_ne (by simp [heq])).mpr hb
    · obtain ⟨robot', hmem', hsame, hle⟩ := hlater robot hmem
      exact Or.inr (Or.inl ⟨robot', hmem', hsame.trans hendpoint, hseen.trans hle⟩)
    · exact Or.inr (Or.inr hold)
  · rw [htime, hticks]
    exact h.time_mem
  · intro endpoint
    rw [hwarnings]
    exact h.atMostOne endpoint
  · intro endpoint hpos
    rw [hwarnings] at hpos
    obtain ⟨hnone, hsent⟩ := h.warned endpoint hpos
    -- no beacon of a robot found lost is pending
    have hne : beacon.endpoint ≠ endpoint := hnone beacon hpending
    constructor
    · intro b hb
      unfold Pending at hb
      rw [hmessages] at hb
      exact hnone b (List.mem_of_mem_erase hb)
    · intro robot hmem hendpoint
      refine hsent robot (hothers robot hmem ?_) hendpoint
      rw [hendpoint]
      exact hne.symm

/-- What an event does that is in order. -/
theorem Tracked.step (h : Tracked tr r) (horder : TicksInOrder (⟨r, e, r'⟩ :: tr))
    (hin : InOrder r e) (hchange : Change r r' e) : Tracked (⟨r, e, r'⟩ :: tr) r' := by
  have hunique := hchange.unique h.unique
  cases hchange with
  | tick now htime hrobots hmessages =>
      have hle := (List.pairwise_cons.mp horder).1
      refine ⟨hunique, ?_, ?_, h.atMostOne, ?_⟩
      · intro beacon hbeacon
        rcases h.seen beacon hbeacon with hpending | hrobot | ⟨t, ht, hold⟩
        · exact Or.inl ((pending_congr hmessages).mpr hpending)
        · rw [hrobots]
          exact Or.inr (Or.inl hrobot)
        · exact Or.inr (Or.inr ⟨t, List.mem_cons_of_mem _ ht, hold⟩)
      · intro now' hnow'
        rw [htime] at hnow'
        cases hnow'
        rw [ticks_tick]
        refine ⟨List.mem_cons_self .., fun t ht => ?_⟩
        rcases List.mem_cons.mp ht with rfl | ht
        · exact le_refl _
        · exact hle t ht
      · intro endpoint hpos
        obtain ⟨hnone, hsent⟩ := h.warned endpoint hpos
        rw [hrobots]
        exact ⟨fun b hb => hnone b ((pending_congr hmessages).mp hb), hsent⟩
  | receive beacon htime hrobots hmessages =>
      have hpending : ∀ b, r'.Pending b ↔ b = beacon ∨ r.Pending b := by
        intro b
        unfold Pending
        simp [hmessages]
      refine ⟨hunique, ?_, ?_, ?_, ?_⟩
      · intro b hb
        rw [receivedBeacons_receive] at hb
        rw [ticks_other (by simp), hpending, hrobots]
        rcases List.mem_cons.mp hb with rfl | hb
        · exact Or.inl (Or.inl rfl)
        · rcases h.seen b hb with hb | hseen
          · exact Or.inl (Or.inr hb)
          · exact Or.inr hseen
      · rw [htime]
        exact h.time_mem
      · intro endpoint
        show (if beacon.endpoint = endpoint then 0 else warningsSince endpoint tr) ≤ 1
        split
        · exact Nat.zero_le 1
        · exact h.atMostOne endpoint
      · intro endpoint hpos
        change 0 < (if beacon.endpoint = endpoint then 0 else warningsSince endpoint tr) at hpos
        by_cases heq : beacon.endpoint = endpoint
        · simp [heq] at hpos
        · rw [if_neg heq] at hpos
          obtain ⟨hnone, hsent⟩ := h.warned endpoint hpos
          rw [hrobots]
          refine ⟨fun b hb => ?_, hsent⟩
          rcases (hpending b).mp hb with rfl | hb
          · exact heq
          · exact hnone b hb
  | known beacon hpending hknown htime hrobots hmessages =>
      have hendpoint : ∀ robot : Robot, Robot.endpoint
          (if beacon.isFrom robot then
            { robot with lastSeen := beacon.rcvdAt, warningSent := false }
          else robot) = robot.endpoint := by
        intro robot
        split <;> rfl
      refine h.handled hpending (Or.inl rfl) htime hmessages hunique ?_ ?_ ?_
      · obtain ⟨robot, hmem, hfrom⟩ := hknown
        rw [hrobots]
        refine ⟨_, List.mem_map_of_mem hmem, ?_, ?_⟩
        · rw [hendpoint]
          exact Beacon.isFrom_iff.mp hfrom
        · rw [if_pos hfrom]
      · intro robot hmem
        rw [hrobots]
        refine ⟨_, List.mem_map_of_mem hmem, hendpoint robot, ?_⟩
        split
        · next hfrom => exact hin robot hmem (Beacon.isFrom_iff.mp hfrom)
        · exact le_refl _
      · intro robot hmem hne
        rw [hrobots] at hmem
        obtain ⟨old, hold, rfl⟩ := List.mem_map.mp hmem
        rw [hendpoint] at hne
        rw [if_neg fun hfrom => hne (Beacon.isFrom_iff.mp hfrom)]
        exact hold
  | unknown beacon hpending hunknown htime hrobots hmessages =>
      refine h.handled hpending (Or.inr rfl) htime hmessages hunique ?_ ?_ ?_
      · rw [hrobots]
        exact ⟨_, List.mem_cons_self .., rfl, le_refl _⟩
      · intro robot hmem
        rw [hrobots]
        exact ⟨robot, List.mem_cons_of_mem _ hmem, rfl, le_refl _⟩
      · intro robot hmem hne
        rw [hrobots] at hmem
        rcases List.mem_cons.mp hmem with rfl | hmem
        · exact absurd rfl hne
        · exact hmem
  | lost robot hmem hsent htime hrobots hmessages =>
      have hendpoint : ∀ rf : Robot, Robot.endpoint
          (if rf = robot then { rf with warningSent := true } else rf) = rf.endpoint := by
        intro rf
        split <;> rfl
      have hseen : ∀ rf : Robot, Robot.lastSeen
          (if rf = robot then { rf with warningSent := true } else rf) = rf.lastSeen := by
        intro rf
        split <;> rfl
      have hzero : warningsSince robot.endpoint tr = 0 := by
        by_contra hne
        have hwarned := (h.warned _ (Nat.pos_of_ne_zero hne)).2 robot hmem rfl
        rw [hsent] at hwarned
        cases hwarned
      refine ⟨hunique, ?_, ?_, ?_, ?_⟩
      · rw [ticks_other (by simp), receivedBeacons_other (by simp)]
        intro b hb
        rcases h.seen b hb with hb | ⟨rf, hrf, hfrom, hle⟩ | hold
        · exact Or.inl ((pending_congr hmessages).mpr hb)
        · refine Or.inr (Or.inl ⟨_, ?_, (hendpoint rf).trans hfrom, ?_⟩)
          · rw [hrobots]
            exact List.mem_map_of_mem hrf
          · rw [hseen]
            exact hle
        · exact Or.inr (Or.inr hold)
      · rw [htime]
        exact h.time_mem
      · intro endpoint
        show (if robot.endpoint = endpoint then warningsSince endpoint tr + 1
          else warningsSince endpoint tr) ≤ 1
        by_cases heq : robot.endpoint = endpoint
        · rw [if_pos heq, ← heq, hzero]
        · rw [if_neg heq]
          exact h.atMostOne endpoint
      · intro endpoint hpos
        change 0 < (if robot.endpoint = endpoint then warningsSince endpoint tr + 1
          else warningsSince endpoint tr) at hpos
        simp only [pending_congr hmessages]
        rw [hrobots]
        by_cases heq : robot.endpoint = endpoint
        · constructor
          · intro b hb hfrom
            exact hin _ hb b rfl (hfrom.trans heq.symm)
          · intro rf' hrf' hfrom
            obtain ⟨rf, hrf, rfl⟩ := List.mem_map.mp hrf'
            rw [hendpoint] at hfrom
            have hsame : rf = robot := h.eq_of_endpoint hrf hmem (hfrom.trans heq.symm)
            rw [if_pos hsame]
        · rw [if_neg heq] at hpos
          obtain ⟨hnone, hwarned⟩ := h.warned endpoint hpos
          refine ⟨hnone, fun rf' hrf' hfrom => ?_⟩
          obtain ⟨rf, hrf, rfl⟩ := List.mem_map.mp hrf'
          rw [hendpoint] at hfrom
          split
          · rfl
          · exact hwarned rf hrf hfrom
  | remove robot now hnow hmem htimeout htime hrobots hmessages =>
      refine ⟨hunique, ?_, ?_, h.atMostOne, ?_⟩
      · rw [ticks_other (by simp), receivedBeacons_other (by simp)]
        intro b hb
        rcases h.seen b hb with hb | ⟨rf, hrf, hfrom, hle⟩ | hold
        · exact Or.inl ((pending_congr hmessages).mpr hb)
        · by_cases heq : rf = robot
          · -- the beacon is older than what was seen last of the robot
            subst heq
            refine Or.inr (Or.inr ⟨now, (h.time_mem now hnow).1, ?_⟩)
            unfold Time.timeout at htimeout ⊢
            rw [Time.diffSec_eq] at htimeout ⊢
            linarith
          · refine Or.inr (Or.inl ⟨rf, ?_, hfrom, hle⟩)
            rw [hrobots]
            exact (List.mem_erase_of_ne heq).mpr hrf
        · exact Or.inr (Or.inr hold)
      · rw [htime]
        exact h.time_mem
      · intro endpoint hpos
        obtain ⟨hnone, hwarned⟩ := h.warned endpoint hpos
        rw [hrobots]
        exact ⟨fun b hb => hnone b ((pending_congr hmessages).mp hb),
          fun rf hrf => hwarned rf (List.mem_of_mem_erase hrf)⟩
  | other e hother htime hrobots hmessages =>
      have hticks : ticks (⟨r, e, r'⟩ :: tr) = ticks tr := by
        apply ticks_other
        rintro now rfl
        cases hother
      have hreceive : ∀ beacon, e ≠ .receive (.beaconSignal beacon) := by
        rintro beacon rfl
        cases hother
      have hwarnings : ∀ endpoint, warningsSince endpoint (⟨r, e, r'⟩ :: tr) =
          warningsSince endpoint tr := by
        apply warningsSince_other hreceive
        rintro robot rfl
        cases hother
      refine ⟨hunique, ?_, ?_, ?_, ?_⟩
      · rw [hticks, receivedBeacons_other hreceive, hrobots]
        intro b hb
        rw [hmessages]
        exact h.seen b hb
      · rw [hticks]
        intro now hnow
        rcases htime with htime | htime
        · exact h.time_mem now (htime ▸ hnow)
        · rw [htime] at hnow
          cases hnow
      · intro endpoint
        rw [hwarnings]
        exact h.atMostOne endpoint
      · intro endpoint hpos
        rw [hwarnings] at hpos
        obtain ⟨hnone, hwarned⟩ := h.warned endpoint hpos
        rw [hrobots]
        exact ⟨fun b hb => hnone b ((hmessages b).mp hb), hwarned⟩

/-- All beacons of a robot that is removed are handled, and none of them was seen later than the last
one. -/
theorem Tracked.removedInTime (h : Tracked tr r) (hin : InOrder r e) (hchange : Change r r' e) :
    RemovedInTime ⟨r, e, r'⟩ tr := by
  unfold RemovedInTime
  dsimp only
  split
  · next robot now hnow =>
      intro beacon hreceived hfrom
      cases hchange with
      | remove _ now' hnow' hmem htimeout htime hrobots hmessages =>
          obtain rfl := Option.some.inj (hnow.symm.trans hnow')
          unfold Time.timeout at htimeout ⊢
          rw [Time.diffSec_eq] at htimeout ⊢
          rcases h.seen beacon hreceived with hpending | ⟨rf, hrf, hsame, hle⟩ | ⟨t, ht, hold⟩
          · exact absurd hfrom (hin _ hpending beacon rfl)
          · obtain rfl := h.eq_of_endpoint hrf hmem (hsame.trans hfrom)
            linarith
          · -- it was too old at an earlier tick
            unfold Time.timeout at hold
            rw [Time.diffSec_eq] at hold
            have hle := (h.time_mem now hnow).2 t ht
            linarith
      | other _ hother => cases hother
  · trivial

/-! ## Runs -/

/-- There is at most one robot for a host and port in every reached state. -/
theorem unique_run (h : RegistryRun clock rand cfg tr r) :
    (r.robots.map Robot.endpoint).Nodup :=
  @Run.invariant _ _ _ _ _ _ (fun r => (r.robots.map Robot.endpoint).Nodup) List.nodup_nil
    (fun _ _ _ hunique hstep => (Change.of_step hstep).unique hunique) h

theorem tracked_start : Tracked [] start where
  unique := List.nodup_nil
  seen := by simp [receivedBeacons]
  time_mem := by simp [start]
  atMostOne := by simp [warningsSince]
  warned := by simp [warningsSince]

theorem tracked_run (h : RegistryRun clock rand cfg tr r) (horder : TicksInOrder tr)
    (hin : ∀ t ∈ tr, InOrder t.pre t.label) : Tracked tr r ∧ AllSteps RemovedInTime tr := by
  induction h with
  | init => exact ⟨tracked_start, trivial⟩
  | @step tr r r' e hrun hstep ih =>
      have horder' : TicksInOrder tr := by
        refine List.Pairwise.sublist ?_ horder
        exact (List.sublist_cons_self ..).filterMap _
      obtain ⟨hinNow, hinEarlier⟩ := List.forall_mem_cons.mp hin
      obtain ⟨htracked, hremoved⟩ := ih horder' hinEarlier
      have hchange := Change.of_step hstep
      exact ⟨htracked.step horder hinNow hchange, htracked.removedInTime hinNow hchange, hremoved⟩

/-- **The robots are a registry** in every run whose beacons are handled in order, each before its
robot is found lost. -/
theorem isRegistry (h : RegistryRun clock rand cfg tr r) (horder : TicksInOrder tr)
    (hin : ∀ t ∈ tr, InOrder t.pre t.label) : IsRegistry tr r := by
  obtain ⟨htracked, hremoved⟩ := tracked_run h horder hin
  exact ⟨htracked.unique, hremoved, htracked.atMostOne⟩

/-- A beacon of one robot. -/
def beaconAt (rcvdAt : Time) : Beacon :=
  { fromHost := "10.0.0.1", fromPort := 4445, rcvdAt, teamName := "b-it-bots", peerName := "youBot" }

/-- The robot seen last at a time. -/
def robotAt (lastSeen : Time) (warningSent : Bool) : Robot :=
  { team := "b-it-bots", name := "youBot", host := "10.0.0.1", port := 4445, lastSeen, warningSent }

/-- Two beacons of a robot are handled in order, it is found lost, and comes back for some time. -/
def seenAgain : List PublicEvent :=
  [.receive (.beaconSignal (beaconAt ⟨1, 0⟩)), .receive (.beaconSignal (beaconAt ⟨1, 30000⟩)),
    .tick ⟨1, 40000⟩, .netRecvBeaconUnknown (beaconAt ⟨1, 0⟩),
    .netRecvBeaconKnown (beaconAt ⟨1, 30000⟩), .retractTime,
    .tick ⟨6, 40000⟩, .robotLost (robotAt ⟨1, 30000⟩ false), .retractTime,
    .receive (.beaconSignal (beaconAt ⟨7, 0⟩)), .tick ⟨7, 10000⟩,
    .netRecvBeaconKnown (beaconAt ⟨7, 0⟩), .retractTime,
    .tick ⟨12, 20000⟩, .robotLost (robotAt ⟨7, 0⟩ false), .retractTime,
    .tick ⟨1087, 20000⟩, .robotRemove (robotAt ⟨7, 0⟩ true)]

theorem isRegistry_of_seenAgain :
    ∃ tr r, RegistryRun everySecond id oneTeam tr r ∧ tr.length = 18 ∧ IsRegistry tr r := by
  have hrun : (trace (registryStep everySecond id oneTeam) start seenAgain).any (fun p =>
      decide (p.1.length = 18 ∧ TicksInOrder p.1 ∧ ∀ t ∈ p.1, InOrder t.pre t.label)) = true := by
    decide +kernel
  obtain ⟨⟨tr, r⟩, htrace, hrun⟩ := (Option.any_eq_true _ _).mp hrun
  obtain ⟨hlength, horder, hin⟩ := of_decide_eq_true hrun
  have h := run_of_trace htrace
  exact ⟨tr, r, h, hlength, isRegistry h horder hin⟩

/-- Of two beacons, the one received last is handled first. -/
def handledNewestFirst : List PublicEvent :=
  [.receive (.beaconSignal (beaconAt ⟨1, 0⟩)), .receive (.beaconSignal (beaconAt ⟨1, 30000⟩)),
    .tick ⟨1, 40000⟩, .netRecvBeaconUnknown (beaconAt ⟨1, 30000⟩),
    .netRecvBeaconKnown (beaconAt ⟨1, 0⟩), .retractTime,
    .tick ⟨6, 20000⟩, .robotLost (robotAt ⟨1, 0⟩ false), .retractTime,
    .tick ⟨1081, 20000⟩, .robotRemove (robotAt ⟨1, 0⟩ true)]

/-- The robot is removed 1079.99 seconds after its last beacon. -/
theorem removed_too_early_of_handledNewestFirst :
    ∃ tr r, RegistryRun everySecond id oneTeam tr r ∧ TicksInOrder tr ∧
      ¬ IsRegistry tr r := by
  have hrun : (trace (registryStep everySecond id oneTeam) start handledNewestFirst).any
      (fun p => decide (TicksInOrder p.1 ∧ ¬ AllSteps RemovedInTime p.1)) = true := by
    decide +kernel
  obtain ⟨⟨tr, r⟩, htrace, hrun⟩ := (Option.any_eq_true _ _).mp hrun
  obtain ⟨horder, hearly⟩ := of_decide_eq_true hrun
  exact ⟨tr, r, run_of_trace htrace, horder, fun h => hearly h.removed⟩

end

end PublicRefbox

end FactoryHub.AtWork
