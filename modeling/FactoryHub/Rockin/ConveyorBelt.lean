import FactoryHub.Lib.Run
import FactoryHub.Rockin.Benchmark
import Mathlib.Data.List.Nodup

/-!
# The conveyor belt

`device-conveyor-belt.clp`. Clients start and stop the belt at will. A robot starts it with a
TriggeredConveyorBeltCommand, which carries the number of the cycle it asks for. Whether the belt is
running is told by the device at the moment a rule asks for it, so that each message comes with an
answer of its own.

* `startBelt_mem_iff`, `granted_cases` — what starts the belt, and what moves the cycle.
* `grantedOnce` — along any run, the belt is started for each cycle once.
-/

namespace FactoryHub.Rockin

open Clips Lib

inductive RunMode where
  | stop | start
  deriving DecidableEq, Repr

/-- `TriggeredConveyorBeltCommand`. -/
structure TriggeredConveyorBeltCommand where
  command : RunMode
  nextCycle : Int
  deriving DecidableEq, Repr

/-- `TriggeredConveyorBeltStatus`. -/
structure TriggeredConveyorBeltStatus where
  state : RunMode
  cycle : Int
  deriving DecidableEq, Repr

/-- What the rules do to the outside. -/
inductive BeltOutput where
  | attentionMessage (text : String)
  | startBelt
  | stopBelt
  | broadcast (status : TriggeredConveyorBeltStatus)
  deriving DecidableEq, Repr

/-- The refbox and the fact `triggered-conveyor-belt`. -/
structure BeltRefbox extends Refbox where
  cycle : Int

/-- The refbox after the `init` rules. -/
def BeltRefbox.start : BeltRefbox := { Refbox.start with cycle := 0 }

/-- An input of the benchmark and the registry of robots, a ConveyorBeltCommand of a client, a
TriggeredConveyorBeltCommand from the host of a robot, or the time to send the status; `running` is
what `conveyor-belt-is-running` answers. -/
inductive BeltInput where
  | refbox (i : Input)
  | conveyorBeltCommand (command : RunMode)
  | triggeredConveyorBeltCommand (robot : Robot) (message : TriggeredConveyorBeltCommand)
      (running : Bool)
  | sendTriggeredConveyorBeltStatus (running : Bool)
  deriving DecidableEq, Repr

namespace BeltRefbox

/-- `net-recv-ConveyorBeltCommand-client`. -/
def conveyorBeltCommand : RunMode → List BeltOutput
  | .stop => [.stopBelt]
  | .start => [.startBelt]

/-- `net-recv-TriggeredConveyorBeltCommand`. -/
def triggeredConveyorBeltCommand (robot : Robot) (message : TriggeredConveyorBeltCommand)
    (running : Bool) (r : BeltRefbox) : List BeltOutput × BeltRefbox :=
  if robot ∉ r.robots then ([], r)
  -- peers may only start the conveyor belt
  else if message.command = .stop then ([], r)
  else if message.nextCycle ≠ r.cycle + 1 then ([], r)
  else if running then ([], r)
  else
    let text := "Robot " ++ robot.name ++ "/" ++ robot.team ++ " commands conveyor belt to start"
    ([.attentionMessage text, .startBelt], { r with cycle := r.cycle + 1 })

/-- `net-create-TriggeredConveyorBeltStatus`. -/
def createTriggeredConveyorBeltStatus (currentCycle : Int) (running : Bool) :
    TriggeredConveyorBeltStatus :=
  { state := if running then .start else .stop, cycle := currentCycle }

/-- The outputs and the refbox after an input. -/
def handle (clock : Clock) (rand : ℕ → ℕ) (r : BeltRefbox) :
    BeltInput → List BeltOutput × BeltRefbox
  | .refbox i => ([], { r.toRefbox.step clock rand i with cycle := r.cycle })
  | .conveyorBeltCommand command => (conveyorBeltCommand command, r)
  | .triggeredConveyorBeltCommand robot message running =>
      r.triggeredConveyorBeltCommand robot message running
  | .sendTriggeredConveyorBeltStatus running =>
      ([.broadcast (createTriggeredConveyorBeltStatus r.cycle running)], r)

/-- The refbox after an input. -/
def step (clock : Clock) (rand : ℕ → ℕ) (r : BeltRefbox) (i : BeltInput) : BeltRefbox :=
  (r.handle clock rand i).2

end BeltRefbox

/-! ## One message -/

section

variable {clock : Clock} {rand : ℕ → ℕ} {r : BeltRefbox} {robot : Robot}
  {message : TriggeredConveyorBeltCommand} {running : Bool}

/-- The message of a known robot asks for the next cycle of a belt that stands still. -/
def BeltRefbox.Grants (r : BeltRefbox) (robot : Robot) (message : TriggeredConveyorBeltCommand)
    (running : Bool) : Prop :=
  robot ∈ r.robots ∧ message.command = .start ∧ message.nextCycle = r.cycle + 1 ∧ running = false

/-- What a message of a robot does: all of it, or nothing. -/
theorem triggeredConveyorBeltCommand_cases (r : BeltRefbox) (robot : Robot)
    (message : TriggeredConveyorBeltCommand) (running : Bool) :
    (r.Grants robot message running ∧ ∃ text,
      r.triggeredConveyorBeltCommand robot message running =
        ([.attentionMessage text, .startBelt], { r with cycle := r.cycle + 1 })) ∨
    (¬ r.Grants robot message running ∧
      r.triggeredConveyorBeltCommand robot message running = ([], r)) := by
  unfold BeltRefbox.triggeredConveyorBeltCommand
  split
  · next hunknown => exact Or.inr ⟨fun h => hunknown h.1, rfl⟩
  · next hknown =>
      split
      · next hstop =>
          refine Or.inr ⟨fun h => ?_, rfl⟩
          have hstart := h.2.1
          rw [hstop] at hstart
          cases hstart
      · next hstart =>
          split
          · next hcycle => exact Or.inr ⟨fun h => hcycle h.2.2.1, rfl⟩
          · next hcycle =>
              split
              · next hrunning =>
                  refine Or.inr ⟨fun h => ?_, rfl⟩
                  have hstanding := h.2.2.2
                  rw [hrunning] at hstanding
                  cases hstanding
              · next hrunning =>
                  refine Or.inl ⟨⟨not_not.mp hknown, ?_, not_not.mp hcycle, ?_⟩, _, rfl⟩
                  · cases hcommand : message.command with
                    | stop => exact absurd hcommand hstart
                    | start => rfl
                  · exact Bool.eq_false_of_not_eq_true hrunning

/-- What a message of a robot does to the belt. -/
theorem startBelt_mem_iff :
    .startBelt ∈ (r.triggeredConveyorBeltCommand robot message running).1 ↔
      r.Grants robot message running := by
  rcases triggeredConveyorBeltCommand_cases r robot message running with
    ⟨hgrants, text, heq⟩ | ⟨hnot, heq⟩
  · rw [heq]
    simp [hgrants]
  · rw [heq]
    simp [hnot]

theorem stopBelt_notMem :
    .stopBelt ∉ (r.triggeredConveyorBeltCommand robot message running).1 := by
  rcases triggeredConveyorBeltCommand_cases r robot message running with
    ⟨-, text, heq⟩ | ⟨-, heq⟩
  · rw [heq]
    simp
  · rw [heq]
    simp

end

/-! ## Along a run -/

section

variable {clock : Clock} {rand : ℕ → ℕ} {tr : List (Step BeltRefbox BeltInput)}
  {start r : BeltRefbox}

/-- The cycle that the message of a step asks for, if it is from a robot and starts the belt. -/
def granted (clock : Clock) (rand : ℕ → ℕ) (t : Step BeltRefbox BeltInput) : Option Int :=
  match t.label with
  | .triggeredConveyorBeltCommand _ message _ =>
      if .startBelt ∈ (t.pre.handle clock rand t.label).1 then some message.nextCycle else none
  | _ => none

/-- The cycles asked for by the messages that started the belt, in the order of the starts. -/
def grants (clock : Clock) (rand : ℕ → ℕ) (tr : List (Step BeltRefbox BeltInput)) : List Int :=
  (tr.filterMap (granted clock rand)).reverse

/-- A step grants the next cycle and moves on to it, or does neither. -/
theorem granted_cases (clock : Clock) (rand : ℕ → ℕ) (r : BeltRefbox) (i : BeltInput) :
    (granted clock rand ⟨r, i, r.step clock rand i⟩ = some (r.cycle + 1) ∧
      (r.step clock rand i).cycle = r.cycle + 1) ∨
    (granted clock rand ⟨r, i, r.step clock rand i⟩ = none ∧
      (r.step clock rand i).cycle = r.cycle) := by
  cases i with
  | triggeredConveyorBeltCommand robot message running =>
      rcases triggeredConveyorBeltCommand_cases r robot message running with
        ⟨hgrants, text, heq⟩ | ⟨hnot, heq⟩
      · left
        constructor
        · rw [← hgrants.2.2.1]
          exact if_pos (startBelt_mem_iff.mpr hgrants)
        · show (r.triggeredConveyorBeltCommand robot message running).2.cycle = _
          rw [heq]
      · right
        constructor
        · exact if_neg fun hmem => hnot (startBelt_mem_iff.mp hmem)
        · show (r.triggeredConveyorBeltCommand robot message running).2.cycle = _
          rw [heq]
  | _ => exact Or.inr ⟨rfl, rfl⟩

/-- The grants of a run count up from the initial cycle to the current one. -/
theorem grants_of_run (h : Run (fun r i r' => r.step clock rand i = r') start tr r) :
    grants clock rand tr = (List.range (grants clock rand tr).length).map
        (fun n : ℕ => start.cycle + (n + 1)) ∧
      r.cycle = start.cycle + (grants clock rand tr).length := by
  induction h with
  | init => simp [grants]
  | @step tr r r' i hrun hstep ih =>
      subst hstep
      obtain ⟨hgrants, hcycle⟩ := ih
      rcases granted_cases clock rand r i with ⟨hsome, hmoved⟩ | ⟨hnone, hkept⟩
      · have hcons : grants clock rand (⟨r, i, r.step clock rand i⟩ :: tr) =
            grants clock rand tr ++ [r.cycle + 1] := by
          unfold grants
          rw [List.filterMap_cons_some hsome, List.reverse_cons]
        rw [hcons, hmoved, List.length_append, List.length_singleton, List.range_succ,
          List.map_append, ← hgrants, hcycle]
        constructor
        · simp [add_assoc]
        · push_cast
          ring
      · have hcons : grants clock rand (⟨r, i, r.step clock rand i⟩ :: tr) =
            grants clock rand tr := by
          unfold grants
          rw [List.filterMap_cons_none hnone]
        rw [hcons, hkept]
        exact ⟨hgrants, hcycle⟩

/-- A cycle of the belt is granted at most once. -/
structure GrantedOnce (clock : Clock) (rand : ℕ → ℕ) (start : BeltRefbox)
    (tr : List (Step BeltRefbox BeltInput)) : Prop where
  /-- The n-th start, counted from zero, was asked for as the cycle `n + 1` after the initial one. -/
  nth : ∀ (n : ℕ) (next : Int), (grants clock rand tr)[n]? = some next → next = start.cycle + (n + 1)
  /-- No cycle is granted twice. -/
  nodup : (grants clock rand tr).Nodup
  /-- No message of a robot starts a running belt, or stops it. -/
  standing : ∀ t ∈ tr, ∀ robot message running,
    t.label = .triggeredConveyorBeltCommand robot message running →
      (.startBelt ∈ (t.pre.handle clock rand t.label).1 → running = false) ∧
        .stopBelt ∉ (t.pre.handle clock rand t.label).1

/-- **A belt cycle is granted at most once**, whatever messages come from robots and clients and
whatever the belt does. -/
theorem grantedOnce (h : Run (fun r i r' => r.step clock rand i = r') start tr r) :
    GrantedOnce clock rand start tr where
  nth := by
    intro n next hnext
    rw [(grants_of_run h).1, List.getElem?_map, Option.map_eq_some_iff] at hnext
    obtain ⟨k, hk, rfl⟩ := hnext
    obtain ⟨hlt, hget⟩ := List.getElem?_eq_some_iff.mp hk
    rw [List.getElem_range] at hget
    rw [hget]
  nodup := by
    rw [(grants_of_run h).1]
    refine List.Nodup.map ?_ List.nodup_range
    intro n k heq
    have hsame : start.cycle + ((n : Int) + 1) = start.cycle + ((k : Int) + 1) := heq
    omega
  standing := by
    intro t ht robot message running hlabel
    rw [hlabel]
    constructor
    · intro hstart
      exact (startBelt_mem_iff.mp hstart).2.2.2
    · exact stopBelt_notMem

/-- Two robots of one host send the same commands, twice each; a client stops the belt between. -/
def sameHost : List BeltInput :=
  let a : Robot := { team := "a", name := "one", host := "10.0.0.1", port := 4444 }
  let b : Robot := { team := "a", name := "two", host := "10.0.0.1", port := 4445 }
  [.refbox (.beacon a), .refbox (.beacon b),
    .triggeredConveyorBeltCommand a ⟨.start, 1⟩ false,
    .triggeredConveyorBeltCommand b ⟨.start, 1⟩ true, .conveyorBeltCommand .stop,
    .triggeredConveyorBeltCommand a ⟨.start, 1⟩ false, .sendTriggeredConveyorBeltStatus false,
    .triggeredConveyorBeltCommand b ⟨.stop, 2⟩ false,
    .triggeredConveyorBeltCommand b ⟨.start, 2⟩ false]

theorem grantedOnce_of_sameHost :
    let steps := record (BeltRefbox.step everySecond id) .start sameHost
    GrantedOnce everySecond id .start steps ∧ grants everySecond id steps = [1, 2] := by
  refine ⟨grantedOnce (run_record (BeltRefbox.step everySecond id) .start sameHost), ?_⟩
  decide +kernel

end

end FactoryHub.Rockin
