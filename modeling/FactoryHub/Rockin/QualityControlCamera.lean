import FactoryHub.Lib.Run
import Mathlib.Data.List.Count

/-!
# The quality control camera

`TriggeredConveyorBeltThread` asserts a fact for each status of the camera, and a rule makes an item of
it. The camera reports a plate as long as it sees it, so that there is a further item whenever the rule
has fired between two such statuses.

* `Counted.step` — items and those that facts are still to become, against the changes of state.
* `items_le_changes` — the items of a run.
-/

namespace FactoryHub.Rockin

open Lib

/-- The enum `State` of a QualityControlCameraStatus. -/
inductive CameraState where
  | noPlate | unknownPlate | faultyPlate | unusablePlate
  deriving DecidableEq, Repr

/-- `QualityControlCameraStatus`. -/
structure QualityControlCameraStatus where
  isDeviceConnected : Bool := false
  state : CameraState := .noPlate
  deriving DecidableEq, Repr

/-- The symbols in facts `quality-control-camera-object`. -/
inductive Plate where
  | noPlate | unknownPlate | faultyPlate | perfectPlate | unusablePlate
  deriving DecidableEq, Repr

/-- The symbol for a state. -/
def CameraState.detectedPlate : CameraState → Plate
  | .noPlate => .noPlate
  | .unknownPlate => .unknownPlate
  | .faultyPlate => .faultyPlate
  | .unusablePlate => .unusablePlate

/-- The cover plates. -/
inductive CoverPlate where
  | ax06 | ax07 | ax08
  deriving DecidableEq, Repr

/-- The object that the rule makes an item of. -/
def Plate.objectId : Plate → Option CoverPlate
  | .faultyPlate => some .ax06
  | .perfectPlate => some .ax07
  | .unusablePlate => some .ax08
  | .noPlate | .unknownPlate => none

/-- An item with the location `conveyor_belt-01`. -/
structure PlateItem where
  objectId : CoverPlate
  quantity : ℕ
  deriving DecidableEq, Repr

/-- What the thread keeps of the camera, the facts `quality-control-camera-object`, and the items that the
rule inserted into the inventory. Times are in milliseconds. -/
structure QualityControl where
  lastCameraStatusMsg : QualityControlCameraStatus := {}
  prevCameraUpdateTimestamp : Option Int := none
  lastState : CameraState := .noPlate
  facts : List Plate := []
  items : List PlateItem := []
  deriving DecidableEq, Repr

/-- A turn of the thread at a time, which finds a status, data that is none, or nothing; and a rule that
fires. -/
inductive CameraEvent where
  | recv (now : Int) (status : QualityControlCameraStatus)
  | recvInvalid
  | recvNothing (now : Int)
  | objectDetected (plate : Plate)
  deriving DecidableEq, Repr

namespace QualityControl

/-- `receiveAndBufferCameraStatusMsg` with a status. A fact that exists is not asserted again. -/
def receive (now : Int) (status : QualityControlCameraStatus) (q : QualityControl) :
    QualityControl :=
  { q with
    lastCameraStatusMsg := status
    prevCameraUpdateTimestamp := some now
    lastState := status.state
    facts := q.facts.insert status.state.detectedPlate }

/-- `receiveAndBufferCameraStatusMsg` without a message. -/
def receiveNothing (now : Int) (q : QualityControl) : QualityControl :=
  if ∃ prev ∈ q.prevCameraUpdateTimestamp, now - prev < 3000 then q
  else { q with lastCameraStatusMsg := { isDeviceConnected := false, state := .unknownPlate } }

/-- `quality-control-camera-object-detected`. -/
def objectDetected (plate : Plate) (q : QualityControl) : Option QualityControl :=
  if plate ∈ q.facts then
    let q := { q with facts := q.facts.erase plate }
    match plate.objectId with
    | some objectId => some { q with items := { objectId, quantity := 1 } :: q.items }
    | none => some q
  else none

/-- What follows on an event, if it can happen. -/
def step (q : QualityControl) : CameraEvent → Option QualityControl
  | .recv now status => some (q.receive now status)
  | .recvInvalid => some q
  | .recvNothing now => some (q.receiveNothing now)
  | .objectDetected plate => q.objectDetected plate

/-! ## The record of a run -/

/-- The state of the last status received. There is no plate before the first one. -/
def lastStatus : List (Step QualityControl CameraEvent) → CameraState
  | [] => .noPlate
  | t :: earlier =>
      match t.label with
      | .recv _ status => status.state
      | _ => lastStatus earlier

/-- The statuses whose state is not that of the status before. -/
def changes : List (Step QualityControl CameraEvent) → ℕ
  | [] => 0
  | t :: earlier =>
      match t.label with
      | .recv _ status =>
          if status.state = lastStatus earlier then changes earlier else changes earlier + 1
      | _ => changes earlier

/-- A plate that is reported again has its fact in memory still. -/
def ReportedOnce (q : QualityControl) : CameraEvent → Prop
  | .recv _ status =>
      status.state = q.lastState → status.state.detectedPlate.objectId.isSome →
        status.state.detectedPlate ∈ q.facts
  | _ => True

instance (q : QualityControl) (e : CameraEvent) : Decidable (ReportedOnce q e) := by
  unfold ReportedOnce
  split <;> infer_instance

/-- The facts that the rule makes an item of. -/
def plates (q : QualityControl) : ℕ := q.facts.countP fun plate => plate.objectId.isSome

/-- There has been a change for each item and for each fact to become one. -/
structure Counted (tr : List (Step QualityControl CameraEvent)) (q : QualityControl) : Prop where
  lastState_eq : q.lastState = lastStatus tr
  items_add_plates_le : q.items.length + q.plates ≤ changes tr

section

variable {q q' : QualityControl} {e : CameraEvent} {tr : List (Step QualityControl CameraEvent)}

theorem receive_plates (now : Int) (status : QualityControlCameraStatus) :
    (q.receive now status).plates ≤ q.plates + 1 := by
  show (q.facts.insert status.state.detectedPlate).countP _ ≤ q.facts.countP _ + 1
  by_cases hmem : status.state.detectedPlate ∈ q.facts
  · rw [List.insert_of_mem hmem]
    exact Nat.le_succ _
  · rw [List.insert_of_not_mem hmem, List.countP_cons]
    split
    · exact Nat.le_refl _
    · exact Nat.le_succ _

/-- A status that no new item comes from. -/
theorem receive_plates_of_known {now : Int} {status : QualityControlCameraStatus}
    (h : status.state.detectedPlate.objectId.isSome → status.state.detectedPlate ∈ q.facts) :
    (q.receive now status).plates = q.plates := by
  show (q.facts.insert status.state.detectedPlate).countP _ = q.facts.countP _
  by_cases hmem : status.state.detectedPlate ∈ q.facts
  · rw [List.insert_of_mem hmem]
  · rw [List.insert_of_not_mem hmem, List.countP_cons, if_neg fun hplate => hmem (h hplate)]
    rfl

/-- The rule makes an item of a fact. -/
theorem objectDetected_sum {plate : Plate} (h : q.objectDetected plate = some q') :
    q'.lastState = q.lastState ∧ q'.items.length + q'.plates = q.items.length + q.plates := by
  obtain ⟨hmem, h⟩ := Option.ite_none_right_eq_some.mp h
  have herase := List.countP_erase (fun plate => plate.objectId.isSome) q.facts plate
  have hpos : plate.objectId.isSome = true → 0 < q.plates :=
    fun hplate => List.countP_pos_iff.mpr ⟨plate, hmem, hplate⟩
  cases hobject : plate.objectId with
  | none =>
      rw [hobject] at h
      cases h
      refine ⟨rfl, ?_⟩
      simp only [hobject, Option.isSome_none, Bool.false_eq_true, and_false, if_false] at herase
      show q.items.length + (q.facts.erase plate).countP _ = _
      rw [herase]
      rfl
  | some objectId =>
      rw [hobject] at h hpos
      cases h
      refine ⟨rfl, ?_⟩
      simp only [hobject, hmem, Option.isSome_some, and_self, if_true] at herase
      show q.items.length + 1 + (q.facts.erase plate).countP _ = _
      rw [herase]
      have hpos := hpos rfl
      unfold plates at hpos ⊢
      omega

theorem Counted.step (h : Counted tr q) (hreported : ReportedOnce q e) (hstep : q.step e = some q') :
    Counted (⟨q, e, q'⟩ :: tr) q' := by
  have hsum := h.items_add_plates_le
  cases e with
  | recv now status =>
      cases hstep
      refine ⟨rfl, ?_⟩
      show q.items.length + (q.receive now status).plates ≤ ite _ _ _
      rw [← h.lastState_eq]
      by_cases hsame : status.state = q.lastState
      · rw [if_pos hsame, receive_plates_of_known (hreported hsame)]
        exact hsum
      · rw [if_neg hsame]
        have hle := receive_plates (q := q) now status
        omega
  | recvInvalid =>
      cases hstep
      exact ⟨h.lastState_eq, hsum⟩
  | recvNothing now =>
      cases hstep
      unfold receiveNothing
      split
      · exact ⟨h.lastState_eq, hsum⟩
      · exact ⟨h.lastState_eq, hsum⟩
  | objectDetected plate =>
      obtain ⟨hlast, heq⟩ := objectDetected_sum hstep
      exact ⟨hlast.trans h.lastState_eq, Nat.le_trans (Nat.le_of_eq heq) hsum⟩

end

/-! ## Runs -/

abbrev CameraRun : List (Step QualityControl CameraEvent) → QualityControl → Prop :=
  Run (fun q e q' => step q e = some q') {}

theorem counted_start : Counted [] {} := ⟨rfl, Nat.le_refl 0⟩

/-- **Plates are listed once** in every run in which a plate is reported again only as long as the fact of
it is in memory. -/
theorem items_le_changes {tr : List (Step QualityControl CameraEvent)} {q : QualityControl}
    (h : CameraRun tr q) (hreported : ∀ t ∈ tr, ReportedOnce t.pre t.label) :
    q.items.length ≤ changes tr := by
  have hcounted : Counted tr q := by
    refine Run.history_invariant_of (C := ReportedOnce) counted_start ?_ h hreported
    intro tr q e q' hcounted hreported hstep
    exact hcounted.step hreported hstep
  exact Nat.le_trans (Nat.le_add_right ..) hcounted.items_add_plates_le

/-- A status with a plate. -/
def seen (now : Int) (state : CameraState) : CameraEvent :=
  .recv now { isDeviceConnected := true, state }

/-- A plate that two statuses report is listed, and after it another one. -/
def twoPlates : List CameraEvent :=
  [seen 0 .faultyPlate, seen 40 .faultyPlate, .objectDetected .faultyPlate, seen 80 .noPlate,
    .objectDetected .noPlate, seen 120 .unusablePlate, .objectDetected .unusablePlate,
    .recvNothing 5000]

theorem items_le_changes_of_twoPlates :
    ∃ tr q, CameraRun tr q ∧ q.items.length = 2 ∧ changes tr = 3 ∧ q.items.length ≤ changes tr := by
  have hrun : (trace step {} twoPlates).any (fun p =>
      decide (p.2.items.length = 2 ∧ changes p.1 = 3 ∧ ∀ t ∈ p.1, ReportedOnce t.pre t.label)) =
        true := by
    decide +kernel
  obtain ⟨⟨tr, q⟩, htrace, hrun⟩ := (Option.any_eq_true _ _).mp hrun
  obtain ⟨hitems, hchanges, hreported⟩ := of_decide_eq_true hrun
  have h := run_of_trace htrace
  exact ⟨tr, q, h, hitems, hchanges, items_le_changes h hreported⟩

/-- The camera reports a faulty plate again after the rule has fired. -/
def plateStays : List CameraEvent :=
  [seen 0 .faultyPlate, .objectDetected .faultyPlate, seen 40 .faultyPlate,
    .objectDetected .faultyPlate]

/-- One plate is listed twice. -/
theorem more_items_than_changes_of_plateStays :
    ∃ tr q, CameraRun tr q ∧ changes tr = 1 ∧ ¬ q.items.length ≤ changes tr := by
  have hrun : (trace step {} plateStays).any (fun p =>
      decide (changes p.1 = 1 ∧ ¬ p.2.items.length ≤ changes p.1)) = true := by
    decide +kernel
  obtain ⟨⟨tr, q⟩, htrace, hrun⟩ := (Option.any_eq_true _ _).mp hrun
  obtain ⟨hchanges, hmore⟩ := of_decide_eq_true hrun
  exact ⟨tr, q, run_of_trace htrace, hchanges, hmore⟩

end QualityControl

end FactoryHub.Rockin
