import FactoryHub.Lib.Stores
import FactoryHub.Lib.Triple
import Mathlib.Algebra.Group.Nat.Defs
import Mathlib.Data.List.FinRange

/-!
# Registers of the PLCs

`src/src/libs/llsf_sps/sps_comm.cpp`: lights and RFID sensors of the machines, sixteen at each PLC. A
machine index is an `unsigned int`, and so is the counter of the loops over the PLCs.

* `writes_setLight`, `writes_writeRfid` — the registers that a machine has.
* `readRfids_agrees`, `readRfids_disagrees` — reading all machines against reading one.
* `addressing_consistent` — the addressing is consistent, and both ways of reading agree for up to
  `2 ^ 28` PLCs.
-/

namespace FactoryHub.Llsf.SpsComm

open Lib

/-! ## The Modbus connections -/

/-- What the program is left with: an exception, whose text is without that of the Modbus error, or,
after all rounds it is given, a loop that goes on. The numbers of an `OutOfBoundsException` are what its
constructor is given, which takes them as floats and so rounds them from 2^24 on. -/
inductive Stop where
  | outOfBounds (text : String) (value min max : ℕ)
  | failed (text : String)
  | unfinished
  deriving DecidableEq, Repr

/-- The PLCs. Requests are numbered in their order: whether one goes through, and the input registers
of a PLC when it does. -/
structure Plcs where
  size : ℕ
  answers : ℕ → Bool
  inputs : ℕ → ℕ → ℕ → UInt16

/-- Values written to the registers of a PLC from an address on. -/
structure Write where
  plc : ℕ
  addr : ℕ
  values : List UInt16
  deriving DecidableEq, Repr

/-- The requests made so far. -/
structure Log where
  requests : ℕ := 0
  writes : List Write := []

abbrev Program (α : Type) := ExceptT Stop (StateM Log) α

/-- The number of a request. -/
def request : StateM Log ℕ :=
  modifyGet fun log => (log.requests, { log with requests := log.requests + 1 })

/-- `modbus_read_registers`: all the registers, or a failure. -/
def modbusReadRegisters (plcs : Plcs) (plc addr nb : ℕ) : StateM Log (Option (Fin nb → UInt16)) := do
  let k ← request
  return if plcs.answers k then some fun i => plcs.inputs k plc (addr + i) else none

/-- `modbus_write_registers`, and `modbus_write_register` of one value. -/
def modbusWriteRegisters (plcs : Plcs) (plc addr : ℕ) (values : List UInt16) : StateM Log Bool := do
  let k ← request
  if plcs.answers k then
    modify fun log => { log with writes := log.writes ++ [⟨plc, addr, values⟩] }
  return plcs.answers k

/-- A read that throws. -/
def readOrThrow (plcs : Plcs) (plc addr nb : ℕ) (text : String) : Program (Fin nb → UInt16) := do
  match ← modbusReadRegisters plcs plc addr nb with
  | some regs => return regs
  | none => throw (.failed text)

/-- A write that throws. -/
def writeOrThrow (plcs : Plcs) (plc addr : ℕ) (values : List UInt16) (text : String) :
    Program Unit := do
  unless ← modbusWriteRegisters plcs plc addr values do
    throw (.failed text)

/-! ## Addresses -/

def mbInRegStart : UInt32 := 0x4000

def mbOutRegStart : UInt32 := 0x4400

def outRegPerSignal : UInt32 := 3

def inRegPerRfid : UInt32 := 3

def outRegPerRfid : UInt32 := 3

def numMachines : UInt32 := 16

def outRegStartSignal : UInt32 := mbOutRegStart

def outRegStartRfid : UInt32 := outRegStartSignal + outRegPerSignal * numMachines

def inRegStartRfid : UInt32 := mbInRegStart

def rfidHasPuck : UInt16 := 0x0100

def rfidWriteDone : UInt16 := 0x0200

def rfidWritePuckId : UInt16 := 0x0100

def rfidResetWrite : UInt16 := 0x0200

/-- `NO_PUCK`. -/
def noPuck : UInt32 := 0xFFFFFFFF

/-- `Light`; `lightEnd` is the end of an iteration. -/
inductive Light where
  | red | yellow | green | lightEnd
  deriving DecidableEq, Repr

def Light.value : Light → UInt32
  | .red => 0
  | .yellow => 1
  | .green => 2
  | .lightEnd => 3

inductive SignalState where
  | off | on | blink
  deriving DecidableEq, Repr

/-- The first register of the input of a machine of a PLC. -/
def rfidInAddr (m : UInt32) : ℕ := (inRegStartRfid + m * inRegPerRfid).toNat

/-- The first register of the RFID output of a machine of a PLC. -/
def rfidOutAddr (m : UInt32) : ℕ := (outRegStartRfid + m * outRegPerRfid).toNat

/-- The register of a light of a machine of a PLC. -/
def lightAddr (m : UInt32) (light : Light) : ℕ :=
  (outRegStartSignal + m * outRegPerSignal + light.value).toNat

def hasPuck (reg : UInt16) : Bool := reg &&& rfidHasPuck ≠ 0

/-- The id in two registers. -/
def idOf (high low : UInt16) : UInt32 := high.toUInt32 <<< 16 ||| low.toUInt32

/-! ## The operations -/

section

variable (plcs : Plcs)

/-- `plc_index`: the PLC, and the machine at the PLC. -/
def plcIndex (m : UInt32) : Program (UInt32 × UInt32) :=
  let plcIdx := m / 16
  if plcIdx.toNat ≥ plcs.size then
    throw (.outOfBounds "Machine index out of bounds" plcIdx.toNat 0 plcs.size)
  else return (plcIdx, m - plcIdx * numMachines)

/-- `reset_lights`. -/
def resetLights : Program Unit :=
  (List.range plcs.size).forM fun plc =>
    writeOrThrow plcs plc outRegStartSignal.toNat
      (List.replicate (outRegPerSignal * numMachines).toNat 0) "Failed to reset register"

/-- `set_light`. -/
def setLight (m : UInt32) (light : Light) (state : SignalState) : Program Unit := do
  if light.value < Light.red.value ∨ light.value > Light.green.value then
    throw (.outOfBounds "Signal register offset out of bounds" light.value.toNat
      Light.red.value.toNat Light.green.value.toNat)
  let (plcIdx, m) ← plcIndex plcs m
  if m > numMachines then
    throw (.outOfBounds "Machine index out of bounds" m.toNat 0 numMachines.toNat)
  let stateValue : UInt16 := match state with
    | .on => 1
    | .blink => 2
    | .off => 0
  writeOrThrow plcs plcIdx.toNat (lightAddr m light) [stateValue <<< 8] "Failed to set register"

/-- `read_rfid`: whether there is a puck, and its id, or what `id` was before. -/
def readRfid (m : UInt32) (id : UInt32) : Program (Bool × UInt32) := do
  let (plcIdx, m) ← plcIndex plcs m
  let regs ← readOrThrow plcs plcIdx.toNat (rfidInAddr m) 3 "Failed to read RFID registers"
  return if hasPuck (regs 0) then (true, idOf (regs 1) (regs 2)) else (false, id)

/-- The loop of `read_rfids` over the machines of PLC `m`. -/
def storeIds (m : UInt32) (regs : Fin 48 → UInt16) (rv : List UInt32) : List UInt32 :=
  (List.finRange 16).foldl (fun rv (i : Fin 16) =>
    if hasPuck (regs ⟨i * 3, by omega⟩) then
      rv.set (m * numMachines + UInt32.ofNat i).toNat
        (idOf (regs ⟨i * 3 + 1, by omega⟩) (regs ⟨i * 3 + 2, by omega⟩))
    else rv) rv

/-- The loop of `read_rfids` over the PLCs, for a number of rounds. -/
def readRfidsFrom : ℕ → UInt32 → List UInt32 → Program (List UInt32)
  | 0, _, _ => throw .unfinished
  | fuel + 1, m, rv =>
      if m.toNat < plcs.size then do
        let regs ← readOrThrow plcs m.toNat inRegStartRfid.toNat 48 "Failed to read RFID registers"
        readRfidsFrom fuel (m + 1) (storeIds m regs rv)
      else return rv

/-- `read_rfids`. -/
def readRfids (fuel : ℕ) : Program (List UInt32) :=
  readRfidsFrom plcs fuel 0 (List.replicate (plcs.size * numMachines.toNat) noPuck)

/-- The loop of `reset_rfids`, for a number of rounds. -/
def resetRfidsFrom : ℕ → UInt32 → Program Unit
  | 0, _ => throw .unfinished
  | fuel + 1, m =>
      if m.toNat < plcs.size then do
        writeOrThrow plcs m.toNat outRegStartRfid.toNat
          (List.replicate (outRegPerRfid * numMachines).toNat 0)
          ("Failed to reset RFID registers on PLC " ++ toString m.toNat)
        resetRfidsFrom fuel (m + 1)
      else return ()

/-- `reset_rfids`. -/
def resetRfids (fuel : ℕ) : Program Unit := resetRfidsFrom plcs fuel 0

/-- Read until the ID is written, for a number of rounds. -/
def waitForDone (plc inAddr : ℕ) : ℕ → Program Unit
  | 0 => throw .unfinished
  | fuel + 1 => do
      let regs ← readOrThrow plcs plc inAddr 3 "Failed to read RFID registers"
      if regs 0 &&& rfidWriteDone ≠ 0 then return () else waitForDone plc inAddr fuel

/-- `write_rfid`. -/
def writeRfid (fuel : ℕ) (m : UInt32) (id : UInt32) : Program Unit := do
  let (plcIdx, m) ← plcIndex plcs m
  writeOrThrow plcs plcIdx.toNat (rfidOutAddr m)
    [rfidWritePuckId, (id >>> 16 &&& 0xFFFF).toUInt16, (id &&& 0xFFFF).toUInt16]
    "Failed to write RFID registers"
  waitForDone plcs plcIdx.toNat (rfidInAddr m) fuel
  writeOrThrow plcs plcIdx.toNat (rfidOutAddr m) [rfidResetWrite, 0, 0]
    "Failed to write RFID registers"

end

/-! ## What is to be shown -/

/-- The result, and the requests made. -/
def exec {α : Type} (x : Program α) (log : Log) : Except Stop α × Log := x.run.run log

/-- What a program writes whose first request has number `k`. -/
def writes {α : Type} (x : Program α) (k : ℕ) : List Write :=
  (exec x { requests := k }).2.writes

/-- The registers of a write: the PLC, and the address. -/
def Write.registers (w : Write) : List (ℕ × ℕ) :=
  (List.range w.values.length).map fun i => (w.plc, w.addr + i)

/-- The registers that a program writes. -/
def registers {α : Type} (x : Program α) (k : ℕ) : List (ℕ × ℕ) :=
  (writes x k).flatMap Write.registers

/-- The register is set to 0. -/
def Clears (ws : List Write) (r : ℕ × ℕ) : Prop := ∃ w ∈ ws, r ∈ w.registers ∧ ∀ v ∈ w.values, v = 0

/-- PLCs that answer every request, with input registers that stay as they are. -/
def connected (size : ℕ) (inputs : ℕ → ℕ → UInt16) : Plcs where
  size
  answers _ := true
  inputs _ := inputs

/-- `read_rfid` agrees with an entry of the result of `read_rfids`. -/
def Agrees (size : ℕ) (inputs : ℕ → ℕ → UInt16) (rv : List UInt32) (m : UInt32) : Prop :=
  ∀ id log, ∃ found x, (exec (readRfid (connected size inputs) m id) log).1 = .ok (found, x) ∧
    rv[m.toNat]? = some (if found then x else noPuck)

/-- `read_rfids` returns, and agrees with `read_rfid` on each machine. -/
def ReadsAgree (size : ℕ) : Prop :=
  ∀ inputs, ∃ fuel rv, (∀ log, (exec (readRfids (connected size inputs) fuel) log).1 = .ok rv) ∧
    ∀ m : UInt32, m.toNat < size * 16 → Agrees size inputs rv m

/-- The addressing of so many PLCs is consistent. -/
structure AddressingConsistent (size : ℕ) : Prop where
  outOfRange : ∀ (plcs : Plcs) m id log, plcs.size = size → size * 16 ≤ m.toNat →
    (exec (readRfid plcs m id) log).1 =
      .error (.outOfBounds "Machine index out of bounds" (m.toNat / 16) 0 size)
  lights_disjoint : ∀ (plcs : Plcs) m light state k m' light' state' k', plcs.size = size →
    (m, light) ≠ (m', light') → List.Disjoint (registers (setLight plcs m light state) k)
      (registers (setLight plcs m' light' state') k')
  rfids_disjoint : ∀ (plcs : Plcs) m id fuel k m' id' fuel' k', plcs.size = size → m ≠ m' →
    List.Disjoint (registers (writeRfid plcs fuel m id) k)
      (registers (writeRfid plcs fuel' m' id') k')
  light_rfid_disjoint : ∀ (plcs : Plcs) m light state k m' id fuel k', plcs.size = size →
    List.Disjoint (registers (setLight plcs m light state) k) (registers (writeRfid plcs fuel m' id) k')
  lights_cleared : ∀ (plcs : Plcs) m light state k inputs, plcs.size = size →
    ∀ r ∈ registers (setLight plcs m light state) k,
      Clears (writes (resetLights (connected size inputs)) 0) r
  rfids_cleared : ∀ (plcs : Plcs) m id fuel k inputs, plcs.size = size →
    ∀ r ∈ registers (writeRfid plcs fuel m id) k, ∀ rounds, r.1 < rounds →
      Clears (writes (resetRfids (connected size inputs) rounds) 0) r
  decodes : ∀ (plcs : Plcs) m id fuel k, plcs.size = size → m.toNat < size * 16 →
    plcs.answers k = true → ∃ w high low, (writes (writeRfid plcs fuel m id) k).head? = some w ∧
      w.values = [rfidWritePuckId, high, low] ∧ idOf high low = id

/-! ## The split of a machine index -/

section

variable {plcs : Plcs} {m : UInt32} {size k : ℕ}

/-- The machine at its PLC. -/
def localIndex (m : UInt32) : UInt32 := m - m / 16 * numMachines

theorem toNat_localIndex (m : UInt32) : (localIndex m).toNat = m.toNat % 16 := by
  have hdiv : (m / 16).toNat = m.toNat / 16 := UInt32.toNat_div m 16
  have hmul : (m / 16 * numMachines).toNat = m.toNat / 16 * 16 := by
    rw [UInt32.toNat_mul, hdiv, show numMachines.toNat = 16 from rfl]
    have hlt := m.toNat_lt
    omega
  have hle : m / 16 * numMachines ≤ m := by
    rw [UInt32.le_iff_toNat_le, hmul]
    omega
  rw [localIndex, UInt32.toNat_sub_of_le _ _ hle, hmul]
  omega

/-- The counter of a loop over the PLCs. -/
theorem toNat_succ (h : m.toNat < 2 ^ 28) : (m + 1).toNat = m.toNat + 1 := by
  rw [UInt32.toNat_add]
  show (m.toNat + 1) % 2 ^ 32 = _
  omega

theorem eq_of_split {m m' : UInt32} (hplc : m.toNat / 16 = m'.toNat / 16)
    (hlocal : m.toNat % 16 = m'.toNat % 16) : m = m' := by
  rw [← UInt32.toNat_inj]
  omega

theorem plcIndex_of_lt (h : m.toNat / 16 < plcs.size) :
    plcIndex plcs m = pure (m / 16, localIndex m) := by
  have hdiv : (m / 16).toNat = m.toNat / 16 := UInt32.toNat_div m 16
  rw [plcIndex, if_neg (by omega)]
  rfl

theorem plcIndex_of_le (h : plcs.size ≤ m.toNat / 16) : plcIndex plcs m =
    throw (.outOfBounds "Machine index out of bounds" (m.toNat / 16) 0 plcs.size) := by
  have hdiv : (m / 16).toNat = m.toNat / 16 := UInt32.toNat_div m 16
  rw [plcIndex, if_pos (by omega), hdiv]

theorem toNat_rfidInAddr (m : UInt32) :
    rfidInAddr (localIndex m) = 0x4000 + m.toNat % 16 * 3 := by
  have hlocal := toNat_localIndex m
  simp only [rfidInAddr, UInt32.toNat_add, UInt32.toNat_mul, hlocal]
  show (0x4000 + m.toNat % 16 * 3 % 2 ^ 32) % 2 ^ 32 = _
  omega

theorem toNat_rfidOutAddr (m : UInt32) :
    rfidOutAddr (localIndex m) = 0x4430 + m.toNat % 16 * 3 := by
  have hlocal := toNat_localIndex m
  simp only [rfidOutAddr, UInt32.toNat_add, UInt32.toNat_mul, hlocal]
  show (0x4430 + m.toNat % 16 * 3 % 2 ^ 32) % 2 ^ 32 = _
  omega

theorem Light.value_lt (light : Light) : light.value.toNat < 4 := by
  cases light <;> decide

theorem toNat_lightAddr (m : UInt32) (light : Light) :
    lightAddr (localIndex m) light = 0x4400 + m.toNat % 16 * 3 + light.value.toNat := by
  have hlocal := toNat_localIndex m
  have hlight := light.value_lt
  simp only [lightAddr, UInt32.toNat_add, UInt32.toNat_mul, hlocal]
  show ((0x4400 + m.toNat % 16 * 3 % 2 ^ 32) % 2 ^ 32 + light.value.toNat) % 2 ^ 32 = _
  omega

/-! ## What the programs write -/

/-- What is known of the writes made so far. -/
def Written (P : List Write → Prop) (log : Log) : Prop := P log.writes

variable {P : List Write → Prop} {R : Write → Prop} {plc addr nb : ℕ} {values : List UInt16}
  {text : String}

theorem keeps_request : Keeps (Written P) request := fun _ hlog => hlog

theorem keeps_readOrThrow : Keeps (Written P) (readOrThrow plcs plc addr nb text).run := by
  unfold readOrThrow modbusReadRegisters
  apply Keeps.except_bind
  · exact Keeps.except_lift (keeps_request.bind fun _ => .pure _)
  · rintro (_ | regs)
    · exact .throw _
    · exact .pure _

theorem keeps_writeOrThrow (h : ∀ ws, P ws → P (ws ++ [⟨plc, addr, values⟩])) :
    Keeps (Written P) (writeOrThrow plcs plc addr values text).run := by
  unfold writeOrThrow modbusWriteRegisters
  apply Keeps.except_bind
  · apply Keeps.except_lift
    refine keeps_request.bind fun k => ?_
    split
    · refine Keeps.bind ?_ fun _ => .pure _
      exact Triple.modify fun log hlog => h log.writes hlog
    · exact .bind (.pure _) fun _ => .pure _
  · rintro (_ | _)
    · exact .throw _
    · exact .pure _

theorem keeps_waitForDone {inAddr : ℕ} (fuel : ℕ) :
    Keeps (Written P) (waitForDone plcs plc inAddr fuel).run := by
  induction fuel with
  | zero => exact .throw _
  | succ fuel ih =>
      unfold waitForDone
      refine keeps_readOrThrow.except_bind fun regs => ?_
      split
      · exact .pure _
      · exact ih

/-- All writes are as they should be. -/
abbrev OnlyWrites (R : Write → Prop) : Log → Prop := Written fun ws => ∀ w ∈ ws, R w

theorem onlyWrites_writeOrThrow (h : R ⟨plc, addr, values⟩) :
    Keeps (OnlyWrites R) (writeOrThrow plcs plc addr values text).run := by
  apply keeps_writeOrThrow
  intro ws hws w hw
  rcases List.mem_append.mp hw with hw | hw
  · exact hws w hw
  · rw [List.mem_singleton.mp hw]
    exact h

theorem forall_writes {α : Type} {x : Program α} (h : Keeps (OnlyWrites R) x.run) :
    ∀ w ∈ writes x k, R w :=
  h { requests := k } nofun

/-- A light has one register. -/
theorem writes_setLight {light : Light} {state : SignalState} :
    ∀ w ∈ writes (setLight plcs m light state) k, light.value.toNat < 3 ∧
      m.toNat / 16 < plcs.size ∧ w.plc = m.toNat / 16 ∧
      w.addr = 0x4400 + m.toNat % 16 * 3 + light.value.toNat ∧ w.values.length = 1 := by
  apply forall_writes
  unfold setLight
  by_cases hlight : light = .lightEnd
  · subst hlight
    exact .throw _
  rw [if_neg (by revert hlight; cases light <;> decide)]
  by_cases hplc : m.toNat / 16 < plcs.size
  · simp only [plcIndex_of_lt hplc, pure_bind]
    have hle : ¬ localIndex m > numMachines := by
      rw [gt_iff_lt, UInt32.lt_iff_toNat_lt, toNat_localIndex]
      show ¬ 16 < m.toNat % 16
      omega
    rw [if_neg hle]
    apply onlyWrites_writeOrThrow
    refine ⟨by revert hlight; cases light <;> decide, hplc, UInt32.toNat_div m 16, ?_, rfl⟩
    exact toNat_lightAddr m light
  · rw [plcIndex_of_le (by omega)]
    exact .throw_bind _

/-- An RFID sensor has three registers. -/
theorem writes_writeRfid {id : UInt32} {fuel : ℕ} :
    ∀ w ∈ writes (writeRfid plcs fuel m id) k, m.toNat / 16 < plcs.size ∧
      w.plc = m.toNat / 16 ∧ w.addr = 0x4430 + m.toNat % 16 * 3 ∧ w.values.length = 3 := by
  apply forall_writes
  unfold writeRfid
  by_cases hplc : m.toNat / 16 < plcs.size
  · simp only [plcIndex_of_lt hplc, pure_bind]
    have hat : ∀ values : List UInt16, values.length = 3 → m.toNat / 16 < plcs.size ∧
        (m / 16).toNat = m.toNat / 16 ∧ rfidOutAddr (localIndex m) = 0x4430 + m.toNat % 16 * 3 ∧
          values.length = 3 :=
      fun values hlength => ⟨hplc, UInt32.toNat_div m 16, toNat_rfidOutAddr m, hlength⟩
    refine (onlyWrites_writeOrThrow (hat _ rfl)).except_bind fun _ => ?_
    refine (keeps_waitForDone fuel).except_bind fun _ => ?_
    exact onlyWrites_writeOrThrow (hat _ rfl)
  · rw [plcIndex_of_le (by omega)]
    exact .throw_bind _

/-! ## What the resets write -/

theorem Write.mem_registers {w : Write} {r : ℕ × ℕ} :
    r ∈ w.registers ↔ r.1 = w.plc ∧ w.addr ≤ r.2 ∧ r.2 < w.addr + w.values.length := by
  simp only [Write.registers, List.mem_map, List.mem_range, Prod.ext_iff]
  constructor
  · rintro ⟨i, hi, hplc, haddr⟩
    omega
  · rintro ⟨hplc, hle, hlt⟩
    exact ⟨r.2 - w.addr, by omega, hplc.symm, by omega⟩

theorem mem_registers {α : Type} {x : Program α} {r : ℕ × ℕ} :
    r ∈ registers x k ↔ ∃ w ∈ writes x k, r ∈ w.registers := List.mem_flatMap

theorem exec_bind_ok {α β : Type} {x : Program α} {f : α → Program β} {log log' : Log} {a : α}
    (h : exec x log = (.ok a, log')) : exec (x >>= f) log = exec (f a) log' := run_except_bind_ok h

theorem run_request (log : Log) :
    request.run log = (log.requests, { log with requests := log.requests + 1 }) := rfl

theorem exec_writeOrThrow {log : Log} (h : plcs.answers log.requests = true) :
    exec (writeOrThrow plcs plc addr values text) log =
      (.ok (), { requests := log.requests + 1, writes := log.writes ++ [⟨plc, addr, values⟩] }) := by
  have hwrite : (modbusWriteRegisters plcs plc addr values).run log =
      (true, { requests := log.requests + 1, writes := log.writes ++ [⟨plc, addr, values⟩] }) := by
    unfold modbusWriteRegisters
    rw [run_bind (run_request log), if_pos h, h]
    rfl
  unfold writeOrThrow
  rw [exec_bind_ok (run_except_liftM hwrite)]
  rfl

theorem exec_readOrThrow {log : Log} (h : plcs.answers log.requests = true) :
    exec (readOrThrow plcs plc addr nb text) log =
      (.ok fun i => plcs.inputs log.requests plc (addr + i),
        { log with requests := log.requests + 1 }) := by
  have hread : (modbusReadRegisters plcs plc addr nb).run log =
      (some fun i : Fin nb => plcs.inputs log.requests plc (addr + i),
        { log with requests := log.requests + 1 }) := by
    unfold modbusReadRegisters
    rw [run_bind (run_request log), if_pos h]
    rfl
  unfold readOrThrow
  rw [exec_bind_ok (run_except_liftM hread)]
  rfl

variable {inputs : ℕ → ℕ → UInt16}

/-- The resets of the lights, one PLC after the other. -/
theorem exec_forM_writeOrThrow (l : List ℕ) (log : Log) :
    exec (l.forM fun plc => writeOrThrow (connected size inputs) plc addr values text) log =
      (.ok (), { requests := log.requests + l.length,
                 writes := log.writes ++ l.map fun plc => ⟨plc, addr, values⟩ }) := by
  induction l generalizing log with
  | nil =>
      rw [List.map_nil, List.append_nil]
      rfl
  | cons plc l ih =>
      have hwrite := @exec_writeOrThrow (connected size inputs) plc addr values text log rfl
      rw [List.forM, exec_bind_ok hwrite, ih]
      simp [Nat.add_assoc, Nat.add_comm 1]

theorem keeps_resetRfidsFrom {w : Write} (rounds : ℕ) (m : UInt32) :
    Keeps (Written fun ws => w ∈ ws) (resetRfidsFrom plcs rounds m).run := by
  induction rounds generalizing m with
  | zero => exact .throw _
  | succ rounds ih =>
      unfold resetRfidsFrom
      split
      · apply Keeps.except_bind
        · exact keeps_writeOrThrow fun ws hw => List.mem_append_left _ hw
        · exact fun _ => ih (m + 1)
      · exact .pure _

/-- The resets of the RFID sensors, PLC after PLC. -/
theorem mem_resetRfidsFrom (rounds : ℕ) {p : ℕ} (hp : p < size) (hbound : p < 2 ^ 28)
    (hle : m.toNat ≤ p) (hlt : p < m.toNat + rounds) (log : Log) :
    ⟨p, 0x4430, List.replicate 48 0⟩ ∈
      (exec (resetRfidsFrom (connected size inputs) rounds m) log).2.writes := by
  induction rounds generalizing m log with
  | zero => omega
  | succ rounds ih =>
      have hsize : m.toNat < (connected size inputs).size := by
        show m.toNat < size
        omega
      rw [resetRfidsFrom, if_pos hsize, exec_bind_ok (exec_writeOrThrow rfl)]
      by_cases heq : m.toNat = p
      · subst heq
        exact keeps_resetRfidsFrom rounds (m + 1) _ (List.mem_append_right _ (List.mem_singleton_self _))
      · have hsucc : (m + 1).toNat = m.toNat + 1 := toNat_succ (by omega)
        exact ih (by omega) (by omega) _

theorem clears_of_mem {ws : List Write} {r : ℕ × ℕ} (start : ℕ)
    (hw : ⟨r.1, start, List.replicate 48 0⟩ ∈ ws) (hle : start ≤ r.2) (hlt : r.2 < start + 48) :
    Clears ws r := by
  refine ⟨_, hw, ?_, fun v hv => (List.mem_replicate.mp hv).2⟩
  rw [Write.mem_registers]
  exact ⟨rfl, hle, by simpa using hlt⟩

/-! ## Reading one machine, and all -/

theorem exec_readRfid {id : UInt32} (h : m.toNat / 16 < size) (log : Log) :
    (exec (readRfid (connected size inputs) m id) log).1 =
      .ok (if hasPuck (inputs (m.toNat / 16) (0x4000 + m.toNat % 16 * 3)) then
        (true, idOf (inputs (m.toNat / 16) (0x4000 + m.toNat % 16 * 3 + 1))
          (inputs (m.toNat / 16) (0x4000 + m.toNat % 16 * 3 + 2)))
        else (false, id)) := by
  have hplc : (m / 16).toNat = m.toNat / 16 := UInt32.toNat_div m 16
  unfold readRfid
  simp only [@plcIndex_of_lt (connected size inputs) m h, pure_bind]
  rw [exec_bind_ok (exec_readOrThrow rfl), hplc, toNat_rfidInAddr]
  rfl

theorem length_storeIds (m : UInt32) (regs : Fin 48 → UInt16) (rv : List UInt32) :
    (storeIds m regs rv).length = rv.length := length_foldl_set _ _

/-- Up to here the index of an entry does not overflow. -/
theorem toNat_entry (hm : m.toNat < 2 ^ 28) (i : Fin 16) :
    (m * numMachines + UInt32.ofNat i).toNat = m.toNat * 16 + i := by
  have hmul : (m * numMachines).toNat = m.toNat * 16 := by
    rw [UInt32.toNat_mul]
    show m.toNat * 16 % 2 ^ 32 = _
    omega
  have hi : (UInt32.ofNat i).toNat = i := by
    rw [UInt32.toNat_ofNat']
    omega
  rw [UInt32.toNat_add, hmul, hi]
  omega

/-- Where there is a puck, its id is stored. -/
theorem getElem?_storeIds (hm : m.toNat < 2 ^ 28) {regs : Fin 48 → UInt16} {rv : List UInt32}
    (i : Fin 16) (hlt : m.toNat * 16 + i < rv.length) :
    (storeIds m regs rv)[m.toNat * 16 + i]? = if hasPuck (regs ⟨i * 3, by omega⟩) then
      some (idOf (regs ⟨i * 3 + 1, by omega⟩) (regs ⟨i * 3 + 2, by omega⟩))
      else rv[m.toNat * 16 + i]? := by
  have hinj : ∀ i j : Fin 16, (m * numMachines + UInt32.ofNat i).toNat =
      (m * numMachines + UInt32.ofNat j).toNat → i = j := by
    intro i j heq
    rw [toNat_entry hm, toNat_entry hm] at heq
    exact Fin.ext (by omega)
  rw [← toNat_entry hm] at hlt ⊢
  unfold storeIds
  split
  · next hpuck => exact getElem?_foldl_set_of_mem hinj (List.mem_finRange i) hpuck hlt
  · next hpuck =>
      apply getElem?_foldl_set_of_ne
      intro j _ hj heq
      rw [hinj j i heq] at hj
      exact hpuck hj

theorem getElem?_storeIds_of_ne (hm : m.toNat < 2 ^ 28) {regs : Fin 48 → UInt16} {rv : List UInt32}
    {n : ℕ} (h : n / 16 ≠ m.toNat) : (storeIds m regs rv)[n]? = rv[n]? := by
  apply getElem?_foldl_set_of_ne
  intro i _ _
  rw [toNat_entry hm]
  omega

/-- What `read_rfids` is to have for a machine. -/
def entry (inputs : ℕ → ℕ → UInt16) (n : ℕ) : UInt32 :=
  if hasPuck (inputs (n / 16) (0x4000 + n % 16 * 3)) then
    idOf (inputs (n / 16) (0x4000 + n % 16 * 3 + 1)) (inputs (n / 16) (0x4000 + n % 16 * 3 + 2))
  else noPuck

theorem agrees_of_entry {rv : List UInt32} (h : m.toNat < size * 16)
    (hrv : rv[m.toNat]? = some (entry inputs m.toNat)) : Agrees size inputs rv m := by
  intro id log
  have hplc : m.toNat / 16 < size := by omega
  have hread : (exec (readRfid (connected size inputs) m id) log).1 = _ := exec_readRfid hplc log
  by_cases hpuck : hasPuck (inputs (m.toNat / 16) (0x4000 + m.toNat % 16 * 3)) = true
  · rw [if_pos hpuck] at hread
    refine ⟨true, _, hread, ?_⟩
    rw [hrv, entry, if_pos hpuck, if_pos rfl]
  · rw [if_neg hpuck] at hread
    refine ⟨false, _, hread, ?_⟩
    rw [hrv, entry, if_neg hpuck, if_neg nofun]

/-- The entries of the first `n` PLCs are there. -/
def Filled (inputs : ℕ → ℕ → UInt16) (size n : ℕ) (rv : List UInt32) : Prop :=
  rv.length = size * 16 ∧ ∀ j < size * 16,
    rv[j]? = some (if j / 16 < n then entry inputs j else noPuck)

/-- **One PLC** of `read_rfids`. -/
theorem Filled.storeIds {rv : List UInt32} (h : Filled inputs size m.toNat rv)
    (hm : m.toNat < 2 ^ 28) :
    Filled inputs size (m.toNat + 1)
      (storeIds m (fun i : Fin 48 => inputs m.toNat (0x4000 + i)) rv) := by
  obtain ⟨hlength, hentries⟩ := h
  refine ⟨(length_storeIds ..).trans hlength, fun j hj => ?_⟩
  by_cases hplc : j / 16 = m.toNat
  · obtain ⟨i, hi⟩ : ∃ i : Fin 16, (i : ℕ) = j % 16 := ⟨⟨j % 16, Nat.mod_lt _ (by decide)⟩, rfl⟩
    obtain rfl : j = m.toNat * 16 + i := by omega
    have hlocal : (m.toNat * 16 + i) % 16 = i := by omega
    have hbefore : ¬ (m.toNat * 16 + i) / 16 < m.toNat := by omega
    have hnow : (m.toNat * 16 + i) / 16 < m.toNat + 1 := by omega
    rw [getElem?_storeIds hm i (by omega), hentries _ hj, if_neg hbefore, if_pos hnow, entry, hplc,
      hlocal]
    split <;> rfl
  · rw [getElem?_storeIds_of_ne hm hplc, hentries j hj]
    have hiff : j / 16 < m.toNat + 1 ↔ j / 16 < m.toNat := by omega
    simp only [hiff]

theorem Filled.eq {rv : List UInt32} (h : Filled inputs size size rv) :
    rv = (List.range (size * 16)).map (entry inputs) := by
  obtain ⟨hlength, hentries⟩ := h
  apply List.ext_getElem?
  intro j
  by_cases hj : j < size * 16
  · rw [hentries j hj, if_pos (by omega)]
    simp [hj]
  · simp [hlength, hj]

/-- **All PLCs**, as long as there are no more than `2 ^ 28`. -/
theorem exec_readRfidsFrom (hsize : size ≤ 2 ^ 28) (rounds : ℕ) {rv : List UInt32}
    (h : Filled inputs size m.toNat rv) (hle : m.toNat ≤ size) (hrounds : size - m.toNat < rounds)
    (log : Log) : (exec (readRfidsFrom (connected size inputs) rounds m rv) log).1 =
      .ok ((List.range (size * 16)).map (entry inputs)) := by
  induction rounds generalizing m rv log with
  | zero => omega
  | succ rounds ih =>
      unfold readRfidsFrom
      by_cases hlt : m.toNat < size
      · have hsucc : (m + 1).toNat = m.toNat + 1 := toNat_succ (by omega)
        have hnext := h.storeIds (by omega)
        rw [← hsucc] at hnext
        rw [if_pos (show m.toNat < (connected size inputs).size from hlt),
          exec_bind_ok (exec_readOrThrow rfl)]
        exact ih hnext (by omega) (by omega) _
      · have heq : m.toNat = size := by omega
        rw [if_neg (show ¬ m.toNat < (connected size inputs).size from hlt)]
        rw [heq] at h
        rw [← h.eq]
        rfl

theorem filled_init : Filled inputs size (0 : UInt32).toNat
    (List.replicate (size * numMachines.toNat) noPuck) := by
  refine ⟨List.length_replicate, fun j hj => ?_⟩
  have hj' : j < size * numMachines.toNat := hj
  rw [List.getElem?_replicate, if_pos hj']
  rfl

/-- Reading all machines agrees with reading each of them. -/
theorem readRfids_agrees (hsize : size ≤ 2 ^ 28) : ReadsAgree size := by
  intro inputs
  refine ⟨size + 1, (List.range (size * 16)).map (entry inputs), fun log => ?_, ?_⟩
  · exact exec_readRfidsFrom hsize (size + 1) filled_init (Nat.zero_le _) (by simp) log
  · intro m hm
    apply agrees_of_entry hm
    simp [hm]

/-! ## More PLCs than the index of an entry can tell apart -/

/-- The only puck, with id 0, is at PLC `2 ^ 28`. -/
def onePuck (plc addr : ℕ) : UInt16 := if plc = 2 ^ 28 ∧ addr = 0x4000 then rfidHasPuck else 0

/-- All ids are 0. -/
theorem idOf_onePuck (plc : ℕ) (i : Fin 16) :
    idOf (onePuck plc (0x4000 + (i * 3 + 1))) (onePuck plc (0x4000 + (i * 3 + 2))) = 0 := by
  have hhigh : onePuck plc (0x4000 + (i * 3 + 1)) = 0 := by simp [onePuck]
  have hlow : onePuck plc (0x4000 + (i * 3 + 2)) = 0 := by simp [onePuck]
  rw [hhigh, hlow]
  rfl

theorem zero_storeIds {rv : List UInt32} (hrv : rv[0]? = some 0) :
    (storeIds m (fun i : Fin 48 => onePuck m.toNat (0x4000 + i)) rv)[0]? = some 0 :=
  getElem?_foldl_set_of_eq (idOf_onePuck m.toNat) hrv

/-- The puck is stored to the entry of the first machine. -/
theorem zero_storeIds_onePuck (hm : m.toNat = 2 ^ 28) {rv : List UInt32} (hlength : 0 < rv.length) :
    (storeIds m (fun i : Fin 48 => onePuck m.toNat (0x4000 + i)) rv)[0]? = some 0 := by
  obtain rfl : m = 0x10000000 := UInt32.toNat_inj.mp hm
  have hentry : ∀ i : Fin 16,
      ((0x10000000 : UInt32) * numMachines + UInt32.ofNat i).toNat = i := by decide
  have hinj : ∀ i j : Fin 16, ((0x10000000 : UInt32) * numMachines + UInt32.ofNat i).toNat =
      ((0x10000000 : UInt32) * numMachines + UInt32.ofNat j).toNat → i = j := by
    intro i j heq
    rw [hentry, hentry] at heq
    exact Fin.ext heq
  have hlt : ((0x10000000 : UInt32) * numMachines + UInt32.ofNat (0 : Fin 16)).toNat < rv.length := by
    rw [hentry]
    exact hlength
  let regs : Fin 48 → UInt16 := fun i => onePuck (0x10000000 : UInt32).toNat (0x4000 + i)
  have hpuck : hasPuck (regs 0) = true := by decide
  have hget := getElem?_foldl_set_of_mem
    (c := fun i : Fin 16 => hasPuck (regs ⟨i * 3, by omega⟩))
    (v := fun i : Fin 16 => idOf (regs ⟨i * 3 + 1, by omega⟩) (regs ⟨i * 3 + 2, by omega⟩))
    hinj (List.mem_finRange 0) hpuck hlt
  rw [hentry] at hget
  exact hget.trans (congrArg some (idOf_onePuck _ 0))

/-- If the loop ends, the entry of the first machine has been overwritten. -/
theorem zero_of_readRfidsFrom (hsize : 2 ^ 28 < size) (rounds : ℕ) {rv rv' : List UInt32} {log : Log}
    (hlength : 0 < rv.length) (h : m.toNat ≤ 2 ^ 28 ∨ rv[0]? = some 0)
    (hexec : (exec (readRfidsFrom (connected size fun plc => onePuck plc) rounds m rv) log).1 = .ok rv') :
    rv'[0]? = some 0 := by
  induction rounds generalizing m rv log with
  | zero => cases hexec
  | succ rounds ih =>
      unfold readRfidsFrom at hexec
      split at hexec
      · next hlt =>
          rw [exec_bind_ok (exec_readOrThrow rfl)] at hexec
          refine ih ?_ ?_ hexec
          · rw [length_storeIds]
            exact hlength
          · rcases h with hle | hzero
            · rcases Nat.lt_or_eq_of_le hle with hlt | heq
              · left
                rw [UInt32.toNat_add]
                show (m.toNat + 1) % 2 ^ 32 ≤ _
                omega
              · exact Or.inr (zero_storeIds_onePuck heq hlength)
            · exact Or.inr (zero_storeIds hzero)
      · next hge =>
          cases hexec
          have hge' : ¬ m.toNat < size := hge
          exact h.resolve_left (by omega)

/-- There is no puck at the first machine. -/
theorem readRfids_disagrees (hsize : 2 ^ 28 < size) (fuel : ℕ) {rv : List UInt32} {log : Log}
    (hexec : (exec (readRfids (connected size onePuck) fuel) log).1 = .ok rv) :
    ¬ Agrees size onePuck rv 0 := by
  intro hagrees
  obtain ⟨found, x, hread, hentry⟩ := hagrees 0 {}
  have hzero : rv[0]? = some 0 := by
    apply zero_of_readRfidsFrom hsize fuel ?_ (Or.inl (Nat.zero_le _)) hexec
    rw [List.length_replicate]
    show 0 < size * 16
    omega
  have hnone : hasPuck (onePuck ((0 : UInt32).toNat / 16) (0x4000 + (0 : UInt32).toNat % 16 * 3)) =
      false := by decide
  have hplc : (0 : UInt32).toNat / 16 < size := by
    show 0 < size
    omega
  rw [exec_readRfid hplc, hnone, if_neg nofun] at hread
  cases hread
  have hentry' : rv[0]? = some noPuck := hentry
  rw [hzero] at hentry'
  cases hentry'

/-! ## The addressing -/

theorem mem_registers_setLight {light : Light} {state : SignalState} {r : ℕ × ℕ}
    (hr : r ∈ registers (setLight plcs m light state) k) : light.value.toNat < 3 ∧
      m.toNat / 16 < plcs.size ∧ r = (m.toNat / 16, 0x4400 + m.toNat % 16 * 3 + light.value.toNat) := by
  obtain ⟨w, hw, hmem⟩ := mem_registers.mp hr
  obtain ⟨hlight, hplc, hwplc, haddr, hlength⟩ := writes_setLight w hw
  rw [Write.mem_registers] at hmem
  exact ⟨hlight, hplc, Prod.ext (by omega) (by show r.2 = _; omega)⟩

theorem mem_registers_writeRfid {id : UInt32} {fuel : ℕ} {r : ℕ × ℕ}
    (hr : r ∈ registers (writeRfid plcs fuel m id) k) : m.toNat / 16 < plcs.size ∧
      r.1 = m.toNat / 16 ∧ 0x4430 + m.toNat % 16 * 3 ≤ r.2 ∧ r.2 < 0x4430 + m.toNat % 16 * 3 + 3 := by
  obtain ⟨w, hw, hmem⟩ := mem_registers.mp hr
  obtain ⟨hplc, hwplc, haddr, hlength⟩ := writes_writeRfid w hw
  rw [Write.mem_registers] at hmem
  omega

theorem Light.value_inj {light light' : Light} (h : light.value.toNat = light'.value.toNat) :
    light = light' := by
  cases light <;> cases light' <;> first | rfl | cases h

theorem setLight_disjoint {light light' : Light} {state state' : SignalState} {m' : UInt32} {k' : ℕ}
    (hne : (m, light) ≠ (m', light')) :
    List.Disjoint (registers (setLight plcs m light state) k)
      (registers (setLight plcs m' light' state') k') := by
  intro r hr hr'
  obtain ⟨hlight, -, heq⟩ := mem_registers_setLight hr
  obtain ⟨hlight', -, heq'⟩ := mem_registers_setLight hr'
  rw [heq, Prod.mk.injEq] at heq'
  have hm : m = m' := eq_of_split heq'.1 (by omega)
  have hvalue : light = light' := Light.value_inj (by omega)
  exact hne (by rw [hm, hvalue])

theorem writeRfid_disjoint {id id' m' : UInt32} {fuel fuel' k' : ℕ} (hne : m ≠ m') :
    List.Disjoint (registers (writeRfid plcs fuel m id) k)
      (registers (writeRfid plcs fuel' m' id') k') := by
  intro r hr hr'
  obtain ⟨-, hplc, hle, hlt⟩ := mem_registers_writeRfid hr
  obtain ⟨-, hplc', hle', hlt'⟩ := mem_registers_writeRfid hr'
  exact hne (eq_of_split (by omega) (by omega))

theorem setLight_writeRfid_disjoint {light : Light} {state : SignalState} {m' id : UInt32}
    {fuel k' : ℕ} : List.Disjoint (registers (setLight plcs m light state) k)
      (registers (writeRfid plcs fuel m' id) k') := by
  intro r hr hr'
  obtain ⟨hlight, -, heq⟩ := mem_registers_setLight hr
  obtain ⟨-, -, hle, -⟩ := mem_registers_writeRfid hr'
  rw [heq] at hle
  have hle' : 0x4430 + m'.toNat % 16 * 3 ≤ 0x4400 + m.toNat % 16 * 3 + light.value.toNat := hle
  omega

theorem setLight_cleared {light : Light} {state : SignalState} {r : ℕ × ℕ} (hsize : plcs.size = size)
    (hr : r ∈ registers (setLight plcs m light state) k) :
    Clears (writes (resetLights (connected size inputs)) 0) r := by
  obtain ⟨hlight, hplc, rfl⟩ := mem_registers_setLight hr
  apply clears_of_mem 0x4400
  · show _ ∈ (exec (resetLights (connected size inputs)) _).2.writes
    rw [resetLights, exec_forM_writeOrThrow, List.nil_append]
    exact List.mem_map_of_mem (List.mem_range.mpr (hsize ▸ hplc))
  · show 0x4400 ≤ 0x4400 + m.toNat % 16 * 3 + light.value.toNat
    omega
  · show 0x4400 + m.toNat % 16 * 3 + light.value.toNat < 0x4400 + 48
    omega

theorem writeRfid_cleared {id : UInt32} {fuel rounds : ℕ} {r : ℕ × ℕ} (hsize : plcs.size = size)
    (hr : r ∈ registers (writeRfid plcs fuel m id) k) (hrounds : r.1 < rounds) :
    Clears (writes (resetRfids (connected size inputs) rounds) 0) r := by
  obtain ⟨hplc, hrplc, hle, hlt⟩ := mem_registers_writeRfid hr
  have hbound := m.toNat_lt
  apply clears_of_mem 0x4430
  · exact mem_resetRfidsFrom rounds (by omega) (by omega) (Nat.zero_le _) (by simpa using hrounds) _
  · omega
  · omega

theorem toNat_idOf (high low : UInt16) : (idOf high low).toNat = high.toNat * 65536 + low.toNat := by
  have hhigh := high.toNat_lt
  have hlow := low.toNat_lt
  have hshift : (high.toUInt32 <<< 16).toNat = high.toNat <<< 16 := by
    rw [UInt32.toNat_shiftLeft, UInt16.toNat_toUInt32]
    show high.toNat <<< 16 % 2 ^ 32 = _
    omega
  rw [idOf, UInt32.toNat_or, hshift, UInt16.toNat_toUInt32,
    ← Nat.shiftLeft_add_eq_or_of_lt (by omega)]
  omega

theorem toNat_word (x : UInt32) : (x &&& 0xFFFF).toUInt16.toNat = x.toNat % 65536 := by
  have hand : x.toNat &&& 0xFFFF = x.toNat % 65536 := Nat.and_two_pow_sub_one_eq_mod x.toNat 16
  rw [UInt32.toNat_toUInt16, UInt32.toNat_and]
  show (x.toNat &&& 0xFFFF) % 65536 = _
  omega

/-- The two words have the id. -/
theorem idOf_words (id : UInt32) :
    idOf (id >>> 16 &&& 0xFFFF).toUInt16 (id &&& 0xFFFF).toUInt16 = id := by
  have hlt := id.toNat_lt
  have hshift : (id >>> 16).toNat = id.toNat >>> 16 := UInt32.toNat_shiftRight id 16
  rw [← UInt32.toNat_inj, toNat_idOf, toNat_word, toNat_word, hshift]
  omega

theorem writeRfid_decodes {id : UInt32} {fuel : ℕ} (hplc : m.toNat / 16 < plcs.size)
    (hanswers : plcs.answers k = true) : ∃ w high low,
      (writes (writeRfid plcs fuel m id) k).head? = some w ∧
        w.values = [rfidWritePuckId, high, low] ∧ idOf high low = id := by
  refine ⟨⟨(m / 16).toNat, rfidOutAddr (localIndex m), _⟩, _, _, ?_, rfl, idOf_words id⟩
  unfold writes writeRfid
  simp only [plcIndex_of_lt hplc, pure_bind]
  rw [exec_bind_ok (exec_writeOrThrow hanswers)]
  -- the later writes come after it
  have hkeeps : ∀ w : Write, Keeps (Written fun ws => ws.head? = some w) (do
      waitForDone plcs (m / 16).toNat (rfidInAddr (localIndex m)) fuel
      writeOrThrow plcs (m / 16).toNat (rfidOutAddr (localIndex m)) [rfidResetWrite, 0, 0]
        "Failed to write RFID registers").run := by
    intro w
    refine (keeps_waitForDone fuel).except_bind fun _ => ?_
    apply keeps_writeOrThrow
    intro ws hws
    rw [List.head?_append, hws]
    rfl
  exact hkeeps _ _ rfl

theorem readsAgree_iff : ReadsAgree size ↔ size ≤ 2 ^ 28 := by
  constructor
  · intro hagree
    by_contra hsize
    obtain ⟨fuel, rv, hexec, hagrees⟩ := hagree onePuck
    refine readRfids_disagrees (by omega) fuel (hexec {}) (hagrees 0 ?_)
    show 0 < size * 16
    omega
  · exact readRfids_agrees

/-- **The addressing is consistent**, and both ways of reading agree for up to `2 ^ 28` PLCs, and for
no other number. -/
theorem addressing_consistent (size : ℕ) :
    AddressingConsistent size ∧ (ReadsAgree size ↔ size ≤ 2 ^ 28) := by
  refine ⟨?_, readsAgree_iff⟩
  constructor
  · rintro plcs m id log rfl hm
    rw [readRfid, plcIndex_of_le (by omega)]
    rfl
  · intro plcs m light state k m' light' state' k' _ hne
    exact setLight_disjoint hne
  · intro plcs m id fuel k m' id' fuel' k' _ hne
    exact writeRfid_disjoint hne
  · intro plcs m light state k m' id fuel k' _
    exact setLight_writeRfid_disjoint
  · intro plcs m light state k inputs hplcs r hr
    exact setLight_cleared hplcs hr
  · intro plcs m id fuel k inputs hplcs r hr rounds hrounds
    exact writeRfid_cleared hplcs hr hrounds
  · intro plcs m id fuel k hplcs hm hanswers
    exact writeRfid_decodes (by omega) hanswers

/-- One PLC more: the ids of its machines are stored to the entries of the machines of the first. -/
theorem not_readsAgree_of_oneMore : ¬ ReadsAgree (2 ^ 28 + 1) := by
  intro hagree
  obtain ⟨fuel, rv, hexec, hagrees⟩ := hagree onePuck
  exact readRfids_disagrees (by decide) fuel (hexec {}) (hagrees 0 (by decide))

end

end FactoryHub.Llsf.SpsComm
