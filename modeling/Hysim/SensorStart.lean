import Hysim.Calibration
import Hysim.Pairing

/-!
The start of the sensor thread, from `telemetry.c` and `sensors.c`: what `sensor_telemetry` does
before its first cycle.

The mass sensor and the temperatures are subscribed to and set up, then the ADC devices are
opened. What fails is marked, so that the cycles pass over it.
-/

namespace Hysim.SensorStart

open Hysim.Lib.Program Hysim.SensorTelemetry Hysim.Calibration Hysim.Pairing

/-! ### The calls -/

/-- A run of `sensor_mass_calibrate` that is over: what its fetches returned, and what it returned
itself. Until twenty fetches have succeeded there is none, and the thread goes no further. -/
structure Calibrated where
  outcomes : List (Outcome ℚ)
  err : Int
  returned : (sensorMassCalibrate 0 outcomes).stage = .returned err

lemma Calibrated.err_eq (c : Calibrated) : c.err = 0 := by
  have hstage := c.returned
  rw [sensorMassCalibrate_returned 0 (stage_returned hstage)] at hstage
  exact (Stage.returned.inj hstage).symm

/-- The system calls, those of `sensor_mass_calibrate` together. -/
inductive StartOp
  | orbGetMeta (name : String)
  | orbSubscribe (name : String)
  | orbSubscribeMulti (name : String) (topic : ℕ)
  | setThermo (fd : Int)
  | calibrate (fd : Int)
  | openDev (devpath : String)
  deriving DecidableEq

/-- `orb_get_meta` finds a topic or returns `NULL`; the others return a descriptor or an error. -/
@[reducible] def StartOp.Ans : StartOp → Type
  | .orbGetMeta _ => Bool
  | .orbSubscribe _ | .orbSubscribeMulti _ _ | .setThermo _ | .openDev _ => Int
  | .calibrate _ => Calibrated

abbrev StartM := Prog StartOp StartOp.Ans

abbrev orbGetMeta (name : String) : StartM Bool := .op (StartOp.orbGetMeta name)
abbrev orbSubscribe (name : String) : StartM Int := .op (StartOp.orbSubscribe name)
abbrev orbSubscribeMulti (name : String) (topic : ℕ) : StartM Int :=
  .op (StartOp.orbSubscribeMulti name topic)
abbrev setThermo (fd : Int) : StartM Int := .op (StartOp.setThermo fd)
abbrev calibrate (fd : Int) : StartM Calibrated := .op (StartOp.calibrate fd)
abbrev openDev (devpath : String) : StartM Int := .op (StartOp.openDev devpath)

/-! ### Setting up -/

def massTopic : String := "sensor_force0"
def tempTopic : String := "sensor_temp"

/-- `sensor_mass_init`: its result, and the sensor with what was put in it. -/
def sensorMassInit (sensor : SensorMass) : StartM (Int × SensorMass) := do
  let found ← orbGetMeta massTopic
  if found then
    let fd ← orbSubscribe massTopic
    let sensor := { sensor with fd := fd }
    if fd < 0 then return (-1, sensor)
    else return (0, sensor)
  else return (-1, sensor)

/-- `sensor_temp_init`. -/
def sensorTempInit (sensor : SensorTemp) (topic : ℕ) : StartM (Int × SensorTemp) := do
  let found ← orbGetMeta tempTopic
  if found then
    let fd ← orbSubscribeMulti tempTopic topic
    let sensor := { sensor with fd := fd }
    if fd < 0 then return (-1, sensor)
    else
      let err ← setThermo fd
      if err < 0 then return (-1, sensor)
      else return (0, sensor)
  else return (-1, sensor)

/-- The mass sensor: a failure to initialise it keeps it from being calibrated. -/
def startMass : StartM SensorMass := do
  let (err, sensor) ← sensorMassInit ⟨0, true⟩
  let sensor := if err < 0 then { sensor with available := false } else sensor
  if sensor.available then
    let calibrated ← calibrate sensor.fd
    return { sensor with available := massAvailable calibrated.err }
  else return sensor

def startTemp (topic : ℕ) (sensorId : Int) : StartM SensorTemp := do
  let (err, sensor) ← sensorTempInit ⟨0, sensorId, true⟩ topic
  return if err < 0 then { sensor with available := false } else sensor

instance neZero_three : NeZero 3 := ⟨Nat.succ_ne_zero 2⟩

def devpath : Fin 3 → String
  | 0 => "/dev/adc0"
  | 1 => "/dev/adc1"
  | 2 => "/dev/adc2"

/-- The sensors as the first cycle finds them. -/
structure Started where
  mass : SensorMass
  topic2 : SensorTemp
  topic5 : SensorTemp
  adc : Fin 3 → Int

/-- `sensor_telemetry` up to its loop. An ADC device that could not be opened is only logged. -/
def sensorStart : StartM Started := do
  let mass ← startMass
  let topic2 ← startTemp 2 2
  let topic5 ← startTemp 5 3
  let adc0 ← openDev (devpath 0)
  let adc1 ← openDev (devpath 1)
  let adc2 ← openDev (devpath 2)
  return ⟨mass, topic2, topic5, fun
    | 0 => adc0
    | 1 => adc1
    | 2 => adc2⟩

/-! ### The kernel -/

/-- What the kernel answers: which calls fail, a descriptor for every call, no two alike, and the
fetches of the calibration. -/
structure Kernel where
  fails : StartOp → Bool
  calibrated : Calibrated
  fd : ℕ → ℕ
  injective : Function.Injective fd

def Kernel.result (k : Kernel) (o : StartOp) (value : Int) : Int :=
  if k.fails o then -1 else value

def kernel (k : Kernel) : Device StartOp StartOp.Ans ℕ where
  ans
    | .orbGetMeta name, _ => !k.fails (.orbGetMeta name)
    | .orbSubscribe name, n => k.result (.orbSubscribe name) (k.fd n)
    | .orbSubscribeMulti name topic, n => k.result (.orbSubscribeMulti name topic) (k.fd n)
    | .setThermo fd, _ => k.result (.setThermo fd) 0
    | .calibrate _, _ => k.calibrated
    | .openDev devpath, n => k.result (.openDev devpath) (k.fd n)
  eff _ n := n + 1

variable (k : Kernel)

lemma Kernel.result_nonneg_iff {o : StartOp} {value : Int} (hvalue : 0 ≤ value) :
    0 ≤ k.result o value ↔ k.fails o = false := by
  unfold Kernel.result
  cases k.fails o with
  | true => simp
  | false => simpa using hvalue

def Kernel.calls : ℕ :=
  (run (kernel k) (startMass >>= fun _ => startTemp 2 2 >>= fun _ => startTemp 5 3) 0).2

def Kernel.started : Started := (run (kernel k) sensorStart 0).1

lemma started_adc (i : Fin 3) :
    k.started.adc i = k.result (.openDev (devpath i)) (k.fd (k.calls + i)) := by
  simp only [Kernel.started, sensorStart, Kernel.calls, run_bind, run_pure, run_op]
  match i with
  | 0 | 1 | 2 => rfl

lemma started_adc_nonneg_iff (i : Fin 3) :
    0 ≤ k.started.adc i ↔ k.fails (.openDev (devpath i)) = false := by
  rw [started_adc, k.result_nonneg_iff (Int.natCast_nonneg _)]

lemma started_adc_ne {i j : Fin 3} (hij : i < j) (hopen : 0 ≤ k.started.adc i) :
    k.started.adc i ≠ k.started.adc j := by
  have hopened := (started_adc_nonneg_iff k i).mp hopen
  rw [started_adc, started_adc, Kernel.result, Kernel.result, hopened]
  cases hfails : k.fails (.openDev (devpath j)) with
  | true => simp
  | false =>
    simp only [Bool.false_eq_true, if_false]
    intro heq
    have hsame := k.injective (Int.natCast_inj.mp heq)
    omega

def Kernel.opened : Opened where
  adc := k.started.adc
  mass := k.started.mass
  topic2 := (k.started.topic2.fd, k.started.topic2.available)
  topic5 := (k.started.topic5.fd, k.started.topic5.available)
  distinct _ _ hij hopen := started_adc_ne k hij hopen

/-! ### What is available -/

lemma run_sensorMassInit (sensor : SensorMass) (n : ℕ) :
    (run (kernel k) (sensorMassInit sensor) n).1 =
      if k.fails (.orbGetMeta massTopic) then (-1, sensor)
      else if k.fails (.orbSubscribe massTopic) then (-1, { sensor with fd := -1 })
      else (0, { sensor with fd := k.fd (n + 1) }) := by
  have hfd : ¬ (k.fd (n + 1) : Int) < 0 := by omega
  unfold sensorMassInit
  cases hmeta : k.fails (.orbGetMeta massTopic) with
  | true => simp [kernel, hmeta]
  | false =>
    cases hsub : k.fails (.orbSubscribe massTopic) with
    | true => simp [kernel, Kernel.result, hmeta, hsub]
    | false => simp [kernel, Kernel.result, hmeta, hsub, hfd]

lemma run_sensorTempInit (sensor : SensorTemp) (topic n : ℕ) :
    (run (kernel k) (sensorTempInit sensor topic) n).1 =
      if k.fails (.orbGetMeta tempTopic) then (-1, sensor)
      else if k.fails (.orbSubscribeMulti tempTopic topic) then (-1, { sensor with fd := -1 })
      else (k.result (.setThermo (k.fd (n + 1))) 0, { sensor with fd := k.fd (n + 1) }) := by
  have hfd : ¬ (k.fd (n + 1) : Int) < 0 := by omega
  unfold sensorTempInit
  cases hmeta : k.fails (.orbGetMeta tempTopic) with
  | true => simp [kernel, hmeta]
  | false =>
    cases hsub : k.fails (.orbSubscribeMulti tempTopic topic) with
    | true => simp [kernel, Kernel.result, hmeta, hsub]
    | false =>
      cases hset : k.fails (.setThermo (k.fd (n + 1))) with
      | true => simp [kernel, Kernel.result, hmeta, hsub, hfd, hset]
      | false => simp [kernel, Kernel.result, hmeta, hsub, hfd, hset]

lemma startMass_available (n : ℕ) :
    (run (kernel k) startMass n).1.available = true ↔
      k.fails (.orbGetMeta massTopic) = false ∧ k.fails (.orbSubscribe massTopic) = false := by
  have hinit := run_sensorMassInit k ⟨0, true⟩ n
  simp only [startMass, run_bind]
  rw [hinit]
  cases hmeta : k.fails (.orbGetMeta massTopic) with
  | true => simp
  | false =>
    cases hsub : k.fails (.orbSubscribe massTopic) with
    | true => simp
    | false => simp [kernel, k.calibrated.err_eq, massAvailable]

lemma startTemp_available (topic : ℕ) (sensorId : Int) (n : ℕ) :
    (run (kernel k) (startTemp topic sensorId) n).1.available = true ↔
      k.fails (.orbGetMeta tempTopic) = false ∧
        k.fails (.orbSubscribeMulti tempTopic topic) = false ∧
        k.fails (.setThermo (run (kernel k) (startTemp topic sensorId) n).1.fd) = false := by
  have hinit := run_sensorTempInit k ⟨0, sensorId, true⟩ topic n
  simp only [startTemp, run_bind]
  rw [hinit]
  cases hmeta : k.fails (.orbGetMeta tempTopic) with
  | true => simp
  | false =>
    cases hsub : k.fails (.orbSubscribeMulti tempTopic topic) with
    | true => simp
    | false =>
      cases hset : k.fails (.setThermo (k.fd (n + 1))) with
      | true => simp [Kernel.result, hset]
      | false => simp [Kernel.result, hset]

lemma started_mass_available :
    k.started.mass.available = true ↔
      k.fails (.orbGetMeta massTopic) = false ∧ k.fails (.orbSubscribe massTopic) = false := by
  have hmass : k.started.mass = (run (kernel k) startMass 0).1 := by
    simp [Kernel.started, sensorStart]
  rw [hmass]
  exact startMass_available k 0

lemma started_topic2_available :
    k.started.topic2.available = true ↔
      k.fails (.orbGetMeta tempTopic) = false ∧ k.fails (.orbSubscribeMulti tempTopic 2) = false ∧
        k.fails (.setThermo k.started.topic2.fd) = false := by
  have htopic : ∃ n, k.started.topic2 = (run (kernel k) (startTemp 2 2) n).1 :=
    ⟨_, by simp only [Kernel.started, sensorStart, run_bind, run_pure]; rfl⟩
  obtain ⟨n, hn⟩ := htopic
  rw [hn]
  exact startTemp_available k 2 2 n

lemma started_topic5_available :
    k.started.topic5.available = true ↔
      k.fails (.orbGetMeta tempTopic) = false ∧ k.fails (.orbSubscribeMulti tempTopic 5) = false ∧
        k.fails (.setThermo k.started.topic5.fd) = false := by
  have htopic : ∃ n, k.started.topic5 = (run (kernel k) (startTemp 5 3) n).1 :=
    ⟨_, by simp only [Kernel.started, sensorStart, run_bind, run_pure]; rfl⟩
  obtain ⟨n, hn⟩ := htopic
  rw [hn]
  exact startTemp_available k 5 3 n

end Hysim.SensorStart
