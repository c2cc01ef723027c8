import Mathlib.Algebra.GroupWithZero.Nat
import Hysim.Lib.Program

/-!
The actuators of the pad: ids, records, the table they are initialised from, and the
drivers that switch them.

A driver is a program over the calls it makes to the operating system. The GPIO drivers
report every failure as `-1`; the PWM drivers report it as the `errno` of the call.
-/

namespace Hysim.Actuators

open Hysim.Lib.Program

/-- `NUM_ACTUATORS`: solenoid valves, quick disconnect, dump valve and igniter. -/
def numActuators : ℕ := 12 + 1 + 1 + 1

instance : NeZero numActuators := ⟨Nat.succ_ne_zero 14⟩

abbrev ActIdx := Fin numActuators

/-! `act_id_e`, compared with raw bytes; two of its enumerators are equal. -/

def idIgniter : UInt8 := 0
def idXv1 : UInt8 := 1
def idXv2 : UInt8 := 2
def idXv3 : UInt8 := 3
def idXv4 : UInt8 := 4
def idXv5 : UInt8 := 5
def idFireValve : UInt8 := 5
def idXv6 : UInt8 := 6
def idXv7 : UInt8 := 7
def idXv8 : UInt8 := 8
def idXv9 : UInt8 := 9
def idXv10 : UInt8 := 10
def idXv11 : UInt8 := 11
def idXv12 : UInt8 := 12
def idQuickDisconnect : UInt8 := 13
def idDump : UInt8 := 14

def igniter : ActIdx := ⟨idIgniter.toNat, by decide⟩
def quickDisconnect : ActIdx := ⟨idQuickDisconnect.toNat, by decide⟩
def dumpValve : ActIdx := ⟨idDump.toNat, by decide⟩

lemma quickDisconnect_eq_iff {id : UInt8} (h : id.toNat < numActuators) :
    quickDisconnect = ⟨id.toNat, h⟩ ↔ id = idQuickDisconnect := by
  rw [quickDisconnect, Fin.mk.injEq, UInt8.toNat_inj, eq_comm]

lemma igniter_eq_iff {id : UInt8} (h : id.toNat < numActuators) :
    igniter = ⟨id.toNat, h⟩ ↔ id = idIgniter := by
  rw [igniter, Fin.mk.injEq, UInt8.toNat_inj, eq_comm]

@[simp] lemma idIgniter_ne_idQuickDisconnect : idIgniter ≠ idQuickDisconnect := by decide
@[simp] lemma idQuickDisconnect_ne_idDump : idQuickDisconnect ≠ idDump := by decide
@[simp] lemma idIgniter_ne_idDump : idIgniter ≠ idDump := by decide

/-- `pwm_actinfo_t`. The device has two channels. -/
structure PwmActinfo where
  dev : String
  channel : Fin 2
  closeDuty : UInt16
  openDuty : UInt16
  deriving DecidableEq, Repr

/-- The on/off functions of an actuator with their private data. -/
inductive Driver
  | gpio (dev : String)
  | pwm (info : PwmActinfo)
  deriving DecidableEq, Repr

structure Actuator where
  id : UInt8
  state : Bool
  driver : Driver
  deriving DecidableEq, Repr

/-- `actuator_init`. -/
def actuatorInit (id : UInt8) (driver : Driver) : Actuator := ⟨id, false, driver⟩

structure ActuatorInfo where
  id : UInt8
  driver : Driver
  id_lt : id.toNat < numActuators := by decide

def dumpInfo : PwmActinfo := ⟨"/dev/pwm5", 1, 0x4000, 0x8000⟩
def quickDisconnectInfo : PwmActinfo := ⟨"/dev/pwm5", 0, 0x2666, 0x8ccc⟩

def actuators : List ActuatorInfo := [
  { id := idXv1, driver := .gpio "/dev/gpio0" },
  { id := idXv2, driver := .gpio "/dev/gpio1" },
  { id := idXv3, driver := .gpio "/dev/gpio2" },
  { id := idXv4, driver := .gpio "/dev/gpio3" },
  { id := idXv5, driver := .gpio "/dev/gpio4" },
  { id := idXv6, driver := .gpio "/dev/gpio5" },
  { id := idXv7, driver := .gpio "/dev/gpio6" },
  { id := idXv8, driver := .gpio "/dev/gpio11" },
  { id := idXv9, driver := .gpio "/dev/gpio10" },
  { id := idXv10, driver := .gpio "/dev/gpio9" },
  { id := idXv11, driver := .gpio "/dev/gpio8" },
  { id := idXv12, driver := .gpio "/dev/gpio28" },
  { id := idIgniter, driver := .gpio "/dev/gpio7" },
  { id := idDump, driver := .pwm dumpInfo },
  { id := idQuickDisconnect, driver := .pwm quickDisconnectInfo }]

/-! ### The drivers -/

/-- One channel of `struct pwm_info_s`. -/
structure PwmChannel where
  channel : UInt8
  cpol : UInt8
  dcpol : UInt8
  duty : UInt16
  deriving DecidableEq, Repr

structure PwmInfo where
  frequency : UInt32
  channels : Fin 2 → PwmChannel

/-- The system calls of the drivers; `fd` is what `open` returned. -/
inductive DevOp
  | openDev (path : String)
  | gpiocWrite (fd : ℕ) (value : Bool)
  | close (fd : ℕ)
  | pwmGetCharacteristics (fd : ℕ)
  | pwmSetCharacteristics (fd : ℕ) (config : PwmInfo)
  | pwmStart (fd : ℕ)

/-- A failed call gives its `errno`; a successful `ioctl` returns `0`. -/
@[reducible] def DevOp.Ans : DevOp → Type
  | .openDev _ => Except Int ℕ
  | .gpiocWrite _ _ => Except Int Unit
  | .close _ => Except Int Unit
  | .pwmGetCharacteristics _ => Except Int PwmInfo
  | .pwmSetCharacteristics _ _ => Except Int Unit
  | .pwmStart _ => Except Int Unit

abbrev DevM := Prog DevOp DevOp.Ans

abbrev openDev (path : String) : DevM (Except Int ℕ) := .op (DevOp.openDev path)
abbrev gpiocWrite (fd : ℕ) (value : Bool) : DevM (Except Int Unit) :=
  .op (DevOp.gpiocWrite fd value)
abbrev close (fd : ℕ) : DevM (Except Int Unit) := .op (DevOp.close fd)
abbrev pwmGetCharacteristics (fd : ℕ) : DevM (Except Int PwmInfo) :=
  .op (DevOp.pwmGetCharacteristics fd)
abbrev pwmSetCharacteristics (fd : ℕ) (config : PwmInfo) : DevM (Except Int Unit) :=
  .op (DevOp.pwmSetCharacteristics fd config)
abbrev pwmStart (fd : ℕ) : DevM (Except Int Unit) := .op (DevOp.pwmStart fd)

/-- `gpio_actuator_on` and `gpio_actuator_off`, which differ in the value written. -/
def gpioActuatorWrite (value : Bool) (dev : String) : DevM Int := do
  match ← openDev dev with
  | .error _ => return -1
  | .ok fd =>
    match ← gpiocWrite fd value with
    | .error _ => return -1
    | .ok _ =>
      match ← close fd with
      | .error _ => return -1
      | .ok _ => return 0

def gpioActuatorOn (dev : String) : DevM Int := gpioActuatorWrite true dev
def gpioActuatorOff (dev : String) : DevM Int := gpioActuatorWrite false dev

def defaultFrequency : UInt32 := 250

/-- The configuration `pwm_send_signal` writes back: only the active channel changes. -/
def pwmConfigure (priv : PwmActinfo) (openAct : Bool) (config : PwmInfo) : PwmInfo where
  frequency := defaultFrequency
  channels := Function.update config.channels priv.channel
    { channel := UInt8.ofNat priv.channel
      cpol := 1
      dcpol := 0
      duty := if openAct then priv.openDuty else priv.closeDuty }

/-- `pwm_send_signal`. The descriptor is never closed. -/
def pwmSendSignal (priv : PwmActinfo) (openAct : Bool) : DevM Int := do
  match ← openDev priv.dev with
  | .error errno => return errno
  | .ok fd =>
    match ← pwmGetCharacteristics fd with
    | .error errno => return errno
    | .ok config =>
      match ← pwmSetCharacteristics fd (pwmConfigure priv openAct config) with
      | .error errno => return errno
      | .ok _ =>
        match ← pwmStart fd with
        | .error errno => return errno
        | .ok _ => return 0

def pwmActuatorOn (priv : PwmActinfo) : DevM Int := pwmSendSignal priv false
def pwmActuatorOff (priv : PwmActinfo) : DevM Int := pwmSendSignal priv true

/-- `act->on(act)` and `act->off(act)`. -/
def Driver.on : Driver → DevM Int
  | .gpio dev => gpioActuatorOn dev
  | .pwm info => pwmActuatorOn info

def Driver.off : Driver → DevM Int
  | .gpio dev => gpioActuatorOff dev
  | .pwm info => pwmActuatorOff info

end Hysim.Actuators
