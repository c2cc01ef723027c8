import Mathlib.Data.Fintype.Basic
import Mathlib.Tactic.FinCases
import Hysim.Packets
import Hysim.Actuators

/-!
The shared state of the pad and the operations on it, from `state.c` and `actuator.c`.

Every access to the state is one operation of a program: a lock call, a load or a store of
one field, the call of a driver. The same programs are run alone, on a device that answers
the operations, and interleaved with the telemetry thread.
-/

namespace Hysim.State

open Hysim.Lib.Program Hysim.Packets Hysim.Actuators

/-- `padstate_t`, without its synchronization objects. -/
structure PadState where
  actuators : ActIdx → Actuator
  armLevel : ArmLvl
  connStatus : ConnStatus
  updateRecorded : Bool

/-- The packets of one telemetry datagram. -/
abbrev Datagram := List Packet

/-- The atomic operations of the threads that share the pad state. The two halves of
`pthread_cond_timedwait` are separate: the mutex is released, and later taken again. -/
inductive PadOp
  | rdlock | wrlock | rwUnlock
  | mutexLock | mutexUnlock
  | condSignal | condRelease | condReacquire
  | loadLevel | storeLevel (level : ArmLvl)
  | loadConn | storeConn (status : ConnStatus)
  | loadAct (act : ActIdx) | storeAct (act : ActIdx) (state : Bool)
  | loadUpdate | storeUpdate (recorded : Bool)
  | drive (act : ActIdx) (on : Bool)
  | clock
  | publish (msg : Datagram)
  deriving DecidableEq

@[reducible] def PadOp.Ans : PadOp → Type
  | .rdlock | .wrlock | .mutexLock | .condSignal | .condReacquire => Int
  | .rwUnlock | .mutexUnlock | .condRelease => Unit
  | .loadLevel => ArmLvl
  | .loadConn => ConnStatus
  | .loadAct _ => Bool
  | .loadUpdate => Bool
  | .storeLevel _ | .storeConn _ | .storeAct _ _ | .storeUpdate _ => Unit
  | .drive _ _ => Int
  | .clock => UInt32
  | .publish _ => Unit

abbrev PadM := Prog PadOp PadOp.Ans

abbrev rdlock : PadM Int := .op PadOp.rdlock
abbrev wrlock : PadM Int := .op PadOp.wrlock
abbrev rwUnlock : PadM Unit := .op PadOp.rwUnlock
abbrev mutexLock : PadM Int := .op PadOp.mutexLock
abbrev mutexUnlock : PadM Unit := .op PadOp.mutexUnlock
abbrev condSignal : PadM Int := .op PadOp.condSignal
abbrev condRelease : PadM Unit := .op PadOp.condRelease
abbrev condReacquire : PadM Int := .op PadOp.condReacquire
abbrev loadLevel : PadM ArmLvl := .op PadOp.loadLevel
abbrev storeLevel (level : ArmLvl) : PadM Unit := .op (PadOp.storeLevel level)
abbrev loadConn : PadM ConnStatus := .op PadOp.loadConn
abbrev storeConn (status : ConnStatus) : PadM Unit := .op (PadOp.storeConn status)
abbrev loadAct (act : ActIdx) : PadM Bool := .op (PadOp.loadAct act)
abbrev storeAct (act : ActIdx) (state : Bool) : PadM Unit := .op (PadOp.storeAct act state)
abbrev loadUpdate : PadM Bool := .op PadOp.loadUpdate
abbrev storeUpdate (recorded : Bool) : PadM Unit := .op (PadOp.storeUpdate recorded)
abbrev drive (act : ActIdx) (on : Bool) : PadM Int := .op (PadOp.drive act on)
abbrev clock : PadM UInt32 := .op PadOp.clock
abbrev publish (msg : Datagram) : PadM Unit := .op (PadOp.publish msg)

def PadState.setAct (pad : PadState) (act : ActIdx) (state : Bool) : PadState :=
  { pad with actuators :=
      Function.update pad.actuators act { pad.actuators act with state := state } }

@[simp] lemma PadState.setAct_armLevel (pad : PadState) (act : ActIdx) (b : Bool) :
    (pad.setAct act b).armLevel = pad.armLevel := rfl
@[simp] lemma PadState.setAct_connStatus (pad : PadState) (act : ActIdx) (b : Bool) :
    (pad.setAct act b).connStatus = pad.connStatus := rfl
@[simp] lemma PadState.setAct_updateRecorded (pad : PadState) (act : ActIdx) (b : Bool) :
    (pad.setAct act b).updateRecorded = pad.updateRecorded := rfl

lemma PadState.setAct_state (pad : PadState) (act other : ActIdx) (b : Bool) :
    ((pad.setAct act b).actuators other).state =
      if other = act then b else (pad.actuators other).state := by
  by_cases h : other = act
  · subst h; simp [PadState.setAct]
  · simp [PadState.setAct, h]

/-- What an operation does to the pad state: only the stores change it. -/
def PadOp.effect : PadOp → PadState → PadState
  | .storeLevel level, pad => { pad with armLevel := level }
  | .storeConn status, pad => { pad with connStatus := status }
  | .storeAct act state, pad => pad.setAct act state
  | .storeUpdate recorded, pad => { pad with updateRecorded := recorded }
  | _, pad => pad

/-! ### Initialization -/

/-- The global `state` of the server before its initialization, in static storage. -/
def zeroed : PadState := ⟨fun _ => ⟨0, false, .gpio ""⟩, .armedPad, .connConnected, false⟩

/-- `padstate_init` on whatever the state held before. -/
def padstateInit (state : PadState) : PadState where
  actuators := actuators.foldl
    (fun acts info => Function.update acts ⟨info.id.toNat, info.id_lt⟩
      (actuatorInit info.id info.driver)) state.actuators
  armLevel := .armedPad
  connStatus := .connReconnecting
  updateRecorded := false

lemma padstateInit_actuator (state : PadState) (act : ActIdx) :
    ((padstateInit state).actuators act).id.toNat = act ∧
      ((padstateInit state).actuators act).state = false := by
  fin_cases act <;> exact ⟨rfl, rfl⟩

/-! ### Level and connection status -/

/-- `padstate_get_level`; a failure to lock is an `arm_lvl_e` of `-1`. -/
def padstateGetLevel : PadM CEnum := do
  let err ← rdlock
  if err ≠ 0 then return -1
  let level ← loadLevel
  rwUnlock
  return level.val

/-- `padstate_get_connstatus`. -/
def padstateGetConnstatus : PadM CEnum := do
  let err ← rdlock
  if err ≠ 0 then return -1
  let status ← loadConn
  rwUnlock
  return status.val

/-- `padstate_signal_update`. -/
def padstateSignalUpdate : PadM Int := do
  let err ← mutexLock
  if err ≠ 0 then return err
  storeUpdate true
  let err ← condSignal
  mutexUnlock
  return err

/-- The three cases in which `padstate_change_level` changes the level, for a level
`newArm` that passed its range check. -/
def lvlIncrease (armLevel : ArmLvl) (newArm : CEnum) : Bool :=
  newArm = armLevel.val + 1 ∧ newArm ≤ ArmLvl.armedLaunch.val

def lvlDecreaseFromArmedValves (armLevel : ArmLvl) (newArm : CEnum) : Bool :=
  armLevel = .armedValves ∧ newArm = ArmLvl.armedPad.val

def lvlDecreaseFromFiringSequence (armLevel : ArmLvl) (newArm : CEnum) : Bool :=
  (newArm = ArmLvl.armedValves.val ∧
    (armLevel = .armedIgnition ∨ armLevel = .armedDisconnected ∨ armLevel = .armedLaunch)) ∨
  newArm = ArmLvl.armedPad.val

/-- `padstate_change_level`. -/
def padstateChangeLevel (newArm : CEnum) : PadM Int := do
  if newArm > ArmLvl.armedLaunch.val ∨ newArm < ArmLvl.armedPad.val then return armInv
  let err ← wrlock
  if err ≠ 0 then return armDenied
  let armLevel ← loadLevel
  if lvlIncrease armLevel newArm ∨ lvlDecreaseFromArmedValves armLevel newArm ∨
      lvlDecreaseFromFiringSequence armLevel newArm then
    storeLevel (ArmLvl.ofVal newArm)
    rwUnlock
    let _ ← padstateSignalUpdate
    return armOk
  else
    rwUnlock
    return armDenied

/-- `padstate_set_connstatus`. -/
def padstateSetConnstatus (newStatus : ConnStatus) : PadM Int := do
  let err ← wrlock
  if err ≠ 0 then return err
  storeConn newStatus
  rwUnlock
  let _ ← padstateSignalUpdate
  return armOk

/-! ### Actuators -/

/-- `actuator_on`: only a driver result of `-1` counts as a failure. -/
def actuatorOn (act : ActIdx) : PadM Int := do
  let err ← drive act true
  if err = -1 then return err
  storeAct act true
  return 0

/-- `actuator_off`. -/
def actuatorOff (act : ActIdx) : PadM Int := do
  let err ← drive act false
  if err = -1 then return err
  storeAct act false
  return 0

/-- `actuator_set`. -/
def actuatorSet (act : ActIdx) (newState : Bool) : PadM Int :=
  if newState then actuatorOn act else actuatorOff act

/-- `is_solenoid_valve`: the fire valve is not one. -/
def isSolenoidValve (id : UInt8) : Bool := (idXv1 ≤ id ∧ id ≤ idXv12) ∧ id ≠ idFireValve

/-- The `switch` over the arming level: whether it refuses the actuator. It has no case
for a value that is no level. -/
def levelDenies (armLvl : CEnum) (id : UInt8) : Bool :=
  if armLvl = ArmLvl.armedPad.val then true
  else if armLvl = ArmLvl.armedValves.val then !isSolenoidValve id
  else if armLvl = ArmLvl.armedIgnition.val then
    !isSolenoidValve id && id != idQuickDisconnect
  else if armLvl = ArmLvl.armedDisconnected.val then
    !isSolenoidValve id && id != idQuickDisconnect && id != idIgniter
  else false

/-- What switching an actuator of the firing sequence does to the level: on advances it to
`forward`, off asks for `back`. -/
def advanceLevel (reqState : UInt8) (forward : ArmLvl) : PadM Unit :=
  if reqState ≠ 0 then do
    let level ← padstateGetLevel
    if level < forward.val then
      let _ ← padstateChangeLevel forward.val
      return ()
    else return ()
  else return ()

def retreatLevel (reqState : UInt8) (back : ArmLvl) : PadM Unit :=
  if reqState = 0 then do
    let _ ← padstateChangeLevel back.val
    return ()
  else return ()

/-- The level change that goes with an actuator. -/
def followLevel (id reqState : UInt8) : PadM Unit :=
  if id = idQuickDisconnect then do
    advanceLevel reqState .armedDisconnected
    retreatLevel reqState .armedIgnition
  else if id = idIgniter then do
    advanceLevel reqState .armedLaunch
    retreatLevel reqState .armedDisconnected
  else return ()

/-- `pad_actuate` from its label `actuate_actuator` on. -/
def actuateActuator (act : ActIdx) (id reqState : UInt8) : PadM Int := do
  let err ← actuatorSet act (reqState != 0)
  if err ≠ 0 then return -1
  followLevel id reqState
  let _ ← padstateSignalUpdate
  return actOk

/-- `pad_actuate`. -/
def padActuate (id reqState : UInt8) : PadM Int :=
  if h : id.toNat < numActuators then
    if id = idDump then actuateActuator ⟨id.toNat, h⟩ id reqState
    else if reqState ≠ 0 ∧ reqState ≠ 1 then return actInv
    else do
      let armLvl ← padstateGetLevel
      if levelDenies armLvl id then return actDenied
      actuateActuator ⟨id.toNat, h⟩ id reqState
  else return actDne

end Hysim.State
