import Mathlib.Data.List.FinRange
import Hysim.State

/-!
The telemetry thread that publishes the pad state, from `telemetry.c`.

It waits for an update to be recorded, or for its heartbeat, and publishes one datagram with
the arming level, the connection status and the state of every actuator. It holds the update
mutex from the end of the wait until the update is cleared.
-/

namespace Hysim.Telemetry

open Hysim.Lib.Program Hysim.Packets Hysim.Actuators Hysim.State

def packetArmStateInit (time : UInt32) (state : CEnum) : ArmStateP := ⟨time, state.toUInt8⟩

def packetActStateInit (id : UInt8) (time : UInt32) (state : Bool) : ActStateP :=
  ⟨time, id, if state then 1 else 0⟩

def packetConnInit (time : UInt32) (status : CEnum) : ConnStatusP := ⟨time, status.toUInt8⟩

/-- `padstate_get_actstate`, for an id in range. -/
abbrev padstateGetActstate (act : ActIdx) : PadM Bool := loadAct act

/-- The loop of `telemetry_send_padstate` over the actuators. -/
def actPackets (timeMs : UInt32) : List ActIdx → PadM (List Packet)
  | [] => return []
  | act :: acts => do
    let actState ← padstateGetActstate act
    let rest ← actPackets timeMs acts
    return .act (packetActStateInit (UInt8.ofNat act) timeMs actState) :: rest

/-- `telemetry_send_padstate`. -/
def telemetrySendPadstate : PadM Unit := do
  let timeMs ← clock
  let level ← padstateGetLevel
  let status ← padstateGetConnstatus
  let acts ← actPackets timeMs (List.finRange numActuators)
  publish (.arm (packetArmStateInit timeMs level) :: .conn (packetConnInit timeMs status) :: acts)

/-- Where a thread stands: the controller between two operations on the pad state, the
telemetry thread at the head of one of its loops or about to send. -/
inductive Label
  | idle
  | outer
  | check (err : Int)
  | send

def etimedout : Int := 110

/-- `telemetry_update_padstate` from one label to the next. -/
def telemetryUpdatePadstate : Label → PadM Label
  | .outer => do
    let _ ← clock
    let err ← mutexLock
    return .check err
  | .check err =>
    if err = etimedout then return .send
    else do
      let updateRecorded ← loadUpdate
      if updateRecorded then return .send
      else do
        condRelease
        let err ← condReacquire
        return .check err
  | .send => do
    let _ ← loadUpdate
    telemetrySendPadstate
    storeUpdate false
    mutexUnlock
    return .outer
  | .idle => return .idle

end Hysim.Telemetry
