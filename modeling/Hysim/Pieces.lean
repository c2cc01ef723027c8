import Hysim.Serve
import Hysim.Telemetry

/-!
What the operations on the pad state are made of.

A property of programs that sequencing keeps holds of every operation of the controller as soon
as it holds of the few it is made of, and likewise of the datagram with the pad state.
-/

namespace Hysim.Pieces

open Hysim.Lib.Program Hysim.Packets Hysim.Actuators Hysim.State Hysim.Serve Hysim.Telemetry

/-- The property holds of what the operations of the controller are made of. -/
structure Controls (K : (α : Type) → PadM α → Prop) : Prop extends Closed K where
  drive (act : ActIdx) (on : Bool) : K Int (drive act on)
  storeAct (act : ActIdx) (state : Bool) : K Unit (storeAct act state)
  getLevel : K CEnum padstateGetLevel
  changeLevel (newArm : CEnum) : K Int (padstateChangeLevel newArm)
  setConnstatus (newStatus : ConnStatus) : K Int (padstateSetConnstatus newStatus)
  signalUpdate : K Int padstateSignalUpdate

section Controller

variable {K : (α : Type) → PadM α → Prop} (h : Controls K)
include h

lemma Controls.actuatorSet (act : ActIdx) (newState : Bool) :
    K Int (State.actuatorSet act newState) := by
  have hboth : K Int (State.drive act newState >>= fun err =>
      if err = -1 then pure err else State.storeAct act newState >>= fun _ => pure 0) := by
    refine h.bind _ _ _ _ (h.drive act newState) fun err => ?_
    split_ifs with herr
    · exact h.pure _ err
    · exact h.bind _ _ _ _ (h.storeAct act newState) fun _ => h.pure _ _
  cases newState
  · exact hboth
  · exact hboth

lemma Controls.advanceLevel (reqState : UInt8) (forward : ArmLvl) :
    K Unit (State.advanceLevel reqState forward) := by
  unfold State.advanceLevel
  split_ifs with hs
  · refine h.bind _ _ _ _ h.getLevel fun level => ?_
    split_ifs with hlt
    · exact h.bind _ _ _ _ (h.changeLevel _) fun _ => h.pure _ _
    · exact h.pure _ _
  · exact h.pure _ _

lemma Controls.retreatLevel (reqState : UInt8) (back : ArmLvl) :
    K Unit (State.retreatLevel reqState back) := by
  unfold State.retreatLevel
  split_ifs with hs
  · exact h.bind _ _ _ _ (h.changeLevel _) fun _ => h.pure _ _
  · exact h.pure _ _

lemma Controls.followLevel (id reqState : UInt8) : K Unit (State.followLevel id reqState) := by
  unfold State.followLevel
  split_ifs with hq hi
  · exact h.bind _ _ _ _ (h.advanceLevel _ _) fun _ => h.retreatLevel _ _
  · exact h.bind _ _ _ _ (h.advanceLevel _ _) fun _ => h.retreatLevel _ _
  · exact h.pure _ _

lemma Controls.actuateActuator (act : ActIdx) (id reqState : UInt8) :
    K Int (State.actuateActuator act id reqState) := by
  unfold State.actuateActuator
  refine h.bind _ _ _ _ (h.actuatorSet act _) fun err => ?_
  split_ifs with herr
  · exact h.pure _ _
  · refine h.bind _ _ _ _ (h.followLevel id reqState) fun _ => ?_
    exact h.bind _ _ _ _ h.signalUpdate fun _ => h.pure _ _

lemma Controls.padActuate (id reqState : UInt8) : K Int (State.padActuate id reqState) := by
  unfold State.padActuate
  split_ifs with hid hd hst
  · exact h.actuateActuator _ _ _
  · exact h.pure _ _
  · refine h.bind _ _ _ _ h.getLevel fun level => ?_
    split_ifs with hdeny
    · exact h.pure _ _
    · exact h.actuateActuator _ _ _
  · exact h.pure _ _

lemma Controls.handle (req : Request) : K (Int × Option Ack) (Serve.handle req) := by
  cases req with
  | act req =>
    refine h.bind _ _ _ _ (h.padActuate _ _) fun err => ?_
    split_ifs with herr
    · exact h.pure _ _
    · exact h.pure _ _
  | arm req => exact h.bind _ _ _ _ (h.changeLevel _) fun err => h.pure _ _

end Controller

/-- The property holds of what a datagram with the pad state is put together by. -/
structure Reports (K : (α : Type) → PadM α → Prop) : Prop extends Closed K where
  clock : K UInt32 clock
  getLevel : K CEnum padstateGetLevel
  getConnstatus : K CEnum padstateGetConnstatus
  loadAct (act : ActIdx) : K Bool (loadAct act)
  publish (msg : Datagram) : K Unit (publish msg)

section Telemetry

variable {K : (α : Type) → PadM α → Prop} (h : Reports K)
include h

lemma Reports.actPackets (timeMs : UInt32) (acts : List ActIdx) :
    K (List Packet) (Telemetry.actPackets timeMs acts) := by
  induction acts with
  | nil => exact h.pure _ _
  | cons act acts ih =>
    exact h.bind _ _ _ _ (h.loadAct act) fun _ => h.bind _ _ _ _ ih fun _ => h.pure _ _

lemma Reports.sendPadstate : K Unit telemetrySendPadstate := by
  refine h.bind _ _ _ _ h.clock fun timeMs => ?_
  refine h.bind _ _ _ _ h.getLevel fun level => ?_
  refine h.bind _ _ _ _ h.getConnstatus fun status => ?_
  exact h.bind _ _ _ _ (h.actPackets timeMs _) fun acts => h.publish _

end Telemetry

end Hysim.Pieces
