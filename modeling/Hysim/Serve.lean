import Hysim.Arming

/-!
The controller thread serving one complete request after another, with no other thread
running: every operation is answered at once, lock operations and drivers as the
environment decides.
-/

namespace Hysim.Serve

open Hysim.Lib.Program Hysim.Packets Hysim.Actuators Hysim.State Hysim.Arming

/-- A thread alone with the pad state: the results its lock operations are still to give,
`0` when none is left, and the result of the driver it calls. -/
structure Solo where
  pad : PadState
  locks : List Int
  driver : Int

def Solo.ans : (o : PadOp) → Solo → o.Ans
  | .rdlock, s | .wrlock, s | .mutexLock, s => s.locks.headD 0
  | .condSignal, _ | .condReacquire, _ => 0
  | .rwUnlock, _ | .mutexUnlock, _ | .condRelease, _ => ()
  | .loadLevel, s => s.pad.armLevel
  | .loadConn, s => s.pad.connStatus
  | .loadAct act, s => (s.pad.actuators act).state
  | .loadUpdate, s => s.pad.updateRecorded
  | .storeLevel _, _ | .storeConn _, _ | .storeAct _ _, _ | .storeUpdate _, _ => ()
  | .drive _ _, s => s.driver
  | .clock, _ => 0
  | .publish _, _ => ()

def Solo.eff : PadOp → Solo → Solo
  | .rdlock, s | .wrlock, s | .mutexLock, s => { s with locks := s.locks.tail }
  | o, s => { s with pad := o.effect s.pad }

def solo : Device PadOp PadOp.Ans Solo := ⟨Solo.ans, Solo.eff⟩

@[simp] lemma solo_ans (o : PadOp) (s : Solo) : solo.ans o s = Solo.ans o s := rfl
@[simp] lemma solo_eff (o : PadOp) (s : Solo) : solo.eff o s = Solo.eff o s := rfl

attribute [simp] Solo.ans Solo.eff PadOp.effect

/-! ### The operations of the pad state, with every lock operation succeeding -/

section Locked

variable (pad : PadState) (drv : Int)

@[simp] lemma getLevel_run :
    run solo padstateGetLevel ⟨pad, [], drv⟩ = (pad.armLevel.val, ⟨pad, [], drv⟩) := by
  simp [padstateGetLevel]

@[simp] lemma signalUpdate_run :
    run solo padstateSignalUpdate ⟨pad, [], drv⟩ =
      (0, ⟨{ pad with updateRecorded := true }, [], drv⟩) := by
  simp [padstateSignalUpdate]

@[simp] lemma changeLevel_run (new : ArmLvl) :
    run solo (padstateChangeLevel new.val) ⟨pad, [], drv⟩ =
      (if Moves pad.armLevel new then armOk else armDenied, ⟨moveTo pad new, [], drv⟩) := by
  have hrange : ¬ (new.val > ArmLvl.armedLaunch.val ∨ new.val < ArmLvl.armedPad.val) := by
    cases new <;> decide
  have hmoves := moves_iff pad.armLevel new
  rw [padstateChangeLevel, if_neg hrange]
  by_cases h : Moves pad.armLevel new <;> simp [hmoves, h, moveTo]

lemma changeLevel_invalid {v : CEnum} (h : v > ArmLvl.armedLaunch.val) (s : Solo) :
    run solo (padstateChangeLevel v) s = (armInv, s) := by
  simp [padstateChangeLevel, h]

@[simp] lemma actuatorSet_run (act : ActIdx) (b : Bool) :
    run solo (actuatorSet act b) ⟨pad, [], drv⟩ =
      if drv = -1 then (-1, ⟨pad, [], drv⟩) else (0, ⟨pad.setAct act b, [], drv⟩) := by
  by_cases h : drv = -1 <;> cases b <;> simp [actuatorSet, actuatorOn, actuatorOff, h]

lemma advanceLevel_run {reqState : UInt8} {forward : ArmLvl} (hf : .armedValves < forward) :
    run solo (advanceLevel reqState forward) ⟨pad, [], drv⟩ =
      ((), ⟨if reqState = 0 then pad else moveTo pad forward, [], drv⟩) := by
  unfold advanceLevel
  by_cases hs : reqState = 0
  · simp [hs]
  by_cases hlt : pad.armLevel.val < forward.val
  · simp [hs, hlt]
  · -- at or above `forward`, asking for it would have been refused
    have hle : forward ≤ pad.armLevel := not_lt.mp (ArmLvl.val_lt_iff.not.mp hlt)
    simp [hs, hlt, moveTo, not_moves_of_le hf hle]

lemma retreatLevel_run (reqState : UInt8) (back : ArmLvl) :
    run solo (retreatLevel reqState back) ⟨pad, [], drv⟩ =
      ((), ⟨if reqState = 0 then moveTo pad back else pad, [], drv⟩) := by
  unfold retreatLevel
  by_cases hs : reqState = 0 <;> simp [hs]

@[simp] lemma followLevel_run (id reqState : UInt8) :
    run solo (followLevel id reqState) ⟨pad, [], drv⟩ =
      ((), ⟨follow pad id reqState, [], drv⟩) := by
  have hd : ArmLvl.armedValves < .armedDisconnected := by decide
  have hl : ArmLvl.armedValves < .armedLaunch := by decide
  unfold followLevel follow target
  by_cases hq : id = idQuickDisconnect
  · by_cases hs : reqState = 0 <;>
      simp [hq, hs, advanceLevel_run _ _ hd, retreatLevel_run]
  by_cases hi : id = idIgniter
  · by_cases hs : reqState = 0 <;>
      simp [hi, hs, advanceLevel_run _ _ hl, retreatLevel_run]
  · simp [hq, hi]

def actuated (act : ActIdx) (id reqState : UInt8) : PadState :=
  { follow (pad.setAct act (reqState != 0)) id reqState with updateRecorded := true }

@[simp] lemma actuated_armLevel (act : ActIdx) (id reqState : UInt8) :
    (actuated pad act id reqState).armLevel = followed id reqState pad.armLevel := by
  simp [actuated]

@[simp] lemma actuated_actuators (act : ActIdx) (id reqState : UInt8) :
    (actuated pad act id reqState).actuators = (pad.setAct act (reqState != 0)).actuators := by
  simp [actuated]

@[simp] lemma actuated_connStatus (act : ActIdx) (id reqState : UInt8) :
    (actuated pad act id reqState).connStatus = pad.connStatus := by
  simp [actuated]

@[simp] lemma actuateActuator_run (act : ActIdx) (id reqState : UInt8) :
    run solo (actuateActuator act id reqState) ⟨pad, [], drv⟩ =
      if drv = -1 then (-1, ⟨pad, [], drv⟩)
      else (actOk, ⟨actuated pad act id reqState, [], drv⟩) := by
  unfold actuateActuator actuated
  by_cases h : drv = -1 <;> simp [h]

end Locked

/-! ### Requests -/

/-- A request of the control client: the body of an `ACT_REQ` or `ARM_REQ` packet. -/
inductive Request
  | act (req : ActReqP)
  | arm (req : ArmReqP)
  deriving DecidableEq, Repr

/-- An acknowledgement as sent, without a header. -/
inductive Ack
  | act (ack : ActAckP)
  | arm (ack : ArmAckP)
  deriving DecidableEq, Repr

def Ack.bytes : Ack → List UInt8
  | .act ack => [ack.id, ack.status]
  | .arm ack => [ack.status]

/-- The `switch` of `controller_run` over the result of `padstate_change_level`. -/
def armAck (err : Int) : Option Ack :=
  if err = armOk then some (.arm ⟨UInt8.ofInt armOk⟩)
  else if err = armDenied then some (.arm ⟨UInt8.ofInt armDenied⟩)
  else if err = armInv then some (.arm ⟨UInt8.ofInt armInv⟩)
  else none

/-- What `controller_run` does with a request once its body is read: the result of the
operation and the acknowledgement sent. -/
def handle : Request → PadM (Int × Option Ack)
  | .act req => do
    let err ← padActuate req.id req.state
    if err = -1 then return (err, none)
    return (err, some (.act ⟨req.id, UInt8.ofInt err⟩))
  | .arm req => do
    let err ← padstateChangeLevel req.level.toUInt32
    return (err, armAck err)

/-- What a request finds besides the pad state. -/
structure Env where
  locks : List Int
  driver : Int

def serve (env : Env) (pad : PadState) (req : Request) : (Int × Option Ack) × PadState :=
  let x := run solo (handle req) ⟨pad, env.locks, env.driver⟩
  (x.1, x.2.pad)

/-- The request gets past every check of `pad_actuate` at the level `level`. -/
def Commanded (level : ArmLvl) (req : ActReqP) : Prop :=
  req.id.toNat < numActuators ∧ (req.id = idDump ∨ req.state = 0 ∨ req.state = 1) ∧
    required req.id ≤ level

instance (level : ArmLvl) (req : ActReqP) : Decidable (Commanded level req) := by
  unfold Commanded; infer_instance

/-- The status with which `pad_actuate` refuses a request. -/
def refusal (req : ActReqP) : Int :=
  if ¬ req.id.toNat < numActuators then actDne
  else if req.id ≠ idDump ∧ req.state ≠ 0 ∧ req.state ≠ 1 then actInv
  else actDenied

lemma refusal_ne (req : ActReqP) : refusal req ≠ -1 := by
  unfold refusal
  split_ifs <;> decide

lemma padActuate_commanded {pad : PadState} {req : ActReqP} (h : Commanded pad.armLevel req)
    (drv : Int) :
    run solo (padActuate req.id req.state) ⟨pad, [], drv⟩ =
      run solo (actuateActuator ⟨req.id.toNat, h.1⟩ req.id req.state) ⟨pad, [], drv⟩ := by
  obtain ⟨hid, hst, hlvl⟩ := h
  rw [padActuate, dif_pos hid]
  by_cases hd : req.id = idDump
  · rw [if_pos hd]
  have hdeny := (levelDenies_eq_false_iff pad.armLevel hd).mpr hlvl
  have hok : ¬ (req.state ≠ 0 ∧ req.state ≠ 1) := by tauto
  rw [if_neg hd, if_neg hok]
  simp [hdeny]

lemma padActuate_refused {pad : PadState} {req : ActReqP} (h : ¬ Commanded pad.armLevel req)
    (drv : Int) :
    run solo (padActuate req.id req.state) ⟨pad, [], drv⟩ =
      (refusal req, ⟨pad, [], drv⟩) := by
  unfold padActuate refusal
  by_cases hid : req.id.toNat < numActuators
  · by_cases hd : req.id = idDump
    · exact absurd ⟨hid, .inl hd, hd ▸ required_dump_le _⟩ h
    by_cases hst : req.state ≠ 0 ∧ req.state ≠ 1
    · simp [hid, hd, hst]
    have hlt : pad.armLevel < required req.id :=
      not_le.mp fun hle => h ⟨hid, by tauto, hle⟩
    have hdeny := (levelDenies_iff pad.armLevel hd).mpr hlt
    simp [hid, hd, hst, hdeny]
  · simp [hid]

/-! ### Serving with every lock operation succeeding -/

section Served

variable (pad : PadState) (drv : Int)

lemma serve_refused {req : ActReqP} (h : ¬ Commanded pad.armLevel req) :
    serve ⟨[], drv⟩ pad (.act req) =
      ((refusal req, some (.act ⟨req.id, UInt8.ofInt (refusal req)⟩)), pad) := by
  simp [serve, handle, padActuate_refused h, refusal_ne]

lemma serve_actuated {req : ActReqP} (h : Commanded pad.armLevel req) (hd : drv ≠ -1) :
    serve ⟨[], drv⟩ pad (.act req) =
      ((actOk, some (.act ⟨req.id, UInt8.ofInt actOk⟩)),
        actuated pad ⟨req.id.toNat, h.1⟩ req.id req.state) := by
  simp [serve, handle, padActuate_commanded h, hd, actOk]

lemma serve_arm {req : ArmReqP} {new : ArmLvl} (h : req.level.toUInt32 = new.val) :
    serve ⟨[], drv⟩ pad (.arm req) =
      ((if Moves pad.armLevel new then armOk else armDenied,
        armAck (if Moves pad.armLevel new then armOk else armDenied)), moveTo pad new) := by
  simp [serve, handle, h]

lemma serve_arm_invalid {req : ArmReqP} (h : req.level.toUInt32 > ArmLvl.armedLaunch.val) :
    serve ⟨[], drv⟩ pad (.arm req) = ((armInv, armAck armInv), pad) := by
  simp [serve, handle, changeLevel_invalid h]

end Served

end Hysim.Serve
