import Hysim.Serve

/-!
What each operation on the pad state can perform, whatever its locks and drivers answer.
-/

namespace Hysim.Effects

open Hysim.Lib.Program Hysim.Packets Hysim.Actuators Hysim.State Hysim.Serve

/-- An operation that touches neither the level, nor the connection status, nor an actuator. -/
def Quiet : PadOp → Prop
  | .storeLevel _ | .storeConn _ | .storeAct _ _ | .drive _ _ => False
  | _ => True

/-- At most the level is touched, and a level stored has `L`. -/
def Levels (L : ArmLvl → Prop) (o : PadOp) : Prop :=
  Quiet o ∨ ∃ level, L level ∧ o = .storeLevel level

/-- What a request may perform: an actuation stores no level below the firing sequence. -/
inductive May : Request → PadOp → Prop
  | quiet {req : Request} {o : PadOp} (h : Quiet o) : May req o
  | follow {req : ActReqP} {level : ArmLvl} (h : .armedValves < level) :
    May (.act req) (.storeLevel level)
  | drive {req : ActReqP} (h : req.id.toNat < numActuators) :
    May (.act req) (.drive ⟨req.id.toNat, h⟩ (req.state != 0))
  | store {req : ActReqP} (h : req.id.toNat < numActuators) :
    May (.act req) (.storeAct ⟨req.id.toNat, h⟩ (req.state != 0))
  | change {req : ArmReqP} {level : ArmLvl} (h : level = ArmLvl.ofVal req.level.toUInt32) :
    May (.arm req) (.storeLevel level)

lemma Levels.may {req : ActReqP} {o : PadOp} (h : Levels (.armedValves < ·) o) :
    May (.act req) o := by
  rcases h with h | ⟨level, h, rfl⟩
  · exact .quiet h
  · exact .follow h

/-! ### The operations of the pad state -/

lemma getLevel_performs : Performs Quiet padstateGetLevel := by
  refine ⟨trivial, fun err => ?_⟩
  change Performs Quiet (if _ then _ else _)
  split_ifs with herr
  · trivial
  · exact ⟨trivial, fun _ => ⟨trivial, fun _ => trivial⟩⟩

lemma signalUpdate_performs : Performs Quiet padstateSignalUpdate := by
  refine ⟨trivial, fun err => ?_⟩
  change Performs Quiet (if _ then _ else _)
  split_ifs with herr
  · trivial
  · exact ⟨trivial, fun _ => ⟨trivial, fun _ => ⟨trivial, fun _ => trivial⟩⟩⟩

lemma setConnstatus_performs (status : ConnStatus) :
    Performs (fun o => Quiet o ∨ o = .storeConn status) (padstateSetConnstatus status) := by
  refine ⟨.inl trivial, fun err => ?_⟩
  change Performs _ (if _ then _ else _)
  split_ifs with herr
  · trivial
  · exact ⟨.inr rfl, fun _ => ⟨.inl trivial, fun _ =>
      (signalUpdate_performs.mono fun _ h => .inl h).bind fun _ => trivial⟩⟩

lemma changeLevel_performs (v : CEnum) :
    Performs (Levels (· = ArmLvl.ofVal v)) (padstateChangeLevel v) := by
  unfold padstateChangeLevel
  split_ifs with hrange
  · trivial
  refine ⟨.inl trivial, fun err => ?_⟩
  change Performs _ (if _ then _ else _)
  split_ifs with hlock
  · trivial
  refine ⟨.inl trivial, fun level => ?_⟩
  change Performs _ (if _ then _ else _)
  split_ifs with hmove
  · exact ⟨.inr ⟨_, rfl, rfl⟩, fun _ => ⟨.inl trivial, fun _ =>
      (signalUpdate_performs.mono fun _ h => .inl h).bind fun _ => trivial⟩⟩
  · exact ⟨.inl trivial, fun _ => trivial⟩

lemma changeLevel_performs_of {L : ArmLvl → Prop} {new : ArmLvl} (h : L new) :
    Performs (Levels L) (padstateChangeLevel new.val) :=
  (changeLevel_performs new.val).mono fun o ho => by
    rcases ho with ho | ⟨level, rfl, rfl⟩
    · exact .inl ho
    · exact .inr ⟨_, (ArmLvl.ofVal_val new).symm ▸ h, rfl⟩

lemma advanceLevel_performs {L : ArmLvl → Prop} {forward : ArmLvl} (h : L forward)
    (reqState : UInt8) : Performs (Levels L) (advanceLevel reqState forward) := by
  unfold advanceLevel
  split_ifs with hs
  · refine (getLevel_performs.mono fun _ => .inl).bind fun level => ?_
    split_ifs with hlt
    · exact (changeLevel_performs_of h).bind fun _ => trivial
    · trivial
  · trivial

lemma retreatLevel_performs {L : ArmLvl → Prop} {back : ArmLvl} (h : L back)
    (reqState : UInt8) : Performs (Levels L) (retreatLevel reqState back) := by
  unfold retreatLevel
  split_ifs with hs
  · exact (changeLevel_performs_of h).bind fun _ => trivial
  · trivial

lemma followLevel_performs (id reqState : UInt8) :
    Performs (Levels (.armedValves < ·)) (followLevel id reqState) := by
  unfold followLevel
  split_ifs with hq hi
  · exact (advanceLevel_performs (by decide) reqState).bind fun _ =>
      retreatLevel_performs (by decide) reqState
  · exact (advanceLevel_performs (by decide) reqState).bind fun _ =>
      retreatLevel_performs (by decide) reqState
  · trivial

/-! ### Requests -/

section Requests

variable (req : ActReqP) (h : req.id.toNat < numActuators)

lemma actuatorSet_performs :
    Performs (May (.act req)) (actuatorSet ⟨req.id.toNat, h⟩ (req.state != 0)) := by
  have hboth : Performs (May (.act req)) (drive ⟨req.id.toNat, h⟩ (req.state != 0) >>= fun err =>
      if err = -1 then pure err
      else storeAct ⟨req.id.toNat, h⟩ (req.state != 0) >>= fun _ => pure 0) := by
    refine ⟨.drive h, fun err => ?_⟩
    change Performs _ (if _ then _ else _)
    split_ifs with herr
    · trivial
    · exact ⟨.store h, fun _ => trivial⟩
  unfold actuatorSet
  split_ifs with hs
  · rw [hs] at hboth
    exact hboth
  · rw [Bool.not_eq_true] at hs
    rw [hs] at hboth
    exact hboth

lemma actuateActuator_performs :
    Performs (May (.act req)) (actuateActuator ⟨req.id.toNat, h⟩ req.id req.state) := by
  refine (actuatorSet_performs req h).bind fun err => ?_
  split_ifs with herr
  · trivial
  refine ((followLevel_performs req.id req.state).mono fun _ => Levels.may).bind fun _ => ?_
  exact (signalUpdate_performs.mono fun _ => .quiet).bind fun _ => trivial

lemma padActuate_performs : Performs (May (.act req)) (padActuate req.id req.state) := by
  unfold padActuate
  split_ifs with hid hd hst
  · exact actuateActuator_performs req hid
  · trivial
  · refine (getLevel_performs.mono fun _ => .quiet).bind fun level => ?_
    split_ifs with hdeny
    · trivial
    · exact actuateActuator_performs req hid
  · trivial

end Requests

/-- **What a request may perform**, whatever its locks and its driver answer. -/
theorem handle_performs (req : Request) : Performs (May req) (handle req) := by
  cases req with
  | act req =>
    refine (padActuate_performs req).bind fun err => ?_
    split_ifs with herr
    · trivial
    · trivial
  | arm req =>
    refine ((changeLevel_performs req.level.toUInt32).mono fun o ho => ?_).bind fun _ => trivial
    rcases ho with ho | ⟨level, hlevel, rfl⟩
    · exact .quiet ho
    · exact .change hlevel

end Hysim.Effects
