import Hysim.Shared

/-!
The paths of the two threads: what each can do next, followed apart from the other.

The controller stores an actuator, then a level, and then takes the mutex to record an
update. The telemetry thread loads in the opposite order while it holds the mutex.
-/

namespace Hysim.Paths

open Hysim.Lib.Program Hysim.Lib.Threads Hysim.Packets Hysim.Actuators Hysim.State
open Hysim.Serve Hysim.Telemetry Hysim.Publish

/-- What the controller has stored since an update was last recorded: nothing, an actuator,
or, last of all, a level or the connection status. -/
inductive Stage
  | fresh | acted | stored
  deriving DecidableEq, Repr

/-- How far the controller is in an operation, and whether it holds the mutex. -/
structure CtlPath where
  stage : Stage
  holds : Bool

inductive CtlPathStep : CtlPath → (o : PadOp) → o.Ans → CtlPath → Prop
  | rdlock (m r) : CtlPathStep m .rdlock r m
  | wrlock (m r) : CtlPathStep m .wrlock r m
  | rwUnlock (m r) : CtlPathStep m .rwUnlock r m
  | loadLevel (m r) : CtlPathStep m .loadLevel r m
  | drive (m act on r) : CtlPathStep m (.drive act on) r m
  | condSignal (m r) : CtlPathStep m .condSignal r m
  | storeAct (m act b r) (h : m.stage = .fresh) :
      CtlPathStep m (.storeAct act b) r { m with stage := .acted }
  | storeLevel (m level r) (h : m.stage ≠ .stored) :
      CtlPathStep m (.storeLevel level) r { m with stage := .stored }
  | storeConn (m status r) (h : m.stage = .fresh) :
      CtlPathStep m (.storeConn status) r { m with stage := .stored }
  | mutexLock (m r) : CtlPathStep m .mutexLock r { m with holds := true }
  | record (m r) (h : m.holds = true) :
      CtlPathStep m (.storeUpdate true) r { m with stage := .fresh }
  | mutexUnlock (m r) (h : m.holds = true) :
      CtlPathStep m .mutexUnlock r { m with holds := false }

def padReads : List PadOp :=
  .loadLevel :: .loadConn :: (List.finRange numActuators).map .loadAct

/-- A load of this pad state answers `r`. -/
def Reads : (o : PadOp) → o.Ans → PadState → Prop
  | .loadLevel, r, pad => pad.armLevel = r
  | .loadConn, r, pad => pad.connStatus = r
  | .loadAct act, r, pad => (pad.actuators act).state = r
  | _, _, _ => True

/-- How far the telemetry thread is: without the mutex, with it, or putting a datagram
together, with the loads still to make and what the pad state was seen to be. -/
inductive TelPath
  | outside
  | holding
  | sending (todo : List PadOp) (seen : PadState → Prop)
  | sent

inductive TelPathStep : TelPath → (o : PadOp) → o.Ans → TelPath → Prop
  | clock (m r) : TelPathStep m .clock r m
  | mutexLock (r) : TelPathStep .outside .mutexLock r .holding
  | loadUpdate (m r) : TelPathStep m .loadUpdate r m
  | condRelease (r) : TelPathStep .holding .condRelease r .outside
  | condReacquire (r) : TelPathStep .outside .condReacquire r .holding
  | rdlock (m r) : TelPathStep m .rdlock r m
  | rwUnlock (m r) : TelPathStep m .rwUnlock r m
  | first (r) : TelPathStep .holding .loadLevel r (.sending padReads.tail (Reads .loadLevel r))
  | read (o todo seen r) (h : o ∈ padReads) : TelPathStep (.sending (o :: todo) seen) o r
      (.sending todo fun pad => seen pad ∧ Reads o r pad)
  | publish (seen msg r) (h : ∃ time, ∀ pad, seen pad → msg = padDatagram time pad) :
      TelPathStep (.sending [] seen) (.publish msg) r .sent
  | clear (r) : TelPathStep .sent (.storeUpdate false) r .sent
  | mutexUnlock (r) : TelPathStep .sent .mutexUnlock r .outside

@[reducible] def Path : Who → Type
  | .controller => CtlPath
  | .telemetry => TelPath

def paths : (who : Who) → Monitor PadOp PadOp.Ans (Path who)
  | .controller => ⟨Expects, CtlPathStep⟩
  | .telemetry => ⟨Expects, TelPathStep⟩

/-! ### The controller keeps to its path -/

section Controller

abbrev Ctl {α : Type} (p : PadM α) (post : α → CtlPath → Prop) (m : CtlPath) : Prop :=
  Follows (paths .controller) p post m

/-- Between two operations: an update is recorded for everything stored. -/
def Rested (m : CtlPath) : Prop := m.stage = .fresh ∧ m.holds = false

def Underway (m : CtlPath) : Prop := m.stage ≠ .stored ∧ m.holds = false

lemma Rested.underway {m : CtlPath} (h : Rested m) : Underway m := ⟨by simp [h.1], h.2⟩

lemma ctl_getLevel (m : CtlPath) : Ctl padstateGetLevel (fun _ y => y = m) m := by
  rintro _ rfl
  refine ⟨m, .rdlock m 0, fun level _ => ⟨m, .loadLevel m level, fun _ _ => ?_⟩⟩
  exact ⟨m, .rwUnlock m _, rfl⟩

lemma ctl_signalUpdate (m : CtlPath) : Ctl padstateSignalUpdate (fun _ y => Rested y) m := by
  rintro _ rfl
  refine ⟨_, .mutexLock m 0, fun _ _ => ⟨_, .record _ _ rfl, fun r _ => ?_⟩⟩
  refine ⟨_, .condSignal _ r, fun _ _ => ⟨_, .mutexUnlock _ _ rfl, rfl, rfl⟩⟩

lemma ctl_changeLevel (new : CEnum) {m : CtlPath} (h : m.stage ≠ .stored) :
    Ctl (padstateChangeLevel new) (fun _ y => y = m ∨ Rested y) m := by
  unfold padstateChangeLevel
  split_ifs with hrange
  · exact .inl rfl
  rintro _ rfl
  refine ⟨m, .wrlock m 0, fun level _ => ⟨m, .loadLevel m level, ?_⟩⟩
  change Ctl (if _ then _ else _) _ m
  split_ifs with hmove
  · refine Follows.op_bind fun _ _ => ⟨_, .storeLevel m _ _ h, ?_⟩
    refine Follows.op_bind fun _ _ => ⟨_, .rwUnlock _ _, ?_⟩
    exact Follows.bind ((ctl_signalUpdate _).mono fun _ _ hy => .inr hy)
  · intro _ _
    exact ⟨m, .rwUnlock m _, .inl rfl⟩

lemma ctl_setConnstatus (status : ConnStatus) {m : CtlPath} (h : m.stage = .fresh) :
    Ctl (padstateSetConnstatus status) (fun _ y => Rested y) m := by
  rintro _ rfl
  refine ⟨m, .wrlock m 0, ?_⟩
  refine Follows.op_bind fun _ _ => ⟨_, .storeConn m status _ h, ?_⟩
  refine Follows.op_bind fun _ _ => ⟨_, .rwUnlock _ _, ?_⟩
  exact Follows.bind ((ctl_signalUpdate _).mono fun _ _ hy => hy)

lemma ctl_actuatorSet (act : ActIdx) (b : Bool) {m : CtlPath} (h : Rested m) :
    Ctl (actuatorSet act b) (fun err y => Underway y ∧ (err ≠ 0 → y = m)) m := by
  have hboth : Ctl (drive act b >>= fun err =>
      if err = -1 then pure err else storeAct act b >>= fun _ => pure 0)
      (fun err y => Underway y ∧ (err ≠ 0 → y = m)) m := by
    intro err _
    refine ⟨m, .drive m act b err, ?_⟩
    change Ctl (if _ then _ else _) _ m
    split_ifs with herr
    · exact ⟨h.underway, fun _ => rfl⟩
    · intro _ _
      exact ⟨_, .storeAct m act b _ h.1, ⟨by simp, h.2⟩, fun hne => absurd rfl hne⟩
  cases b
  · exact hboth
  · exact hboth

lemma ctl_advanceLevel (reqState : UInt8) (forward : ArmLvl) {m : CtlPath} (h : Underway m) :
    Ctl (advanceLevel reqState forward) (fun _ y => Underway y) m := by
  unfold advanceLevel
  split_ifs with hs
  · refine Follows.bind ((ctl_getLevel m).mono ?_)
    rintro level _ rfl
    split_ifs with hlt
    · refine Follows.bind ((ctl_changeLevel forward.val h.1).mono ?_)
      rintro _ y (rfl | hy)
      · exact h
      · exact hy.underway
    · exact h
  · exact h

lemma ctl_retreatLevel (reqState : UInt8) (back : ArmLvl) {m : CtlPath} (h : Underway m) :
    Ctl (retreatLevel reqState back) (fun _ y => Underway y) m := by
  unfold retreatLevel
  split_ifs with hs
  · refine Follows.bind ((ctl_changeLevel back.val h.1).mono ?_)
    rintro _ y (rfl | hy)
    · exact h
    · exact hy.underway
  · exact h

lemma ctl_followLevel (id reqState : UInt8) {m : CtlPath} (h : Underway m) :
    Ctl (followLevel id reqState) (fun _ y => Underway y) m := by
  unfold followLevel
  split_ifs with hq hi
  · exact Follows.bind ((ctl_advanceLevel reqState _ h).mono fun _ _ hy =>
      ctl_retreatLevel reqState _ hy)
  · exact Follows.bind ((ctl_advanceLevel reqState _ h).mono fun _ _ hy =>
      ctl_retreatLevel reqState _ hy)
  · exact h

lemma ctl_actuateActuator (act : ActIdx) (id reqState : UInt8) {m : CtlPath} (h : Rested m) :
    Ctl (actuateActuator act id reqState) (fun _ y => Rested y) m := by
  unfold actuateActuator
  refine Follows.bind ((ctl_actuatorSet act _ h).mono ?_)
  rintro err y ⟨hy, hsame⟩
  split_ifs with herr
  · exact hsame herr ▸ h
  · refine Follows.bind ((ctl_followLevel id reqState hy).mono fun _ z _ => ?_)
    exact Follows.bind ((ctl_signalUpdate z).mono fun _ _ hw => hw)

lemma ctl_padActuate (id reqState : UInt8) {m : CtlPath} (h : Rested m) :
    Ctl (padActuate id reqState) (fun _ y => Rested y) m := by
  unfold padActuate
  split_ifs with hid hd hst
  · exact ctl_actuateActuator _ id reqState h
  · exact h
  · refine Follows.bind ((ctl_getLevel m).mono ?_)
    rintro level _ rfl
    split_ifs with hdeny
    · exact h
    · exact ctl_actuateActuator _ id reqState h
  · exact h

lemma ctl_handle (req : Request) {m : CtlPath} (h : Rested m) :
    Ctl (handle req) (fun _ y => Rested y) m := by
  cases req with
  | act req =>
    refine Follows.bind ((ctl_padActuate req.id req.state h).mono fun err y hy => ?_)
    split_ifs with herr
    · exact hy
    · exact hy
  | arm req =>
    refine Follows.bind ((ctl_changeLevel req.level.toUInt32 h.underway.1).mono ?_)
    rintro err y (rfl | hy)
    · exact h
    · exact hy

end Controller

/-! ### The telemetry thread keeps to its path -/

section Telemetry

abbrev Tel {α : Type} (p : PadM α) (post : α → TelPath → Prop) (m : TelPath) : Prop :=
  Follows (paths .telemetry) p post m

lemma tel_lockedRead {load : PadOp} (val : load.Ans → CEnum) {m : TelPath}
    {next : load.Ans → TelPath} (hload : ∀ r, TelPathStep m load r (next r)) :
    Tel (rdlock >>= fun err => if err ≠ 0 then pure (-1)
        else Prog.op load >>= fun r => rwUnlock >>= fun _ => pure (val r))
      (fun v y => ∃ r, v = val r ∧ y = next r) m := by
  rintro _ rfl
  refine ⟨_, .rdlock _ 0, fun r _ => ⟨_, hload r, fun _ _ => ?_⟩⟩
  exact ⟨_, .rwUnlock _ _, r, rfl, rfl⟩

lemma tel_getLevel : Tel padstateGetLevel
    (fun v y => ∃ r : ArmLvl, v = r.val ∧ y = .sending padReads.tail (Reads .loadLevel r))
    .holding :=
  @tel_lockedRead .loadLevel ArmLvl.val _ _ TelPathStep.first

lemma tel_getConnstatus (todo : List PadOp) (seen : PadState → Prop) :
    Tel padstateGetConnstatus
      (fun v y => ∃ r : ConnStatus, v = r.val ∧
        y = .sending todo fun pad => seen pad ∧ Reads .loadConn r pad)
      (.sending (.loadConn :: todo) seen) :=
  @tel_lockedRead .loadConn ConnStatus.val _ _ fun r => .read _ todo seen r (by simp [padReads])

lemma tel_actPackets (time : UInt32) (acts : List ActIdx) (seen : PadState → Prop) :
    Tel (actPackets time acts)
      (fun pkts y => ∃ seen', y = .sending [] seen' ∧
        ∀ pad, seen' pad → seen pad ∧ acts.map (actPacket time pad) = pkts)
      (.sending (acts.map .loadAct) seen) := by
  induction acts generalizing seen with
  | nil => exact ⟨seen, rfl, fun pad hp => ⟨hp, rfl⟩⟩
  | cons act acts ih =>
    refine Follows.op_bind fun b _ =>
      ⟨_, .read (.loadAct act) _ seen b (by simp [padReads]), ?_⟩
    refine Follows.bind ((ih _).mono ?_)
    rintro pkts y ⟨seen', rfl, hseen'⟩
    refine ⟨seen', rfl, fun pad hp => ?_⟩
    obtain ⟨⟨hp, rfl⟩, rfl⟩ := hseen' pad hp
    exact ⟨hp, rfl⟩

lemma tel_sendPadstate : Tel telemetrySendPadstate (fun _ y => y = .sent) .holding := by
  refine Follows.op_bind fun time _ => ⟨_, .clock _ time, ?_⟩
  refine Follows.bind (tel_getLevel.mono ?_)
  rintro _ _ ⟨level, rfl, rfl⟩
  refine Follows.bind ((tel_getConnstatus _ _).mono ?_)
  rintro _ _ ⟨status, rfl, rfl⟩
  refine Follows.bind ((tel_actPackets time (List.finRange numActuators) _).mono ?_)
  rintro pkts _ ⟨seen, rfl, hseen⟩
  intro r _
  refine ⟨_, .publish seen _ r ⟨time, fun pad hp => ?_⟩, rfl⟩
  obtain ⟨⟨rfl, rfl⟩, rfl⟩ := hseen pad hp
  rfl

def PathAt : Label → TelPath → Prop
  | .outer, m => m = .outside
  | .check _, m => m = .holding
  | .send, m => m = .holding
  | .idle, _ => False

lemma tel_updatePadstate (l : Label) {m : TelPath} (h : PathAt l m) :
    Tel (telemetryUpdatePadstate l) PathAt m := by
  cases l with
  | outer =>
    obtain rfl : m = .outside := h
    intro time _
    refine ⟨_, .clock _ time, ?_⟩
    rintro _ rfl
    exact ⟨_, .mutexLock 0, rfl⟩
  | check err =>
    obtain rfl : m = .holding := h
    unfold telemetryUpdatePadstate
    dsimp only
    split_ifs with herr
    · exact rfl
    · refine Follows.op_bind fun recorded _ => ⟨_, .loadUpdate _ recorded, ?_⟩
      split_ifs with hrec
      · exact rfl
      · intro r _
        exact ⟨_, .condRelease r, fun err _ => ⟨_, .condReacquire err, rfl⟩⟩
  | send =>
    obtain rfl : m = .holding := h
    refine Follows.op_bind fun recorded _ => ⟨_, .loadUpdate _ recorded, ?_⟩
    refine Follows.bind (tel_sendPadstate.mono ?_)
    rintro _ _ rfl
    intro r _
    refine ⟨_, .clear r, fun r _ => ⟨_, .mutexUnlock r, rfl⟩⟩
  | idle => exact h.elim

end Telemetry

end Hysim.Paths
