import Hysim.Serve

/-!
Failures below `pad_actuate`: a lock that cannot be taken and a driver that reports an
error.

Neither is handled as the comments promise. A level that could not be read refuses nothing,
and an error other than `-1`, which is what the PWM drivers report, counts as success.
-/

namespace Hysim.Failure

open Hysim.Lib.Program Hysim.Packets Hysim.Actuators Hysim.State Hysim.Arming Hysim.Serve

/-! ### An unread level -/

/-- Among these operations the level `level` was read under the lock. -/
def ReadUnderLock (ms : List (Solo × PadOp)) (level : ArmLvl) : Prop :=
  ∃ pre post s s', ms = pre ++ (s, .rdlock) :: (s', .loadLevel) :: post ∧
    solo.ans .rdlock s = 0 ∧ s'.pad.armLevel = level

lemma not_readUnderLock_singleton (m : Solo × PadOp) (level : ArmLvl) :
    ¬ ReadUnderLock [m] level := by
  rintro ⟨pre, post, s, s', hpre, -⟩
  have hlen := congrArg List.length hpre
  simp only [List.length_nil, List.length_append, List.length_cons] at hlen
  omega

/-- The driver is called only after a level that permits the actuator was read under the
lock; when the level cannot be read, no driver is called and nothing changes. -/
def FailsClosed (pad : PadState) (locks : List Int) (drv : Int) (req : ActReqP) : Prop :=
  let ms := moments solo (padActuate req.id req.state) ⟨pad, locks, drv⟩
  let pad' := (run solo (padActuate req.id req.state) ⟨pad, locks, drv⟩).2.pad
  (∀ pre s act on post, ms = pre ++ (s, .drive act on) :: post →
    ∃ level, ReadUnderLock pre level ∧ required req.id ≤ level) ∧
  (locks.headD 0 ≠ 0 →
    (∀ m ∈ ms, ∀ act on, m.2 ≠ .drive act on) ∧ pad'.armLevel = pad.armLevel ∧
      ∀ act, (pad'.actuators act).state = (pad.actuators act).state)

lemma actuateActuator_moments (act : ActIdx) (id reqState : UInt8) (s : Solo) :
    ∃ rest, moments solo (actuateActuator act id reqState) s =
      (s, .drive act (reqState != 0)) :: rest := by
  by_cases hs : reqState = 0
  · exact ⟨_, by simp [actuateActuator, actuatorSet, actuatorOff, hs]; rfl⟩
  · exact ⟨_, by simp [actuateActuator, actuatorSet, actuatorOn, hs]; rfl⟩

lemma getLevel_locked {s : Solo} (h : s.locks.headD 0 = 0) :
    run solo padstateGetLevel s = (s.pad.armLevel.val, { s with locks := s.locks.tail }) := by
  simp only [padstateGetLevel, run_bind, run_op, solo_ans, Solo.ans, h]
  simp

lemma getLevel_locked_moments {s : Solo} (h : s.locks.headD 0 = 0) :
    moments solo padstateGetLevel s = [(s, .rdlock),
      ({ s with locks := s.locks.tail }, .loadLevel),
      ({ s with locks := s.locks.tail }, .rwUnlock)] := by
  simp only [padstateGetLevel, moments_bind, run_op, moments_op, solo_ans, Solo.ans, h]
  simp

lemma getLevel_failed {s : Solo} (h : s.locks.headD 0 ≠ 0) :
    run solo padstateGetLevel s = (-1, { s with locks := s.locks.tail }) := by
  unfold padstateGetLevel
  rw [run_bind, run_op]
  change run solo (if s.locks.headD 0 ≠ 0 then _ else _) _ = _
  rw [if_pos h]
  rfl

lemma getLevel_failed_moments {s : Solo} (h : s.locks.headD 0 ≠ 0) :
    moments solo padstateGetLevel s = [(s, .rdlock)] := by
  unfold padstateGetLevel
  rw [moments_bind, run_op]
  change [(s, PadOp.rdlock)] ++ moments solo (if s.locks.headD 0 ≠ 0 then _ else _) _ = _
  rw [if_pos h]
  rfl

/-- A level that could not be read refuses no actuator. -/
lemma levelDenies_unread (id : UInt8) : levelDenies (-1) id = false :=
  levelDenies_invalid (by decide) id

/-- **When permission checking fails closed**: exactly when the level is read, or the
request is refused without looking at it. -/
theorem failsClosed_iff (pad : PadState) (locks : List Int) (drv : Int) {req : ActReqP}
    (hd : req.id ≠ idDump) :
    FailsClosed pad locks drv req ↔
      locks.headD 0 = 0 ∨ ¬ req.id.toNat < numActuators ∨ req.state ≠ 0 ∧ req.state ≠ 1 := by
  unfold FailsClosed padActuate
  by_cases hid : req.id.toNat < numActuators
  · by_cases hst : req.state ≠ 0 ∧ req.state ≠ 1
    · simp [hid, hd, hst]
    rw [dif_pos hid, if_neg hd, if_neg hst]
    by_cases hl : locks.headD 0 = 0
    · -- the three operations of the read precede everything else
      refine iff_of_true ⟨fun pre s act on post hms => ?_, fun h => absurd hl h⟩ (.inl hl)
      have hread : ∀ rest, ReadUnderLock ((⟨pad, locks, drv⟩, .rdlock) ::
          (⟨pad, locks.tail, drv⟩, .loadLevel) :: rest) pad.armLevel :=
        fun rest => ⟨[], rest, _, _, rfl, hl, rfl⟩
      rw [moments_bind, getLevel_locked_moments hl, getLevel_locked hl] at hms
      by_cases hdeny : levelDenies pad.armLevel.val req.id = true
      · rw [if_pos hdeny] at hms
        have hmem : (s, PadOp.drive act on) ∈ pre ++ (s, PadOp.drive act on) :: post := by simp
        rw [← hms] at hmem
        simp at hmem
      · have hle : required req.id ≤ pad.armLevel :=
          not_lt.mp ((levelDenies_iff pad.armLevel hd).not.mp hdeny)
        rcases pre with _ | ⟨m₀, _ | ⟨m₁, pre⟩⟩
        · simp at hms
        · simp at hms
        · simp only [List.cons_append, List.cons.injEq] at hms
          obtain ⟨rfl, rfl, -⟩ := hms
          exact ⟨_, hread pre, hle⟩
    · -- the driver is the second operation, and nothing was read before it
      refine iff_of_false (fun h => ?_) (by tauto)
      obtain ⟨rest, hrest⟩ := actuateActuator_moments ⟨req.id.toNat, hid⟩ req.id req.state
        ⟨pad, locks.tail, drv⟩
      have hms : moments solo (padstateGetLevel >>= fun armLvl =>
          if levelDenies armLvl req.id = true then pure actDenied
          else actuateActuator ⟨req.id.toNat, hid⟩ req.id req.state) ⟨pad, locks, drv⟩ =
          [(⟨pad, locks, drv⟩, .rdlock)] ++ (⟨pad, locks.tail, drv⟩,
            .drive ⟨req.id.toNat, hid⟩ (req.state != 0)) :: rest := by
        rw [moments_bind, getLevel_failed_moments hl, getLevel_failed hl]
        simp only [levelDenies_unread, Bool.false_eq_true, if_false, hrest]
      obtain ⟨level, hread, -⟩ := h.1 _ _ _ _ _ hms
      exact not_readUnderLock_singleton _ _ hread
  · simp [hid]

theorem failsClosed_iff_xv1 : FailsClosed (padstateInit zeroed) [0] 0 ⟨idXv1, 1⟩ :=
  (failsClosed_iff (padstateInit zeroed) [0] 0 (by decide)).mpr (.inl rfl)

/-- A read lock refused with `EAGAIN` opens a valve at the lowest level. -/
theorem not_failsClosed : ¬ ∀ (pad : PadState) (locks : List Int) (drv : Int) (req : ActReqP),
    req.id ≠ idDump → FailsClosed pad locks drv req := by
  intro h
  have hopen : moments solo (padActuate idXv1 1) ⟨padstateInit zeroed, [11], 0⟩ =
      [(⟨padstateInit zeroed, [11], 0⟩, .rdlock)] ++
        (⟨padstateInit zeroed, [], 0⟩, .drive 1 true) ::
          (moments solo (padActuate idXv1 1) ⟨padstateInit zeroed, [11], 0⟩).drop 2 := rfl
  obtain ⟨level, hread, -⟩ :=
    (h (padstateInit zeroed) [11] 0 ⟨idXv1, 1⟩ (by decide)).1 _ _ _ _ _ hopen
  exact not_readUnderLock_singleton _ _ hread

/-! ### A failing driver -/

def Driven (ms : List (Solo × PadOp)) : Prop := ∃ m ∈ ms, ∃ act on, m.2 = .drive act on

/-- When a driver is called for the request and fails, nothing recorded changes and the
request is not acknowledged as carried out. -/
def FailureSafe (env : Env) (pad : PadState) (req : ActReqP) : Prop :=
  let after := serve env pad (.act req)
  Driven (moments solo (handle (.act req)) ⟨pad, env.locks, env.driver⟩) → env.driver ≠ 0 →
    after.2.armLevel = pad.armLevel ∧ after.2.actuators = pad.actuators ∧
      ∀ ack, after.1.2 = some (.act ack) → ack.status ≠ UInt8.ofInt actOk

/-- The request gets as far as its driver: permitted, or with a level that could not be
read. -/
def Reaches (locks : List Int) (level : ArmLvl) (req : ActReqP) : Prop :=
  req.id.toNat < numActuators ∧ (req.id = idDump ∨
    (req.state = 0 ∨ req.state = 1) ∧ (locks.headD 0 ≠ 0 ∨ required req.id ≤ level))

lemma handle_act_moments (req : ActReqP) (s : Solo) :
    moments solo (handle (.act req)) s = moments solo (padActuate req.id req.state) s := by
  unfold handle
  rw [moments_bind]
  split_ifs <;> simp

lemma padActuate_reached {req : ActReqP} {s : Solo}
    (h : Reaches s.locks s.pad.armLevel req) :
    ∃ ms locks, moments solo (padActuate req.id req.state) s =
        ms ++ moments solo (actuateActuator ⟨req.id.toNat, h.1⟩ req.id req.state)
          { s with locks := locks } ∧
      run solo (padActuate req.id req.state) s =
        run solo (actuateActuator ⟨req.id.toNat, h.1⟩ req.id req.state)
          { s with locks := locks } := by
  obtain ⟨hid, hreq⟩ := h
  rw [padActuate, dif_pos hid]
  by_cases hd : req.id = idDump
  · rw [if_pos hd]
    exact ⟨[], s.locks, rfl, rfl⟩
  obtain ⟨hst, hlvl⟩ := hreq.resolve_left hd
  have hst' : ¬ (req.state ≠ 0 ∧ req.state ≠ 1) := by tauto
  rw [if_neg hd, if_neg hst']
  refine ⟨moments solo padstateGetLevel s, s.locks.tail, ?_⟩
  rw [moments_bind, run_bind]
  by_cases hl : s.locks.headD 0 = 0
  · have hle := hlvl.resolve_left (not_not.mpr hl)
    have hdeny := (levelDenies_eq_false_iff s.pad.armLevel hd).mpr hle
    rw [getLevel_locked hl]
    simp only [hdeny, Bool.false_eq_true, if_false, and_self]
  · rw [getLevel_failed hl]
    simp only [levelDenies_unread, Bool.false_eq_true, if_false, and_self]

lemma padActuate_not_reached {req : ActReqP} {s : Solo}
    (h : ¬ Reaches s.locks s.pad.armLevel req) :
    (run solo (padActuate req.id req.state) s).1 = refusal req ∧
      (run solo (padActuate req.id req.state) s).2.pad = s.pad ∧
      ¬ Driven (moments solo (padActuate req.id req.state) s) := by
  unfold padActuate refusal
  by_cases hid : req.id.toNat < numActuators
  · by_cases hd : req.id = idDump
    · exact absurd ⟨hid, .inl hd⟩ h
    by_cases hst : req.state ≠ 0 ∧ req.state ≠ 1
    · simp [hid, hd, hst, Driven]
    · have hreads : s.locks.headD 0 = 0 ∧ ¬ required req.id ≤ s.pad.armLevel := by
        rw [← not_not (a := s.locks.headD 0 = 0), ← not_or]
        exact fun hlvl => h ⟨hid, .inr ⟨by tauto, hlvl⟩⟩
      obtain ⟨hl, hlvl⟩ := hreads
      have hdeny := (levelDenies_iff s.pad.armLevel hd).mpr (not_le.mp hlvl)
      have hst' : ¬ (req.id ≠ idDump ∧ req.state ≠ 0 ∧ req.state ≠ 1) := fun hc => hst hc.2
      rw [dif_pos hid, if_neg hd, if_neg hst, if_neg (not_not.mpr hid), if_neg hst', run_bind,
        moments_bind, getLevel_locked_moments hl, getLevel_locked hl]
      simp [hdeny, Driven]
  · simp [hid, Driven]

lemma actuateActuator_failed (act : ActIdx) (id reqState : UInt8) {s : Solo}
    (h : s.driver = -1) : run solo (actuateActuator act id reqState) s = (-1, s) := by
  obtain ⟨pad, locks, drv⟩ := s
  obtain rfl : drv = -1 := h
  by_cases hs : reqState = 0 <;>
    simp [actuateActuator, actuatorSet, actuatorOn, actuatorOff, hs]

lemma actuateActuator_not_failed (act : ActIdx) (id reqState : UInt8) {s : Solo}
    (h : s.driver ≠ -1) : (run solo (actuateActuator act id reqState) s).1 = actOk := by
  by_cases hs : reqState = 0 <;>
    simp [actuateActuator, actuatorSet, actuatorOn, actuatorOff, hs, h]

/-- **When a failing driver is harmless**: exactly when its failure is `-1`, or when it is
not called. -/
theorem failureSafe_iff (env : Env) (pad : PadState) (req : ActReqP) :
    FailureSafe env pad req ↔
      env.driver = 0 ∨ env.driver = -1 ∨ ¬ Reaches env.locks pad.armLevel req := by
  unfold FailureSafe
  rw [handle_act_moments]
  by_cases hr : Reaches env.locks pad.armLevel req
  · obtain ⟨ms, locks, hms, hrun⟩ :=
      padActuate_reached (s := ⟨pad, env.locks, env.driver⟩) hr
    have hdriven : Driven (moments solo (padActuate req.id req.state)
        ⟨pad, env.locks, env.driver⟩) := by
      obtain ⟨rest, hrest⟩ := actuateActuator_moments ⟨req.id.toNat, hr.1⟩ req.id req.state
        ⟨pad, locks, env.driver⟩
      rw [hms, hrest]
      exact ⟨_, List.mem_append_right _ List.mem_cons_self, _, _, rfl⟩
    by_cases h1 : env.driver = -1
    · refine iff_of_true (fun _ _ => ?_) (.inr (.inl h1))
      rw [actuateActuator_failed _ _ _ h1] at hrun
      simp [serve, handle, hrun]
    · have hok := actuateActuator_not_failed ⟨req.id.toNat, hr.1⟩ req.id req.state
        (s := ⟨pad, locks, env.driver⟩) h1
      have hack : (serve env pad (.act req)).1.2 =
          some (.act ⟨req.id, UInt8.ofInt actOk⟩) := by
        simp [serve, handle, hrun, hok, actOk]
      by_cases h0 : env.driver = 0
      · exact iff_of_true (fun _ hne => absurd h0 hne) (.inl h0)
      · refine iff_of_false (fun h => ?_) (by tauto)
        obtain ⟨-, -, hstatus⟩ := h hdriven h0
        exact hstatus _ hack rfl
  · exact iff_of_true
      (fun hdriven => absurd hdriven (padActuate_not_reached (s := ⟨_, _, _⟩) hr).2.2)
      (.inr (.inr hr))

/-- What the driver of an actuator answers on the device `D`. -/
def driverResult {σ : Type} (D : Device DevOp DevOp.Ans σ) (s : σ) (drv : Driver) (on : Bool) :
    Int :=
  (run D (if on then drv.on else drv.off) s).1

lemma gpioActuatorWrite_result {σ : Type} (D : Device DevOp DevOp.Ans σ) (s : σ) (value : Bool)
    (dev : String) :
    (run D (gpioActuatorWrite value dev) s).1 = 0 ∨
      (run D (gpioActuatorWrite value dev) s).1 = -1 := by
  unfold gpioActuatorWrite
  rw [run_bind]
  rcases (run D (openDev dev) s).1 with e | fd
  · exact .inr rfl
  dsimp only
  rw [run_bind]
  rcases (run D (gpiocWrite fd value) (run D (openDev dev) s).2).1 with e | u
  · exact .inr rfl
  dsimp only
  rw [run_bind]
  rcases (run D (close fd) (run D (gpiocWrite fd value) (run D (openDev dev) s).2).2).1
    with e | u
  · exact .inr rfl
  · exact .inl rfl

/-- **The GPIO drivers fail harmlessly**, whatever their system calls do. -/
theorem failureSafe_gpio {σ : Type} (D : Device DevOp DevOp.Ans σ) (s : σ) (dev : String)
    (on : Bool) (locks : List Int) (pad : PadState) (req : ActReqP) :
    FailureSafe ⟨locks, driverResult D s (.gpio dev) on⟩ pad req := by
  rw [failureSafe_iff]
  cases on
  · exact (gpioActuatorWrite_result D s false dev).imp_right .inl
  · exact (gpioActuatorWrite_result D s true dev).imp_right .inl

/-- Every call fails with `ENFILE`. -/
def tableFull : Device DevOp DevOp.Ans Unit where
  ans
    | .openDev _, _ | .gpiocWrite _ _, _ | .close _, _ | .pwmGetCharacteristics _, _
    | .pwmSetCharacteristics _ _, _ | .pwmStart _, _ => .error 23
  eff _ s := s

/-- The PWM driver of the dump valve reports the `errno`, and the valve counts as open. -/
theorem not_failureSafe :
    driverResult tableFull () ((padstateInit zeroed).actuators dumpValve).driver true = 23 ∧
      ¬ FailureSafe ⟨[], 23⟩ (padstateInit zeroed) ⟨idDump, 1⟩ := by
  refine ⟨rfl, fun h => ?_⟩
  obtain ⟨-, -, hstatus⟩ := h ⟨_, List.mem_cons_self, _, _, rfl⟩ (by decide)
  exact hstatus ⟨idDump, 0⟩ rfl rfl

end Hysim.Failure
