import Hysim.Effects
import Hysim.Failure
import Hysim.Ladder

/-!
The level a switched actuator leaves.

Switching on the quick disconnect or the igniter advances the level by one. Switching it off is
to move back a level, but asks for a level of the firing sequence, and those are never granted
from above.
-/

namespace Hysim.Retreat

open Hysim.Lib.Program Hysim.Packets Hysim.Actuators Hysim.State Hysim.Arming Hysim.Serve
open Hysim.Effects Hysim.Failure Hysim.Ladder

/-- The level before an actuator of the firing sequence is switched on, and the one after. -/
structure Rung where
  id : UInt8
  low : ArmLvl
  high : ArmLvl

def disconnecting : Rung := ⟨idQuickDisconnect, .armedIgnition, .armedDisconnected⟩
def igniting : Rung := ⟨idIgniter, .armedDisconnected, .armedLaunch⟩

/-- On leads from the lower level to the upper one, and off leads back. -/
structure Rung.Steps (r : Rung) (req : ActReqP) (level after : ArmLvl) : Prop where
  on : req.id = r.id → req.state = 1 → level = r.low → after = r.high
  off : req.id = r.id → req.state = 0 → level = r.high → after = r.low

/-- An actuation that is acknowledged as carried out steps as it is written. -/
def StepsAsWritten (env : Env) (pad : PadState) (req : ActReqP) : Prop :=
  (serve env pad (.act req)).1.2 = some (.act ⟨req.id, UInt8.ofInt actOk⟩) →
    disconnecting.Steps req pad.armLevel (serve env pad (.act req)).2.armLevel ∧
      igniting.Steps req pad.armLevel (serve env pad (.act req)).2.armLevel

/-- The request is to step forward, or back. -/
def Rung.Forward (r : Rung) (pad : PadState) (req : ActReqP) : Prop :=
  req.id = r.id ∧ req.state = 1 ∧ pad.armLevel = r.low

def Rung.Back (r : Rung) (pad : PadState) (req : ActReqP) : Prop :=
  req.id = r.id ∧ req.state = 0 ∧ pad.armLevel = r.high

/-! ### The level after each operation -/

lemma armLevel_of_quiet {α : Type} {p : PadM α} (h : Performs Quiet p) (s : Solo) :
    (run solo p s).2.pad.armLevel = s.pad.armLevel := by
  refine h.frame (f := fun s : Solo => s.pad.armLevel) (fun t o ho => ?_) s
  cases o
  case storeLevel level => exact ho.elim
  all_goals rfl

section Level

variable (s : Solo)

lemma getLevel_run_eq : run solo padstateGetLevel s =
    (if s.locks.headD 0 = 0 then s.pad.armLevel.val else -1, { s with locks := s.locks.tail }) := by
  split_ifs with h
  · exact getLevel_locked h
  · exact getLevel_failed h

lemma changeLevel_armLevel (new : ArmLvl) :
    (run solo (padstateChangeLevel new.val) s).2.pad.armLevel =
      if s.locks.headD 0 = 0 then changed s.pad.armLevel new else s.pad.armLevel := by
  have hrange : ¬ (new.val > ArmLvl.armedLaunch.val ∨ new.val < ArmLvl.armedPad.val) := by
    cases new <;> decide
  have hmoves := moves_iff s.pad.armLevel new
  rw [padstateChangeLevel, if_neg hrange, run_bind]
  by_cases hlock : s.locks.headD 0 = 0
  · have hgranted : ¬ (run solo wrlock s).1 ≠ 0 := not_not.mpr hlock
    rw [if_neg hgranted, if_pos hlock, run_bind]
    by_cases h : Moves s.pad.armLevel new
    · simp [hmoves, h, changed, armLevel_of_quiet signalUpdate_performs]
    · simp [hmoves, h, changed]
  · have hrefused : (run solo wrlock s).1 ≠ 0 := hlock
    rw [if_pos hrefused, if_neg hlock]
    rfl

lemma retreatLevel_armLevel (back : ArmLvl) :
    (run solo (retreatLevel 0 back) s).2.pad.armLevel =
      if s.locks.headD 0 = 0 then changed s.pad.armLevel back else s.pad.armLevel := by
  rw [retreatLevel, if_pos rfl, run_bind, run_pure]
  exact changeLevel_armLevel s back

/-- Advancing reads the level first, so that two lock operations have to succeed. -/
lemma advanceLevel_armLevel {forward : ArmLvl} (h : s.pad.armLevel < forward) :
    (run solo (advanceLevel 1 forward) s).2.pad.armLevel =
      if s.locks.getD 0 0 = 0 ∧ s.locks.getD 1 0 = 0 then changed s.pad.armLevel forward
      else s.pad.armLevel := by
  have hone : (1 : UInt8) ≠ 0 := by decide
  have hlt : s.pad.armLevel.val < forward.val := ArmLvl.val_lt_iff.mpr h
  have hunread : ¬ (-1 : CEnum) < forward.val := by cases forward <;> decide
  rw [advanceLevel, if_pos hone, run_bind, getLevel_run_eq]
  obtain ⟨pad, locks, driver⟩ := s
  rcases locks with _ | ⟨r, locks⟩
  · simp [hlt]
  by_cases hread : r = 0
  · cases locks <;> simp [hread, hlt, changeLevel_armLevel]
  · simp [hread, hunread]

lemma actuateActuator_armLevel (act : ActIdx) (id reqState : UInt8) (h : s.driver ≠ -1) :
    (run solo (actuateActuator act id reqState) s).2.pad.armLevel =
      (run solo (followLevel id reqState)
        { s with pad := s.pad.setAct act (reqState != 0) }).2.pad.armLevel := by
  have hset : ∀ b, run solo (actuatorSet act b) s = (0, { s with pad := s.pad.setAct act b }) := by
    intro b
    cases b <;> simp [actuatorSet, actuatorOn, actuatorOff, h]
  unfold actuateActuator
  rw [run_bind, hset, if_neg (not_not.mpr rfl), run_bind, run_bind, run_pure]
  exact armLevel_of_quiet signalUpdate_performs _

end Level

/-! ### The two rungs -/

section Rung

variable {r : Rung} (hr : r = disconnecting ∨ r = igniting)

include hr

lemma low_lt_high : r.low < r.high := by
  rcases hr with rfl | rfl <;> decide

lemma changed_up : changed r.low r.high = r.high := by
  rcases hr with rfl | rfl <;> decide

lemma changed_down {level : ArmLvl} (h : r.low ≤ level) : changed level r.low = level := by
  have hlow : .armedValves < r.low := by rcases hr with rfl | rfl <;> decide
  exact changed_of_le hlow h

lemma followLevel_rung (reqState : UInt8) : followLevel r.id reqState =
    advanceLevel reqState r.high >>= fun _ => retreatLevel reqState r.low := by
  have hne : igniting.id ≠ idQuickDisconnect := by decide
  rcases hr with rfl | rfl
  · exact if_pos rfl
  · exact (if_neg hne).trans (if_pos rfl)

lemma followLevel_on (s : Solo) :
    (run solo (followLevel r.id 1) s).2 = (run solo (advanceLevel 1 r.high) s).2 := by
  have hnone : retreatLevel 1 r.low = pure () := if_neg (by decide)
  rw [followLevel_rung hr, run_bind, hnone, run_pure]

lemma followLevel_off (s : Solo) :
    run solo (followLevel r.id 0) s = run solo (retreatLevel 0 r.low) s := by
  have hnone : advanceLevel 0 r.high = pure () := if_neg (by decide)
  rw [followLevel_rung hr, hnone, pure_bind]

lemma reaches_rung {req : ActReqP} {level : ArmLvl} (locks : List Int) (hid : req.id = r.id)
    (hst : req.state = 0 ∨ req.state = 1) (hlow : r.low ≤ level) :
    Reaches locks level req ∧ req.id ≠ idDump := by
  have hidx : r.id.toNat < numActuators := by rcases hr with rfl | rfl <;> decide
  have hreq : required r.id = r.low := by rcases hr with rfl | rfl <;> rfl
  have hdump : r.id ≠ idDump := by rcases hr with rfl | rfl <;> decide
  exact ⟨⟨hid ▸ hidx, .inr ⟨hst, .inr (hid ▸ hreq ▸ hlow)⟩⟩, hid ▸ hdump⟩

end Rung

/-! ### One actuation -/

section Served

variable (env : Env) (pad : PadState) {req : ActReqP}

lemma serve_act_pad : (serve env pad (.act req)).2 =
    (run solo (padActuate req.id req.state) ⟨pad, env.locks, env.driver⟩).2.pad := by
  unfold serve handle
  rw [run_bind]
  split_ifs <;> rfl

/-- A request that reaches its driver, which works, is acknowledged, and its level is the one
that follows the actuator, with one lock operation used up for reading the level. -/
lemma serve_reached (hd : env.driver ≠ -1) (hdump : req.id ≠ idDump)
    (h : Reaches env.locks pad.armLevel req) :
    (serve env pad (.act req)).1.2 = some (.act ⟨req.id, UInt8.ofInt actOk⟩) ∧
      ∃ switched : PadState, switched.armLevel = pad.armLevel ∧
        (serve env pad (.act req)).2.armLevel = (run solo (followLevel req.id req.state)
          ⟨switched, env.locks.tail, env.driver⟩).2.pad.armLevel := by
  obtain ⟨hst, hlvl⟩ := h.2.resolve_left hdump
  have hst' : ¬ (req.state ≠ 0 ∧ req.state ≠ 1) := by tauto
  have hdeny : levelDenies (if env.locks.headD 0 = 0 then pad.armLevel.val else -1) req.id =
      false := by
    split_ifs with hl
    · exact (levelDenies_eq_false_iff _ hdump).mpr (hlvl.resolve_left (not_not.mpr hl))
    · exact levelDenies_unread req.id
  have hrun : run solo (padActuate req.id req.state) ⟨pad, env.locks, env.driver⟩ =
      run solo (actuateActuator ⟨req.id.toNat, h.1⟩ req.id req.state)
        ⟨pad, env.locks.tail, env.driver⟩ := by
    rw [padActuate, dif_pos h.1, if_neg hdump, if_neg hst', run_bind, getLevel_run_eq]
    simp only [hdeny, Bool.false_eq_true, if_false]
  have hok := actuateActuator_not_failed ⟨req.id.toNat, h.1⟩ req.id req.state
    (s := ⟨pad, env.locks.tail, env.driver⟩) hd
  refine ⟨by simp [serve, handle, hrun, hok, actOk],
    pad.setAct ⟨req.id.toNat, h.1⟩ (req.state != 0), rfl, ?_⟩
  rw [serve_act_pad, hrun]
  exact actuateActuator_armLevel ⟨pad, env.locks.tail, env.driver⟩ _ _ _ hd

section Steps

variable {r : Rung} (hr : r = disconnecting ∨ r = igniting) (hd : env.driver ≠ -1)

include hr hd

lemma serve_forward (h : r.Forward pad req) :
    (serve env pad (.act req)).1.2 = some (.act ⟨req.id, UInt8.ofInt actOk⟩) ∧
      (serve env pad (.act req)).2.armLevel =
        if env.locks.getD 1 0 = 0 ∧ env.locks.getD 2 0 = 0 then r.high else r.low := by
  obtain ⟨hid, hst, hlevel⟩ := h
  have hlt : pad.armLevel < r.high := hlevel ▸ low_lt_high hr
  obtain ⟨hreach, hdump⟩ := reaches_rung hr env.locks hid (.inr hst) hlevel.ge
  obtain ⟨hack, switched, hsame, hafter⟩ := serve_reached env pad hd hdump hreach
  refine ⟨hack, ?_⟩
  rw [hafter, hid, hst, followLevel_on hr, advanceLevel_armLevel _ (hsame ▸ hlt)]
  simp [hsame, hlevel, changed_up hr]

/-- Switching off leaves the level where it is: back there is no move. -/
lemma serve_off (hid : req.id = r.id) (hst : req.state = 0) (hle : r.low ≤ pad.armLevel) :
    (serve env pad (.act req)).1.2 = some (.act ⟨req.id, UInt8.ofInt actOk⟩) ∧
      (serve env pad (.act req)).2.armLevel = pad.armLevel := by
  obtain ⟨hreach, hdump⟩ := reaches_rung hr env.locks hid (.inl hst) hle
  obtain ⟨hack, switched, hsame, hafter⟩ := serve_reached env pad hd hdump hreach
  refine ⟨hack, ?_⟩
  rw [hafter, hid, hst, followLevel_off hr, retreatLevel_armLevel]
  simp [hsame, changed_down hr hle]

lemma steps_iff :
    ((serve env pad (.act req)).1.2 = some (.act ⟨req.id, UInt8.ofInt actOk⟩) →
        r.Steps req pad.armLevel (serve env pad (.act req)).2.armLevel) ↔
      ¬ r.Back pad req ∧
        (r.Forward pad req → env.locks.getD 1 0 = 0 ∧ env.locks.getD 2 0 = 0) := by
  have hne : r.low ≠ r.high := (low_lt_high hr).ne
  constructor
  · intro h
    refine ⟨fun hback => ?_, fun hforward => ?_⟩
    · obtain ⟨hid, hst, hlevel⟩ := hback
      have hle : r.low ≤ pad.armLevel := hlevel ▸ (low_lt_high hr).le
      obtain ⟨hack, hafter⟩ := serve_off env pad hr hd hid hst hle
      have hlow := (h hack).off hid hst hlevel
      exact hne (hlow.symm.trans (hafter.trans hlevel))
    · obtain ⟨hack, hafter⟩ := serve_forward env pad hr hd hforward
      have hhigh := (h hack).on hforward.1 hforward.2.1 hforward.2.2
      by_contra hlocks
      rw [if_neg hlocks] at hafter
      exact hne (hafter.symm.trans hhigh)
  · rintro ⟨hback, hlocks⟩ -
    refine ⟨fun hid hst hlevel => ?_, fun hid hst hlevel => absurd ⟨hid, hst, hlevel⟩ hback⟩
    have hforward : r.Forward pad req := ⟨hid, hst, hlevel⟩
    rw [(serve_forward env pad hr hd hforward).2, if_pos (hlocks hforward)]

end Steps

end Served

lemma not_acknowledged (locks : List Int) (pad : PadState) (req : ActReqP) :
    (serve ⟨locks, -1⟩ pad (.act req)).1.2 ≠ some (.act ⟨req.id, UInt8.ofInt actOk⟩) := by
  by_cases hr : Reaches locks pad.armLevel req
  · obtain ⟨ms, locks', -, hrun⟩ := padActuate_reached (s := ⟨pad, locks, -1⟩) hr
    rw [actuateActuator_failed _ _ _ rfl] at hrun
    simp [serve, handle, hrun]
  · obtain ⟨hres, -, -⟩ := padActuate_not_reached (s := ⟨pad, locks, -1⟩) hr
    have hstatus : UInt8.ofInt (refusal req) ≠ UInt8.ofInt actOk := by
      unfold refusal
      split_ifs <;> decide
    simp [serve, handle, hres, refusal_ne, hstatus]

/-- **When an actuation steps as it is written**: it never steps back, and it steps forward
exactly if the level can be read and changed. -/
theorem stepsAsWritten_iff (env : Env) (pad : PadState) (req : ActReqP) :
    StepsAsWritten env pad req ↔ env.driver = -1 ∨ ∀ r ∈ [disconnecting, igniting],
      ¬ r.Back pad req ∧
        (r.Forward pad req → env.locks.getD 1 0 = 0 ∧ env.locks.getD 2 0 = 0) := by
  obtain ⟨locks, driver⟩ := env
  by_cases hd : driver = -1
  · subst hd
    exact iff_of_true (fun hack => absurd hack (not_acknowledged locks pad req)) (.inl rfl)
  · rw [StepsAsWritten, imp_and, or_iff_right hd, List.forall_mem_cons, List.forall_mem_singleton]
    exact and_congr (steps_iff _ pad (.inl rfl) hd) (steps_iff _ pad (.inr rfl) hd)

/-- After an on and an off of the same actuator, both acknowledged, the level is what it was
exactly if the on did not move it. -/
theorem level_after_off_iff {r : Rung} (hr : r = disconnecting ∨ r = igniting) (on off : Env)
    (pad : PadState) (hlevel : pad.armLevel = r.low) (hon : on.driver ≠ -1)
    (hoff : off.driver ≠ -1) :
    (serve off (serve on pad (.act ⟨r.id, 1⟩)).2 (.act ⟨r.id, 0⟩)).2.armLevel = r.low ↔
      ¬ (on.locks.getD 1 0 = 0 ∧ on.locks.getD 2 0 = 0) := by
  have hlt := low_lt_high hr
  have hreq : r.Forward pad ⟨r.id, 1⟩ := ⟨rfl, rfl, hlevel⟩
  obtain ⟨-, hforward⟩ := serve_forward on pad hr hon hreq
  have hle : r.low ≤ (serve on pad (.act ⟨r.id, 1⟩)).2.armLevel := by
    rw [hforward]
    split_ifs
    · exact hlt.le
    · exact le_rfl
  have hback : (serve off (serve on pad (.act ⟨r.id, 1⟩)).2 (.act ⟨r.id, 0⟩)).2.armLevel =
      (serve on pad (.act ⟨r.id, 1⟩)).2.armLevel := (serve_off off _ hr hoff rfl rfl hle).2
  rw [hback, hforward]
  split_ifs with hlocks
  · exact iff_of_false hlt.ne' (not_not.mpr hlocks)
  · exact iff_of_true rfl hlocks

/-- Connected again, the pad stays at the level of a disconnected quick disconnect. -/
theorem not_stepsAsWritten : ¬ ∀ (env : Env) (state : PadState) (ins : List Input) (req : ActReqP),
    StepsAsWritten env (after (padstateInit state) ins) req := by
  intro h
  have hsteps := h ⟨[], 0⟩ zeroed
    [(.arm ⟨1⟩, 0), (.arm ⟨2⟩, 0), (.act ⟨idQuickDisconnect, 1⟩, 0)] ⟨idQuickDisconnect, 0⟩ rfl
  have hlow := hsteps.1.off rfl rfl rfl
  exact absurd hlow (by decide)

end Hysim.Retreat
