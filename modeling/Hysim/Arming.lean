import Hysim.State

/-!
What the arming levels are for, apart from how `state.c` computes it: the moves between
levels and the level each actuator needs.
-/

namespace Hysim.Arming

open Hysim.Packets Hysim.Actuators Hysim.State

/-- The moves between levels: one up, from the firing sequence down to the valves, or from
anywhere down to the pad. -/
def Moves (a b : ArmLvl) : Prop :=
  b.toNat = a.toNat + 1 ∨ (b = .armedValves ∧ ArmLvl.armedValves < a) ∨ b = .armedPad

instance (a b : ArmLvl) : Decidable (Moves a b) := by unfold Moves; infer_instance

lemma Moves.gentle {a b : ArmLvl} (h : Moves a b) : b.toNat ≤ a.toNat + 1 := by
  rcases h with h | ⟨rfl, h⟩ | rfl
  · omega
  · rw [ArmLvl.lt_def] at h; omega
  · simp [ArmLvl.toNat]

lemma not_moves_of_le {a b : ArmLvl} (hb : .armedValves < b) (h : b ≤ a) : ¬ Moves a b := by
  rintro (hup | ⟨rfl, -⟩ | rfl)
  · rw [ArmLvl.le_def] at h
    omega
  · exact lt_irrefl _ hb
  · exact absurd hb (by decide)

/-- The three cases of `padstate_change_level` are the moves. -/
lemma moves_iff (a b : ArmLvl) :
    (lvlIncrease a b.val ∨ lvlDecreaseFromArmedValves a b.val ∨
      lvlDecreaseFromFiringSequence a b.val) ↔ Moves a b := by
  cases a <;> cases b <;> decide

/-- The level after a request for `new`. -/
def changed (old new : ArmLvl) : ArmLvl := if Moves old new then new else old

lemma changed_of_le {old new : ArmLvl} (hn : .armedValves < new) (h : new ≤ old) :
    changed old new = old :=
  if_neg (not_moves_of_le hn h)

/-- The pad state after a request for `new`: an update is recorded when it is granted. -/
def moveTo (pad : PadState) (new : ArmLvl) : PadState :=
  if Moves pad.armLevel new then { pad with armLevel := new, updateRecorded := true } else pad

@[simp] lemma moveTo_armLevel (pad : PadState) (new : ArmLvl) :
    (moveTo pad new).armLevel = changed pad.armLevel new := by
  unfold moveTo changed; split_ifs <;> rfl

@[simp] lemma moveTo_actuators (pad : PadState) (new : ArmLvl) :
    (moveTo pad new).actuators = pad.actuators := by
  unfold moveTo; split_ifs <;> rfl

@[simp] lemma moveTo_connStatus (pad : PadState) (new : ArmLvl) :
    (moveTo pad new).connStatus = pad.connStatus := by
  unfold moveTo; split_ifs <;> rfl

/-- The level an actuation asks for. -/
def target (id reqState : UInt8) : Option ArmLvl :=
  if id = idQuickDisconnect then
    some (if reqState = 0 then .armedIgnition else .armedDisconnected)
  else if id = idIgniter then
    some (if reqState = 0 then .armedDisconnected else .armedLaunch)
  else none

/-- The level after an actuation that the driver carried out. -/
def followed (id reqState : UInt8) (level : ArmLvl) : ArmLvl :=
  match target id reqState with
  | some new => changed level new
  | none => level

def follow (pad : PadState) (id reqState : UInt8) : PadState :=
  match target id reqState with
  | some new => moveTo pad new
  | none => pad

@[simp] lemma follow_armLevel (pad : PadState) (id reqState : UInt8) :
    (follow pad id reqState).armLevel = followed id reqState pad.armLevel := by
  unfold follow followed; cases target id reqState <;> simp

@[simp] lemma follow_actuators (pad : PadState) (id reqState : UInt8) :
    (follow pad id reqState).actuators = pad.actuators := by
  unfold follow; cases target id reqState <;> simp

@[simp] lemma follow_connStatus (pad : PadState) (id reqState : UInt8) :
    (follow pad id reqState).connStatus = pad.connStatus := by
  unfold follow; cases target id reqState <;> simp

/-- The solenoid valves, but for the fire valve. -/
def valves : List UInt8 :=
  [idXv1, idXv2, idXv3, idXv4, idXv6, idXv7, idXv8, idXv9, idXv10, idXv11, idXv12]

lemma isSolenoidValve_iff (id : UInt8) : isSolenoidValve id = true ↔ id ∈ valves := by
  simp only [isSolenoidValve, valves, decide_eq_true_eq, List.mem_cons,
    List.not_mem_nil, or_false, UInt8.le_iff_toNat_le, ← UInt8.toNat_inj, ne_eq]
  change (1 ≤ id.toNat ∧ id.toNat ≤ 12) ∧ ¬ id.toNat = 5 ↔ id.toNat = 1 ∨ id.toNat = 2 ∨
    id.toNat = 3 ∨ id.toNat = 4 ∨ id.toNat = 6 ∨ id.toNat = 7 ∨ id.toNat = 8 ∨ id.toNat = 9 ∨
    id.toNat = 10 ∨ id.toNat = 11 ∨ id.toNat = 12
  omega

/-- The lowest level at which an actuator may be switched. -/
def required (id : UInt8) : ArmLvl :=
  if id = idDump then .armedPad
  else if id ∈ valves then .armedValves
  else if id = idQuickDisconnect then .armedIgnition
  else if id = idIgniter then .armedDisconnected
  else .armedLaunch

lemma required_dump_le (level : ArmLvl) : required idDump ≤ level := level.armedPad_le

lemma required_quickDisconnect : required idQuickDisconnect = .armedIgnition := rfl
lemma required_igniter : required idIgniter = .armedDisconnected := rfl

/-- The `switch` over a level that was read refuses exactly the actuators whose level has
not been reached. -/
lemma levelDenies_iff (level : ArmLvl) {id : UInt8} (hid : id ≠ idDump) :
    levelDenies level.val id = true ↔ level < required id := by
  by_cases hq : id = idQuickDisconnect
  · subst hq; cases level <;> decide
  by_cases hi : id = idIgniter
  · subst hi; cases level <;> decide
  have hvalve := isSolenoidValve_iff id
  by_cases hv : id ∈ valves
  · have hs := hvalve.mpr hv
    cases level <;> simp [levelDenies, required, hid, hv, hs, ArmLvl.val, ArmLvl.lt_def,
      ArmLvl.toNat]
  · have hs : isSolenoidValve id = false := Bool.eq_false_iff.mpr (mt hvalve.mp hv)
    cases level <;> simp [levelDenies, required, hid, hq, hi, hv, hs, ArmLvl.val, ArmLvl.lt_def,
      ArmLvl.toNat]

lemma levelDenies_eq_false_iff (level : ArmLvl) {id : UInt8} (hid : id ≠ idDump) :
    levelDenies level.val id = false ↔ required id ≤ level := by
  rw [← Bool.not_eq_true, levelDenies_iff level hid, not_lt]

lemma levelDenies_invalid {v : CEnum} (h : v > ArmLvl.armedLaunch.val) (id : UInt8) :
    levelDenies v id = false := by
  have hne : ∀ a : ArmLvl, v ≠ a.val := by
    rintro a rfl
    cases a <;> exact absurd h (by decide)
  simp [levelDenies, hne]

end Hysim.Arming
