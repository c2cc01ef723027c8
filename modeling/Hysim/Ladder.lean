import Hysim.Lib.Climb
import Hysim.Serve

/-!
Whole runs of the server: no driver is called below the level its actuator needs, and no
level is reached without the levels under it.
-/

namespace Hysim.Ladder

open Hysim.Lib.Program Hysim.Lib.Climb Hysim.Packets Hysim.Actuators Hysim.State
open Hysim.Arming Hysim.Serve

/-! ### What a single operation may do -/

/-- A level is stored only along a move, and a driver is called only at the level its
actuator needs. -/
def Guarded (s : Solo) (o : PadOp) : Prop :=
  match o with
  | .storeLevel level => Moves s.pad.armLevel level
  | .drive act _ => required (UInt8.ofNat act) ≤ s.pad.armLevel
  | _ => True

section Along

variable (pad : PadState) (drv : Int)

lemma getLevel_guarded : Along solo Guarded padstateGetLevel ⟨pad, [], drv⟩ := by
  simp [padstateGetLevel, Guarded]

lemma signalUpdate_guarded : Along solo Guarded padstateSignalUpdate ⟨pad, [], drv⟩ := by
  simp [padstateSignalUpdate, Guarded]

lemma changeLevel_guarded (new : CEnum) :
    Along solo Guarded (padstateChangeLevel new) ⟨pad, [], drv⟩ := by
  by_cases hrange : new > ArmLvl.armedLaunch.val
  · simp [padstateChangeLevel, hrange]
  obtain ⟨new, rfl⟩ := ArmLvl.exists_of_le hrange
  have hlow : ¬ new.val < ArmLvl.armedPad.val := by cases new <;> decide
  have hmoves := moves_iff pad.armLevel new
  by_cases h : Moves pad.armLevel new <;>
    simp [padstateChangeLevel, hrange, hlow, hmoves, h, Guarded, signalUpdate_guarded]

lemma followLevel_guarded (id reqState : UInt8) :
    Along solo Guarded (followLevel id reqState) ⟨pad, [], drv⟩ := by
  have hadv : ∀ (pad : PadState) (new : ArmLvl),
      Along solo Guarded (advanceLevel reqState new) ⟨pad, [], drv⟩ := fun pad new => by
    unfold advanceLevel
    by_cases hs : reqState = 0 <;> by_cases hlt : pad.armLevel.val < new.val <;>
      simp [hs, hlt, getLevel_guarded, changeLevel_guarded]
  have hret : ∀ (pad : PadState) (new : ArmLvl),
      Along solo Guarded (retreatLevel reqState new) ⟨pad, [], drv⟩ := fun pad new => by
    unfold retreatLevel
    by_cases hs : reqState = 0 <;> simp [hs, changeLevel_guarded]
  have hd : ArmLvl.armedValves < .armedDisconnected := by decide
  have hl : ArmLvl.armedValves < .armedLaunch := by decide
  unfold followLevel
  split_ifs <;> simp [hadv, hret, advanceLevel_run _ _ hd, advanceLevel_run _ _ hl]

lemma actuateActuator_guarded {act : ActIdx} {id : UInt8} (hid : (act : ℕ) = id.toNat)
    (h : required id ≤ pad.armLevel) (reqState : UInt8) :
    Along solo Guarded (actuateActuator act id reqState) ⟨pad, [], drv⟩ := by
  have hact : UInt8.ofNat act = id := by simp [hid]
  have hset : Along solo Guarded (actuatorSet act (reqState != 0)) ⟨pad, [], drv⟩ := by
    by_cases hs : reqState = 0 <;> by_cases hd : drv = -1 <;>
      simp [actuatorSet, actuatorOn, actuatorOff, hs, hd, Guarded, hact, h]
  unfold actuateActuator
  rcases eq_or_ne drv (-1) with rfl | hd
  · simp [hset]
  · simp [hset, hd, followLevel_guarded, signalUpdate_guarded]

lemma padActuate_guarded (req : ActReqP) :
    Along solo Guarded (padActuate req.id req.state) ⟨pad, [], drv⟩ := by
  unfold padActuate
  split_ifs with hid hd hst
  · exact actuateActuator_guarded pad drv rfl (hd ▸ required_dump_le _) _
  · simp
  · rcases lt_or_ge pad.armLevel (required req.id) with hlt | hle
    · simp [(levelDenies_iff pad.armLevel hd).mpr hlt, getLevel_guarded]
    · simp [(levelDenies_eq_false_iff pad.armLevel hd).mpr hle, getLevel_guarded,
        actuateActuator_guarded, hle]
  · simp

lemma handle_guarded (req : Request) : Along solo Guarded (handle req) ⟨pad, [], drv⟩ := by
  cases req with
  | act req =>
    by_cases h : (run solo (padActuate req.id req.state) ⟨pad, [], drv⟩).1 = -1 <;>
      simp [handle, padActuate_guarded, h]
  | arm req => simp [handle, changeLevel_guarded]

end Along

/-! ### Runs -/

abbrev Input := Request × Int

/-- The pad state after some requests, all lock operations succeeding. -/
def after (pad : PadState) : List Input → PadState
  | [] => pad
  | (req, drv) :: rest => after (serve ⟨[], drv⟩ pad req).2 rest

def history (pad : PadState) : List Input → List (Solo × PadOp)
  | [] => []
  | (req, drv) :: rest =>
    moments solo (handle req) ⟨pad, [], drv⟩ ++ history (serve ⟨[], drv⟩ pad req).2 rest

def heightAt (m : Solo × PadOp) : ℕ := m.1.pad.armLevel.toNat

lemma history_guarded (pad : PadState) (ins : List Input) :
    ∀ m ∈ history pad ins, Guarded m.1 m.2 := by
  induction ins generalizing pad with
  | nil => simp [history]
  | cons i rest ih =>
    obtain ⟨req, drv⟩ := i
    intro m hm
    rcases List.mem_append.mp hm with hm | hm
    · exact handle_guarded pad drv req m hm
    · exact ih _ m hm

lemma Guarded.gentle {s : Solo} {o : PadOp} (h : Guarded s o) :
    (Solo.eff o s).pad.armLevel.toNat ≤ s.pad.armLevel.toNat + 1 := by
  cases o
  case storeLevel level => exact Moves.gentle h
  all_goals simp

lemma trail_heights (pad : PadState) (drv : Int) (req : Request) :
    (trail solo (handle req) ⟨pad, [], drv⟩).map (fun s => s.pad.armLevel.toNat) =
      (moments solo (handle req) ⟨pad, [], drv⟩).map heightAt ++
        [(serve ⟨[], drv⟩ pad req).2.armLevel.toNat] := by
  rw [trail, List.map_append, List.map_map]
  rfl

lemma handle_gentle (pad : PadState) (drv : Int) (req : Request) :
    Gentle ((moments solo (handle req) ⟨pad, [], drv⟩).map heightAt ++
      [(serve ⟨[], drv⟩ pad req).2.armLevel.toNat]) := by
  have hsteps : Along solo (fun s o => (Solo.eff o s).pad.armLevel.toNat ≤
      s.pad.armLevel.toNat + 1) (handle req) ⟨pad, [], drv⟩ :=
    (handle_guarded pad drv req).mono fun _ _ => Guarded.gentle
  have hchain : (trail solo (handle req) ⟨pad, [], drv⟩).IsChain fun s s' =>
      s'.pad.armLevel.toNat ≤ s.pad.armLevel.toNat + 1 := hsteps.trail_isChain
  rw [← trail_heights]
  exact (List.isChain_map _).mpr hchain

def heights (pad : PadState) (ins : List Input) : List ℕ :=
  (history pad ins).map heightAt ++ [(after pad ins).armLevel.toNat]

lemma heights_cons (pad : PadState) (req : Request) (drv : Int) (rest : List Input) :
    heights pad ((req, drv) :: rest) =
      (moments solo (handle req) ⟨pad, [], drv⟩).map heightAt ++
        heights (serve ⟨[], drv⟩ pad req).2 rest := by
  simp [heights, history, after]

lemma heights_head (pad : PadState) (ins : List Input) :
    (heights pad ins).head? = some pad.armLevel.toNat := by
  induction ins generalizing pad with
  | nil => rfl
  | cons i rest ih =>
    obtain ⟨req, drv⟩ := i
    obtain ⟨u, hu⟩ := trail_eq_cons solo (handle req) ⟨pad, [], drv⟩
    have hhead := trail_heights pad drv req
    rw [hu, List.map_cons] at hhead
    rw [heights_cons]
    rcases hms : (moments solo (handle req) ⟨pad, [], drv⟩).map heightAt with _ | ⟨a, ms⟩
    · rw [hms] at hhead
      rw [List.nil_append, ih]
      exact congrArg some (List.cons.inj hhead).1.symm
    · rw [hms] at hhead
      exact congrArg some (List.cons.inj hhead).1.symm

lemma heights_gentle (pad : PadState) (ins : List Input) : Gentle (heights pad ins) := by
  induction ins generalizing pad with
  | nil => exact .singleton _
  | cons i rest ih =>
    obtain ⟨req, drv⟩ := i
    obtain ⟨t, ht⟩ := List.head?_eq_some_iff.mp (heights_head (serve ⟨[], drv⟩ pad req).2 rest)
    have hrest := ih (serve ⟨[], drv⟩ pad req).2
    rw [ht] at hrest
    rw [heights_cons, ht]
    exact (handle_gentle pad drv req).append hrest

/-- **Safe actuation.** In a run from the initial state, a driver is called only at the
level its actuator needs, and by then every level up to the current one has been passed,
in order, since the pad was last at its lowest level. -/
theorem drive_guarded (state : PadState) (ins : List Input) {i : ℕ} {s : Solo} {act : ActIdx}
    {on : Bool} (h : (history (padstateInit state) ins)[i]? = some (s, .drive act on)) :
    required (UInt8.ofNat act) ≤ s.pad.armLevel ∧
      Climbed (((history (padstateInit state) ins).take (i + 1)).map heightAt) := by
  refine ⟨history_guarded _ ins _ (List.mem_of_getElem? h), ?_⟩
  have hsplit : heights (padstateInit state) ins =
      ((history (padstateInit state) ins).take (i + 1)).map heightAt ++
        (((history (padstateInit state) ins).drop (i + 1)).map heightAt ++
          [(after (padstateInit state) ins).armLevel.toNat]) := by
    rw [← List.append_assoc, ← List.map_append, List.take_append_drop]; rfl
  have hgentle := heights_gentle (padstateInit state) ins
  have hhead := heights_head (padstateInit state) ins
  rw [hsplit] at hgentle hhead
  refine climbed_of_gentle hgentle.of_append fun x hx => ?_
  rw [List.head?_append, hx] at hhead
  simpa [padstateInit, ArmLvl.toNat] using hhead

/-- The igniter, after the pad has been armed step by step and disconnected. -/
def firingSequence : List Input := [(.arm ⟨1⟩, 0), (.arm ⟨2⟩, 0), (.act ⟨idQuickDisconnect, 1⟩, 0),
  (.act ⟨idIgniter, 1⟩, 0)]

theorem drive_guarded_igniter :
    ∃ s : Solo, (history (padstateInit zeroed) firingSequence)[39]? = some (s, .drive 0 true) ∧
      required idIgniter ≤ s.pad.armLevel ∧
      Climbed (((history (padstateInit zeroed) firingSequence).take 40).map heightAt) :=
  ⟨_, rfl, @drive_guarded zeroed firingSequence 39 _ 0 true rfl⟩

end Hysim.Ladder
