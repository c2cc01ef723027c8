import Hysim.Effects
import Hysim.Ladder

/-!
Disarming. A request for the lowest level is granted from anywhere, and only a request for
the valves takes the pad out of it again.
-/

namespace Hysim.Disarm

open Hysim.Lib.Program Hysim.Packets Hysim.Actuators Hysim.State Hysim.Arming Hysim.Serve
open Hysim.Effects Hysim.Ladder

def disarm : Request := .arm ⟨ArmLvl.armedPad.val.toUInt8⟩

def armValves : Request := .arm ⟨ArmLvl.armedValves.val.toUInt8⟩

/-- The level is the lowest one, and only the dump valve is driven. -/
def Safe (s : Solo) (o : PadOp) : Prop :=
  s.pad.armLevel = .armedPad ∧ ∀ act on, o = .drive act on → act = dumpValve

lemma eq_dumpValve_of_required {act : ActIdx} (h : required (UInt8.ofNat act) ≤ .armedPad) :
    act = dumpValve := by
  revert act
  decide

lemma armValves_of_ofVal {req : ArmReqP}
    (h : ArmLvl.armedValves = ArmLvl.ofVal req.level.toUInt32) :
    Request.arm req = armValves := by
  unfold ArmLvl.ofVal at h
  split_ifs at h with h0 h1
  have hlevel : req.level = ArmLvl.armedValves.val.toUInt8 := by
    rw [← UInt8.toNat_inj, ← UInt8.toNat_toUInt32, h1]
    rfl
  rw [armValves, ← hlevel]

lemma ne_storeValves_of_may {req : Request} {o : PadOp} (h : May req o) (hreq : req ≠ armValves) :
    o ≠ .storeLevel .armedValves := by
  rintro rfl
  cases h with
  | quiet h => exact h
  | follow h => exact lt_irrefl _ h
  | change h => exact hreq (armValves_of_ofVal h)

lemma keeps_of_guarded {s : Solo} {o : PadOp} (h : Guarded s o) (ho : o ≠ .storeLevel .armedValves)
    (hs : s.pad.armLevel = .armedPad) : (solo.eff o s).pad.armLevel = .armedPad := by
  cases o
  case storeLevel level =>
    have hmove : Moves .armedPad level := hs ▸ h
    rcases hmove with hup | ⟨rfl, hlt⟩ | rfl
    · have hvalves : level = .armedValves := ArmLvl.toNat_injective hup
      exact absurd (congrArg PadOp.storeLevel hvalves) ho
    · exact absurd hlt (by decide)
    · rfl
  all_goals exact hs

lemma safe_of_guarded {s : Solo} {o : PadOp} (h : Guarded s o) (hs : s.pad.armLevel = .armedPad) :
    Safe s o := by
  refine ⟨hs, ?_⟩
  rintro act on rfl
  exact eq_dumpValve_of_required (hs ▸ h)

/-- A disarmed pad stays so through any request but one for the valves. -/
lemma handle_safe {pad : PadState} (hpad : pad.armLevel = .armedPad) (drv : Int) {req : Request}
    (hreq : req ≠ armValves) :
    Along solo Safe (handle req) ⟨pad, [], drv⟩ ∧
      (serve ⟨[], drv⟩ pad req).2.armLevel = .armedPad := by
  have hops : Along solo (fun s o => Guarded s o ∧ o ≠ .storeLevel .armedValves) (handle req)
      ⟨pad, [], drv⟩ := fun m hm =>
    ⟨handle_guarded pad drv req m hm,
      ne_storeValves_of_may ((handle_performs req).along _ m hm) hreq⟩
  obtain ⟨hlevels, hend⟩ := hops.invariant (I := fun s => s.pad.armLevel = .armedPad)
    (fun s o hs ho => keeps_of_guarded ho.1 ho.2 hs) hpad
  exact ⟨fun m hm => safe_of_guarded (hops m hm).1 (hlevels m hm), hend⟩

lemma history_safe {pad : PadState} (hpad : pad.armLevel = .armedPad) {ins : List Input}
    (h : ∀ i ∈ ins, i.1 ≠ armValves) :
    (∀ m ∈ history pad ins, Safe m.1 m.2) ∧ (after pad ins).armLevel = .armedPad := by
  induction ins generalizing pad with
  | nil => exact ⟨by simp [history], hpad⟩
  | cons i ins ih =>
    obtain ⟨req, drv⟩ := i
    obtain ⟨hreq, hins⟩ := List.forall_mem_cons.mp h
    obtain ⟨hmoments, hlevel⟩ := handle_safe hpad drv hreq
    obtain ⟨hrest, hend⟩ := ih hlevel hins
    refine ⟨fun m hm => ?_, hend⟩
    rcases List.mem_append.mp hm with hm | hm
    · exact hmoments m hm
    · exact hrest m hm

lemma serve_disarm (pad : PadState) (drv : Int) :
    serve ⟨[], drv⟩ pad disarm = ((armOk, some (.arm ⟨UInt8.ofInt armOk⟩)),
      { pad with armLevel := .armedPad, updateRecorded := true }) := by
  have hmove : Moves pad.armLevel .armedPad := .inr (.inr rfl)
  have hlevel : (⟨ArmLvl.armedPad.val.toUInt8⟩ : ArmReqP).level.toUInt32 =
      ArmLvl.armedPad.val := rfl
  rw [disarm, serve_arm pad drv hlevel, if_pos hmove, moveTo, if_pos hmove]
  rfl

/-- **Disarming holds.** A request for the lowest level is granted, and until the level of
the valves is asked for the pad stays there and only the dump valve is driven. -/
theorem disarmed_until_armValves (pad : PadState) (drv : Int) {ins : List Input}
    (h : ∀ i ∈ ins, i.1 ≠ armValves) :
    (serve ⟨[], drv⟩ pad disarm).1 = (armOk, some (.arm ⟨UInt8.ofInt armOk⟩)) ∧
      (∀ m ∈ history (serve ⟨[], drv⟩ pad disarm).2 ins, m.1.pad.armLevel = .armedPad ∧
        ∀ act on, m.2 = .drive act on → act = dumpValve) ∧
      (after (serve ⟨[], drv⟩ pad disarm).2 ins).armLevel = .armedPad := by
  refine ⟨congrArg Prod.fst (serve_disarm pad drv), history_safe ?_ h⟩
  rw [serve_disarm]

/-- After a launch is called off, a client that goes on with the firing sequence gets the
dump valve only. -/
theorem disarmed_until_armValves_calledOff :
    (after (serve ⟨[], 0⟩ (after (padstateInit zeroed) firingSequence) disarm).2
      [(.arm ⟨2⟩, 0), (.act ⟨idIgniter, 1⟩, 0), (.act ⟨idDump, 1⟩, 0)]).armLevel = .armedPad := by
  have hins : ∀ i ∈ ([(.arm ⟨2⟩, 0), (.act ⟨idIgniter, 1⟩, 0), (.act ⟨idDump, 1⟩, 0)] : List Input),
      i.1 ≠ armValves := by decide
  exact (disarmed_until_armValves (after (padstateInit zeroed) firingSequence) 0 hins).2.2

end Hysim.Disarm
