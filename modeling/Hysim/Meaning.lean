import Hysim.Ladder

/-!
What the two upper levels are documented to mean: the quick disconnect has been
disconnected, and the igniter has been ignited.

The server ties the two sides together when it switches these actuators on. It also lets a
client arm the levels one by one without switching anything, and it does not step back when
an actuator is switched off again; a run keeps the meaning exactly as long as it does
neither.
-/

namespace Hysim.Meaning

open Hysim.Packets Hysim.Actuators Hysim.State Hysim.Arming Hysim.Serve Hysim.Ladder

/-- The levels mean what their comments say. -/
structure Meant (pad : PadState) : Prop where
  disconnected : .armedDisconnected ≤ pad.armLevel → (pad.actuators quickDisconnect).state = true
  ignited : pad.armLevel = .armedLaunch → (pad.actuators igniter).state = true

/-- The request moves no level without its actuator and no actuator without its level. -/
def Linked (pad : PadState) : Request → Prop
  | .arm req =>
    (req.level.toUInt32 = ArmLvl.armedDisconnected.val → pad.armLevel = .armedIgnition →
      (pad.actuators quickDisconnect).state = true) ∧
    (req.level.toUInt32 = ArmLvl.armedLaunch.val → pad.armLevel = .armedDisconnected →
      (pad.actuators igniter).state = true)
  | .act req =>
    (req.id = idQuickDisconnect → req.state = 0 → pad.armLevel < .armedDisconnected) ∧
    (req.id = idIgniter → req.state = 0 → pad.armLevel < .armedLaunch)

lemma meant_init (state : PadState) : Meant (padstateInit state) := by
  constructor <;> intro h
  · exact absurd h (by simp [padstateInit, ArmLvl.le_def, ArmLvl.toNat])
  · simp [padstateInit] at h

lemma armedDisconnected_le_changed {old new : ArmLvl}
    (h : .armedDisconnected ≤ changed old new) :
    .armedDisconnected ≤ old ∨ (new = .armedDisconnected ∧ old = .armedIgnition) := by
  unfold changed at h
  split_ifs at h with hm
  · rcases hm with hup | ⟨rfl, -⟩ | rfl
    · have hnew : 3 ≤ new.toNat := h
      rcases Nat.lt_or_ge old.toNat 3 with hlt | hge
      · have hnew' : new.toNat = 3 := by omega
        have hold : old.toNat = 2 := by omega
        exact .inr ⟨ArmLvl.toNat_injective hnew', ArmLvl.toNat_injective hold⟩
      · exact .inl hge
    · exact absurd h (by decide)
    · exact absurd h (by decide)
  · exact .inl h

lemma changed_eq_armedLaunch {old new : ArmLvl} (h : changed old new = .armedLaunch) :
    old = .armedLaunch ∨ (new = .armedLaunch ∧ old = .armedDisconnected) := by
  unfold changed at h
  split_ifs at h with hm
  · subst h
    rcases hm with hup | ⟨hv, -⟩ | hp
    · have hup' : 4 = old.toNat + 1 := hup
      have hold : old.toNat = 3 := by omega
      exact .inr ⟨rfl, ArmLvl.toNat_injective hold⟩
    · cases hv
    · cases hp
  · exact .inl h

lemma meant_moveTo_iff {pad : PadState} (h : Meant pad) (new : ArmLvl) :
    Meant (moveTo pad new) ↔
      (new = .armedDisconnected → pad.armLevel = .armedIgnition →
        (pad.actuators quickDisconnect).state = true) ∧
      (new = .armedLaunch → pad.armLevel = .armedDisconnected →
        (pad.actuators igniter).state = true) := by
  constructor
  · intro hm
    constructor
    · intro hnew hold
      have hon := hm.disconnected (by rw [moveTo_armLevel, hnew, hold]; decide)
      rwa [moveTo_actuators] at hon
    · intro hnew hold
      have hon := hm.ignited (by rw [moveTo_armLevel, hnew, hold]; decide)
      rwa [moveTo_actuators] at hon
  · rintro ⟨hd, hi⟩
    constructor
    · intro hle
      rw [moveTo_armLevel] at hle
      rw [moveTo_actuators]
      rcases armedDisconnected_le_changed hle with hold | ⟨hnew, hold⟩
      · exact h.disconnected hold
      · exact hd hnew hold
    · intro heq
      rw [moveTo_armLevel] at heq
      rw [moveTo_actuators]
      rcases changed_eq_armedLaunch heq with hold | ⟨hnew, hold⟩
      · exact h.ignited hold
      · exact hi hnew hold

lemma meant_actuated {pad : PadState} {id : UInt8} (hid : id.toNat < numActuators)
    (st : UInt8) :
    Meant (actuated pad ⟨id.toNat, hid⟩ id st) ↔
      (.armedDisconnected ≤ followed id st pad.armLevel →
        (if id = idQuickDisconnect then st != 0
          else (pad.actuators quickDisconnect).state) = true) ∧
      (followed id st pad.armLevel = .armedLaunch →
        (if id = idIgniter then st != 0 else (pad.actuators igniter).state) = true) := by
  refine ⟨fun h => ?_, fun h => ⟨?_, ?_⟩⟩
  · simpa [PadState.setAct_state, quickDisconnect_eq_iff, igniter_eq_iff] using And.intro h.1 h.2
  · simpa [PadState.setAct_state, quickDisconnect_eq_iff] using h.1
  · simpa [PadState.setAct_state, igniter_eq_iff] using h.2

/-- Switching an actuator of the firing sequence off never steps the level back: at the level
it needs, the level asked for is not above. -/
lemma followed_off {id : UInt8} {level : ArmLvl}
    (hid : id = idQuickDisconnect ∨ id = idIgniter) (h : required id ≤ level) :
    followed id 0 level = level := by
  rcases hid with rfl | rfl
  · rw [required_quickDisconnect] at h
    exact changed_of_le (by decide) h
  · rw [required_igniter] at h
    exact changed_of_le (by decide) h

lemma meant_actuated_iff {pad : PadState} (h : Meant pad) {req : ActReqP}
    (hc : Commanded pad.armLevel req) :
    Meant (actuated pad ⟨req.id.toNat, hc.1⟩ req.id req.state) ↔ Linked pad (.act req) := by
  obtain ⟨hd, hi⟩ := h
  obtain ⟨id, st⟩ := req
  obtain ⟨hid, -, hlvl⟩ := hc
  simp only at hid hlvl ⊢
  rw [meant_actuated]
  by_cases hq : id = idQuickDisconnect
  · subst hq
    have hne : idQuickDisconnect ≠ idIgniter := by decide
    have hlinked : Linked pad (.act ⟨idQuickDisconnect, st⟩) ↔
        (st = 0 → pad.armLevel < .armedDisconnected) := by simp [Linked, hne]
    rw [hlinked, if_pos rfl, if_neg hne]
    by_cases hst : st = 0
    · subst hst
      rw [followed_off (.inl rfl) hlvl]
      exact ⟨fun h _ => not_le.mp fun hle => absurd (h.1 hle) (by decide),
        fun h => ⟨fun hle => absurd hle (not_le.mpr (h rfl)), hi⟩⟩
    · have hon : followed idQuickDisconnect st pad.armLevel =
          changed pad.armLevel .armedDisconnected := by simp [followed, target, hst]
      refine iff_of_true ⟨fun _ => by simp [hst], fun heq => ?_⟩ fun h => absurd h hst
      rw [hon] at heq
      rcases changed_eq_armedLaunch heq with hold | ⟨hnew, -⟩
      · exact hi hold
      · cases hnew
  by_cases hg : id = idIgniter
  · subst hg
    have hlinked : Linked pad (.act ⟨idIgniter, st⟩) ↔
        (st = 0 → pad.armLevel < .armedLaunch) := by simp [Linked]
    rw [hlinked, if_neg hq, if_pos rfl]
    by_cases hst : st = 0
    · subst hst
      rw [followed_off (.inr rfl) hlvl]
      refine ⟨fun h _ => ?_, fun h => ⟨hd, fun heq => absurd heq (h rfl).ne⟩⟩
      exact lt_of_le_of_ne pad.armLevel.le_armedLaunch fun heq => absurd (h.2 heq) (by decide)
    · exact iff_of_true ⟨fun _ => hd hlvl, fun _ => by simp [hst]⟩ fun h => absurd h hst
  · have hlinked : Linked pad (.act ⟨id, st⟩) := ⟨fun h => absurd h hq, fun h => absurd h hg⟩
    have hstay : followed id st pad.armLevel = pad.armLevel := by simp [followed, target, hq, hg]
    rw [hstay, if_neg hq, if_neg hg]
    exact iff_of_true ⟨hd, hi⟩ hlinked

/-- **A request keeps the meaning of the levels exactly if it is linked.** -/
lemma serve_meant_iff {pad : PadState} (h : Meant pad) (req : Request) :
    Meant (serve ⟨[], 0⟩ pad req).2 ↔ Linked pad req := by
  cases req with
  | arm req =>
    by_cases hrange : req.level.toUInt32 > ArmLvl.armedLaunch.val
    · have hd : req.level.toUInt32 ≠ ArmLvl.armedDisconnected.val := by
        rintro he; rw [he] at hrange; exact absurd hrange (by decide)
      have hl : req.level.toUInt32 ≠ ArmLvl.armedLaunch.val := by
        rintro he; rw [he] at hrange; exact absurd hrange (by decide)
      simp [serve_arm_invalid _ _ hrange, h, Linked, hd, hl]
    · obtain ⟨new, hnew⟩ := ArmLvl.exists_of_le hrange
      rw [serve_arm _ _ hnew, meant_moveTo_iff h, Linked, hnew]
      simp only [ArmLvl.val_inj]
  | act req =>
    by_cases hc : Commanded pad.armLevel req
    · rw [serve_actuated _ _ hc (by decide), meant_actuated_iff h hc]
    · rw [serve_refused _ _ hc]
      refine iff_of_true h ⟨fun hid hst => ?_, fun hid hst => ?_⟩
      · have hlt : pad.armLevel < .armedIgnition := not_le.mp fun hle =>
          hc ⟨by rw [hid]; decide, .inr (.inl hst), by rwa [hid, required_quickDisconnect]⟩
        exact hlt.trans (by decide)
      · have hlt : pad.armLevel < .armedDisconnected := not_le.mp fun hle =>
          hc ⟨by rw [hid]; decide, .inr (.inl hst), by rwa [hid, required_igniter]⟩
        exact hlt.trans (by decide)

/-! ### Runs -/

def obeyed (reqs : List Request) : List Input := reqs.map fun req => (req, 0)

/-- Every request of the run is linked in the state it finds. -/
def LinkedRun (pad : PadState) : List Request → Prop
  | [] => True
  | req :: rest => Linked pad req ∧ LinkedRun (serve ⟨[], 0⟩ pad req).2 rest

instance (pad : PadState) (req : Request) : Decidable (Linked pad req) := by
  cases req <;> unfold Linked <;> infer_instance

instance linkedRunDecidable (pad : PadState) : (reqs : List Request) →
    Decidable (LinkedRun pad reqs)
  | [] => .isTrue trivial
  | _ :: rest => @instDecidableAnd _ _ _ (linkedRunDecidable _ rest)

lemma meant_after {pad : PadState} (h : Meant pad) {reqs : List Request}
    (hl : LinkedRun pad reqs) : Meant (after pad (obeyed reqs)) := by
  induction reqs generalizing pad with
  | nil => exact h
  | cons req rest ih => exact ih ((serve_meant_iff h req).mpr hl.1) hl.2

/-- **What the levels mean.** In a run whose requests are all linked, the quick disconnect
is disconnected at the two upper levels and the igniter is ignited at the top one. -/
theorem meant_run (state : PadState) {reqs : List Request}
    (hl : LinkedRun (padstateInit state) reqs) :
    Meant (after (padstateInit state) (obeyed reqs)) :=
  meant_after (meant_init state) hl

/-- Arming by requests alone reaches the level of a disconnected quick disconnect. -/
theorem not_meant_run : ¬ ∀ (state : PadState) (reqs : List Request),
    Meant (after (padstateInit state) (obeyed reqs)) := by
  intro h
  have hd := (h zeroed [.arm ⟨1⟩, .arm ⟨2⟩, .arm ⟨3⟩]).disconnected (by decide)
  exact absurd hd (by decide)

theorem meant_run_launch :
    let pad := after (padstateInit zeroed)
      (obeyed [.arm ⟨1⟩, .arm ⟨2⟩, .act ⟨idQuickDisconnect, 1⟩, .act ⟨idIgniter, 1⟩])
    pad.armLevel = .armedLaunch ∧ Meant pad :=
  ⟨by decide, meant_run zeroed (by decide)⟩

end Hysim.Meaning
