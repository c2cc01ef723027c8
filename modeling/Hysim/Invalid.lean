import Hysim.Record

/-!
Requests whose state byte is neither on nor off.

The byte is checked before the level is, but for the dump valve both checks are jumped over;
what its driver then gets is the byte as a truth value.
-/

namespace Hysim.Invalid

open Hysim.Lib.Program Hysim.Packets Hysim.Actuators Hysim.State Hysim.Arming Hysim.Serve
open Hysim.Effects Hysim.Failure Hysim.Record

/-- The state byte of an actuation is on or off. -/
def Valid (req : ActReqP) : Prop := req.state = 0 ∨ req.state = 1

instance (req : ActReqP) : Decidable (Valid req) := inferInstanceAs (Decidable (_ ∨ _))

/-! ### Runs -/

def trace (pad : PadState) : Happening × Env → List (Solo × PadOp)
  | (.request req, env) => moments solo (handle req) ⟨pad, env.locks, env.driver⟩
  | (.connection status, env) =>
    moments solo (padstateSetConnstatus status) ⟨pad, env.locks, env.driver⟩

def visits (pad : PadState) : List (Happening × Env) → List (PadState × Happening × Env)
  | [] => []
  | x :: rest => (pad, x) :: visits (happen ⟨pad, []⟩ x).pad rest

/-- An actuation is refused for its state, no driver is called and nothing changes. -/
def Refused (env : Env) (pad : PadState) (req : ActReqP) : Prop :=
  (serve env pad (.act req)).1.2 = some (.act ⟨req.id, UInt8.ofInt actInv⟩) ∧
    ¬ Driven (moments solo (handle (.act req)) ⟨pad, env.locks, env.driver⟩) ∧
      (serve env pad (.act req)).2 = pad

/-- An actuation of an existing actuator with an invalid state is refused, and a driver is
called only for a valid one. -/
structure Checked (pad : PadState) (x : Happening × Env) : Prop where
  refused : ∀ req, x.1 = .request (.act req) → req.id.toNat < numActuators →
    ¬ Valid req → Refused x.2 pad req
  driven : ∀ m ∈ trace pad x, ∀ act on, m.2 = .drive act on →
    ∃ req, x.1 = .request (.act req) ∧ Valid req

/-- Any request but one for the dump valve with an invalid state. -/
def Spares (x : Happening × Env) : Prop :=
  ∀ req, x.1 = .request (.act req) → req.id = idDump → Valid req

/-! ### One request -/

section Request

variable (env : Env) (pad : PadState) (req : ActReqP)

lemma refused_of_ne (hid : req.id.toNat < numActuators) (hdump : req.id ≠ idDump)
    (hst : ¬ Valid req) : Refused env pad req := by
  have hr : ¬ Reaches env.locks pad.armLevel req := by
    rintro ⟨-, hd | ⟨hvalid, -⟩⟩
    · exact hdump hd
    · exact hst hvalid
  obtain ⟨hres, hpad, hdriven⟩ := padActuate_not_reached (s := ⟨pad, env.locks, env.driver⟩) hr
  have hinv : refusal req = actInv := by
    rw [refusal, if_neg (not_not.mpr hid), if_pos ⟨hdump, not_or.mp hst⟩]
  rw [hinv] at hres
  refine ⟨?_, ?_, ?_⟩
  · simp [serve, handle, hres, actInv]
  · rwa [handle_act_moments]
  · simp [serve, handle, hres, hpad, actInv]

lemma driven_of_dump (hdump : req.id = idDump) :
    Driven (moments solo (handle (.act req)) ⟨pad, env.locks, env.driver⟩) := by
  have hid : req.id.toNat < numActuators := hdump ▸ by decide
  obtain ⟨rest, hrest⟩ := actuateActuator_moments ⟨req.id.toNat, hid⟩ req.id req.state
    ⟨pad, env.locks, env.driver⟩
  rw [handle_act_moments, padActuate, dif_pos hid, if_pos hdump, hrest]
  exact ⟨_, List.mem_cons_self, _, _, rfl⟩

end Request

lemma checked_of_quiet {pad : PadState} {x : Happening × Env}
    (hreq : ∀ req, x.1 ≠ .request (.act req))
    (hquiet : ∀ m ∈ trace pad x, ∀ act on, m.2 ≠ .drive act on) : Checked pad x where
  refused req h := absurd h (hreq req)
  driven m hm act on h := absurd h (hquiet m hm act on)

lemma checked_iff (pad : PadState) (x : Happening × Env) : Checked pad x ↔ Spares x := by
  obtain ⟨(req | req) | status, env⟩ := x
  · by_cases hvalid : Valid req
    · refine iff_of_true ⟨?_, fun _ _ _ _ _ => ⟨req, rfl, hvalid⟩⟩ ?_
      · rintro _ ⟨⟩ _ hinvalid
        exact absurd hvalid hinvalid
      · rintro _ ⟨⟩ _
        exact hvalid
    by_cases hdump : req.id = idDump
    · refine iff_of_false (fun h => ?_) fun h => hvalid (h req rfl hdump)
      obtain ⟨m, hm, act, on, hop⟩ := driven_of_dump env pad req hdump
      obtain ⟨_, ⟨⟩, hv⟩ := h.driven m hm act on hop
      exact hvalid hv
    · refine iff_of_true ⟨?_, fun m hm act on hop => ?_⟩ ?_
      · rintro _ ⟨⟩ hid hinvalid
        exact refused_of_ne env pad req hid hdump hinvalid
      · have hr : ¬ Reaches env.locks pad.armLevel req := fun hr =>
          hr.2.elim hdump fun hc => hvalid hc.1
        obtain ⟨-, -, hnot⟩ := padActuate_not_reached (s := ⟨pad, env.locks, env.driver⟩) hr
        rw [← handle_act_moments] at hnot
        exact absurd ⟨m, hm, act, on, hop⟩ hnot
      · rintro _ ⟨⟩ hd
        exact absurd hd hdump
  · refine iff_of_true (checked_of_quiet (fun _ h => by cases h) fun m hm act on hop => ?_)
      fun _ h => by cases h
    have hmay := (handle_performs (.arm req)).along _ m hm
    rw [hop] at hmay
    cases hmay with
    | quiet h => exact h
  · refine iff_of_true (checked_of_quiet (fun _ h => by cases h) fun m hm act on hop => ?_)
      fun _ h => by cases h
    have hmay := (setConnstatus_performs status).along (D := solo) _ m hm
    simp [hop, Quiet] at hmay

/-! ### Every run -/

/-- **When invalid states are refused**: throughout a run exactly when none is asked for of the
dump valve. -/
theorem checked_run_iff (state : PadState) (hs : List (Happening × Env)) :
    (∀ v ∈ visits (padstateInit state) hs, Checked v.1 v.2) ↔ ∀ x ∈ hs, Spares x := by
  generalize padstateInit state = pad
  induction hs generalizing pad with
  | nil => simp [visits]
  | cons x rest ih =>
    rw [visits, List.forall_mem_cons, List.forall_mem_cons, ih]
    exact and_congr (checked_iff pad x) Iff.rfl

/-- The dump valve is opened for a state of 2. -/
theorem not_checked_run : ¬ ∀ (state : PadState) (hs : List (Happening × Env)),
    ∀ v ∈ visits (padstateInit state) hs, Checked v.1 v.2 := by
  intro h
  have hchecked := h zeroed [(.request (.act ⟨idDump, 2⟩), ⟨[], 0⟩)] _ List.mem_cons_self
  have hack := (hchecked.refused ⟨idDump, 2⟩ rfl (by decide) (by decide)).1
  exact absurd hack (by decide)

end Hysim.Invalid
