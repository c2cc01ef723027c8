import Hysim.Effects
import Hysim.Replies

/-!
The acknowledgements as a record of the run. What was acknowledged as carried out is what
happened to the actuators, and a request that was not might as well never have been sent.
-/

namespace Hysim.Record

open Hysim.Lib.Program Hysim.Packets Hysim.Actuators Hysim.State Hysim.Arming Hysim.Serve
open Hysim.Effects Hysim.Failure Hysim.Replies

/-- The acknowledgement says that the request was carried out. -/
def isOk : Ack → Bool
  | .act ack => ack.status = UInt8.ofInt actOk
  | .arm ack => ack.status = UInt8.ofInt armOk

def granted (reply : Option Ack) : Bool := reply.any isOk

/-! ### One request -/

lemma actuators_of_performs {α : Type} {p : PadM α} {Q : PadOp → Prop}
    (hQ : ∀ act b, ¬ Q (.storeAct act b)) (h : Performs Q p) (s : Solo) :
    (run solo p s).2.pad.actuators = s.pad.actuators := by
  refine h.frame (f := fun s : Solo => s.pad.actuators) (fun t o ho => ?_) s
  cases o
  case storeAct act b => exact absurd ho (hQ act b)
  all_goals rfl

lemma actuateActuator_actuators (act : ActIdx) (id reqState : UInt8) {s : Solo}
    (h : s.driver ≠ -1) : (run solo (actuateActuator act id reqState) s).2.pad.actuators =
      (s.pad.setAct act (reqState != 0)).actuators := by
  have hset : ∀ b, run solo (actuatorSet act b) s = (0, { s with pad := s.pad.setAct act b }) := by
    intro b
    cases b <;> simp [actuatorSet, actuatorOn, actuatorOff, h]
  unfold actuateActuator
  rw [run_bind, hset, if_neg (not_not.mpr rfl), run_bind, run_bind, run_pure]
  rw [actuators_of_performs (by simp [Quiet]) signalUpdate_performs,
    actuators_of_performs (by simp [Levels, Quiet]) (followLevel_performs id reqState)]

lemma refusal_status (req : ActReqP) : UInt8.ofInt (refusal req) ≠ UInt8.ofInt actOk := by
  unfold refusal
  split_ifs <;> decide

section Request

variable (env : Env) (pad : PadState)

/-- An actuation is acknowledged as carried out and its actuator stored, or nothing at all
is changed. -/
lemma serve_act_cases (req : ActReqP) :
    (∃ h : req.id.toNat < numActuators, (serve env pad (.act req)).1.2 =
        some (.act ⟨req.id, UInt8.ofInt actOk⟩) ∧
      (serve env pad (.act req)).2.actuators =
        (pad.setAct ⟨req.id.toNat, h⟩ (req.state != 0)).actuators) ∨
    granted (serve env pad (.act req)).1.2 = false ∧ (serve env pad (.act req)).2 = pad := by
  by_cases hr : Reaches env.locks pad.armLevel req
  · obtain ⟨ms, locks, -, hrun⟩ :=
      padActuate_reached (s := ⟨pad, env.locks, env.driver⟩) hr
    by_cases hd : env.driver = -1
    · right
      rw [actuateActuator_failed _ _ _ hd] at hrun
      simp [serve, handle, hrun, granted]
    · left
      have hok := actuateActuator_not_failed ⟨req.id.toNat, hr.1⟩ req.id req.state
        (s := ⟨pad, locks, env.driver⟩) hd
      have hacts := actuateActuator_actuators ⟨req.id.toNat, hr.1⟩ req.id req.state
        (s := ⟨pad, locks, env.driver⟩) hd
      refine ⟨hr.1, ?_, ?_⟩
      · simp [serve, handle, hrun, hok, actOk]
      · simp [serve, handle, hrun, hok, hacts, actOk]
  · right
    obtain ⟨hres, hpad, -⟩ := padActuate_not_reached (s := ⟨pad, env.locks, env.driver⟩) hr
    have hne := refusal_ne req
    have hstatus := refusal_status req
    simp [serve, handle, hres, hpad, hne, granted, isOk, hstatus]

lemma serve_arm_cases (req : ArmReqP) :
    (serve env pad (.arm req)).1.2 = some (.arm ⟨UInt8.ofInt armOk⟩) ∧
      (serve env pad (.arm req)).2.actuators = pad.actuators ∨
    granted (serve env pad (.arm req)).1.2 = false ∧ (serve env pad (.arm req)).2 = pad := by
  rcases changeLevel_result req.level.toUInt32 ⟨pad, env.locks, env.driver⟩ with
    h | ⟨h | h, hpad⟩
  · left
    refine ⟨by simp [serve, handle, h, armAck], ?_⟩
    have hacts := actuators_of_performs (by simp [Levels, Quiet])
      (changeLevel_performs req.level.toUInt32) ⟨pad, env.locks, env.driver⟩
    simp [serve, handle, hacts]
  · right
    have hack : (serve env pad (.arm req)).1.2 = armAck armDenied := by simp [serve, handle, h]
    exact ⟨by rw [hack]; rfl, by simp [serve, handle, hpad]⟩
  · right
    have hack : (serve env pad (.arm req)).1.2 = armAck armInv := by simp [serve, handle, h]
    exact ⟨by rw [hack]; rfl, by simp [serve, handle, hpad]⟩

lemma serve_not_granted {req : Request} (h : granted (serve env pad req).1.2 = false) :
    (serve env pad req).2 = pad := by
  cases req with
  | act req =>
    rcases serve_act_cases env pad req with ⟨_, hack, -⟩ | ⟨-, hpad⟩
    · rw [hack] at h
      simp [granted, isOk] at h
    · exact hpad
  | arm req =>
    rcases serve_arm_cases env pad req with ⟨hack, -⟩ | ⟨-, hpad⟩
    · rw [hack] at h
      simp [granted, isOk] at h
    · exact hpad

end Request

/-! ### The last word on each actuator -/

/-- What the controller thread has to do with the pad state: requests, and connections that
are made or lost. -/
inductive Happening
  | request (req : Request)
  | connection (status : ConnStatus)

/-- The pad state of a run, and its requests with their acknowledgements. -/
structure Account where
  pad : PadState
  replies : List (Request × Option Ack)

def happen (r : Account) : Happening × Env → Account
  | (.request req, env) =>
    ⟨(serve env r.pad req).2, r.replies ++ [(req, (serve env r.pad req).1.2)]⟩
  | (.connection status, env) =>
    ⟨(run solo (padstateSetConnstatus status) ⟨r.pad, env.locks, env.driver⟩).2.pad, r.replies⟩

def account (state : PadState) (hs : List (Happening × Env)) : Account :=
  hs.foldl happen ⟨padstateInit state, []⟩

/-- The state an actuation of `act` asked for, when it is acknowledged as carried out. -/
def switched (act : ActIdx) : Request × Option Ack → Option Bool
  | (.act req, some (.act ack)) =>
    if req.id.toNat = act ∧ isOk (.act ack) then some (req.state != 0) else none
  | _ => none

/-- The state the last acknowledged actuation of `act` asked for, off if there was none. -/
def lastSwitched (act : ActIdx) (replies : List (Request × Option Ack)) : Bool :=
  (replies.filterMap (switched act)).getLast?.getD false

lemma lastSwitched_concat (act : ActIdx) (replies : List (Request × Option Ack))
    (reply : Request × Option Ack) : lastSwitched act (replies ++ [reply]) =
      (switched act reply).getD (lastSwitched act replies) := by
  unfold lastSwitched
  rw [List.filterMap_append]
  cases h : switched act reply with
  | none => simp [h]
  | some b => simp [h]

lemma switched_not_granted (act : ActIdx) (req : Request) {reply : Option Ack}
    (h : granted reply = false) : switched act (req, reply) = none := by
  rcases req with req | req <;> rcases reply with _ | ack | ack <;> try rfl
  have hok : isOk (.act ack) = false := h
  simp [switched, hok]

/-- The flags are what was last acknowledged. -/
def Recorded (r : Account) : Prop :=
  ∀ act, (r.pad.actuators act).state = lastSwitched act r.replies

lemma happen_recorded {r : Account} (h : Recorded r) (x : Happening × Env) :
    Recorded (happen r x) := by
  intro act
  obtain ⟨req | status, env⟩ := x
  · have hpast := h act
    change ((serve env r.pad req).2.actuators act).state = lastSwitched act (r.replies ++ [_])
    rw [lastSwitched_concat]
    rcases req with req | req
    · rcases serve_act_cases env r.pad req with ⟨hid, hack, hacts⟩ | ⟨hack, hpad⟩
      · rw [hack, hacts, PadState.setAct_state, hpast]
        by_cases hact : act = ⟨req.id.toNat, hid⟩
        · simp [switched, isOk, hact]
        · have hne : req.id.toNat ≠ act := fun hc => hact (Fin.ext hc.symm)
          simp [switched, hact, hne]
      · rw [hpad, switched_not_granted act _ hack, hpast]
        rfl
    · rcases serve_arm_cases env r.pad req with ⟨-, hacts⟩ | ⟨hack, hpad⟩
      · rw [hacts, hpast]
        rfl
      · rw [hpad, hpast]
        rfl
  · have hacts : (happen r (.connection status, env)).pad.actuators = r.pad.actuators :=
      actuators_of_performs (by simp [Quiet]) (setConnstatus_performs status) _
    rw [hacts]
    exact h act

/-- **The acknowledgements determine the actuators.** After any run from the initial state
the flag of an actuator is what the last actuation of it that was acknowledged as carried
out asked for, whatever locks and drivers answered. -/
theorem account_recorded (state : PadState) (hs : List (Happening × Env)) (act : ActIdx) :
    ((account state hs).pad.actuators act).state =
      lastSwitched act (account state hs).replies := by
  have hrun : Recorded (account state hs) := by
    unfold account
    induction hs using List.reverseRecOn with
    | nil => exact fun act => (padstateInit_actuator state act).2
    | append_singleton hs x ih =>
      rw [List.foldl_append]
      exact happen_recorded ih x
  exact hrun act

/-! ### Without the requests that were not granted -/

/-- Requests served one after another: their acknowledgements and the pad state left. -/
def serveAll (pad : PadState) : List (Request × Env) → List (Option Ack) × PadState
  | [] => ([], pad)
  | (req, env) :: rest =>
    let later := serveAll (serve env pad req).2 rest
    ((serve env pad req).1.2 :: later.1, later.2)

/-- The requests that were granted, each with what it found. -/
def kept (pad : PadState) (ins : List (Request × Env)) : List (Request × Env) :=
  ((ins.zip (serveAll pad ins).1).filter fun x => granted x.2).map Prod.fst

@[simp] lemma serveAll_cons (pad : PadState) (req : Request) (env : Env)
    (rest : List (Request × Env)) : serveAll pad ((req, env) :: rest) =
      ((serve env pad req).1.2 :: (serveAll (serve env pad req).2 rest).1,
        (serveAll (serve env pad req).2 rest).2) := rfl

lemma kept_cons (pad : PadState) (req : Request) (env : Env) (rest : List (Request × Env)) :
    kept pad ((req, env) :: rest) =
      if granted (serve env pad req).1.2 then (req, env) :: kept (serve env pad req).2 rest
      else kept (serve env pad req).2 rest := by
  unfold kept
  rw [serveAll_cons, List.zip_cons_cons, List.filter_cons]
  split_ifs with h
  · rw [List.map_cons]
  · rfl

/-- **A request that is not granted might as well not have been sent**: without all of them
the run ends in the same state, and the others are acknowledged as before. -/
theorem serveAll_kept (pad : PadState) (ins : List (Request × Env)) :
    serveAll pad (kept pad ins) =
      ((serveAll pad ins).1.filter granted, (serveAll pad ins).2) := by
  induction ins generalizing pad with
  | nil => rfl
  | cons i ins ih =>
    obtain ⟨req, env⟩ := i
    rw [kept_cons, serveAll_cons]
    by_cases h : granted (serve env pad req).1.2 = true
    · rw [if_pos h, serveAll_cons, ih, List.filter_cons_of_pos h]
    · have hpad := serve_not_granted env pad (Bool.not_eq_true _ ▸ h)
      rw [if_neg h, hpad, ih, List.filter_cons_of_neg h]

end Hysim.Record
