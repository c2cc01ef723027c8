import Hysim.Failure
import Hysim.Segmentation

/-!
Acknowledgements, which carry no header: the client can only tell what they answer by their
order.

Every request is acknowledged once, in order, but for one whose driver reports `-1`. After
that one each acknowledgement stands in the place of the one before.
-/

namespace Hysim.Replies

open Hysim.Lib.Program Hysim.Packets Hysim.Actuators Hysim.State Hysim.Arming Hysim.Serve
open Hysim.Failure Hysim.Controller Hysim.Segmentation

/-- The acknowledgement is of the kind the request asks for. -/
def Answers : Request → Ack → Prop
  | .act req, .act ack => ack.id = req.id
  | .arm _, .arm _ => True
  | .act _, .arm _ => False
  | .arm _, .act _ => False

/-- The request gets as far as a driver that reports `-1`. -/
def DriverFails (found : Env) (pad : PadState) : Request → Prop
  | .act req => found.driver = -1 ∧ Reaches found.locks pad.armLevel req
  | .arm _ => False

/-- No driver reports `-1` in the course of these requests. -/
def DriversWork (env : Surroundings) : Session → List Request → Prop
  | _, [] => True
  | s, req :: reqs =>
    ¬ DriverFails (env s.executed.length) s.pad req ∧ DriversWork env (s.execute env req) reqs

/-! ### One request -/

lemma changeLevel_result (v : CEnum) (s : Solo) :
    (run solo (padstateChangeLevel v) s).1 = armOk ∨
      ((run solo (padstateChangeLevel v) s).1 = armDenied ∨
        (run solo (padstateChangeLevel v) s).1 = armInv) ∧
        (run solo (padstateChangeLevel v) s).2.pad = s.pad := by
  unfold padstateChangeLevel
  split_ifs with hrange
  · exact .inr ⟨.inr rfl, rfl⟩
  rw [run_bind]
  split_ifs with hlock
  · exact .inr ⟨.inl rfl, rfl⟩
  rw [run_bind]
  split_ifs with hmove
  · exact .inl (by simp)
  · exact .inr ⟨.inl (by simp), by simp⟩

lemma padActuate_result {req : ActReqP} {s : Solo} :
    (run solo (padActuate req.id req.state) s).1 = -1 ↔
      s.driver = -1 ∧ Reaches s.locks s.pad.armLevel req := by
  by_cases hr : Reaches s.locks s.pad.armLevel req
  · obtain ⟨ms, locks, -, hrun⟩ := padActuate_reached hr
    rw [hrun]
    by_cases hd : Solo.driver { s with locks := locks } = -1
    · rw [actuateActuator_failed _ _ _ hd]
      exact iff_of_true rfl ⟨hd, hr⟩
    · rw [actuateActuator_not_failed _ _ _ hd]
      exact iff_of_false (by decide) fun h => hd h.1
  · rw [(padActuate_not_reached hr).1]
    exact iff_of_false (refusal_ne req) fun h => hr h.2

lemma serve_answered {found : Env} {pad : PadState} {req : Request}
    (h : ¬ DriverFails found pad req) :
    ∃ ack, (serve found pad req).1.2 = some ack ∧ Answers req ack := by
  rcases req with req | req
  · have hne : (run solo (padActuate req.id req.state) ⟨pad, found.locks, found.driver⟩).1 ≠ -1 :=
      fun hc => h (padActuate_result.mp hc)
    simp [serve, handle, hne, Answers]
  · rcases changeLevel_result req.level.toUInt32 ⟨pad, found.locks, found.driver⟩ with
      h | ⟨h | h, -⟩ <;>
      simp [serve, handle, h, armAck, armOk, armDenied, armInv, Answers]

lemma serve_unanswered {found : Env} {pad : PadState} {req : Request}
    (h : DriverFails found pad req) : (serve found pad req).1.2 = none := by
  rcases req with req | req
  · have heq : (run solo (padActuate req.id req.state) ⟨pad, found.locks, found.driver⟩).1 = -1 :=
      padActuate_result.mpr h
    simp [serve, handle, heq]
  · exact h.elim

/-! ### A run -/

variable (env : Surroundings) (stack : Stack)

lemma executeAll_sent (s : Session) (reqs : List Request) :
    ∃ acks, (s.executeAll env reqs).sent = s.sent ++ acks ∧ acks.length ≤ reqs.length ∧
      (List.Forall₂ Answers reqs acks ↔ DriversWork env s reqs) := by
  induction reqs generalizing s with
  | nil => exact ⟨[], by simp, le_refl _, iff_of_true .nil trivial⟩
  | cons req reqs ih =>
    obtain ⟨acks, hsent, hlen, hiff⟩ := ih (s.execute env req)
    have hexec : (s.execute env req).sent =
        s.sent ++ (serve (env s.executed.length) s.pad req).1.2.toList := rfl
    rw [executeAll_cons, hsent, hexec]
    by_cases hf : DriverFails (env s.executed.length) s.pad req
    · refine ⟨acks, by rw [serve_unanswered hf]; simp, by simp; omega, iff_of_false ?_ ?_⟩
      · intro hall
        have := hall.length_eq
        simp only [List.length_cons] at this
        omega
      · exact fun h => h.1 hf
    · obtain ⟨ack, hack, hans⟩ := serve_answered hf
      refine ⟨ack :: acks, by rw [hack]; simp, by simpa using hlen, ?_⟩
      rw [List.forall₂_cons, hiff]
      exact ⟨fun h => ⟨hf, h.2⟩, fun h => ⟨hans, h.2⟩⟩

/-- **When every request is acknowledged**: exactly when none gets as far as a driver that
reports `-1`. -/
theorem answered_iff (pad : PadState) {reqs : List Request} {tape : List Recv}
    (h : Segments (.header none) (encodeRequests reqs) tape) (hsplit : ¬ Splits reqs tape) :
    List.Forall₂ Answers reqs (controllerRun env stack (connected env pad) tape).sent ↔
      DriversWork env (connected env pad) reqs := by
  obtain ⟨acks, hsent, -, hiff⟩ := executeAll_sent env (connected env pad) reqs
  rw [unsplit_run env stack h hsplit rfl, hsent, connected_sent, List.nil_append, hiff]

theorem answered_iff_openXv1 : List.Forall₂ Answers openXv1
    (controllerRun calm (fun _ _ => 0) (connected calm (padstateInit zeroed))
      [.ok [0, 0], .ok [1, 1]]).sent := by
  refine (answered_iff calm (fun _ _ => 0) (padstateInit zeroed) segments_whole
    not_splits_whole).mpr ?_
  exact ⟨fun hfail => absurd hfail.1 (by decide), trivial⟩

def armAndOpen : List Request := [.arm ⟨1⟩, .act ⟨idXv1, 1⟩]

/-- The GPIO device of XV-1 cannot be opened, and nothing is sent for the second request. -/
theorem not_answered : ¬ ∀ (env : Surroundings) (stack : Stack) (pad : PadState)
    (reqs : List Request) (tape : List Recv),
    Segments (.header none) (encodeRequests reqs) tape → ¬ Splits reqs tape →
    List.Forall₂ Answers reqs (controllerRun env stack (connected env pad) tape).sent := by
  intro h
  have hsegs : Segments (.header none) (encodeRequests armAndOpen)
      [.ok [0, 2], .ok [1], .ok [0, 0], .ok [1, 1]] :=
    ⟨2, by decide, rfl, 1, by decide, rfl, 2, by decide, rfl, 2, by decide, rfl, rfl⟩
  have hsplit : ¬ Splits armAndOpen ([.ok [0, 2], .ok [1]] ++ [.ok [0, 0], .ok [1, 1]]) := by
    rw [armAndOpen, splits_append rfl]
    rintro (⟨⟨req, hreq⟩, -⟩ | hsplit)
    · cases hreq
    · exact not_splits_whole hsplit
  have hall := h (fun _ => ⟨[], driverResult tableFull () (.gpio "/dev/gpio0") true⟩) (fun _ _ => 0)
    (padstateInit zeroed) _ _ hsegs hsplit
  have hlen : 2 = 1 := hall.length_eq
  omega

end Hysim.Replies
