import Hysim.Controller

/-!
The end of a connection, between any two calls of `recv`.

The loop looks for it when it reads a header only. A request whose body never arrives is
executed all the same, with what the stack holds.
-/

namespace Hysim.Hangup

open Hysim.Packets Hysim.Actuators Hysim.State Hysim.Serve Hysim.Controller

/-- Every `recv` of a loop at `φ` delivers all it was asked for, or fails. -/
def Full : Phase → List Recv → Prop
  | _, [] => True
  | φ, r :: tape => (bytesOf r = [] ∨ (bytesOf r).length = φ.asked) ∧ Full (φ.next r) tape

/-- The requests whose header was received before the connection ended, each with what was
received of its body. -/
def attempted : List Recv → List (Phase × List UInt8)
  | [] => []
  | [_] => []
  | hdr :: body :: rest =>
    match bytesOf hdr with
    | [type, subtype] =>
      if (dispatch ⟨type, subtype⟩).IsBody then
        (dispatch ⟨type, subtype⟩, bytesOf body) ::
          if bytesOf body = [] then [] else attempted rest
      else attempted (body :: rest)
    | _ => []

def complete : Phase × List UInt8 → Option Request
  | (.actReq, [id, state]) => some (.act ⟨id, state⟩)
  | (.armReq, [level]) => some (.arm ⟨level⟩)
  | _ => none

/-- The requests received completely before the connection ended. -/
def received (tape : List Recv) : List Request := (attempted tape).filterMap complete

lemma complete_nil (φ : Phase) : complete (φ, []) = none := by cases φ <;> rfl

lemma request_whole {φ : Phase} {r : Recv} (hφ : φ.IsBody) (hr : (bytesOf r).length = φ.asked)
    (stale : ℕ → UInt8) : φ.request stale r = complete (φ, bytesOf r) := by
  rcases hφ with rfl | rfl
  · obtain ⟨a, b, hab⟩ := List.length_eq_two.mp hr
    simp [Phase.request, complete, hab]
  · obtain ⟨a, ha⟩ := List.length_eq_one_iff.mp hr
    simp [Phase.request, complete, ha]

section Equations

variable {hdr : Recv} (body : Recv) (rest : List Recv) {type subtype : UInt8}

lemma attempted_body (h : bytesOf hdr = [type, subtype])
    (hb : (dispatch ⟨type, subtype⟩).IsBody) :
    attempted (hdr :: body :: rest) = (dispatch ⟨type, subtype⟩, bytesOf body) ::
      if bytesOf body = [] then [] else attempted rest := by
  rw [attempted, h]
  simp only [if_pos hb]

lemma attempted_skip (h : bytesOf hdr = [type, subtype])
    (hb : ¬ (dispatch ⟨type, subtype⟩).IsBody) :
    attempted (hdr :: body :: rest) = attempted (body :: rest) := by
  rw [attempted, h]
  simp only [if_neg hb]

lemma attempted_end (h : bytesOf hdr = []) : attempted (hdr :: body :: rest) = [] := by
  rw [attempted, h]

end Equations

lemma full_header_failed {hdr : Recv} {tape : List Recv} (h : Full (.header none) (hdr :: tape))
    (hne : ∀ type subtype, bytesOf hdr = [type, subtype] → False) : bytesOf hdr = [] := by
  refine h.1.resolve_right fun hlen => ?_
  obtain ⟨a, b, hab⟩ := List.length_eq_two.mp hlen
  exact hne a b hab

section Full

variable {hdr body : Recv} {rest : List Recv} {type subtype : UInt8}

lemma full_body (h : Full (.header none) (hdr :: body :: rest))
    (hhdr : bytesOf hdr = [type, subtype]) (hb : (dispatch ⟨type, subtype⟩).IsBody) :
    (bytesOf body = [] ∨ (bytesOf body).length = (dispatch ⟨type, subtype⟩).asked) ∧
      Full (.header none) rest := by
  obtain ⟨-, hbody, hrest⟩ := h
  rw [next_whole hhdr] at hbody hrest
  rw [next_of_body hb] at hrest
  exact ⟨hbody, hrest⟩

lemma full_skip (h : Full (.header none) (hdr :: body :: rest))
    (hhdr : bytesOf hdr = [type, subtype]) (hb : ¬ (dispatch ⟨type, subtype⟩).IsBody) :
    Full (.header none) (body :: rest) := by
  have hnext := h.2
  rwa [next_whole hhdr, (dispatch_cases _).resolve_right hb] at hnext

end Full

variable (env : Surroundings) (stack : Stack)

lemma run_header {hdr : Recv} {s : Session} (hs : s.phase = .header none) :
    (controllerRun env stack s [hdr]).requests = s.requests := by
  have hreq : s.phase.request (stack s.executed.length) hdr = none := by rw [hs]; rfl
  rw [controllerRun_cons, controllerRun_nil, Session.requests, (step_no_request env stack hreq).1]
  rfl

lemma run_skip {hdr : Recv} {tape : List Recv} {type subtype : UInt8} {s : Session}
    (hs : s.phase = .header none) (hhdr : bytesOf hdr = [type, subtype])
    (hb : ¬ (dispatch ⟨type, subtype⟩).IsBody) :
    controllerRun env stack s (hdr :: tape) = controllerRun env stack s tape := by
  have hd := (dispatch_cases ⟨type, subtype⟩).resolve_right hb
  rw [controllerRun_cons, step_header_whole env stack hs hhdr, hd, ← hs]

lemma run_end {hdr : Recv} {tape : List Recv} {s : Session} (hs : s.phase = .header none)
    (hhdr : bytesOf hdr = []) :
    (controllerRun env stack s (hdr :: tape)).requests = s.requests := by
  rw [controllerRun_cons, step_header_failed env stack hs hhdr, run_accepting env stack rfl]
  rfl

lemma run_received {tape : List Recv} {s : Session} (hfull : Full (.header none) tape)
    (hall : ∀ a ∈ attempted tape, a.2 ≠ []) (hs : s.phase = .header none) :
    (controllerRun env stack s tape).requests = s.requests ++ received tape := by
  induction tape using attempted.induct generalizing s with
  | case1 => simp [received, attempted]
  | case2 hdr =>
    rw [run_header env stack hs]
    simp [received, attempted]
  | case3 hdr body rest type subtype hhdr hb ih =>
    obtain ⟨req, hreq, hrun⟩ := run_header_body env stack body rest hs hhdr hb
    obtain ⟨hbody, hrest⟩ := full_body hfull hhdr hb
    rw [attempted_body body rest hhdr hb] at hall
    have hne : bytesOf body ≠ [] := hall _ List.mem_cons_self
    rw [if_neg hne] at hall
    rw [request_whole hb (hbody.resolve_left hne)] at hreq
    rw [hrun, ih hrest (fun a ha => hall a (List.mem_cons_of_mem _ ha)) rfl, execute_requests,
      received, received, attempted_body body rest hhdr hb, if_neg hne,
      List.filterMap_cons_some hreq, List.append_assoc, List.singleton_append]
  | case4 hdr body rest type subtype hhdr hb ih =>
    rw [attempted_skip body rest hhdr hb] at hall
    rw [run_skip env stack hs hhdr hb, ih (full_skip hfull hhdr hb) hall hs, received, received,
      attempted_skip body rest hhdr hb]
  | case5 hdr body rest hne =>
    have hhdr := full_header_failed hfull hne
    rw [run_end env stack hs hhdr, received, attempted_end body rest hhdr]
    simp

lemma run_leftover {tape : List Recv} {s : Session} (hfull : Full (.header none) tape)
    (hleft : ∃ a ∈ attempted tape, a.2 = []) (hs : s.phase = .header none) :
    s.requests.length + (received tape).length <
      (controllerRun env stack s tape).requests.length := by
  induction tape using attempted.induct generalizing s with
  | case1 => simp [attempted] at hleft
  | case2 hdr => simp [attempted] at hleft
  | case3 hdr body rest type subtype hhdr hb ih =>
    obtain ⟨req, hreq, hrun⟩ := run_header_body env stack body rest hs hhdr hb
    obtain ⟨hbody, hrest⟩ := full_body hfull hhdr hb
    rw [attempted_body body rest hhdr hb] at hleft
    have hlen : (s.execute env req).requests.length = s.requests.length + 1 := by simp
    rw [hrun, received, attempted_body body rest hhdr hb]
    by_cases hne : bytesOf body = []
    · have hmore := (run_requests env stack (s.execute env req) rest).length_le
      rw [if_pos hne, hne, List.filterMap_cons_none (complete_nil _), List.filterMap_nil,
        List.length_nil]
      omega
    · rw [request_whole hb (hbody.resolve_left hne)] at hreq
      obtain ⟨a, ha, hempty⟩ := hleft
      rw [if_neg hne] at ha
      rcases List.mem_cons.mp ha with rfl | ha
      · exact absurd hempty hne
      have hrec := ih hrest ⟨a, ha, hempty⟩ (s := s.execute env req) rfl
      rw [received] at hrec
      rw [if_neg hne, List.filterMap_cons_some hreq, List.length_cons]
      omega
  | case4 hdr body rest type subtype hhdr hb ih =>
    rw [attempted_skip body rest hhdr hb] at hleft
    have hrec := ih (full_skip hfull hhdr hb) hleft hs
    rwa [run_skip env stack hs hhdr hb, received, attempted_skip body rest hhdr hb]
  | case5 hdr body rest hne =>
    rw [attempted_end body rest (full_header_failed hfull hne)] at hleft
    simp at hleft

/-- **When only received requests are executed**: exactly when no `recv` of a body fails. -/
theorem executed_iff (pad : PadState) {tape : List Recv} (hfull : Full (.header none) tape) :
    (controllerRun env stack (connected env pad) tape).requests = received tape ↔
      ∀ a ∈ attempted tape, a.2 ≠ [] := by
  constructor
  · intro h a ha hempty
    have hmore := run_leftover env stack (s := connected env pad) hfull ⟨a, ha, hempty⟩ rfl
    rw [h, connected_requests, List.length_nil] at hmore
    omega
  · intro hall
    rw [run_received env stack hfull hall rfl, connected_requests, List.nil_append]

theorem executed_iff_reset :
    (controllerRun calm (fun _ _ => 1) (connected calm (padstateInit zeroed))
      [.ok [0, 2], .ok [1], .error 104]).requests = [.arm ⟨1⟩] := by
  have hfull : Full (.header none) [.ok [0, 2], .ok [1], .error 104] :=
    ⟨.inr rfl, .inr rfl, .inl rfl, trivial⟩
  exact (executed_iff calm (fun _ _ => 1) (padstateInit zeroed) hfull).mpr (by decide)

/-- A connection closed after the header of an `ARM_REQ` arms the pad. -/
theorem not_executed : ¬ ∀ (env : Surroundings) (stack : Stack) (pad : PadState)
    (tape : List Recv), Full (.header none) tape →
    (controllerRun env stack (connected env pad) tape).requests = received tape := by
  intro h
  have hreqs := h calm (fun _ _ => 1) (padstateInit zeroed) [.ok [0, 2], .ok []]
    ⟨.inr rfl, .inl rfl, trivial⟩
  have hne : [Request.arm ⟨1⟩] ≠ [] := by decide
  exact hne hreqs

end Hysim.Hangup
