import Hysim.Exchange

/-!
What is delivered, when calls may time out.

A call that has timed out leaves its request and its answer on their way, so that several of
each are. They still arrive, in their order and once each: no request is executed twice, and none
is executed that the client has not sent.
-/

namespace Hysim.Delivery

open Hysim.Packets Hysim.Actuators Hysim.State Hysim.Serve
open Hysim.Controller Hysim.Client Hysim.Exchange

variable (env : Surroundings) (stack cstack : Stack)

/-- The server does not read the body of an actuation in two. -/
def Uncut (link : Link) : Event → Prop
  | .read n => link.session.phase = .actReq → n = 2
  | .flip _ _ | .fail _ | .answer _ => True

def UncutRun (link : Link) : List Event → Prop
  | [] => True
  | e :: es => Uncut link e ∧
    ∀ next, link.step env stack cstack e = some next → UncutRun next es

/-- The server has yet to read these requests, of which it may have begun the first. -/
def Backlog (φ : Phase) (bs : List UInt8) : List Request → Prop
  | [] => φ = .header none ∧ bs = []
  | req :: later => ∃ rest, Owed req φ rest ∧ bs = rest ++ encodeRequests later

def received (link : Link) : List UInt8 := link.returned.flatMap fun call => bytesOf call.reply

/-- The session as the first of the requests leave it, one executed after the other. -/
def InOrder (pad : PadState) (link : Link) (done : List Request) : Prop :=
  link.session =
    { (connected env pad).executeAll env done with phase := link.session.phase }

structure Kept (pad : PadState) (link : Link) : Prop where
  requests : ∃ done later, link.issued = done ++ later ∧ InOrder env pad link done ∧
    Backlog link.session.phase link.toServer later
  answers : received link ++ link.toClient = link.session.sent.flatMap Ack.bytes

/-! ### The requests on their way -/

section Backlog

variable {φ : Phase} {bs : List UInt8} {req : Request} {reqs : List Request} {n : ℕ}

lemma encodeRequests_concat (reqs : List Request) (req : Request) :
    encodeRequests (reqs ++ [req]) = encodeRequests reqs ++ (Request.packet req).bytes := by
  induction reqs with
  | nil => rw [List.nil_append, encodeRequests_cons, encodeRequests_nil, List.append_nil,
      List.nil_append]
  | cons first reqs ih =>
    rw [List.cons_append, encodeRequests_cons, ih, encodeRequests_cons, List.append_assoc]

lemma Backlog.concat (h : Backlog φ bs reqs) (req : Request) :
    Backlog φ (bs ++ (Request.packet req).bytes) (reqs ++ [req]) := by
  rcases reqs with _ | ⟨first, later⟩
  · obtain ⟨hφ, rfl⟩ := h
    exact ⟨_, .inl ⟨hφ, rfl⟩, by simp⟩
  · obtain ⟨rest, howed, rfl⟩ := h
    refine ⟨rest, howed, ?_⟩
    rw [List.append_assoc, ← encodeRequests_concat]
    rfl

lemma backlog_encode (reqs : List Request) : Backlog (.header none) (encodeRequests reqs) reqs := by
  cases reqs with
  | nil => exact ⟨rfl, rfl⟩
  | cons req later => exact ⟨_, .inl ⟨rfl, rfl⟩, encodeRequests_cons req later⟩

lemma asked_le_of_owed (h : Owed req φ bs) : φ.asked ≤ bs.length := by
  rcases h with ⟨rfl, rfl⟩ | ⟨rfl, rfl⟩ | ⟨rfl, rfl⟩
  · cases req <;> simp [act_bytes, arm_bytes, Phase.asked]
  · cases req <;> simp [act_bytes, arm_bytes, Phase.asked]
  · cases req <;> exact le_refl _

lemma asked_pos_of_owed (h : Owed req φ bs) : 0 < φ.asked := by
  rcases h with ⟨rfl, -⟩ | ⟨rfl, -⟩ | ⟨rfl, -⟩
  · decide
  · decide
  · cases req <;> exact Nat.succ_pos _

lemma backlog_read {later : List Request} (h : Backlog φ bs (req :: later)) (hpos : 0 < n)
    (hask : n ≤ φ.asked) (hact : φ = .actReq → n = 2) :
    (∃ t, φ = .header t ∧ φ.next (.ok (bs.take n)) ≠ .accepting ∧
      Backlog (φ.next (.ok (bs.take n))) (bs.drop n) (req :: later)) ∨
      bs.drop n = encodeRequests later ∧
        ∀ stale, φ.request stale (.ok (bs.take n)) = some req := by
  obtain ⟨rest, howed, rfl⟩ := h
  have hlen : n ≤ rest.length := hask.trans (asked_le_of_owed howed)
  rw [List.take_append_of_le_length hlen, List.drop_append_of_le_length hlen]
  rcases owed_read howed hpos hask hact with ⟨t, hφ, hnext, howed'⟩ | ⟨hdrop, hreq⟩
  · exact .inl ⟨t, hφ, hnext, _, howed', rfl⟩
  · exact .inr ⟨by rw [hdrop, List.nil_append], hreq⟩

end Backlog

/-! ### One step -/

section Steps

variable {env stack cstack} {pad : PadState} {link next : Link}

lemma executeAll_concat (s : Session) (reqs : List Request) (req : Request) :
    s.executeAll env (reqs ++ [req]) = (s.executeAll env reqs).execute env req := by
  simp [Session.executeAll, List.foldl_append]

lemma kept_opened (pad : PadState) : Kept env pad (opened env pad) where
  requests := ⟨[], [], rfl, rfl, rfl, rfl⟩
  answers := rfl

lemma kept_flip {sw : Switch} {newstate : Bool} (h : Kept env pad link)
    (hstep : link.step env stack cstack (.flip sw newstate) = some next) :
    Kept env pad next := by
  rcases hw : link.waiting with _ | req
  · rcases hreq : switchRequest sw newstate with _ | req
    · simp only [Link.step, hw, hreq, Option.some.injEq] at hstep
      exact hstep ▸ h
    · simp only [Link.step, hw, hreq, Option.some.injEq] at hstep
      subst hstep
      obtain ⟨done, later, hissued, horder, hbacklog⟩ := h.requests
      refine ⟨⟨done, later ++ [req], ?_, horder, hbacklog.concat req⟩, h.answers⟩
      rw [← List.append_assoc, ← hissued]
      simp [Link.issued, hw]
  · simp [Link.step, hw] at hstep

lemma kept_close (h : Kept env pad link) {req : Request} (hw : link.waiting = some req)
    (reply : Recv) {rest : List UInt8} (hrest : link.toClient = bytesOf reply ++ rest) :
    Kept env pad { link.close cstack req reply with toClient := rest } := by
  constructor
  · obtain ⟨done, later, hissued, hkept⟩ := h.requests
    exact ⟨done, later, (close_issued cstack hw reply).trans hissued, hkept⟩
  · have hanswers := h.answers
    rw [hrest] at hanswers
    simpa [received, Link.close] using hanswers

lemma kept_fail {errno : Int} (h : Kept env pad link)
    (hstep : link.step env stack cstack (.fail errno) = some next) : Kept env pad next := by
  rcases hw : link.waiting with _ | req
  · simp [Link.step, hw] at hstep
  · simp only [Link.step, hw, Option.some.injEq] at hstep
    subst hstep
    exact kept_close h hw (.error errno) rfl

lemma kept_answer {n : ℕ} (h : Kept env pad link)
    (hstep : link.step env stack cstack (.answer n) = some next) : Kept env pad next := by
  rcases hw : link.waiting with _ | req
  · simp [Link.step, hw] at hstep
  simp only [Link.step, hw] at hstep
  split_ifs at hstep with hn
  obtain rfl := Option.some.inj hstep
  exact kept_close h hw (.ok (link.toClient.take n)) (List.take_append_drop n _).symm

lemma kept_read {n : ℕ} (h : Kept env pad link) (huncut : Uncut link (.read n))
    (hstep : link.step env stack cstack (.read n) = some next) : Kept env pad next := by
  simp only [Link.step] at hstep
  split_ifs at hstep with hn
  obtain ⟨hpos, hask, hlen⟩ := hn
  obtain rfl := Option.some.inj hstep
  obtain ⟨done, later, hissued, horder, hbacklog⟩ := h.requests
  rcases later with _ | ⟨req, later⟩
  · rw [hbacklog.2, List.length_nil] at hlen
    omega
  rcases backlog_read hbacklog hpos hask huncut with ⟨t, hφ, hnext, hbacklog'⟩ | ⟨hdrop, hreq⟩
  · -- the header is not complete, or the body is still to come
    rw [step_header env stack hφ hnext]
    refine ⟨⟨done, req :: later, hissued, ?_, hbacklog'⟩, ?_⟩
    · rw [InOrder, horder]
    · simpa [received] using h.answers
  · -- the request is complete
    have hexec := step_request env stack (hreq (stack link.session.executed.length))
    rw [hexec]
    have hissued' : link.issued = done ++ [req] ++ later := by
      rw [hissued, List.append_assoc, List.singleton_append]
    refine ⟨⟨done ++ [req], later, hissued', ?_, ?_⟩, ?_⟩
    · rw [InOrder, executeAll_concat, horder]
      rfl
    · rw [hdrop]
      exact backlog_encode later
    · have hsent : (link.session.execute env req).sent = link.session.sent ++
          ((link.session.execute env req).sent.drop link.session.sent.length) := by
        rw [Session.execute, List.drop_left]
      rw [hsent, List.flatMap_append, ← h.answers, List.drop_left, List.append_assoc]
      rfl

lemma kept_step {e : Event} (h : Kept env pad link) (huncut : Uncut link e)
    (hstep : link.step env stack cstack e = some next) : Kept env pad next := by
  cases e with
  | flip sw newstate => exact kept_flip h hstep
  | fail errno => exact kept_fail h hstep
  | answer n => exact kept_answer h hstep
  | read n => exact kept_read h huncut hstep

lemma kept_run {es : List Event} (h : Kept env pad link)
    (huncut : UncutRun env stack cstack link es)
    (hrun : link.run env stack cstack es = some next) : Kept env pad next := by
  induction es generalizing link with
  | nil => exact Option.some.inj hrun ▸ h
  | cons e es ih =>
    obtain ⟨mid, hstep, hrest⟩ := Option.bind_eq_some_iff.mp hrun
    exact ih (kept_step h huncut.1 hstep) (huncut.2 mid hstep) hrest

lemma Kept.executed (h : Kept env pad link) : link.session.requests <+: link.issued := by
  obtain ⟨done, later, hissued, horder, -⟩ := h.requests
  have hdone : link.session.requests = done := by
    have hall := executeAll_requests env (connected env pad) done
    rw [connected_requests, List.nil_append] at hall
    rw [horder]
    exact hall
  exact ⟨later, by rw [hdone, hissued]⟩

end Steps

/-! ### Whole runs -/

section Runs

variable {env stack cstack} {pad : PadState} {link : Link} {es : List Event}

lemma uncutRun_cons {next : Link} {e : Event} (h : Uncut link e)
    (hstep : link.step env stack cstack e = some next) (hrest : UncutRun env stack cstack next es) :
    UncutRun env stack cstack link (e :: es) :=
  ⟨h, fun _ hnext => Option.some.inj (hstep.symm.trans hnext) ▸ hrest⟩

variable (stack cstack) in
lemma exists_read (h : Kept env pad link) (hne : link.toServer ≠ []) :
    ∃ next, link.step env stack cstack (.read link.session.phase.asked) = some next ∧
      next.toServer.length < link.toServer.length ∧ next.issued = link.issued := by
  obtain ⟨done, later, -, -, hbacklog⟩ := h.requests
  rcases later with _ | ⟨req, later⟩
  · exact absurd hbacklog.2 hne
  obtain ⟨rest, howed, hserver⟩ := hbacklog
  have hpos := asked_pos_of_owed howed
  have hlen : link.session.phase.asked ≤ link.toServer.length := by
    rw [hserver, List.length_append]
    exact (asked_le_of_owed howed).trans (Nat.le_add_right _ _)
  refine ⟨_, if_pos ⟨hpos, le_refl _, hlen⟩, ?_, rfl⟩
  simp only [List.length_drop]
  omega

lemma executed_of_nil (h : Kept env pad link) (hnil : link.toServer = []) :
    link.session = (connected env pad).executeAll env link.issued := by
  obtain ⟨done, later, hissued, horder, hbacklog⟩ := h.requests
  rcases later with _ | ⟨req, later⟩
  · rw [List.append_nil] at hissued
    have hphase : ((connected env pad).executeAll env done).phase = .header none :=
      executeAll_phase env rfl done
    rw [horder, hissued, hbacklog.1, ← hphase]
  · obtain ⟨rest, howed, hserver⟩ := hbacklog
    have hnil' : rest = [] := (List.append_eq_nil_iff.mp (hserver.symm.trans hnil)).1
    exact absurd hnil' (owed_ne_nil howed)

lemma exists_reads (h : Kept env pad link) : ∃ reads finished,
    (∀ e ∈ reads, ∃ n, e = .read n) ∧ UncutRun env stack cstack link reads ∧
      link.run env stack cstack reads = some finished ∧ finished.toServer = [] ∧
      finished.session = (connected env pad).executeAll env link.issued := by
  induction hlen : link.toServer.length using Nat.strongRecOn generalizing link with
  | ind len ih =>
    by_cases hnil : link.toServer = []
    · exact ⟨[], link, by simp, trivial, rfl, hnil, executed_of_nil h hnil⟩
    · obtain ⟨next, hstep, hless, hissued⟩ :=
        exists_read stack cstack h hnil
      have huncut : Uncut link (.read link.session.phase.asked) := by
        intro hact
        rw [hact]
        rfl
      obtain ⟨reads, finished, hreads, hrest, hrun, hfinished⟩ :=
        ih _ (hlen ▸ hless) (kept_step h huncut hstep) rfl
      refine ⟨.read link.session.phase.asked :: reads, finished, ?_,
        uncutRun_cons huncut hstep hrest, ?_, hissued ▸ hfinished⟩
      · intro e he
        rcases List.mem_cons.mp he with rfl | he
        · exact ⟨_, rfl⟩
        · exact hreads e he
      · rw [Link.run, hstep]
        exact hrun

/-- The arming of the valves times out, and the server has begun the next request. -/
def lateRun : List Event :=
  [.flip armValves true, .fail 11, .flip xv1 true, .read 2, .read 1, .read 1]

lemma uncut_lateRun : UncutRun calm (fun _ _ => 0) (fun _ _ => 0)
    (opened calm (padstateInit zeroed)) lateRun := by
  refine uncutRun_cons trivial rfl ?_
  refine uncutRun_cons trivial rfl ?_
  refine uncutRun_cons trivial rfl ?_
  refine uncutRun_cons (fun _ => rfl) rfl ?_
  refine uncutRun_cons (fun h => absurd h (by decide)) rfl ?_
  exact uncutRun_cons (fun h => absurd h (by decide)) rfl trivial

/-- **Requests arrive once each and in order.** Whatever calls time out and however answers are
cut: the server has executed the first of the requests sent, one after the other, and the rest are
the bytes on their way to it. What the calls received and what is on its way back are its
acknowledgements. -/
theorem in_order_of_run (huncut : UncutRun env stack cstack (opened env pad) es)
    (hrun : (opened env pad).run env stack cstack es = some link) :
    (∃ done later, link.issued = done ++ later ∧ InOrder env pad link done ∧
      Backlog link.session.phase link.toServer later) ∧
      received link ++ link.toClient = link.session.sent.flatMap Ack.bytes :=
  have h := kept_run (kept_opened pad) huncut hrun
  ⟨h.requests, h.answers⟩

theorem in_order_of_run_late : ∃ link,
    (opened calm (padstateInit zeroed)).run calm (fun _ _ => 0) (fun _ _ => 0) lateRun =
        some link ∧ link.session.requests = [.arm ⟨1⟩] ∧ link.issued.length = 2 ∧
      (∃ done later, link.issued = done ++ later ∧
        InOrder calm (padstateInit zeroed) link done ∧
        Backlog link.session.phase link.toServer later) ∧
      received link ++ link.toClient = link.session.sent.flatMap Ack.bytes :=
  ⟨_, rfl, rfl, rfl, in_order_of_run uncut_lateRun rfl⟩

/-- **Every request can still be executed.** From every state of such a run, also after a call has
timed out, there are reads of the server alone with which it has executed all requests sent. -/
theorem executed_of_run (huncut : UncutRun env stack cstack (opened env pad) es)
    (hrun : (opened env pad).run env stack cstack es = some link) : ∃ reads finished,
    (∀ e ∈ reads, ∃ n, e = .read n) ∧ UncutRun env stack cstack link reads ∧
      link.run env stack cstack reads = some finished ∧ finished.toServer = [] ∧
      finished.session = (connected env pad).executeAll env link.issued :=
  exists_reads (kept_run (kept_opened pad) huncut hrun)

theorem executed_of_run_late : ∃ link reads finished,
    (opened calm (padstateInit zeroed)).run calm (fun _ _ => 0) (fun _ _ => 0) lateRun =
        some link ∧ (∀ e ∈ reads, ∃ n, e = .read n) ∧
      UncutRun calm (fun _ _ => 0) (fun _ _ => 0) link reads ∧
      link.run calm (fun _ _ => 0) (fun _ _ => 0) reads = some finished ∧
      finished.toServer = [] ∧
      finished.session =
        (connected calm (padstateInit zeroed)).executeAll calm link.issued := by
  obtain ⟨reads, finished, hfinished⟩ := executed_of_run uncut_lateRun rfl
  exact ⟨_, reads, finished, rfl, hfinished⟩

end Runs

end Hysim.Delivery
