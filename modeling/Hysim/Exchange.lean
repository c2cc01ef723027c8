import Hysim.Replies
import Hysim.Client

/-!
Client and server on one connection, with bytes on their way in both directions.

An answer says nothing about what it answers. As long as a command is given only when the
connection is quiet, and nothing is cut in two, the next answer is its answer. A command that
has timed out leaves its answer to the next.
-/

namespace Hysim.Exchange

open Hysim.Lib.Program Hysim.Packets Hysim.Actuators Hysim.State Hysim.Serve Hysim.Failure
open Hysim.Controller Hysim.Replies Hysim.Client

/-! ### The two parties -/

/-- A call of `switch_callback` that has sent its request and returned. -/
structure Call where
  req : Request
  reply : Recv
  ret : Int

/-- The server, the client and the bytes between them. The client is waiting while a call
has not returned. -/
structure Link where
  session : Session
  toServer : List UInt8
  toClient : List UInt8
  waiting : Option Request
  returned : List Call

/-- What happens next: a switch is flipped; the client's `recv` fails, as it does when it
times out, or returns some bytes; the server's `recv` returns some bytes. -/
inductive Event
  | flip (sw : Switch) (newstate : Bool)
  | fail (errno : Int)
  | answer (n : ℕ)
  | read (n : ℕ)

variable (env : Surroundings) (stack cstack : Stack)

def Link.close (link : Link) (req : Request) (reply : Recv) : Link :=
  { link with
    waiting := none
    returned := link.returned ++
      [⟨req, reply, checkResponse req (cstack link.returned.length) reply⟩] }

def Link.step (link : Link) : Event → Option Link
  | .flip sw newstate =>
    match link.waiting, switchRequest sw newstate with
    | none, some req =>
      some { link with
        toServer := link.toServer ++ (Request.packet req).bytes
        waiting := some req }
    -- a switch of another kind: `-EINVAL`, and nothing is sent
    | none, none => some link
    | some _, _ => none
  | .fail errno =>
    match link.waiting with
    | some req => some (link.close cstack req (.error errno))
    | none => none
  | .answer n =>
    match link.waiting with
    | some req =>
      if 0 < n ∧ n ≤ ackSize req ∧ n ≤ link.toClient.length then
        some { link.close cstack req (.ok (link.toClient.take n)) with
          toClient := link.toClient.drop n }
      else none
    | none => none
  | .read n =>
    if 0 < n ∧ n ≤ link.session.phase.asked ∧ n ≤ link.toServer.length then
      let session := controllerStep env stack link.session (.ok (link.toServer.take n))
      some { link with
        session := session
        toServer := link.toServer.drop n
        toClient := link.toClient ++
          (session.sent.drop link.session.sent.length).flatMap Ack.bytes }
    else none

def opened (pad : PadState) : Link := ⟨connected env pad, [], [], none, []⟩

def Link.run (link : Link) : List Event → Option Link
  | [] => some link
  | e :: es => (link.step env stack cstack e).bind fun next => next.run es

/-! ### Right answers -/

/-- The acknowledgement of a request with this result. -/
def ackOf : Request → Int → Option Ack
  | .act req, err => if err = -1 then none else some (.act ⟨req.id, UInt8.ofInt err⟩)
  | .arm _, err => armAck err

lemma serve_ack (found : Env) (pad : PadState) (req : Request) :
    (serve found pad req).1.2 = ackOf req (serve found pad req).1.1 := by
  rcases req with req | req
  · unfold serve handle ackOf
    rw [run_bind]
    split_ifs <;> simp_all
  · simp [serve, handle, ackOf]

/-- A call that returned has reported the error of its `recv`, or the status the server
computed for its request: the requests are executed in the order of the calls. -/
def Right (link : Link) : Prop :=
  ∀ (n : ℕ) (c : Call), link.returned[n]? = some c →
    (∃ errno, c.reply = .error errno ∧ c.ret = errno) ∨
      ∃ err ack, link.session.executed[n]? = some (c.req, err) ∧ ackOf c.req err = some ack ∧
        c.ret = ackErrno ack

/-- A switch is flipped when the connection is quiet, and what answers or asks for an
actuation is not cut in two. -/
def Orderly (link : Link) : Event → Prop
  | .flip _ _ => link.toServer = [] ∧ link.toClient = [] ∧ link.session.phase = .header none
  | .fail _ => True
  | .answer n => ∀ req, link.waiting = some (.act req) → n = 2
  | .read n => link.session.phase = .actReq → n = 2

def OrderlyRun (link : Link) : List Event → Prop
  | [] => True
  | e :: es => Orderly link e ∧
    ∀ next, link.step env stack cstack e = some next → OrderlyRun next es

/-! ### The invariant -/

def Link.issued (link : Link) : List Request := link.returned.map Call.req ++ link.waiting.toList

/-- The server has yet to read these bytes of the request, whole or without what it read of
the header. -/
def Owed (req : Request) (φ : Phase) (bs : List UInt8) : Prop :=
  (φ = .header none ∧ bs = (Request.packet req).bytes) ∨
    (φ = .header (some 0) ∧ bs = (Request.packet req).bytes.tail) ∨
      (φ = dispatch (Request.packet req).header ∧ bs = (Request.packet req).body)

/-- The last request is on its way to the server. -/
def Reading (link : Link) : Prop :=
  ∃ earlier req, link.issued = earlier ++ [req] ∧ link.session.requests = earlier ∧
    link.toClient = [] ∧ Owed req link.session.phase link.toServer

/-- Every request was executed, and of the answers at most the last is still to be read. -/
def Settled (link : Link) : Prop :=
  link.session.requests = link.issued ∧ link.session.phase = .header none ∧
    link.toServer = [] ∧ (link.toClient = [] ∨ ∃ req err ack,
      link.session.executed.getLast? = some (req, err) ∧ ackOf req err = some ack ∧
        link.toClient = ack.bytes)

structure Inv (link : Link) : Prop where
  right : Right link
  stage : Settled link ∨ Reading link

lemma owed_ne_nil {req : Request} {φ : Phase} {bs : List UInt8} (h : Owed req φ bs) :
    bs ≠ [] := by
  rcases h with ⟨-, rfl⟩ | ⟨-, rfl⟩ | ⟨-, rfl⟩
  · simp [Packet.bytes, HeaderP.bytes]
  · simp [Packet.bytes, HeaderP.bytes]
  · exact Packet.body_ne_nil _

lemma owed_read {req : Request} {φ : Phase} {bs : List UInt8} {n : ℕ} (h : Owed req φ bs)
    (hpos : 0 < n) (hask : n ≤ φ.asked) (hact : φ = .actReq → n = 2) :
    (∃ t, φ = .header t ∧ φ.next (.ok (bs.take n)) ≠ .accepting ∧
      Owed req (φ.next (.ok (bs.take n))) (bs.drop n)) ∨
      bs.drop n = [] ∧ ∀ stale, φ.request stale (.ok (bs.take n)) = some req := by
  rcases h with ⟨rfl, rfl⟩ | ⟨rfl, rfl⟩ | ⟨rfl, rfl⟩
  · left
    have hn : n = 1 ∨ n = 2 := by
      simp only [Phase.asked] at hask
      omega
    rcases hn with rfl | rfl
    · refine ⟨none, rfl, ?_, .inr (.inl ⟨?_, rfl⟩)⟩ <;> cases req <;>
        simp [Phase.next, act_bytes, arm_bytes]
    · exact ⟨none, rfl, dispatch_ne_accepting _, .inr (.inr ⟨rfl, rfl⟩)⟩
  · left
    obtain rfl : n = 1 := by
      simp only [Phase.asked] at hask
      omega
    refine ⟨some 0, rfl, ?_, .inr (.inr ?_)⟩
    · cases req <;> exact dispatch_ne_accepting _
    · cases req <;> exact ⟨rfl, rfl⟩
  · right
    rcases req with a | a
    · obtain rfl := hact rfl
      exact ⟨rfl, fun _ => rfl⟩
    · have hask' : n ≤ 1 := hask
      obtain rfl : n = 1 := by omega
      exact ⟨rfl, fun _ => rfl⟩

lemma Right.mono {link next : Link} (h : Right link) (hret : next.returned = link.returned)
    (hexec : link.session.executed <+: next.session.executed) : Right next := by
  intro n c hc
  rw [hret] at hc
  rcases h n c hc with herr | ⟨err, ack, hn, hack, heq⟩
  · exact .inl herr
  · refine .inr ⟨err, ack, ?_, hack, heq⟩
    obtain ⟨later, hlater⟩ := hexec
    rw [← hlater, List.getElem?_append_left (List.getElem?_eq_some_iff.mp hn).1]
    exact hn

lemma inv_opened (pad : PadState) : Inv (opened env pad) where
  right n c hc := by simp [opened] at hc
  stage := .inl ⟨rfl, rfl, rfl, .inl rfl⟩

section Steps

variable {link next : Link}

lemma inv_flip {sw : Switch} {newstate : Bool} (h : Inv link)
    (horderly : Orderly link (.flip sw newstate))
    (hstep : link.step env stack cstack (.flip sw newstate) = some next) : Inv next := by
  obtain ⟨hserver, hclient, hphase⟩ := horderly
  rcases hw : link.waiting with _ | req
  · rcases hreq : switchRequest sw newstate with _ | req
    · simp only [Link.step, hw, hreq, Option.some.injEq] at hstep
      exact hstep ▸ h
    · simp only [Link.step, hw, hreq, Option.some.injEq] at hstep
      subst hstep
      refine ⟨h.right.mono rfl List.prefix_rfl, .inr ⟨link.issued, req, ?_, ?_, hclient, ?_⟩⟩
      · simp [Link.issued, hw]
      · rcases h.stage with hs | ⟨earlier, last, -, -, -, howed⟩
        · exact hs.1
        · exact absurd hserver (owed_ne_nil howed)
      · exact .inl ⟨hphase, by simp [hserver]⟩
  · simp [Link.step, hw] at hstep

lemma close_issued {req : Request} (hw : link.waiting = some req) (reply : Recv) :
    (link.close cstack req reply).issued = link.issued := by
  simp [Link.issued, Link.close, hw]

lemma right_close (h : Right link) {req : Request} {reply : Recv} {ret : Int}
    (hret : checkResponse req (cstack link.returned.length) reply = ret)
    (hnew : (∃ errno, reply = .error errno ∧ ret = errno) ∨
      ∃ err ack, link.session.executed[link.returned.length]? = some (req, err) ∧
        ackOf req err = some ack ∧ ret = ackErrno ack) :
    Right (link.close cstack req reply) := by
  intro n c hc
  rcases Nat.lt_or_ge n link.returned.length with hn | hn
  · rw [Link.close, List.getElem?_append_left hn] at hc
    exact h n c hc
  · rw [Link.close, List.getElem?_append_right hn] at hc
    have hn' : n = link.returned.length := by
      have hlt := (List.getElem?_eq_some_iff.mp hc).1
      rw [List.length_singleton] at hlt
      omega
    obtain rfl := List.mem_singleton.mp (List.mem_of_getElem? hc)
    subst hn' hret
    exact hnew

lemma inv_fail {errno : Int} (h : Inv link)
    (hstep : link.step env stack cstack (.fail errno) = some next) : Inv next := by
  rcases hw : link.waiting with _ | req
  · simp [Link.step, hw] at hstep
  · simp only [Link.step, hw, Option.some.injEq] at hstep
    subst hstep
    have hret : checkResponse req (cstack link.returned.length) (.error errno) = errno := by
      cases req <;> rfl
    refine ⟨right_close cstack h.right hret (.inl ⟨errno, rfl, rfl⟩), ?_⟩
    unfold Settled Reading
    rw [close_issued cstack hw]
    exact h.stage

lemma ackOf_eq_some {req : Request} {err : Int} {ack : Ack} (h : ackOf req err = some ack) :
    (∃ a s, req = .act a ∧ ack = .act ⟨a.id, s⟩) ∨ ∃ a s, req = .arm a ∧ ack = .arm ⟨s⟩ := by
  rcases req with a | a
  · simp only [ackOf] at h
    split_ifs at h
    exact .inl ⟨a, _, rfl, (Option.some.inj h).symm⟩
  · simp only [ackOf, armAck] at h
    split_ifs at h <;> exact .inr ⟨a, _, rfl, (Option.some.inj h).symm⟩

lemma checkResponse_ack {req : Request} {err : Int} {ack : Ack} (h : ackOf req err = some ack)
    (stale : ℕ → UInt8) : checkResponse req stale (.ok ack.bytes) = ackErrno ack := by
  rcases ackOf_eq_some h with ⟨a, s, rfl, rfl⟩ | ⟨a, s, rfl, rfl⟩ <;> rfl

lemma take_answer {n : ℕ} {req : Request} {err : Int} {ack : Ack} (h : ackOf req err = some ack)
    (hw : link.waiting = some req) (hclient : link.toClient = ack.bytes)
    (horderly : Orderly link (.answer n)) (hpos : 0 < n) (hsize : n ≤ ackSize req) :
    link.toClient.take n = ack.bytes ∧ link.toClient.drop n = [] := by
  rcases ackOf_eq_some h with ⟨a, s, rfl, rfl⟩ | ⟨a, s, rfl, rfl⟩
  · obtain rfl := horderly a hw
    rw [hclient]
    exact ⟨rfl, rfl⟩
  · simp only [ackSize] at hsize
    obtain rfl : n = 1 := by omega
    rw [hclient]
    exact ⟨rfl, rfl⟩

lemma last_executed {req req' : Request} {err : Int} (hw : link.waiting = some req)
    (hreqs : link.session.requests = link.issued)
    (hlast : link.session.executed.getLast? = some (req', err)) :
    req' = req ∧ link.session.executed[link.returned.length]? = some (req, err) := by
  obtain ⟨earlier, hearlier⟩ := List.getLast?_eq_some_iff.mp hlast
  rw [Session.requests, hearlier, Link.issued, hw, List.map_append] at hreqs
  obtain ⟨hmap, hreq⟩ := List.append_inj' hreqs rfl
  obtain rfl : req' = req := (List.cons.inj hreq).1
  have hlen : earlier.length = link.returned.length := by
    rw [← List.length_map (f := Prod.fst), hmap, List.length_map]
  rw [hearlier, ← hlen, List.getElem?_concat_length]
  exact ⟨rfl, rfl⟩

lemma inv_answer {n : ℕ} (h : Inv link) (horderly : Orderly link (.answer n))
    (hstep : link.step env stack cstack (.answer n) = some next) : Inv next := by
  rcases hw : link.waiting with _ | req
  · simp [Link.step, hw] at hstep
  simp only [Link.step, hw] at hstep
  split_ifs at hstep with hn
  obtain ⟨hpos, hsize, hlen⟩ := hn
  obtain rfl := Option.some.inj hstep
  rcases h.stage with ⟨hreqs, hphase, hserver, hclient⟩ | ⟨-, -, -, -, hclient, -⟩
  · rcases hclient with hclient | ⟨req', err, ack, hlast, hack, hclient⟩
    · rw [hclient, List.length_nil] at hlen
      omega
    · obtain ⟨rfl, hexec⟩ := last_executed hw hreqs hlast
      obtain ⟨htake, hdrop⟩ := take_answer hack hw hclient horderly hpos hsize
      have hret : checkResponse req' (cstack link.returned.length)
          (.ok (link.toClient.take n)) = ackErrno ack := by
        rw [htake]
        exact checkResponse_ack hack _
      have hright := right_close cstack h.right hret (.inr ⟨err, ack, hexec, hack, rfl⟩)
      refine ⟨hright.mono rfl List.prefix_rfl, .inl ⟨?_, hphase, hserver, .inl hdrop⟩⟩
      exact hreqs.trans (close_issued cstack hw _).symm
  · rw [hclient, List.length_nil] at hlen
    omega

lemma inv_read {n : ℕ} (h : Inv link) (horderly : Orderly link (.read n))
    (hstep : link.step env stack cstack (.read n) = some next) : Inv next := by
  simp only [Link.step] at hstep
  split_ifs at hstep with hn
  obtain ⟨hpos, hask, hlen⟩ := hn
  obtain rfl := Option.some.inj hstep
  refine ⟨h.right.mono rfl (step_executed env stack _ _), ?_⟩
  rcases h.stage with ⟨-, -, hserver, -⟩ | ⟨earlier, req, hissued, hreqs, hclient, howed⟩
  · rw [hserver, List.length_nil] at hlen
    omega
  rcases owed_read howed hpos hask horderly with ⟨t, hφ, hnext, howed'⟩ | ⟨hdrop, hreq⟩
  · -- the header is not complete, or the body is still to come
    refine .inr ⟨earlier, req, hissued, ?_⟩
    rw [step_header env stack hφ hnext]
    exact ⟨hreqs, by simp [hclient], howed'⟩
  · -- the request is complete
    have hstep := step_request env stack (hreq (stack link.session.executed.length))
    refine .inl ?_
    rw [hstep]
    refine ⟨?_, rfl, hdrop, ?_⟩
    · rw [execute_requests, hreqs]
      exact hissued.symm
    · have hsent : ((link.session.execute env req).sent.drop link.session.sent.length) =
          (serve (env link.session.executed.length) link.session.pad req).1.2.toList := by
        rw [Session.execute, List.drop_left]
      rw [hclient, hsent, serve_ack, List.nil_append]
      rcases hack : ackOf req
        (serve (env link.session.executed.length) link.session.pad req).1.1 with _ | ack
      · exact .inl rfl
      · refine .inr ⟨req, _, ack, ?_, hack, by simp⟩
        rw [Session.execute, List.getLast?_concat]

lemma inv_step {e : Event} (h : Inv link) (horderly : Orderly link e)
    (hstep : link.step env stack cstack e = some next) : Inv next := by
  cases e with
  | flip sw newstate => exact inv_flip env stack cstack h horderly hstep
  | fail errno => exact inv_fail env stack cstack h hstep
  | answer n => exact inv_answer env stack cstack h horderly hstep
  | read n => exact inv_read env stack cstack h horderly hstep

lemma inv_run {es : List Event} (h : Inv link) (horderly : OrderlyRun env stack cstack link es)
    (hrun : link.run env stack cstack es = some next) : Inv next := by
  induction es generalizing link with
  | nil => exact Option.some.inj hrun ▸ h
  | cons e es ih =>
    obtain ⟨mid, hstep, hrest⟩ := Option.bind_eq_some_iff.mp hrun
    exact ih (inv_step env stack cstack h horderly.1 hstep) (horderly.2 mid hstep) hrest

end Steps

/-- **Answers are right as long as commands are orderly**: in every state such a run reaches,
each call has returned an error of `recv` or what the server answered to its own request. -/
theorem right_run (pad : PadState) {es : List Event} {link : Link}
    (horderly : OrderlyRun env stack cstack (opened env pad) es)
    (hrun : (opened env pad).run env stack cstack es = some link) : Right link :=
  (inv_run env stack cstack (inv_opened env pad) horderly hrun).right

lemma orderlyRun_cons {link next : Link} {e : Event} {es : List Event} (h : Orderly link e)
    (hstep : link.step env stack cstack e = some next)
    (hrest : OrderlyRun env stack cstack next es) : OrderlyRun env stack cstack link (e :: es) :=
  ⟨h, fun _ hnext => Option.some.inj (hstep.symm.trans hnext) ▸ hrest⟩

def armValves : Switch := ⟨1, .armReq, false⟩
def xv1 : Switch := ⟨idXv1, .actReq, false⟩
def dump : Switch := ⟨idDump, .actReq, false⟩

/-- The pad is armed; then a command to a valve times out. -/
def armedRun : List Event :=
  [.flip armValves true, .read 2, .read 1, .answer 1, .flip xv1 true, .read 1, .fail 11]

theorem right_run_armed : ∃ link,
    (opened calm (padstateInit zeroed)).run calm (fun _ _ => 0) (fun _ _ => 0) armedRun =
        some link ∧ link.returned.map Call.ret = [0, 11] ∧ Right link := by
  have horderly : OrderlyRun calm (fun _ _ => 0) (fun _ _ => 0)
      (opened calm (padstateInit zeroed)) armedRun := by
    refine orderlyRun_cons _ _ _ ⟨rfl, rfl, rfl⟩ rfl ?_
    refine orderlyRun_cons _ _ _ (fun h => rfl) rfl ?_
    refine orderlyRun_cons _ _ _ (fun h => absurd h (by decide)) rfl ?_
    refine orderlyRun_cons _ _ _ (fun req h => ?_) rfl ?_
    · cases h
    refine orderlyRun_cons _ _ _ ⟨rfl, rfl, rfl⟩ rfl ?_
    refine orderlyRun_cons _ _ _ (fun h => absurd h (by decide)) rfl ?_
    exact orderlyRun_cons _ _ _ trivial rfl trivial
  exact ⟨_, rfl, rfl, right_run calm _ _ _ horderly rfl⟩

/-- The dump valve's answer comes too late and is taken for that of a solenoid valve, which
the server would refuse. -/
theorem not_right_run : ¬ ∀ (env : Surroundings) (stack cstack : Stack) (pad : PadState)
    (es : List Event) (link : Link),
    (opened env pad).run env stack cstack es = some link → Right link := by
  intro h
  have hright := h calm (fun _ _ => 0) (fun _ _ => 0) (padstateInit zeroed)
    [.flip dump true, .fail 11, .read 2, .read 2, .flip xv1 true, .answer 2] _ rfl
  rcases hright 1 ⟨.act ⟨idXv1, 1⟩, .ok [idDump, 0], 0⟩ rfl with
    ⟨errno, hreply, -⟩ | ⟨err, ack, hexec, -⟩
  · cases hreply
  · cases hexec

end Hysim.Exchange
