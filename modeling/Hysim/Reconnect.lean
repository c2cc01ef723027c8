import Hysim.Sockets

/-!
Losing the control client.

After a first connection the controller is to wait for the next one no longer than the abort
timeout, and to report when that has passed. It takes the wait for one of these if `listen`
fails with `EADDRINUSE`, which it need not on a socket that is listening already; and the
status of a failed reconnection is never stored.
-/

namespace Hysim.Reconnect

open Hysim.Lib.Program Hysim.Lib.Threads Hysim.Lib.Runs Hysim.Packets Hysim.State Hysim.Serve
open Hysim.Effects Hysim.Controller Hysim.Connection Hysim.Sockets

/-! ### What is asked of a run -/

def Connected (t : Trace) : Prop := ∃ m ∈ t, m.op = .pad (.storeConn .connConnected)

lemma Connected.append {t : Trace} (h : Connected t) (u : Trace) : Connected (t ++ u) := by
  obtain ⟨m, hm, hop⟩ := h
  exact ⟨m, List.mem_append_left _ hm, hop⟩

/-- The attempt under way has been through a `select` with the abort timeout. -/
def Bounded (t : Trace) : Prop :=
  ∃ past r found since, t = past ++ ⟨(), .listen, r, found⟩ :: since ∧
    (∀ m ∈ since, m.op ≠ .listen) ∧ ∃ m ∈ since, m.op = .select abortTimeout

/-- A `select` has timed out after a client was connected, and no client was accepted since. -/
def TimedOut (t : Trace) : Prop :=
  ∃ past timeout found since, t = past ++ ⟨(), .select timeout, .ok 0, found⟩ :: since ∧
    Connected past ∧ ∀ fd found, ⟨(), .accept, .ok fd, found⟩ ∉ since

def Waits : NetOp → Prop
  | .listen | .select _ | .accept => True
  | _ => False

/-- The loss of the client is bounded and reported. -/
structure Reported (t : Trace) (c : Server) : Prop where
  bounded : Connected t → next c = some .accept → Bounded t
  status : TimedOut t → ∀ o, next c = some o → Waits o →
    c.shared.pad.connStatus = .connDisconnected

/-- Once a client was connected, `listen` does not succeed again and `select` does not time
out. -/
def Meets (past : Trace) : Moment Unit NetOp Fds NetOp.Ans → Prop
  | ⟨_, .listen, r, _⟩ => Connected past → r ≠ none
  | ⟨_, .select _, r, _⟩ => Connected past → r ≠ .ok 0
  | _ => True

/-! ### What the controller does between its attempts -/

/-- An operation that does not store that the reconnection failed. -/
def Spares (o : NetOp) : Prop := o ≠ .pad (.storeConn .connDisconnected)

def Tame (o : NetOp) : Prop := ¬ Waits o ∧ Spares o

lemma setsockKeepalive_tame (sockfd : Int) : Performs Tame (setsockKeepalive sockfd) :=
  (setsockKeepalive_performs sockfd).mono fun _ ⟨_, _, ho⟩ => ho ▸ ⟨id, NetOp.noConfusion⟩

lemma disconnect_tame : Performs Tame controllerClientDisconnect :=
  controllerClientDisconnect_performs.mono fun o ho => by
    rcases ho with rfl | ⟨fd, rfl⟩ | rfl <;> exact ⟨id, NetOp.noConfusion⟩

lemma tame_pad {o : PadOp} (h : o ≠ .storeConn .connDisconnected) : Tame (.pad o) :=
  ⟨id, fun hstore => h (NetOp.pad.inj hstore)⟩

lemma setConnstatus_tame {status : ConnStatus} (h : status ≠ .connDisconnected) :
    Performs Tame (onPad (padstateSetConnstatus status)) := by
  refine ((setConnstatus_performs status).embed NetOp.pad padAnswer).mono ?_
  rintro _ ⟨o, ho, rfl⟩
  refine tame_pad ?_
  rintro rfl
  rcases ho with ho | ho
  · exact ho
  · exact h (PadOp.storeConn.inj ho).symm

lemma handle_tame (req : Request) : Performs Tame (onPad (handle req)) := by
  refine ((handle_performs req).embed NetOp.pad padAnswer).mono ?_
  rintro _ ⟨o, ho, rfl⟩
  refine tame_pad ?_
  rintro rfl
  cases ho with
  | quiet h => exact h

lemma respond_tame (φ : Phase) (stale : ℕ → UInt8) (r : Recv) :
    Performs Tame (respond φ stale r) := by
  unfold respond
  rcases φ.request stale r with _ | req
  · dsimp only
    split_ifs with hnext
    · exact disconnect_tame.bind fun _ =>
        (setConnstatus_tame ConnStatus.noConfusion).bind fun _ => trivial
    · trivial
  · refine (handle_tame req).bind fun out => Performs.bind ?_ fun _ => trivial
    cases out.2 with
    | none => trivial
    | some ack =>
      exact ⟨⟨id, NetOp.noConfusion⟩, fun _ => ⟨⟨id, NetOp.noConfusion⟩, fun _ => trivial⟩⟩

lemma receiveLoop_tame (φ : Phase) : Performs Tame (receiveLoop φ) :=
  ⟨⟨id, NetOp.noConfusion⟩, fun stale => ⟨⟨id, NetOp.noConfusion⟩, fun _ =>
    ⟨⟨id, NetOp.noConfusion⟩, fun r => respond_tame φ stale r⟩⟩⟩

lemma accepted_tame (err : ℕ) : Performs Tame (if err ≠ 0 then do
      let _ ← controllerClientDisconnect
      return Phase.accepting
    else do
      let _ ← onPad (padstateSetConnstatus .connConnected)
      return Phase.header none) := by
  split_ifs with herr
  · exact disconnect_tame.bind fun _ => trivial
  · exact (setConnstatus_tame ConnStatus.noConfusion).bind fun _ => trivial

/-! ### The course of an attempt -/

/-- How far an attempt is: what `listen` answered, or that `select` was called after it. -/
inductive Attempt
  | idle
  | listened (r : Option Errno)
  | selected

/-- After a `listen` that succeeded only `accept` can come. -/
def Attempt.Free (x : Attempt) : Prop := x ≠ .listened none

inductive AttemptStep : Attempt → (o : NetOp) → o.Ans → Attempt → Prop
  | listen (x r) (h : x.Free) : AttemptStep x .listen r (.listened r)
  | select (r) : AttemptStep (.listened (some eaddrinuse)) (.select abortTimeout) r .selected
  | first (r) : AttemptStep (.listened none) .accept r .idle
  | again (r) : AttemptStep .selected .accept r .idle
  | other (x o r) (h : ¬ Waits o) (hx : x.Free) : AttemptStep x o r .idle

def attempts : Monitor NetOp NetOp.Ans Attempt := ⟨fun _ _ => True, AttemptStep⟩

abbrev Goes {α : Type} (p : NetM α) (x : Attempt) : Prop :=
  Follows attempts p (fun _ y => y.Free) x

lemma idle_free : Attempt.idle.Free := Attempt.noConfusion

lemma goes_of_tame {α : Type} {p : NetM α} (h : Performs Tame p) {x : Attempt} (hx : x.Free) :
    Goes p x := by
  induction p generalizing x with
  | ret a => exact hx
  | call o k ih => exact fun r _ => ⟨.idle, .other x o r h.1.1 hx, ih r (h.2 r) idle_free⟩

lemma goes_acceptClient {x : Attempt} (h : ∀ r, AttemptStep x .accept r .idle) :
    Goes acceptClient x := by
  intro r _
  refine ⟨.idle, h r, goes_of_tame ?_ idle_free⟩
  rcases r with err | fd
  · exact ⟨⟨id, NetOp.noConfusion⟩, fun _ => trivial⟩
  · exact ⟨⟨id, NetOp.noConfusion⟩, fun _ => ⟨⟨id, NetOp.noConfusion⟩, setsockKeepalive_tame⟩⟩

/-- Only an attempt whose `listen` succeeded gets to `accept` without `select`. -/
lemma goes_controllerAccept {x : Attempt} (hx : x.Free) : Goes controllerAccept x := by
  intro r _
  refine ⟨.listened r, .listen x r hx, ?_⟩
  rcases r with _ | err
  · exact goes_acceptClient .first
  · change Goes (if err = eaddrinuse then awaitClient true else pure err.val) _
    split_ifs with hused
    · subst hused
      intro r _
      refine ⟨.selected, .select r, ?_⟩
      rcases r with err | n
      · exact Attempt.noConfusion
      · cases n with
        | zero => exact Attempt.noConfusion
        | succ n => exact goes_acceptClient .again
    · intro hnone
      cases hnone

lemma goes_controllerRunFrom (φ : Phase) {x : Attempt} (hx : x.Free) :
    Goes (controllerRunFrom φ) x := by
  unfold controllerRunFrom
  split_ifs with hφ
  · exact Follows.bind (Follows.mono (goes_controllerAccept hx) fun err y hy =>
      goes_of_tame (accepted_tame err) hy)
  · exact goes_of_tame (receiveLoop_tame φ) hx

def Course (t : Trace) : Attempt → Prop
  | .idle => ∀ past found, t ≠ past ++ [⟨(), .listen, none, found⟩]
  | .listened r => ∃ past found, t = past ++ [⟨(), .listen, r, found⟩]
  | .selected => ∃ past r found r' found', t =
      past ++ [⟨(), .listen, r, found⟩, ⟨(), .select abortTimeout, r', found'⟩]

lemma course_step {t : Trace} {x y : Attempt} {o : NetOp} {r : o.Ans} {s : Fds}
    (h : Course t x) (hstep : AttemptStep x o r y) : Course (t ++ [⟨(), o, r, s⟩]) y := by
  have hother : o ≠ .listen → Course (t ++ [⟨(), o, r, s⟩]) .idle := by
    intro ho past found ht
    obtain ⟨-, hm⟩ := List.append_inj' ht rfl
    cases hm
    exact ho rfl
  cases hstep with
  | listen => exact ⟨t, s, rfl⟩
  | select r =>
    obtain ⟨past, found, rfl⟩ := h
    exact ⟨past, some eaddrinuse, found, r, s, by simp⟩
  | first | again => exact hother NetOp.noConfusion
  | other _ _ _ h =>
    refine hother ?_
    rintro rfl
    exact h trivial

lemma run_course (state : PadState) {t : Trace} {c : Server}
    (hrun : Run sockets Loops (server state) t c) : ∃ x, Course t x ∧ Goes (c.prog ()) x := by
  have hstart : Tracks (fun _ => attempts) (fun _ _ x => x.Free) (fun t _ x => Course t (x ())) []
      (server state) :=
    ⟨fun _ => .idle, fun past found ht => by simp at ht, fun _ => idle_free⟩
  obtain ⟨x, hx, hfollows⟩ := tracks_of_run (fun _ _ _ _ _ _ => trivial)
    (fun _ φ p x hp hx => hp ▸ goes_controllerRunFrom φ hx)
    (fun t _ o s r s' x y hc _ hy => course_step hc hy) hstart hrun
  exact ⟨x (), hx, hfollows ()⟩

lemma attempt_of_accept {c : Server} {x : Attempt} (h : Goes (c.prog ()) x)
    (hnext : next c = some .accept) : x = .listened none ∨ x = .selected := by
  obtain ⟨k, hk⟩ := prog_of_next hnext
  rw [hk] at h
  obtain ⟨y, hy, -⟩ := h (.ok 0) trivial
  cases hy with
  | first => exact .inl rfl
  | again => exact .inr rfl
  | other _ _ _ h => exact absurd trivial h

lemma accept_of_listened {c : Server} (h : Goes (c.prog ()) (.listened none)) :
    next c = some .accept := by
  unfold next
  cases hp : c.prog () with
  | ret φ =>
    rw [hp] at h
    exact absurd rfl h
  | call o k =>
    rw [hp] at h
    obtain ⟨y, hy, -⟩ := h ((calling connecting).ans o c.shared) trivial
    generalize (calling connecting).ans o c.shared = r at hy
    cases hy with
    | first => rfl
    | listen _ _ hfree => exact absurd rfl hfree
    | other _ _ _ _ hfree => exact absurd rfl hfree

/-! ### The status of a failed reconnection -/

lemma acceptClient_spares : Performs Spares acceptClient := by
  refine ⟨NetOp.noConfusion, fun r => ?_⟩
  rcases r with err | fd
  · exact ⟨NetOp.noConfusion, fun _ => trivial⟩
  · refine ⟨NetOp.noConfusion, fun _ => ⟨NetOp.noConfusion, fun client => ?_⟩⟩
    exact (setsockKeepalive_tame client).mono fun _ => And.right

lemma controllerAccept_spares : Performs Spares controllerAccept := by
  refine ⟨NetOp.noConfusion, fun r => ?_⟩
  rcases r with _ | err
  · exact acceptClient_spares
  · change Performs _ (if err = eaddrinuse then awaitClient true else pure err.val)
    split_ifs with hused
    · refine ⟨NetOp.noConfusion, fun ready => ?_⟩
      rcases ready with err | n
      · trivial
      · cases n with
        | zero => trivial
        | succ n => exact acceptClient_spares
    · trivial

lemma controllerRunFrom_spares (φ : Phase) : Performs Spares (controllerRunFrom φ) := by
  unfold controllerRunFrom
  split_ifs with hφ
  · exact controllerAccept_spares.bind fun err => (accepted_tame err).mono fun _ => And.right
  · exact (receiveLoop_tame φ).mono fun _ => And.right

lemma spares_eff {s : Fds} {o : NetOp} (ho : Spares o) (r : o.Ans)
    (hs : s.pad.connStatus ≠ .connDisconnected) :
    (s.eff o r).pad.connStatus ≠ .connDisconnected := by
  cases o
  case pad o =>
    cases o
    case storeConn status =>
      intro hstatus
      obtain rfl : status = .connDisconnected := hstatus
      exact ho rfl
    all_goals exact hs
  case accept => cases r <;> exact hs
  case close => cases r <;> exact hs
  all_goals exact hs

def Unreported (s : Fds) : Prop := s.pad.connStatus ≠ .connDisconnected

/-- **A failed reconnection is never reported**, in any state of any run. -/
theorem unreported_of_run (state : PadState) {t : Trace} {c : Server}
    (hrun : Run sockets Loops (server state) t c) : Unreported c.shared := by
  have hblocks : ∀ (φ : Phase) (p : NetM Phase) (s : Fds), Loops () φ p → True →
      Wp (sockets ()) (fun _ o => Spares o) p (fun _ _ => True) s := by
    rintro φ _ s rfl -
    exact wp_of_performs (I := fun _ => True) (fun _ _ ho _ => ho) (fun _ _ _ _ _ _ _ => trivial)
      (controllerRunFrom_spares φ) trivial
  have hkeeps : ∀ (t : Trace) (o : NetOp) (s : Fds) (r : o.Ans) (s' : Fds), Unreported s →
      Spares o → sockets () o s r s' → Unreported s' := by
    rintro t o s r _ hs ho ⟨-, rfl⟩
    exact spares_eff ho r hs
  have hstart : Unreported (server state).shared := ConnStatus.noConfusion
  exact (wp_of_run (J := fun _ s => Unreported s) (c := server state) hblocks hkeeps trivial hstart
    hrun).1

/-! ### Every run -/

/-- **When the loss of the client is bounded and reported**: in every run in which, once a client
was connected, `listen` does not succeed again and `select` does not time out. -/
theorem reported_of_run (state : PadState) {t : Trace} {c : Server}
    (hrun : Run sockets Loops (server state) t c)
    (hmeets : ∀ past m post, t = past ++ m :: post → Meets past m) : Reported t c := by
  refine ⟨fun hconn hnext => ?_, ?_⟩
  · obtain ⟨x, hcourse, hgoes⟩ := run_course state hrun
    rcases attempt_of_accept hgoes hnext with rfl | rfl
    · -- `listen` succeeded, so that no client was connected
      obtain ⟨past, found, rfl⟩ := hcourse
      obtain ⟨m, hm, hop⟩ := hconn
      rcases List.mem_append.mp hm with hm | hm
      · exact absurd rfl (hmeets past _ [] rfl ⟨m, hm, hop⟩)
      · rw [List.mem_singleton.mp hm] at hop
        cases hop
    · obtain ⟨past, r, found, r', found', rfl⟩ := hcourse
      refine ⟨past, r, found, _, rfl, fun m hm => ?_, _, List.mem_singleton_self _, rfl⟩
      rw [List.mem_singleton.mp hm]
      exact NetOp.noConfusion
  · rintro ⟨past, timeout, found, since, rfl, hconn, -⟩
    exact absurd rfl (hmeets past _ since rfl hconn)

/-- Whenever `select` has timed out, the next attempt finds the loss unreported. -/
theorem not_reported_of_timedOut (state : PadState) {t : Trace} {c : Server}
    (hrun : Run sockets Loops (server state) t c) (h : TimedOut t) {o : NetOp}
    (hnext : next c = some o) (ho : Waits o) : ¬ Reported t c :=
  fun hreported => unreported_of_run state hrun (hreported.status h o hnext ho)

lemma not_bounded_of_listen (t : Trace) (r : Option Errno) (found : Fds) :
    ¬ Bounded (t ++ [⟨(), .listen, r, found⟩]) := by
  rintro ⟨past, r', found', since, hcut, hlisten, m, hm, hop⟩
  rcases cut_concat hcut with ⟨-, -, rfl⟩ | ⟨since', rfl, -⟩
  · cases hm
  · exact hlisten _ (List.mem_append_right _ (List.mem_singleton_self _)) rfl

/-- Whenever `listen` succeeds after a client was connected, the thread goes on to an unbounded
wait. -/
theorem not_reported_of_listen (state : PadState) {past : Trace} {c : Server} {found : Fds}
    (hrun : Run sockets Loops (server state) (past ++ [⟨(), .listen, none, found⟩]) c)
    (h : Connected past) : ¬ Reported (past ++ [⟨(), .listen, none, found⟩]) c := by
  intro hreported
  obtain ⟨x, hcourse, hgoes⟩ := run_course state hrun
  have hx : x = .listened none := by
    cases x with
    | idle => exact absurd rfl (hcourse past found)
    | listened r =>
      obtain ⟨past', found', ht⟩ := hcourse
      obtain ⟨-, hm⟩ := List.append_inj' ht rfl
      cases hm
      rfl
    | selected =>
      obtain ⟨past', r, found', r', found'', ht⟩ := hcourse
      have hlast := congrArg List.getLast? ht
      simp at hlast
  subst hx
  have hconn : Connected (past ++ [⟨(), .listen, none, found⟩]) := h.append _
  exact not_bounded_of_listen past none found
    (hreported.bounded hconn (accept_of_listened hgoes))

/-- The thread without its first client, which has closed its connection. -/
def lost : Server := round connecting (.header none) connected.shared

def lostTrace : Trace :=
  alongDevice (calling connecting) () (controllerRunFrom .accepting) (server zeroed).shared ++
    alongDevice (calling connecting) () (controllerRunFrom (.header none)) connected.shared

lemma run_lost : Run sockets Loops (server zeroed) lostTrace lost := by
  have hrun := run_round connecting rfl (.refl (c := server zeroed))
  exact run_round connecting rfl hrun

lemma connected_lost : Connected lostTrace := by
  have hstore : lostTrace.any (fun m => m.op = .pad (.storeConn .connConnected)) = true := rfl
  obtain ⟨m, hm, hop⟩ := List.any_eq_true.mp hstore
  exact ⟨m, hm, of_decide_eq_true hop⟩

def orderly : Moment Unit NetOp Fds NetOp.Ans → Bool
  | ⟨_, .listen, r, _⟩ => r ≠ none
  | ⟨_, .select _, .ok n, _⟩ => n ≠ 0
  | _ => true

lemma meets_of_orderly {past : Trace} {m : Moment Unit NetOp Fds NetOp.Ans}
    (h : Connected past → orderly m = true) : Meets past m := by
  obtain ⟨_, o, r, found⟩ := m
  cases o
  case listen => exact fun hconn => of_decide_eq_true (h hconn)
  case select timeout =>
    rintro hconn rfl
    exact Bool.false_ne_true (h hconn)
  all_goals trivial

lemma meets_of_tail {t : Trace} (h : t.tail.all orderly = true) (past : Trace)
    (m : Moment Unit NetOp Fds NetOp.Ans) (post : Trace) (hcut : t = past ++ m :: post) :
    Meets past m := by
  refine meets_of_orderly fun hconn => ?_
  cases past with
  | nil =>
    obtain ⟨n, hn, -⟩ := hconn
    cases hn
  | cons x past =>
    rw [hcut, List.cons_append, List.tail_cons] at h
    exact List.all_eq_true.mp h m (by simp)

/-- `listen` fails with `EADDRINUSE`, and then a client is there. -/
def reconnecting : Calls := { connecting with listen := some eaddrinuse }

theorem reported_of_run_reconnecting : ∃ t c, Run sockets Loops (server zeroed) t c ∧
    Connected t ∧ next c = some .accept ∧ Bounded t := by
  have hmoments : moments (calling reconnecting) (controllerRunFrom .accepting) lost.shared =
      [(lost.shared, .listen), (lost.shared, .select abortTimeout)] ++ (lost.shared, .accept) ::
        (moments (calling reconnecting) (controllerRunFrom .accepting) lost.shared).drop 3 := rfl
  obtain ⟨c, hrun, -, hnext⟩ := run_next reconnecting rfl run_lost hmoments
  refine ⟨_, c, hrun, connected_lost.append _, hnext, ?_⟩
  exact (reported_of_run zeroed hrun (meets_of_tail rfl)).bounded (connected_lost.append _) hnext

/-- `listen` succeeds again, and the thread waits in `accept` without a bound. -/
theorem not_reported_of_run : ¬ ∀ (state : PadState) (t : Trace) (c : Server),
    Run sockets Loops (server state) t c → Reported t c := by
  intro h
  have hmoments : moments (calling connecting) (controllerRunFrom .accepting) lost.shared =
      [(lost.shared, .listen)] ++ (lost.shared, .accept) ::
        (moments (calling connecting) (controllerRunFrom .accepting) lost.shared).drop 2 := rfl
  obtain ⟨c, hrun, -, hnext⟩ := run_next connecting rfl run_lost hmoments
  exact not_bounded_of_listen _ none lost.shared
    ((h zeroed _ c hrun).bounded (connected_lost.append _) hnext)

end Hysim.Reconnect
