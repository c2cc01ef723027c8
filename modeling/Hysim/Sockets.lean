import Hysim.Lib.Runs
import Hysim.Shared
import Hysim.Effects
import Hysim.Connection

/-!
The sockets of the controller thread, over all its sessions.

However listening, waiting, accepting and receiving turn out, `controller.client` is the
client socket that is open, the connection status says whether there is one, and each is
closed before the next one is accepted.
-/

namespace Hysim.Sockets

open Hysim.Lib.Program Hysim.Lib.Threads Hysim.Lib.Runs Hysim.Packets Hysim.State Hysim.Serve
open Hysim.Effects Hysim.Controller Hysim.Connection

/-! ### The thread and its system calls -/

/-- `controller.client`, the client sockets that are open, and the pad state. -/
structure Fds where
  client : Int
  opened : List Int
  pad : PadState

/-- Closing a socket and taking a lock succeed. Every other call may answer anything, and so
may the loads of the pad state. -/
def Fds.Answers (s : Fds) : (o : NetOp) → o.Ans → Prop
  | .loadClient, r => r = s.client
  | .close _, r => r = none
  | .pad o, r => Publish.Expects o r
  | _, _ => True

def Fds.eff (s : Fds) : (o : NetOp) → o.Ans → Fds
  | .accept, .ok fd => { s with opened := (fd : Int) :: s.opened }
  | .close fd, none => { s with opened := s.opened.erase fd }
  | .storeClient fd, _ => { s with client := fd }
  | .pad o, _ => { s with pad := o.effect s.pad }
  | _, _ => s

def sockets : Machine Unit NetOp Fds NetOp.Ans :=
  fun _ o s r s' => s.Answers o r ∧ s' = s.eff o r

def Loops : Unit → Phase → NetM Phase → Prop := fun _ φ p => p = controllerRunFrom φ

abbrev Server := Config Unit NetOp Fds Phase NetOp.Ans

/-- The thread about to accept its first client, on a pad just initialised. -/
def server (state : PadState) : Server := ⟨⟨-1, [], padstateInit state⟩, fun _ => .ret .accepting⟩

abbrev Trace := List (Moment Unit NetOp Fds NetOp.Ans)

def next (c : Server) : Option NetOp :=
  match c.prog () with
  | .ret _ => none
  | .call o _ => some o

lemma prog_of_next {c : Server} {o : NetOp} (h : next c = some o) :
    ∃ k, c.prog () = .call o k := by
  unfold next at h
  cases hp : c.prog () with
  | ret φ => simp [hp] at h
  | call o' k =>
    obtain rfl : o' = o := by simpa [hp] using h
    exact ⟨k, rfl⟩

/-! ### What is linked -/

def Vacant (s : Fds) : Prop :=
  s.client = -1 ∧ s.opened = [] ∧ s.pad.connStatus ≠ .connConnected

/-- There is a client, whose socket is the only one open. -/
def Holds (s : Fds) : Prop := ∃ fd : ℕ, s.client = fd ∧ s.opened = [(fd : Int)]

def Serving (s : Fds) : Prop := Holds s ∧ s.pad.connStatus = .connConnected

def Due (s : Fds) : NetOp → Prop
  | .select _ | .accept => Vacant s
  | .recv fd _ => fd = s.client ∧ Serving s
  | .close fd => s.opened = [fd]
  | _ => True

def Rest (φ : Phase) (s : Fds) : Prop := if φ = .accepting then Vacant s else Serving s

abbrev Ends {α : Type} (p : NetM α) (post : α → Fds → Prop) (s : Fds) : Prop :=
  Wp (sockets ()) Due p post s

/-! ### The functions of the controller -/

section Functions

variable {s : Fds}

lemma ends_loadClient {α : Type} {f : Int → NetM α} {post : α → Fds → Prop}
    (h : Ends (f s.client) post s) : Ends (loadClient >>= f) post s := by
  refine Wp.op_bind trivial ?_
  rintro _ y ⟨rfl, hy⟩
  exact hy ▸ h

lemma ends_storeClient {α : Type} (fd : Int) {f : Unit → NetM α} {post : α → Fds → Prop}
    (h : Ends (f ()) post { s with client := fd }) : Ends (storeClient fd >>= f) post s := by
  refine Wp.op_bind trivial ?_
  rintro - _ ⟨-, rfl⟩
  exact h

lemma ends_setsockKeepalive (sockfd : Int) :
    Ends (setsockKeepalive sockfd) (fun _ y => y = s) s := by
  refine wp_of_performs (I := (· = s)) ?_ ?_ (setsockKeepalive_performs sockfd) rfl
  · rintro y _ ⟨opt, value, rfl⟩ -
    trivial
  · rintro _ y r _ ⟨opt, value, rfl⟩ rfl ⟨-, rfl⟩
    rfl

/-- A client was accepted, and its socket recorded, but it is not reported yet; or none. -/
def Tried (err : ℕ) (s : Fds) : Prop :=
  (Holds s ∧ s.pad.connStatus ≠ .connConnected) ∨ (err ≠ 0 ∧ Vacant s)

lemma ends_acceptClient (h : Vacant s) : Ends acceptClient Tried s := by
  obtain ⟨hclient, hopened, hconn⟩ := h
  refine ⟨⟨hclient, hopened, hconn⟩, ?_⟩
  rintro (err | fd) _ ⟨-, rfl⟩
  · exact ends_storeClient (-1) (.inr ⟨err.pos.ne', rfl, hopened, hconn⟩)
  · refine ends_storeClient fd (ends_loadClient ?_)
    refine (ends_setsockKeepalive _).mono ?_
    rintro err _ rfl
    exact .inl ⟨⟨fd, rfl, congrArg _ hopened⟩, hconn⟩

lemma ends_awaitClient (wasConnected : Bool) (h : Vacant s) :
    Ends (awaitClient wasConnected) Tried s := by
  cases wasConnected with
  | false => exact ends_acceptClient h
  | true =>
    refine ⟨h, ?_⟩
    rintro (err | n) _ ⟨-, rfl⟩
    · exact .inr ⟨err.pos.ne', h⟩
    · cases n with
      | zero => exact .inr ⟨etimedout.pos.ne', h⟩
      | succ n => exact ends_acceptClient h

lemma ends_controllerAccept (h : Vacant s) : Ends controllerAccept Tried s := by
  refine ⟨trivial, ?_⟩
  rintro (_ | err) _ ⟨-, rfl⟩
  · exact ends_awaitClient false h
  · change Ends (if err = eaddrinuse then _ else _) _ _
    split_ifs with hused
    · exact ends_awaitClient true h
    · exact .inr ⟨err.pos.ne', h⟩

lemma ends_disconnect (h : Holds s ∨ (s.client = -1 ∧ s.opened = [])) :
    Ends controllerClientDisconnect (fun _ y => y = { s with client := -1, opened := [] }) s := by
  refine ends_loadClient ?_
  rcases h with ⟨fd, hclient, hopened⟩ | ⟨hclient, hopened⟩
  · have hfd : s.client ≥ 0 := by omega
    have hdue : s.opened = [s.client] := by rw [hclient, hopened]
    rw [if_pos hfd]
    refine Wp.op_bind hdue ?_
    rintro _ _ ⟨rfl, rfl⟩
    have hnone : s.opened.erase s.client = [] := by simp [hdue]
    exact ends_storeClient (-1) (congrArg (fun opened => (⟨-1, opened, s.pad⟩ : Fds)) hnone)
  · rw [if_neg (by omega)]
    obtain ⟨client, opened, pad⟩ := s
    subst hclient hopened
    rfl

lemma ends_setConnstatus (status : ConnStatus) :
    Ends (onPad (padstateSetConnstatus status)) (fun _ y => y = { s with pad :=
      { s.pad with connStatus := status, updateRecorded := true } }) s := by
  refine ⟨trivial, ?_⟩
  rintro _ _ ⟨rfl, rfl⟩
  refine ⟨trivial, ?_⟩
  rintro - _ ⟨-, rfl⟩
  refine ⟨trivial, ?_⟩
  rintro - _ ⟨-, rfl⟩
  refine ⟨trivial, ?_⟩
  rintro _ _ ⟨rfl, rfl⟩
  refine ⟨trivial, ?_⟩
  rintro - _ ⟨-, rfl⟩
  refine ⟨trivial, ?_⟩
  rintro - _ ⟨-, rfl⟩
  refine ⟨trivial, ?_⟩
  rintro - _ ⟨-, rfl⟩
  rfl

lemma may_effect {req : Request} {o : PadOp} (h : May req o) (pad : PadState) :
    (o.effect pad).connStatus = pad.connStatus := by
  cases h with
  | quiet h => cases o <;> first | rfl | exact absurd h id
  | follow | drive | store | change => rfl

lemma ends_handle (req : Request) (h : Serving s) :
    Ends (onPad (handle req)) (fun _ y => Serving y) s := by
  refine wp_of_performs (I := Serving) ?_ ?_ ((handle_performs req).embed NetOp.pad padAnswer) h
  · rintro y _ ⟨o, -, rfl⟩ -
    trivial
  · rintro _ y r _ ⟨o, ho, rfl⟩ ⟨hholds, hconn⟩ ⟨-, rfl⟩
    exact ⟨hholds, (may_effect ho y.pad).trans hconn⟩

lemma ends_answer (ack : Option Ack) : Ends (answer ack) (fun _ y => y = s) s := by
  cases ack with
  | none => rfl
  | some ack =>
    refine ends_loadClient ⟨trivial, ?_⟩
    rintro - _ ⟨-, rfl⟩
    rfl

lemma ends_acceptLoop (h : Vacant s) : Ends acceptLoop Rest s := by
  refine Wp.bind ((ends_controllerAccept h).mono fun err y hy => ?_)
  split_ifs with herr
  · have hnone : Holds y ∨ (y.client = -1 ∧ y.opened = []) :=
      hy.imp And.left fun hv => ⟨hv.2.1, hv.2.2.1⟩
    have hconn : y.pad.connStatus ≠ .connConnected := hy.elim And.right fun hv => hv.2.2.2
    refine Wp.bind ((ends_disconnect hnone).mono ?_)
    rintro _ _ rfl
    exact ⟨rfl, rfl, hconn⟩
  · obtain ⟨hholds, -⟩ := hy.resolve_right fun hv => herr hv.1
    refine Wp.bind ((ends_setConnstatus .connConnected).mono ?_)
    rintro _ _ rfl
    exact ⟨hholds, rfl⟩

lemma ends_respond (φ : Phase) (stale : ℕ → UInt8) (r : Recv) (h : Serving s) :
    Ends (respond φ stale r) Rest s := by
  unfold respond
  rcases φ.request stale r with _ | req
  · dsimp only
    split_ifs with hnext
    · refine Wp.bind ((ends_disconnect (.inl h.1)).mono ?_)
      rintro _ _ rfl
      refine Wp.bind ((ends_setConnstatus .connReconnecting).mono ?_)
      rintro _ _ rfl
      exact ⟨rfl, rfl, ConnStatus.noConfusion⟩
    · change Rest (φ.next r) s
      rw [Rest, if_neg hnext]
      exact h
  · refine Wp.bind ((ends_handle req h).mono fun out y hy => ?_)
    refine Wp.bind ((ends_answer out.2).mono ?_)
    rintro _ _ rfl
    exact hy

lemma ends_receiveLoop (φ : Phase) (h : Serving s) : Ends (receiveLoop φ) Rest s := by
  refine Wp.op_bind trivial ?_
  rintro stale _ ⟨-, rfl⟩
  refine Wp.bind (ends_loadClient ⟨⟨rfl, h⟩, ?_⟩)
  rintro r _ ⟨-, rfl⟩
  exact ends_respond φ stale r h

lemma ends_controllerRunFrom {φ : Phase} (h : Rest φ s) : Ends (controllerRunFrom φ) Rest s := by
  unfold controllerRunFrom
  unfold Rest at h
  split_ifs at h ⊢ with hφ
  · exact ends_acceptLoop h
  · exact ends_receiveLoop φ h

end Functions

/-! ### Accepting and closing -/

def closes (t : Trace) : List Int :=
  t.filterMap fun m => match m.op with
    | .close fd => some fd
    | _ => none

@[simp] lemma closes_append (t u : Trace) : closes (t ++ u) = closes t ++ closes u :=
  List.filterMap_append

/-- `accept` has returned a socket, and has not been called since. -/
def Accepted (t : Trace) (fd : ℕ) (since : Trace) : Prop :=
  (∃ past found, t = past ++ ⟨(), .accept, .ok fd, found⟩ :: since) ∧
    ∀ m ∈ since, m.op ≠ .accept

/-- Whenever `accept` is called, the socket it returned before was closed, and nothing else. -/
def Balanced (t : Trace) : Prop :=
  ∀ before m after fd since, t = before ++ m :: after → m.op = .accept →
    Accepted before fd since → closes since = [(fd : Int)]

/-- The socket last accepted is the one that is open, or it was closed. -/
def Settled (t : Trace) (opened : List Int) : Prop :=
  ∀ fd since, Accepted t fd since →
    (closes since = [] ∧ opened = [(fd : Int)]) ∨ (closes since = [(fd : Int)] ∧ opened = [])

lemma Accepted.of_concat {t since : Trace} {m : Moment Unit NetOp Fds NetOp.Ans} {fd : ℕ}
    (h : Accepted (t ++ [m]) fd since) (hm : m.op ≠ .accept) :
    ∃ since', since = since' ++ [m] ∧ Accepted t fd since' := by
  obtain ⟨⟨past, found, hcut⟩, hsince⟩ := h
  rcases cut_concat hcut with ⟨-, rfl, -⟩ | ⟨since', rfl, ht⟩
  · exact absurd rfl hm
  · exact ⟨since', rfl, ⟨past, found, ht⟩, fun n hn => hsince n (List.mem_append_left _ hn)⟩

lemma Accepted.of_accept {t since : Trace} {m : Moment Unit NetOp Fds NetOp.Ans} {fd : ℕ}
    (h : Accepted (t ++ [m]) fd since) (hm : m.op = .accept) :
    since = [] ∧ ∃ found, m = ⟨(), .accept, .ok fd, found⟩ := by
  obtain ⟨⟨past, found, hcut⟩, hsince⟩ := h
  rcases cut_concat hcut with ⟨-, hm, rfl⟩ | ⟨since', rfl, ht⟩
  · exact ⟨rfl, found, hm.symm⟩
  · exact absurd hm (hsince m (by simp))

lemma Balanced.concat {t : Trace} (h : Balanced t) {m : Moment Unit NetOp Fds NetOp.Ans}
    (hm : m.op = .accept → ∀ fd since, Accepted t fd since → closes since = [(fd : Int)]) :
    Balanced (t ++ [m]) := by
  intro before n after fd since hcut hn hacc
  rcases cut_concat hcut with ⟨rfl, rfl, -⟩ | ⟨after', -, ht⟩
  · exact hm hn fd since hacc
  · exact h before n after' fd since ht hn hacc

lemma ledger_step {t : Trace} {o : NetOp} {s : Fds} {r : o.Ans} {s' : Fds}
    (h : Balanced t ∧ Settled t s.opened) (hdue : Due s o) (hstep : sockets () o s r s') :
    Balanced (t ++ [⟨(), o, r, s⟩]) ∧ Settled (t ++ [⟨(), o, r, s⟩]) s'.opened := by
  obtain ⟨hbal, hset⟩ := h
  obtain ⟨hans, rfl⟩ := hstep
  by_cases haccept : o = .accept
  · subst haccept
    have hnone : s.opened = [] := hdue.2.1
    refine ⟨hbal.concat fun _ fd since hacc => ?_, fun fd since hacc => ?_⟩
    · rcases hset fd since hacc with ⟨-, hopen⟩ | ⟨hclosed, -⟩
      · rw [hnone] at hopen
        cases hopen
      · exact hclosed
    · obtain ⟨rfl, found, hm⟩ := hacc.of_accept rfl
      cases hm
      exact .inl ⟨rfl, congrArg _ hnone⟩
  · refine ⟨hbal.concat fun hm => absurd hm haccept, fun fd since hacc => ?_⟩
    obtain ⟨since, rfl, hbefore⟩ := hacc.of_concat haccept
    have hold := hset fd since hbefore
    rw [closes_append]
    cases o
    case close fd' =>
      obtain rfl : r = none := hans
      have hopen : s.opened = [fd'] := hdue
      rcases hold with ⟨hnil, hone⟩ | ⟨-, hnone⟩
      · obtain rfl : fd' = fd := by simpa [hopen] using hone
        exact .inr ⟨by rw [hnil]; rfl, by simp [Fds.eff, hopen]⟩
      · rw [hnone] at hopen
        cases hopen
    case accept => exact absurd rfl haccept
    all_goals simpa [closes, Fds.eff] using hold

/-! ### Every run -/

lemma due_next {c : Server} (h : Ends (c.prog ()) Rest c.shared) {o : NetOp}
    (ho : next c = some o) : Due c.shared o := by
  obtain ⟨k, hk⟩ := prog_of_next ho
  rw [hk] at h
  exact h.1

lemma ends_server (state : PadState) : Ends ((server state).prog ()) Rest (server state).shared :=
  ⟨rfl, rfl, ConnStatus.noConfusion⟩

lemma run_due (state : PadState) {t : Trace} {c : Server}
    (hrun : Run sockets Loops (server state) t c) :
    Balanced t ∧ ∀ o, next c = some o → Due c.shared o := by
  have hnone : ∀ fd since, ¬ Accepted [] fd since := by
    rintro fd since ⟨⟨past, found, hcut⟩, -⟩
    simp at hcut
  have hnil : Balanced [] ∧ Settled [] (server state).shared.opened :=
    ⟨fun _ _ _ _ _ hcut => by simp at hcut, fun fd since hacc => absurd hacc (hnone fd since)⟩
  obtain ⟨⟨hbal, -⟩, hwp⟩ := wp_of_run (J := fun t s => Balanced t ∧ Settled t s.opened)
    (fun φ p s hp hrest => hp ▸ ends_controllerRunFrom hrest)
    (fun t o s r s' => ledger_step) (ends_server state) hnil hrun
  exact ⟨hbal, fun o => due_next hwp⟩

/-- **The connection status is truthful**, over every run: about to receive a header, the
client is an open socket and the status says connected; about to wait for a client there is no
socket, and the status says so; and every socket accepted is closed, once, before `accept` is
called again. -/
theorem status_of_run (state : PadState) {t : Trace} {c : Server}
    (hrun : Run sockets Loops (server state) t c) :
    (∀ fd type, next c = some (.recv fd (.header type)) →
      fd = c.shared.client ∧ c.shared.client ∈ c.shared.opened ∧
        c.shared.pad.connStatus = .connConnected) ∧
    (∀ timeout, next c = some (.select timeout) ∨ next c = some .accept →
      c.shared.client = -1 ∧ c.shared.opened = [] ∧
        c.shared.pad.connStatus ≠ .connConnected) ∧
    ∀ before m after fd since, t = before ++ m :: after → m.op = .accept →
      Accepted before fd since → closes since = [(fd : Int)] := by
  obtain ⟨hbal, hdue⟩ := run_due state hrun
  refine ⟨fun fd type hnext => ?_, fun timeout hnext => ?_, hbal⟩
  · obtain ⟨hfd, ⟨sock, hclient, hopened⟩, hconn⟩ := hdue _ hnext
    exact ⟨hfd, by rw [hclient, hopened]; exact List.mem_singleton_self _, hconn⟩
  · exact hnext.elim (hdue _) (hdue _)

/-! ### A run -/

/-- The calls answer as told, every lock operation and driver succeeds. -/
def calling (calls : Calls) : Device NetOp NetOp.Ans Fds where
  ans o s := Wire.ans calls o ⟨s.client, ⟨s.pad, [], 0⟩, []⟩
  eff o s := s.eff o (Wire.ans calls o ⟨s.client, ⟨s.pad, [], 0⟩, []⟩)

lemma calling_step {calls : Calls} (h : calls.close = none) (o : NetOp) (s : Fds) :
    sockets () o s ((calling calls).ans o s) ((calling calls).eff o s) := by
  refine ⟨?_, rfl⟩
  cases o
  case pad o => cases o <;> first | rfl | trivial
  case close => exact h
  case loadClient => rfl
  all_goals trivial

def round (calls : Calls) (φ : Phase) (s : Fds) : Server :=
  let out := run (calling calls) (controllerRunFrom φ) s
  ⟨out.2, fun _ => .ret out.1⟩

lemma run_round (calls : Calls) (h : calls.close = none) {c : Server} {t : Trace} {s : Fds}
    {φ : Phase} (hrun : Run sockets Loops c t ⟨s, fun _ => .ret φ⟩) :
    Run sockets Loops c (t ++ alongDevice (calling calls) () (controllerRunFrom φ) s)
      (round calls φ s) := by
  have hround := run_block (P := fun _ _ => True) (fun o s _ => calling_step h o s) hrun rfl rfl
    fun _ _ => trivial
  exact hround

lemma run_next (calls : Calls) (h : calls.close = none) {c : Server} {t : Trace} {s : Fds}
    {φ : Phase} (hrun : Run sockets Loops c t ⟨s, fun _ => .ret φ⟩) {m : Fds × NetOp}
    {before after : List (Fds × NetOp)}
    (hm : moments (calling calls) (controllerRunFrom φ) s = before ++ m :: after) :
    ∃ d, Run sockets Loops c
        (t ++ before.map fun m => ⟨(), m.2, (calling calls).ans m.2 m.1, m.1⟩) d ∧
      d.shared = m.1 ∧ next d = some m.2 := by
  obtain ⟨k, hk⟩ := run_moment (P := fun _ _ => True) (fun o s _ => calling_step h o s) _
    (hrun.start (i := ()) rfl rfl) (fun _ _ => trivial) hm
  exact ⟨_, hk, rfl, rfl⟩

/-- A client is accepted on the socket 4, and then closes its connection. -/
def connecting : Calls := ⟨none, .ok 1, .ok 4, none, none, .ok [], fun _ => 0⟩

def connected : Server := round connecting .accepting (server zeroed).shared

theorem status_of_run_connected : ∃ t c, Run sockets Loops (server zeroed) t c ∧
    next c = some (.recv 4 (.header none)) ∧ c.shared.client ∈ c.shared.opened ∧
      c.shared.pad.connStatus = .connConnected := by
  have hrun := run_round connecting rfl (.refl (c := server zeroed))
  have hrecv : moments (calling connecting) (controllerRunFrom (.header none)) connected.shared =
      [(connected.shared, .stack), (connected.shared, .loadClient)] ++
        (connected.shared, .recv 4 (.header none)) :: moments (calling connecting) (do
          let _ ← controllerClientDisconnect
          let _ ← onPad (padstateSetConnstatus .connReconnecting)
          return Phase.accepting) connected.shared := rfl
  obtain ⟨c, hc, -, hnext⟩ := run_next connecting rfl hrun hrecv
  exact ⟨_, c, hc, hnext, ((status_of_run zeroed hc).1 4 none hnext).2⟩

end Hysim.Sockets
