import Hysim.Sockets

/-!
What is done on the pad is requested by the client that is connected.

The request is the one the thread has just received on the socket of that client. A connection that
ends, or a call that fails, never moves an actuator and never changes the level.
-/

namespace Hysim.Requested

open Hysim.Lib.Program Hysim.Lib.Threads Hysim.Lib.Runs Hysim.Packets Hysim.State Hysim.Serve
open Hysim.Effects Hysim.Controller Hysim.Connection Hysim.Sockets

/-! ### What is heard -/

/-- What the buffer holds, and the request the last `recv` on this connection completed. -/
structure Heard where
  stale : ℕ → UInt8
  request : Option Request

def hear : (o : NetOp) → o.Ans → Heard → Heard
  | .stack, stale, _ => ⟨stale, none⟩
  | .recv _ φ, r, heard => { heard with request := φ.request heard.stale r }
  | .accept, _, heard | .close _, _, heard => { heard with request := none }
  | _, _, heard => heard

def hearing : Machine Unit NetOp (Fds × Heard) NetOp.Ans := fun i => observed (sockets i) hear

abbrev Trace := List (Moment Unit NetOp (Fds × Heard) NetOp.Ans)

/-- The operation calls a driver, or changes the level or what is recorded of an actuator. -/
def Acts : NetOp → Prop
  | .pad (.drive _ _) | .pad (.storeAct _ _) | .pad (.storeLevel _) => True
  | _ => False

/-- A client is connected, and has just sent this request. -/
def Asked (req : Request) (s : Fds × Heard) : Prop := Serving s.1 ∧ s.2.request = some req

def Allowed (s : Fds × Heard) (o : NetOp) : Prop :=
  Acts o → ∃ req op, Asked req s ∧ o = .pad op ∧ May req op

lemma allowed_of_idle {s : Fds × Heard} {o : NetOp} (h : ¬ Acts o) : Allowed s o := fun hacts =>
  absurd hacts h

/-! ### The functions -/

abbrev Ends {α : Type} (p : NetM α) (post : α → Fds × Heard → Prop) (s : Fds × Heard) : Prop :=
  Wp (hearing ()) (fun s o => Due s.1 o ∧ Allowed s o) p post s

section Functions

variable {s : Fds × Heard} {α : Type}

lemma ends_idle {p : NetM α} (hp : Performs (fun o => ¬ Acts o) p) {post : α → Fds → Prop}
    (h : Sockets.Ends p post s.1) : Ends p (fun a y => post a y.1) s := by
  have hnone : Wp (hearing ()) Allowed p (fun _ _ => True) s :=
    wp_of_performs (I := fun _ => True) (Q := fun o => ¬ Acts o)
      (fun _ _ ho _ => allowed_of_idle ho) (fun _ _ _ _ _ _ _ => trivial) hp trivial
  exact ((h.observed hear s.2).and hnone).mono fun _ _ hy => hy.1

lemma idle_onPad {p : PadM α} {Q : PadOp → Prop} (hp : Performs Q p)
    (hQ : ∀ o, Q o → ¬ Acts (.pad o)) : Performs (fun o => ¬ Acts o) (onPad p) := by
  refine (hp.embed NetOp.pad padAnswer).mono ?_
  rintro _ ⟨o, ho, rfl⟩
  exact hQ o ho

lemma idle_setConnstatus (status : ConnStatus) :
    Performs (fun o => ¬ Acts o) (onPad (padstateSetConnstatus status)) := by
  refine idle_onPad (setConnstatus_performs status) ?_
  rintro o (hquiet | rfl)
  · cases o <;> first | exact hquiet.elim | exact id
  · exact id

lemma idle_disconnect : Performs (fun o => ¬ Acts o) controllerClientDisconnect := by
  refine controllerClientDisconnect_performs.mono ?_
  rintro o (rfl | ⟨fd, rfl⟩ | rfl) <;> exact id

lemma idle_setsockKeepalive (sockfd : Int) :
    Performs (fun o => ¬ Acts o) (setsockKeepalive sockfd) := by
  refine (setsockKeepalive_performs sockfd).mono ?_
  rintro _ ⟨opt, value, rfl⟩
  exact id

lemma idle_acceptClient : Performs (fun o => ¬ Acts o) acceptClient := by
  refine ⟨id, fun conn => ?_⟩
  rcases conn with err | fd
  · exact ⟨id, fun _ => trivial⟩
  · exact ⟨id, fun _ => ⟨id, fun client => idle_setsockKeepalive client⟩⟩

lemma idle_awaitClient (wasConnected : Bool) :
    Performs (fun o => ¬ Acts o) (awaitClient wasConnected) := by
  cases wasConnected with
  | false => exact idle_acceptClient
  | true =>
    refine ⟨id, fun ready => ?_⟩
    rcases ready with err | n
    · trivial
    · cases n with
      | zero => trivial
      | succ n => exact idle_acceptClient

lemma idle_acceptLoop : Performs (fun o => ¬ Acts o) acceptLoop := by
  have haccept : Performs (fun o => ¬ Acts o) controllerAccept := by
    refine ⟨id, fun listened => ?_⟩
    rcases listened with _ | err
    · exact idle_awaitClient false
    · change Performs _ (if err = eaddrinuse then _ else _)
      split_ifs with hused
      · exact idle_awaitClient true
      · trivial
  refine haccept.bind fun err => ?_
  split_ifs with herr
  · exact idle_disconnect.bind fun _ => trivial
  · exact (idle_setConnstatus _).bind fun _ => trivial

lemma ends_handle {req : Request} (h : Asked req s) :
    Ends (onPad (handle req)) (fun _ y => Serving y.1) s := by
  have hasked : Ends (onPad (handle req)) (fun _ y => Asked req y) s := by
    refine wp_of_performs (I := Asked req) ?_ ?_ ((handle_performs req).embed NetOp.pad padAnswer) h
    · rintro y _ ⟨o, ho, rfl⟩ hy
      exact ⟨trivial, fun _ => ⟨req, o, hy, rfl, ho⟩⟩
    · rintro _ y r ⟨fds, heard⟩ ⟨o, ho, rfl⟩ ⟨⟨hholds, hconn⟩, hreq⟩ ⟨⟨-, hfds⟩, hheard⟩
      obtain rfl : fds = _ := hfds
      obtain rfl : heard = _ := hheard
      exact ⟨⟨hholds, (may_effect ho y.1.pad).trans hconn⟩, hreq⟩
  exact hasked.mono fun _ _ hy => hy.1

lemma idle_answer (ack : Option Ack) : Performs (fun o => ¬ Acts o) (answer ack) := by
  cases ack with
  | none => trivial
  | some ack => exact ⟨id, fun _ => ⟨id, fun _ => trivial⟩⟩

lemma ends_respond (φ : Phase) (stale : ℕ → UInt8) (r : Recv) (h : Serving s.1)
    (hheard : s.2.request = φ.request stale r) :
    Ends (respond φ stale r) (fun φ' y => Rest φ' y.1) s := by
  have hends := Sockets.ends_respond φ stale r h
  unfold respond at hends ⊢
  rcases hreq : φ.request stale r with _ | req
  · rw [hreq] at hends
    refine ends_idle ?_ hends
    dsimp only
    split_ifs with hnext
    · exact idle_disconnect.bind fun _ => (idle_setConnstatus _).bind fun _ => trivial
    · trivial
  · refine Wp.bind ((ends_handle ⟨h, hheard.trans hreq⟩).mono fun out y hy => ?_)
    have hanswer := ends_idle (idle_answer out.2) (Sockets.ends_answer (s := y.1) out.2)
    refine Wp.bind (hanswer.mono fun _ z hz => ?_)
    change Rest (.header none) z.1
    rw [hz]
    exact hy

lemma ends_receiveLoop (φ : Phase) (h : Serving s.1) :
    Ends (receiveLoop φ) (fun φ' y => Rest φ' y.1) s := by
  refine Wp.op_bind ⟨trivial, allowed_of_idle id⟩ ?_
  rintro stale ⟨fds, heard⟩ ⟨⟨-, hfds⟩, hheard⟩
  obtain rfl : fds = s.1 := hfds
  obtain rfl : heard = ⟨stale, none⟩ := hheard
  refine Wp.bind (Wp.op_bind ⟨trivial, allowed_of_idle id⟩ ?_)
  rintro client ⟨fds, heard⟩ ⟨⟨hclient, hfds⟩, hheard⟩
  obtain rfl : client = s.1.client := hclient
  obtain rfl : fds = s.1 := hfds
  obtain rfl : heard = ⟨stale, none⟩ := hheard
  refine ⟨⟨⟨rfl, h⟩, allowed_of_idle id⟩, ?_⟩
  rintro r ⟨fds, heard⟩ ⟨⟨-, hfds⟩, hheard⟩
  obtain rfl : fds = s.1 := hfds
  exact ends_respond φ stale r h (congrArg Heard.request hheard)

lemma ends_controllerRunFrom {φ : Phase} (h : Rest φ s.1) :
    Ends (controllerRunFrom φ) (fun φ' y => Rest φ' y.1) s := by
  unfold controllerRunFrom
  unfold Rest at h
  split_ifs at h ⊢ with hφ
  · exact ends_idle idle_acceptLoop (Sockets.ends_acceptLoop h)
  · exact ends_receiveLoop φ h

end Functions

/-! ### Every run -/

/-- The calls answer as told, every lock operation and driver succeeds. -/
def answering (calls : Calls) : Device NetOp NetOp.Ans (Fds × Heard) where
  ans o s := (calling calls).ans o s.1
  eff o s := ((calling calls).eff o s.1, hear o ((calling calls).ans o s.1) s.2)

def sending (bytes : List UInt8) : Calls :=
  ⟨none, .ok 1, .ok 4, none, none, .ok bytes, fun _ => 0⟩

end Hysim.Requested
