import Hysim.Controller

/-!
The pad server and its clients, and what ends its process.

`controller_send` passes no `MSG_NOSIGNAL` and `SIGPIPE` keeps its default action, so that
sending on a connection the client has reset ends the server. What a client sent before it
left is still received and answered.
-/

namespace Hysim.Survival

open Hysim.Packets Hysim.Actuators Hysim.State Hysim.Serve Hysim.Controller

/-! ### Connections -/

/-- The client's end: in use, closed, closed and refusing what was sent to it, or reset. -/
inductive Peer
  | up | closed | refusing | reset
  deriving DecidableEq, Repr

/-- A connection: what the client sent and the server has not received, and the client's end. -/
structure Line where
  unread : List UInt8
  peer : Peer
  deriving DecidableEq, Repr

def Line.put (l : Line) (req : Request) : Line :=
  if l.peer = .up then { l with unread := l.unread ++ (Request.packet req).bytes } else l

def Line.close (l : Line) : Line := if l.peer = .up then { l with peer := .closed } else l

def Line.reset (l : Line) : Line := { l with peer := .reset }

/-- The reset arrives with which a closed end refuses what was sent to it. -/
def Line.refuse (l : Line) : Line := if l.peer = .refusing then l.reset else l

inductive Outcome
  | bytes (n : ℕ)
  | eof
  | error (errno : Int)

/-- Any part of what was asked for can arrive. A call that has nothing to return waits for the
client as long as it is there. -/
def Line.recv (l : Line) (asked : ℕ) : Outcome → Option (Recv × Line)
  | .bytes n =>
    if 0 < n ∧ n ≤ asked ∧ n ≤ l.unread.length then
      some (.ok (l.unread.take n), { l with unread := l.unread.drop n })
    else none
  | .eof => if l.unread = [] ∧ l.peer ≠ .up then some (.ok [], l) else none
  | .error errno => if l.peer = .reset then some (.error errno, l) else none

/-- What `send` leaves, if the process survives it. -/
def Line.send (l : Line) : Option Line :=
  match l.peer with
  | .up | .refusing => some l
  | .closed => some { l with peer := .refusing }
  | .reset => none

/-! ### The server and its clients -/

/-- The loop, the acknowledgement it is about to send, the connection it serves, those it has
not accepted yet, and whether the process is alive. -/
structure System where
  session : Session
  owes : Option Ack
  client : Option Line
  waiting : List Line
  alive : Bool

/-- A connection: the one that is served, or one that waits. -/
abbrev Conn := Option ℕ

/-- A client connects, sends a complete request, closes its connection or resets it; what it
refused comes back to the server; or the server goes on. -/
inductive Event
  | connect
  | put (conn : Conn) (req : Request)
  | close (conn : Conn)
  | reset (conn : Conn)
  | refuse (conn : Conn)
  | accept (kept : Bool)
  | recv (outcome : Outcome)
  | send

def System.onLine (s : System) (f : Line → Line) : Conn → System
  | none => { s with client := s.client.map f }
  | some i => { s with waiting := s.waiting.modify i f }

variable (env : Surroundings) (stack : Stack)

/-- A client is accepted, or closed again as keep-alive could not be set. -/
def System.accept (s : System) (kept : Bool) : System :=
  match s.waiting with
  | [] => s
  | l :: rest =>
    if s.session.phase = .accepting ∧ s.owes = none then
      if kept then { s with session := s.session.accept env, client := some l, waiting := rest }
      else { s with waiting := rest }
    else s

/-- One `recv` of the loop, up to the acknowledgement. -/
def System.recv (s : System) (outcome : Outcome) : System :=
  match s.client, s.owes with
  | some l, none =>
    match l.recv s.session.phase.asked outcome with
    | some (r, l) =>
      let session := controllerStep env stack s.session r
      { s with
        session := session
        owes := session.sent[s.session.sent.length]?
        client := if session.phase = .accepting then none else some l }
    | none => s
  | _, _ => s

def System.send (s : System) : System :=
  match s.client, s.owes with
  | some l, some _ =>
    match l.send with
    | some l => { s with owes := none, client := some l }
    | none => { s with alive := false }
  | _, _ => s

def System.step (s : System) (e : Event) : System :=
  if s.alive then
    match e with
    | .connect => { s with waiting := s.waiting ++ [⟨[], .up⟩] }
    | .put conn req => s.onLine (Line.put · req) conn
    | .close conn => s.onLine Line.close conn
    | .reset conn => s.onLine Line.reset conn
    | .refuse conn => s.onLine Line.refuse conn
    | .accept kept => s.accept env kept
    | .recv outcome => s.recv env stack outcome
    | .send => s.send
  else s

def System.run (s : System) (es : List Event) : System := es.foldl (System.step env stack) s

def system (pad : PadState) : System := ⟨⟨.accepting, pad, [], []⟩, none, none, [], true⟩

/-! ### What can still be answered -/

/-- The most acknowledgements the loop can send for these bytes, if no more come. -/
def acks : Phase → List UInt8 → ℕ
  | .header none, type :: subtype :: rest => acks (dispatch ⟨type, subtype⟩) rest
  | .header (some type), subtype :: rest => acks (dispatch ⟨type, subtype⟩) rest
  | .armReq, _ :: rest => acks (.header none) rest + 1
  | .actReq, _ :: state :: rest =>
    max (acks (.header none) (state :: rest)) (acks (.header none) rest) + 1
  | .armReq, [] => 1
  | .actReq, _ => 1
  | _, _ => 0

/-- The most acknowledgements that can still be sent on a connection, if its client sends
nothing more. -/
def System.owed (s : System) : Conn → ℕ
  | none => (s.client.map fun l => s.owes.toList.length + acks s.session.phase l.unread).getD 0
  | some i => (s.waiting[i]?.map fun l => acks (.header none) l.unread).getD 0

/-- A client resets its connection only when nothing can be answered on it any more, and closes
it only when at most one more answer can. -/
def Meets (s : System) : Event → Prop
  | .reset conn => s.owed conn = 0
  | .close conn => s.owed conn ≤ 1
  | _ => True

/-! ### The invariant -/

/-- To send `n` more answers on the connection does not end the process. -/
def Line.Bears (l : Line) (n : ℕ) : Prop :=
  (l.peer = .closed → n ≤ 1) ∧ (l.peer = .refusing ∨ l.peer = .reset → n = 0)

structure Inv (s : System) : Prop where
  alive : s.alive = true
  client : ∀ l ∈ s.client, l.Bears (s.owes.toList.length + acks s.session.phase l.unread)
  waiting : ∀ l ∈ s.waiting, l.Bears (acks (.header none) l.unread)

/-- Only what a request needs is set aside for its answer. -/
def Phase.answers (φ : Phase) : ℕ := if φ.IsBody then 1 else 0

lemma acks_next {φ : Phase} {bytes : List UInt8} {n : ℕ} (hpos : 0 < n) (hasked : n ≤ φ.asked)
    (hlen : n ≤ bytes.length) :
    Phase.answers φ + acks (φ.next (.ok (bytes.take n))) (bytes.drop n) ≤ acks φ bytes := by
  obtain ⟨a, rest, rfl⟩ := List.exists_cons_of_length_pos (hpos.trans_le hlen)
  cases φ with
  | header type =>
    cases type with
    | some type =>
      obtain rfl : n = 1 := le_antisymm hasked hpos
      exact (Nat.zero_add _).le
    | none =>
      have hn : n = 1 ∨ n = 2 := by simp only [Phase.asked] at hasked; omega
      rcases hn with rfl | rfl
      · cases rest <;> exact (Nat.zero_add _).le
      · obtain ⟨b, rest, rfl⟩ := List.exists_cons_of_length_pos (Nat.le_of_succ_le_succ hlen)
        exact (Nat.zero_add _).le
  | armReq =>
    obtain rfl : n = 1 := le_antisymm hasked hpos
    exact (Nat.add_comm _ _).le
  | actReq =>
    have hn : n = 1 ∨ n = 2 := by simp only [Phase.asked] at hasked; omega
    have hanswers : Phase.answers .actReq = 1 := rfl
    rw [next_of_body (.inl rfl), hanswers]
    rcases hn with rfl | rfl
    · cases rest with
      | nil => exact le_refl 1
      | cons b rest =>
        have hmax := le_max_left (acks (.header none) (b :: rest)) (acks (.header none) rest)
        simp only [acks, List.drop_one, List.tail_cons]
        omega
    · obtain ⟨b, rest, rfl⟩ := List.exists_cons_of_length_pos (Nat.le_of_succ_le_succ hlen)
      have hmax := le_max_right (acks (.header none) (b :: rest)) (acks (.header none) rest)
      have hdrop : (a :: b :: rest).drop 2 = rest := rfl
      simp only [acks, hdrop]
      omega
  | accepting => exact absurd hasked (Nat.not_le.mpr hpos)

lemma acks_next_eof (φ : Phase) :
    Phase.answers φ + acks (φ.next (.ok [])) [] ≤ acks φ [] := by
  cases φ with
  | header type => cases type <;> exact le_refl 0
  | actReq => exact le_refl 1
  | armReq => exact le_refl 1
  | accepting => exact le_refl 0

section Loop

variable (s : Session) (r : Recv)

lemma step_phase : (controllerStep env stack s r).phase = s.phase.next r := by
  by_cases hacc : s.phase = .accepting
  · rw [controllerStep, if_pos hacc, hacc]
    rfl
  rcases hreq : s.phase.request (stack s.executed.length) r with _ | req
  · rw [controllerStep, if_neg hacc, hreq]
    by_cases hnext : s.phase.next r = .accepting
    · simp only [hnext]
      rfl
    · simp only [if_neg hnext]
  · have hbody : s.phase.IsBody := by
      cases hφ : s.phase with
      | header t => simp [hφ, Phase.request] at hreq
      | actReq => exact .inl rfl
      | armReq => exact .inr rfl
      | accepting => exact absurd hφ hacc
    rw [step_request env stack hreq, next_of_body hbody]
    rfl

lemma step_answers : ((controllerStep env stack s r).sent[s.sent.length]?).toList.length ≤
    Phase.answers s.phase := by
  by_cases hbody : s.phase.IsBody
  · rw [Phase.answers, if_pos hbody]
    cases (controllerStep env stack s r).sent[s.sent.length]? <;> simp
  · have hreq : s.phase.request (stack s.executed.length) r = none := by
      cases hφ : s.phase with
      | header t => rfl
      | actReq => exact absurd (.inl hφ) hbody
      | armReq => exact absurd (.inr hφ) hbody
      | accepting => rfl
    rw [(step_no_request env stack hreq).2]
    simp

end Loop

/-! ### Every step keeps it -/

lemma Line.Bears.mono {l l' : Line} {m n : ℕ} (h : l.Bears n) (hpeer : l'.peer = l.peer)
    (hmn : m ≤ n) : l'.Bears m := by
  unfold Line.Bears
  rw [hpeer]
  exact ⟨fun hc => hmn.trans (h.1 hc), fun hr => Nat.le_zero.mp (hmn.trans (h.2 hr).le)⟩

lemma acks_body_pos {φ : Phase} (hφ : φ.IsBody) (bytes : List UInt8) : 0 < acks φ bytes := by
  rcases hφ with rfl | rfl
  · match bytes with
    | [] | [_] | _ :: _ :: _ => exact Nat.succ_pos _
  · cases bytes <;> exact Nat.succ_pos _

lemma recv_acks {l l' : Line} {φ : Phase} {outcome : Outcome} {r : Recv}
    (h : l.Bears (acks φ l.unread)) (hrecv : l.recv φ.asked outcome = some (r, l')) :
    l'.peer = l.peer ∧ Phase.answers φ + acks (φ.next r) l'.unread ≤ acks φ l.unread := by
  cases outcome with
  | bytes n =>
    simp only [Line.recv] at hrecv
    split_ifs at hrecv with hn
    obtain ⟨rfl, rfl⟩ : .ok (l.unread.take n) = r ∧ { l with unread := l.unread.drop n } = l' := by
      simpa using hrecv
    exact ⟨rfl, acks_next hn.1 hn.2.1 hn.2.2⟩
  | eof =>
    simp only [Line.recv] at hrecv
    split_ifs at hrecv with heof
    obtain ⟨rfl, rfl⟩ : .ok [] = r ∧ l = l' := by simpa using hrecv
    rw [heof.1]
    exact ⟨rfl, acks_next_eof φ⟩
  | error errno =>
    simp only [Line.recv] at hrecv
    split_ifs at hrecv with hreset
    obtain ⟨rfl, rfl⟩ : .error errno = r ∧ l = l' := by simpa using hrecv
    refine ⟨rfl, ?_⟩
    have hnone : acks φ l.unread = 0 := h.2 (.inr hreset)
    have hbody : ¬ φ.IsBody := fun hb => (acks_body_pos hb l.unread).ne' hnone
    have hnext : φ.next (.error errno) = .accepting := by
      cases φ with
      | header type => cases type <;> rfl
      | actReq => exact absurd (.inl rfl) hbody
      | armReq => exact absurd (.inr rfl) hbody
      | accepting => rfl
    have hzero : acks .accepting l.unread = 0 := by cases l.unread <;> rfl
    rw [hnext, Phase.answers, if_neg hbody, hzero, Nat.zero_add]
    exact Nat.zero_le _

section Inv

variable {s : System}

lemma Inv.onLine (h : Inv s) {f : Line → Line} {conn : Conn}
    (hf : ∀ l φ n, n + acks φ l.unread = s.owed conn → l.Bears (s.owed conn) →
      (f l).Bears (n + acks φ (f l).unread)) : Inv (s.onLine f conn) := by
  cases conn with
  | none =>
    refine ⟨h.alive, fun l hl => ?_, h.waiting⟩
    obtain ⟨l, hclient, rfl⟩ := Option.map_eq_some_iff.mp hl
    have howed : s.owed none = s.owes.toList.length + acks s.session.phase l.unread := by
      rw [System.owed, hclient]
      rfl
    exact hf l _ _ howed.symm (howed ▸ h.client l hclient)
  | some i =>
    refine ⟨h.alive, h.client, fun l hl => ?_⟩
    obtain ⟨j, hj⟩ := List.mem_iff_getElem?.mp hl
    have hwaiting : (s.onLine f (some i)).waiting = s.waiting.modify i f := rfl
    rw [hwaiting, List.getElem?_modify] at hj
    obtain ⟨l', hl', rfl⟩ := Option.map_eq_some_iff.mp hj
    have hold := h.waiting l' (List.mem_of_getElem? hl')
    split_ifs with hij
    · subst hij
      have howed : s.owed (some i) = acks (.header none) l'.unread := by
        rw [System.owed, hl']
        rfl
      have hnew := hf l' (.header none) 0 (by rw [howed, Nat.zero_add]) (howed ▸ hold)
      rwa [Nat.zero_add] at hnew
    · exact hold

lemma Inv.onPeer (h : Inv s) {f : Line → Line} {conn : Conn}
    (hunread : ∀ l, (f l).unread = l.unread)
    (hf : ∀ l, l.Bears (s.owed conn) → (f l).Bears (s.owed conn)) : Inv (s.onLine f conn) :=
  h.onLine fun l φ n hn hl => by
    rw [hunread, hn]
    exact hf l hl

lemma bears_up {l : Line} (h : l.peer = .up) (n : ℕ) : l.Bears n := by
  simp [Line.Bears, h]

lemma inv_put (h : Inv s) (conn : Conn) (req : Request) : Inv (s.onLine (Line.put · req) conn) := by
  refine h.onLine fun l φ n hn hl => ?_
  unfold Line.put
  split_ifs with hup
  · exact bears_up hup _
  · rwa [hn]

lemma inv_close (h : Inv s) {conn : Conn} (howed : s.owed conn ≤ 1) :
    Inv (s.onLine Line.close conn) := by
  refine h.onPeer (fun l => ?_) fun l hl => ?_
  · unfold Line.close
    split_ifs <;> rfl
  · unfold Line.close
    split_ifs with hup
    · exact ⟨fun _ => howed, by simp⟩
    · exact hl

lemma inv_reset (h : Inv s) {conn : Conn} (howed : s.owed conn = 0) :
    Inv (s.onLine Line.reset conn) := by
  refine h.onPeer (fun l => rfl) fun l hl => ?_
  rw [howed]
  exact ⟨fun _ => Nat.zero_le 1, fun _ => rfl⟩

lemma inv_refuse (h : Inv s) (conn : Conn) : Inv (s.onLine Line.refuse conn) := by
  refine h.onPeer (fun l => ?_) fun l hl => ?_
  · unfold Line.refuse
    split_ifs <;> rfl
  · unfold Line.refuse
    split_ifs with hrefusing
    · rw [hl.2 (.inl hrefusing)]
      exact ⟨fun _ => Nat.zero_le 1, fun _ => rfl⟩
    · exact hl

lemma inv_accept (h : Inv s) (kept : Bool) : Inv (s.accept env kept) := by
  unfold System.accept
  rcases hw : s.waiting with _ | ⟨l, rest⟩
  · exact h
  have hwaiting := h.waiting
  rw [hw] at hwaiting
  obtain ⟨hl, hrest⟩ := List.forall_mem_cons.mp hwaiting
  dsimp only
  split_ifs with hacc hkept
  · refine ⟨h.alive, fun l' hl' => ?_, hrest⟩
    obtain rfl : l = l' := Option.some.inj hl'
    have hbears : l.Bears (([] : List Ack).length + acks (.header none) l.unread) := by
      rwa [List.length_nil, Nat.zero_add]
    rw [hacc.2]
    exact hbears
  · exact ⟨h.alive, h.client, hrest⟩
  · exact h

lemma inv_recv (h : Inv s) (outcome : Outcome) : Inv (s.recv env stack outcome) := by
  unfold System.recv
  rcases hc : s.client with _ | l
  · exact h
  rcases ho : s.owes with _ | ack
  · rcases hrecv : l.recv s.session.phase.asked outcome with _ | ⟨r, l'⟩
    · simpa [hrecv] using h
    · have hl := h.client l hc
      rw [ho, Option.toList_none, List.length_nil, Nat.zero_add] at hl
      obtain ⟨hpeer, hacks⟩ := recv_acks hl hrecv
      have hanswers := step_answers env stack s.session r
      simp only [hrecv]
      refine ⟨h.alive, fun x hx => ?_, h.waiting⟩
      dsimp only at hx ⊢
      split_ifs at hx with hacc
      · cases hx
      · obtain rfl : l' = x := Option.some.inj hx
        rw [step_phase]
        exact hl.mono hpeer (by omega)
  · exact h

lemma inv_send (h : Inv s) : Inv s.send := by
  unfold System.send
  rcases hc : s.client with _ | l
  · exact h
  rcases ho : s.owes with _ | ack
  · exact h
  have hl := h.client l hc
  rw [ho] at hl
  have hone : (some ack).toList.length = 1 := rfl
  rw [hone] at hl
  cases hpeer : l.peer with
  | up =>
    simp only [Line.send, hpeer]
    refine ⟨h.alive, fun x hx => ?_, h.waiting⟩
    obtain rfl : l = x := Option.some.inj hx
    exact bears_up hpeer _
  | closed =>
    simp only [Line.send, hpeer]
    refine ⟨h.alive, fun x hx => ?_, h.waiting⟩
    obtain rfl : { l with peer := .refusing } = x := Option.some.inj hx
    have hnone : acks s.session.phase l.unread = 0 := by
      have hbound := hl.1 hpeer
      omega
    exact ⟨Peer.noConfusion, fun _ => (Nat.zero_add _).trans hnone⟩
  | refusing =>
    have hzero := hl.2 (.inl hpeer)
    omega
  | reset =>
    have hzero := hl.2 (.inr hpeer)
    omega

/-- **One step** of a client that meets the condition, or of the server, keeps the invariant. -/
lemma inv_step (h : Inv s) {e : Event} (hmeets : Meets s e) : Inv (s.step env stack e) := by
  unfold System.step
  rw [if_pos h.alive]
  cases e with
  | connect =>
    refine ⟨h.alive, h.client, fun l hl => ?_⟩
    rcases List.mem_append.mp hl with hl | hl
    · exact h.waiting l hl
    · rw [List.mem_singleton.mp hl]
      exact bears_up rfl _
  | put conn req => exact inv_put h conn req
  | close conn => exact inv_close h hmeets
  | reset conn => exact inv_reset h hmeets
  | refuse conn => exact inv_refuse h conn
  | accept kept => exact inv_accept env h kept
  | recv outcome => exact inv_recv env stack h outcome
  | send => exact inv_send h

end Inv

lemma inv_run (pad : PadState) {es : List Event}
    (hmeets : ∀ past e post, es = past ++ e :: post →
      Meets ((system pad).run env stack past) e) : Inv ((system pad).run env stack es) := by
  induction es using List.reverseRecOn with
  | nil => exact ⟨rfl, by simp [system, System.run], by simp [system, System.run]⟩
  | append_singleton es e ih =>
    have hpast : Inv ((system pad).run env stack es) :=
      ih fun past e' post hes => hmeets past e' (post ++ [e]) (by simp [hes])
    have hrun : (system pad).run env stack (es ++ [e]) =
        ((system pad).run env stack es).step env stack e := by
      rw [System.run, List.foldl_append]
      rfl
    rw [hrun]
    exact inv_step env stack hpast (hmeets es e [] rfl)

/-- **When the server survives its clients**: in every run in which none of them resets its
connection while something can still be answered on it, nor closes it while more than one
answer can. -/
theorem alive_of_run (pad : PadState) {es : List Event}
    (hmeets : ∀ past e post, es = past ++ e :: post →
      Meets ((system pad).run env stack past) e) :
    ((system pad).run env stack es).alive = true :=
  (inv_run env stack pad hmeets).alive

instance (s : System) : (e : Event) → Decidable (Meets s e)
  | .reset conn => inferInstanceAs (Decidable (s.owed conn = 0))
  | .close conn => inferInstanceAs (Decidable (s.owed conn ≤ 1))
  | .connect | .put _ _ | .refuse _ | .accept _ | .recv _ | .send => .isTrue trivial

/-- A client arms the pad and closes its connection before the answer. -/
def closing : List Event :=
  [.connect, .put (some 0) (.arm ⟨1⟩), .accept true, .close none, .recv (.bytes 2),
    .recv (.bytes 1), .send, .refuse none, .recv .eof]

theorem alive_of_run_closing :
    ((system (padstateInit zeroed)).run calm (fun _ _ => 0) closing).alive = true := by
  refine alive_of_run calm _ _ fun past e post hcut => ?_
  have hall : ∀ i : Fin closing.length, Meets
      ((system (padstateInit zeroed)).run calm (fun _ _ => 0) (closing.take i)) closing[i] := by
    decide
  have hi : past.length < closing.length := by simp [hcut]
  have hmeets := hall ⟨past.length, hi⟩
  simpa [hcut] using hmeets

/-- A client sends two requests and resets its connection before the answers. A system that reports
the reset to the first `send` ends the process at the second. -/
theorem not_alive : ¬ ∀ (env : Surroundings) (stack : Stack) (pad : PadState) (es : List Event),
    ((system pad).run env stack es).alive = true := by
  intro h
  have halive := h calm (fun _ _ => 0) (padstateInit zeroed)
    [.connect, .put (some 0) (.arm ⟨1⟩), .put (some 0) (.arm ⟨2⟩), .accept true, .reset none,
      .recv (.bytes 2), .recv (.bytes 1), .send, .recv (.bytes 2), .recv (.bytes 1), .send]
  exact Bool.false_ne_true halive

end Hysim.Survival
