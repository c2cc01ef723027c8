import Hysim.Controller

/-!
`controller_run` with its sockets: how it accepts a client, serves it and gives it up.

Every system call is one operation of a program, and so is every access to
`controller.client`; the operations on the pad state are performed as they are. What a call
answers is left open.
-/

namespace Hysim.Connection

open Hysim.Lib.Program Hysim.Packets Hysim.Actuators Hysim.State Hysim.Serve Hysim.Controller

/-! ### System calls -/

structure Errno where
  val : ℕ
  pos : 0 < val
  deriving DecidableEq

def eaddrinuse : Errno := ⟨98, by decide⟩
def etimedout : Errno := ⟨110, by decide⟩

inductive SockOpt
  | keepalive | keepidle | keepintvl | keepcnt
  deriving DecidableEq, Repr

/-- The operations of the controller thread. `listen`, `select` and `accept` are on the
listening socket; a `recv` is told by what the loop waits for. -/
inductive NetOp
  | listen
  | select (timeout : ℕ)
  | accept
  | setsockopt (sockfd : Int) (opt : SockOpt) (value : ℕ)
  | close (fd : Int)
  | recv (fd : Int) (φ : Phase)
  | send (fd : Int) (ack : Ack)
  | loadClient | storeClient (fd : Int)
  | stack
  | pad (o : PadOp)
  deriving DecidableEq

/-- `select` answers how many sockets are ready, `accept` a descriptor, and `stack` what a
buffer holds that was not initialised. -/
@[reducible] def NetOp.Ans : NetOp → Type
  | .listen | .setsockopt _ _ _ | .close _ => Option Errno
  | .select _ | .accept => Except Errno ℕ
  | .recv _ _ => Recv
  | .send _ _ => Unit
  | .loadClient => Int
  | .storeClient _ => Unit
  | .stack => ℕ → UInt8
  | .pad o => o.Ans

abbrev NetM := Prog NetOp NetOp.Ans

abbrev listen : NetM (Option Errno) := .op NetOp.listen
abbrev select (timeout : ℕ) : NetM (Except Errno ℕ) := .op (NetOp.select timeout)
abbrev accept : NetM (Except Errno ℕ) := .op NetOp.accept
abbrev setsockopt (sockfd : Int) (opt : SockOpt) (value : ℕ) : NetM (Option Errno) :=
  .op (NetOp.setsockopt sockfd opt value)
abbrev close (fd : Int) : NetM (Option Errno) := .op (NetOp.close fd)
abbrev recv (fd : Int) (φ : Phase) : NetM Recv := .op (NetOp.recv fd φ)
abbrev send (fd : Int) (ack : Ack) : NetM Unit := .op (NetOp.send fd ack)
abbrev loadClient : NetM Int := .op NetOp.loadClient
abbrev storeClient (fd : Int) : NetM Unit := .op (NetOp.storeClient fd)
abbrev stack : NetM (ℕ → UInt8) := .op NetOp.stack

abbrev padAnswer (o : PadOp) (r : (NetOp.pad o).Ans) : o.Ans := r

def onPad {α : Type} (p : PadM α) : NetM α := p.embed NetOp.pad padAnswer

/-! ### The functions of the controller -/

/-- The defaults of the desktop build. -/
def keepaliveNProbes : ℕ := 2
def keepaliveIntervalSecs : ℕ := 10
def abortTimeout : ℕ := 20

/-- `setsock_keepalive`: the error, `0` if there is none. -/
def setsockKeepalive (sockfd : Int) : NetM ℕ := do
  if let some err ← setsockopt sockfd .keepalive 1 then return err.val
  if let some err ← setsockopt sockfd .keepidle keepaliveIntervalSecs then return err.val
  if let some err ← setsockopt sockfd .keepintvl keepaliveIntervalSecs then return err.val
  if let some err ← setsockopt sockfd .keepcnt keepaliveNProbes then return err.val
  return 0

lemma setsockKeepalive_performs (sockfd : Int) :
    Performs (fun o => ∃ opt value, o = .setsockopt sockfd opt value)
      (setsockKeepalive sockfd) := by
  refine ⟨⟨_, _, rfl⟩, fun alive => ?_⟩
  rcases alive with _ | err
  · refine ⟨⟨_, _, rfl⟩, fun idle => ?_⟩
    rcases idle with _ | err
    · refine ⟨⟨_, _, rfl⟩, fun intvl => ?_⟩
      rcases intvl with _ | err
      · refine ⟨⟨_, _, rfl⟩, fun cnt => ?_⟩
        rcases cnt with _ | err <;> trivial
      · trivial
    · trivial
  · trivial

/-- The end of `controller_accept`: `client` is stored also if there is none. -/
def acceptClient : NetM ℕ := do
  match ← accept with
  | .error err =>
    storeClient (-1)
    return err.val
  | .ok fd =>
    storeClient fd
    let client ← loadClient
    setsockKeepalive client

/-- The wait of `controller_accept` for a client that was connected before: a timeout is an
error on the desktop build. -/
def awaitClient (wasConnected : Bool) : NetM ℕ := do
  if wasConnected then
    match ← select abortTimeout with
    | .error err => return err.val
    | .ok 0 => return etimedout.val
    | .ok _ => acceptClient
  else acceptClient

/-- `controller_accept`: whether a client was connected before is told from the error of
`listen`. -/
def controllerAccept : NetM ℕ := do
  match ← listen with
  | none => awaitClient false
  | some err => if err = eaddrinuse then awaitClient true else return err.val

/-- `controller_client_disconnect`. -/
def controllerClientDisconnect : NetM ℕ := do
  let client ← loadClient
  if client ≥ 0 then
    match ← close client with
    | some err => return err.val
    | none =>
      storeClient (-1)
      return 0
  else return 0

lemma controllerClientDisconnect_performs :
    Performs (fun o => o = .loadClient ∨ (∃ fd, o = .close fd) ∨ o = .storeClient (-1))
      controllerClientDisconnect := by
  refine ⟨.inl rfl, fun client => ?_⟩
  change Performs _ (if client ≥ 0 then _ else _)
  split_ifs with hclient
  · refine ⟨.inr (.inl ⟨_, rfl⟩), fun err => ?_⟩
    rcases err with _ | err
    · exact ⟨.inr (.inr rfl), fun _ => trivial⟩
    · trivial
  · trivial

/-- `controller_recv`. -/
def controllerRecv (φ : Phase) : NetM Recv := do
  let client ← loadClient
  recv client φ

/-- `controller_send`: nothing looks at its result. -/
def controllerSend (ack : Ack) : NetM Unit := do
  let client ← loadClient
  send client ack

def answer : Option Ack → NetM Unit
  | some ack => controllerSend ack
  | none => return ()

/-- The head of the outer loop of `controller_run`. -/
def acceptLoop : NetM Phase := do
  let err ← controllerAccept
  if err ≠ 0 then
    let _ ← controllerClientDisconnect
    return .accepting
  else
    let _ ← onPad (padstateSetConnstatus .connConnected)
    return .header none

/-- What the inner loop does with what it received. -/
def respond (φ : Phase) (stale : ℕ → UInt8) (r : Recv) : NetM Phase :=
  match φ.request stale r with
  | some req => do
    let out ← onPad (handle req)
    answer out.2
    return .header none
  | none =>
    if φ.next r = .accepting then do
      let _ ← controllerClientDisconnect
      let _ ← onPad (padstateSetConnstatus .connReconnecting)
      return .accepting
    else return φ.next r

/-- One `recv` of the inner loop with what follows it. -/
def receiveLoop (φ : Phase) : NetM Phase := do
  let stale ← stack
  let r ← controllerRecv φ
  respond φ stale r

/-- `controller_run` from one `recv` to the next. -/
def controllerRunFrom (φ : Phase) : NetM Phase :=
  if φ = .accepting then acceptLoop else receiveLoop φ

/-! ### The receive loop -/

structure Calls where
  listen : Option Errno
  select : Except Errno ℕ
  accept : Except Errno ℕ
  setsockopt : Option Errno
  close : Option Errno
  recv : Recv
  stack : ℕ → UInt8

structure Wire where
  client : Int
  thread : Solo
  sent : List Ack

def Wire.ans (calls : Calls) : (o : NetOp) → Wire → o.Ans
  | .listen, _ => calls.listen
  | .select _, _ => calls.select
  | .accept, _ => calls.accept
  | .setsockopt _ _ _, _ => calls.setsockopt
  | .close _, _ => calls.close
  | .recv _ _, _ => calls.recv
  | .send _ _, _ => ()
  | .loadClient, w => w.client
  | .storeClient _, _ => ()
  | .stack, _ => calls.stack
  | .pad o, w => solo.ans o w.thread

def Wire.eff : NetOp → Wire → Wire
  | .send _ ack, w => { w with sent := w.sent ++ [ack] }
  | .storeClient fd, w => { w with client := fd }
  | .pad o, w => { w with thread := solo.eff o w.thread }
  | _, w => w

def wire (calls : Calls) : Device NetOp NetOp.Ans Wire := ⟨Wire.ans calls, Wire.eff⟩

section Wire

variable (calls : Calls)

@[simp] lemma wire_ans (o : NetOp) (w : Wire) : (wire calls).ans o w = Wire.ans calls o w := rfl
@[simp] lemma wire_eff (o : NetOp) (w : Wire) : (wire calls).eff o w = Wire.eff o w := rfl

attribute [simp] Wire.ans Wire.eff

@[simp] lemma onPad_run {α : Type} (p : PadM α) (w : Wire) :
    run (wire calls) (onPad p) w =
      ((run solo p w.thread).1, { w with thread := (run solo p w.thread).2 }) :=
  run_embed (D := solo) NetOp.pad padAnswer (wire calls) Wire.thread
    (fun w s => { w with thread := s }) (fun _ _ => rfl) (fun _ => rfl) (fun _ _ _ => rfl)
    (fun _ _ => rfl) (fun _ _ => rfl) p w

@[simp] lemma answer_run (ack : Option Ack) (w : Wire) :
    run (wire calls) (answer ack) w = ((), { w with sent := w.sent ++ ack.toList }) := by
  cases ack <;> simp [answer, controllerSend]

lemma disconnect_run (w : Wire) :
    (run (wire calls) controllerClientDisconnect w).2.thread = w.thread ∧
      (run (wire calls) controllerClientDisconnect w).2.sent = w.sent := by
  by_cases h : w.client ≥ 0
  · rcases hc : calls.close with _ | err <;> simp [controllerClientDisconnect, h, hc]
  · simp [controllerClientDisconnect, h]

lemma receiveLoop_run (φ : Phase) (w : Wire) :
    run (wire calls) (receiveLoop φ) w = run (wire calls) (respond φ calls.stack calls.recv) w := by
  simp [receiveLoop, controllerRecv]

end Wire

/-- **One round of the receive loop** is one step of the loop that is fed with what its calls
of `recv` return. -/
theorem controllerRunFrom_step (env : Surroundings) (stale : Stack) (s : Session) (calls : Calls)
    (client : Int) (h : s.phase ≠ .accepting)
    (hstack : calls.stack = stale s.executed.length) :
    let found := env s.executed.length
    let out := run (wire calls) (controllerRunFrom s.phase)
      ⟨client, ⟨s.pad, found.locks, found.driver⟩, s.sent⟩
    let next := controllerStep env stale s calls.recv
    out.1 = next.phase ∧ out.2.thread.pad = next.pad ∧ out.2.sent = next.sent := by
  intro found out next
  have hn : next = controllerStep env stale s calls.recv := rfl
  have hout : out = run (wire calls) (respond s.phase (stale s.executed.length) calls.recv)
      ⟨client, ⟨s.pad, found.locks, found.driver⟩, s.sent⟩ := by
    simp only [out, controllerRunFrom, if_neg h, receiveLoop_run, hstack]
  rcases hreq : s.phase.request (stale s.executed.length) calls.recv with _ | req
  · rw [controllerStep, if_neg h, hreq] at hn
    by_cases hnext : s.phase.next calls.recv = .accepting
    · simp only [if_pos hnext] at hn
      simp [hout, hn, respond, hreq, hnext, Session.reinitialize, disconnect_run, found]
    · simp only [if_neg hnext] at hn
      simp [hout, hn, respond, hreq, hnext]
  · rw [step_request env stale hreq] at hn
    simp [hout, hn, respond, hreq, Session.execute, serve, found]

/-- A client that is accepted is where a session starts. -/
theorem controllerRunFrom_accept (env : Surroundings) (s : Session) (calls : Calls) (client : Int)
    (fd : ℕ) (hlisten : calls.listen = none) (haccept : calls.accept = .ok fd)
    (hopt : calls.setsockopt = none) :
    let found := env s.executed.length
    let out := run (wire calls) (controllerRunFrom .accepting)
      ⟨client, ⟨s.pad, found.locks, found.driver⟩, s.sent⟩
    let next := s.accept env
    out.1 = next.phase ∧ out.2.thread.pad = next.pad ∧ out.2.sent = next.sent := by
  simp [controllerRunFrom, acceptLoop, controllerAccept, awaitClient, acceptClient,
    setsockKeepalive, hlisten, haccept, hopt, Session.accept]

end Hysim.Connection
