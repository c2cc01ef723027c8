import Hysim.Serve

/-!
The receive loop of `controller_run`, one `recv` at a time.

Header and body are read differently: the header until both of its bytes have arrived, the
body by a single call whose result is not looked at, so that what did not arrive is taken
from the stack.
-/

namespace Hysim.Controller

open Hysim.Lib.Program Hysim.Packets Hysim.State Hysim.Serve

/-! ### What arrives -/

/-- What `recv` returns: the bytes received, none at the end of the stream, or the `errno`
that goes with `-1`. -/
abbrev Recv := Except Int (List UInt8)

def bytesOf : Recv → List UInt8
  | .ok bytes => bytes
  | .error _ => []

@[simp] lemma bytesOf_ok (bs : List UInt8) : bytesOf (.ok bs) = bs := rfl
@[simp] lemma bytesOf_error (e : Int) : bytesOf (.error e) = [] := rfl

/-- The call of `recv` the loop is about to make: for what is missing of the header, or for
the body of a request. After a failed header it is back at accepting a connection. -/
inductive Phase
  | header (type : Option UInt8)
  | actReq
  | armReq
  | accepting
  deriving DecidableEq, Repr

def Phase.asked : Phase → ℕ
  | .header none => 2
  | .header (some _) => 1
  | .actReq => 2
  | .armReq => 1
  | .accepting => 0

/-- The `switch` over a complete header: the body read next, if any. Acknowledgements,
telemetry and invalid headers are reported and left at that. -/
def dispatch (hdr : HeaderP) : Phase :=
  if hdr.type = PacketType.cntrl.val then
    if hdr.subtype = CntrlSubtype.actAck.val ∨ hdr.subtype = CntrlSubtype.armAck.val then
      .header none
    else if hdr.subtype = CntrlSubtype.actReq.val then .actReq
    else if hdr.subtype = CntrlSubtype.armReq.val then .armReq
    else .header none
  else .header none

def Phase.IsBody (φ : Phase) : Prop := φ = .actReq ∨ φ = .armReq

instance (φ : Phase) : Decidable φ.IsBody := by unfold Phase.IsBody; infer_instance

lemma dispatch_cases (hdr : HeaderP) : dispatch hdr = .header none ∨ (dispatch hdr).IsBody := by
  unfold dispatch Phase.IsBody
  split_ifs <;> simp

lemma dispatch_ne_accepting (hdr : HeaderP) : dispatch hdr ≠ .accepting := by
  rcases dispatch_cases hdr with h | h | h <;> rw [h] <;> simp

def Phase.next : Phase → Recv → Phase
  | .header none, r =>
    match bytesOf r with
    | [] => .accepting
    | [type] => .header (some type)
    | type :: subtype :: _ => dispatch ⟨type, subtype⟩
  | .header (some type), r =>
    match bytesOf r with
    | [] => .accepting
    | subtype :: _ => dispatch ⟨type, subtype⟩
  | .actReq, _ => .header none
  | .armReq, _ => .header none
  | .accepting, _ => .accepting

lemma next_whole {r : Recv} {type subtype : UInt8} (h : bytesOf r = [type, subtype]) :
    Phase.next (.header none) r = dispatch ⟨type, subtype⟩ := by
  simp [Phase.next, h]

lemma next_of_body {φ : Phase} (hφ : φ.IsBody) (r : Recv) : φ.next r = .header none := by
  rcases hφ with rfl | rfl <;> rfl

/-- The request a `recv` completes: a byte of the body that was not received is whatever
the stack holds there. -/
def Phase.request (stack : ℕ → UInt8) : Phase → Recv → Option Request
  | .actReq, r => some (.act ⟨(bytesOf r).getD 0 (stack 0), (bytesOf r).getD 1 (stack 1)⟩)
  | .armReq, r => some (.arm ⟨(bytesOf r).getD 0 (stack 0)⟩)
  | .header _, _ => none
  | .accepting, _ => none

/-! ### The loop -/

/-- A connection in progress: the requests executed, with their results, and the
acknowledgements sent. -/
structure Session where
  phase : Phase
  pad : PadState
  executed : List (Request × Int)
  sent : List Ack

def Session.requests (s : Session) : List Request := s.executed.map Prod.fst

/-- The results of the lock operations and of the driver, for each request in turn. -/
abbrev Surroundings := ℕ → Env

def calm : Surroundings := fun _ => ⟨[], 0⟩

/-- What the stack holds where the body of each request in turn is received. -/
abbrev Stack := ℕ → ℕ → UInt8

variable (env : Surroundings) (stack : Stack)

def Session.execute (s : Session) (req : Request) : Session :=
  let out := serve (env s.executed.length) s.pad req
  { phase := .header none
    pad := out.2
    executed := s.executed ++ [(req, out.1.1)]
    sent := s.sent ++ out.1.2.toList }

/-- The connection is given up: the client is disconnected and the status recorded. -/
def Session.reinitialize (s : Session) : Session :=
  let found := env s.executed.length
  { s with
    phase := .accepting
    pad := (run solo (padstateSetConnstatus .connReconnecting)
      ⟨s.pad, found.locks, found.driver⟩).2.pad }

def Session.accept (s : Session) : Session :=
  let found := env s.executed.length
  { s with
    phase := .header none
    pad := (run solo (padstateSetConnstatus .connConnected)
      ⟨s.pad, found.locks, found.driver⟩).2.pad }

/-- One `recv` of the loop with what follows it; none is made while accepting. -/
def controllerStep (s : Session) (r : Recv) : Session :=
  if s.phase = .accepting then s
  else
    match s.phase.request (stack s.executed.length) r with
    | some req => s.execute env req
    | none =>
      if s.phase.next r = .accepting then s.reinitialize env
      else { s with phase := s.phase.next r }

/-- The loop fed with what its calls of `recv` return. -/
def controllerRun (s : Session) (tape : List Recv) : Session :=
  tape.foldl (controllerStep env stack) s

def connected (pad : PadState) : Session := Session.accept env ⟨.accepting, pad, [], []⟩

@[simp] lemma connected_phase (pad : PadState) : (connected env pad).phase = .header none := rfl
@[simp] lemma connected_requests (pad : PadState) : (connected env pad).requests = [] := rfl
@[simp] lemma connected_sent (pad : PadState) : (connected env pad).sent = [] := rfl

@[simp] lemma controllerRun_nil (s : Session) : controllerRun env stack s [] = s := rfl

@[simp] lemma controllerRun_cons (s : Session) (r : Recv) (tape : List Recv) :
    controllerRun env stack s (r :: tape) =
      controllerRun env stack (controllerStep env stack s r) tape := rfl

lemma controllerRun_append (s : Session) (t u : List Recv) :
    controllerRun env stack s (t ++ u) =
      controllerRun env stack (controllerRun env stack s t) u := by
  simp [controllerRun, List.foldl_append]

@[simp] lemma execute_phase (s : Session) (req : Request) :
    (s.execute env req).phase = .header none := rfl

@[simp] lemma execute_requests (s : Session) (req : Request) :
    (s.execute env req).requests = s.requests ++ [req] := by
  simp [Session.execute, Session.requests]

/-- A `recv` that completes a request executes it. -/
lemma step_request {s : Session} {r : Recv} {req : Request}
    (h : s.phase.request (stack s.executed.length) r = some req) :
    controllerStep env stack s r = s.execute env req := by
  have hacc : s.phase ≠ .accepting := by
    intro hacc
    rw [hacc] at h
    cases h
  rw [controllerStep, if_neg hacc, h]

/-- A `recv` that completes no request executes and sends nothing. -/
lemma step_no_request {s : Session} {r : Recv}
    (h : s.phase.request (stack s.executed.length) r = none) :
    (controllerStep env stack s r).executed = s.executed ∧
      (controllerStep env stack s r).sent = s.sent := by
  rw [controllerStep, h]
  split_ifs <;> exact ⟨rfl, rfl⟩

lemma step_body {s : Session} (h : s.phase.IsBody) (r : Recv) :
    ∃ req, s.phase.request (stack s.executed.length) r = some req ∧
      controllerStep env stack s r = s.execute env req := by
  have hreq : ∃ req, s.phase.request (stack s.executed.length) r = some req := by
    rcases h with h | h <;> rw [h] <;> exact ⟨_, rfl⟩
  obtain ⟨req, hreq⟩ := hreq
  exact ⟨req, hreq, step_request env stack hreq⟩

lemma step_header_failed {s : Session} {t : Option UInt8} {r : Recv} (hs : s.phase = .header t)
    (h : bytesOf r = []) : controllerStep env stack s r = s.reinitialize env := by
  have hreq : s.phase.request (stack s.executed.length) r = none := by rw [hs]; rfl
  have hacc : s.phase ≠ .accepting := by rw [hs]; simp
  have hnext : s.phase.next r = .accepting := by
    rw [hs]
    cases t <;> simp [Phase.next, h]
  rw [controllerStep, if_neg hacc, hreq]
  simp only [if_pos hnext]

lemma step_header {s : Session} {t : Option UInt8} {r : Recv} (hs : s.phase = .header t)
    (h : s.phase.next r ≠ .accepting) :
    controllerStep env stack s r = { s with phase := s.phase.next r } := by
  have hreq : s.phase.request (stack s.executed.length) r = none := by rw [hs]; rfl
  have hacc : s.phase ≠ .accepting := by rw [hs]; simp
  rw [controllerStep, if_neg hacc, hreq]
  simp only [if_neg h]

lemma step_header_whole {s : Session} {r : Recv} {type subtype : UInt8}
    (hs : s.phase = .header none) (h : bytesOf r = [type, subtype]) :
    controllerStep env stack s r = { s with phase := dispatch ⟨type, subtype⟩ } := by
  have hnext : s.phase.next r = dispatch ⟨type, subtype⟩ := by rw [hs, next_whole h]
  rw [step_header env stack hs (hnext ▸ dispatch_ne_accepting _), hnext]

lemma run_header_body {hdr : Recv} (body : Recv) (rest : List Recv) {type subtype : UInt8}
    {s : Session} (hs : s.phase = .header none) (hhdr : bytesOf hdr = [type, subtype])
    (hb : (dispatch ⟨type, subtype⟩).IsBody) :
    ∃ req, (dispatch ⟨type, subtype⟩).request (stack s.executed.length) body = some req ∧
      controllerRun env stack s (hdr :: body :: rest) =
        controllerRun env stack (s.execute env req) rest := by
  have hb' : Session.phase { s with phase := dispatch ⟨type, subtype⟩ } |>.IsBody := hb
  obtain ⟨req, hreq, hstep⟩ := step_body env stack hb' body
  refine ⟨req, hreq, ?_⟩
  rw [controllerRun_cons, step_header_whole env stack hs hhdr, controllerRun_cons, hstep]
  rfl

lemma step_executed (s : Session) (r : Recv) :
    s.executed <+: (controllerStep env stack s r).executed := by
  rcases h : s.phase.request (stack s.executed.length) r with _ | req
  · rw [(step_no_request env stack h).1]
  · rw [step_request env stack h]
    exact List.prefix_append _ _

lemma run_executed (s : Session) (tape : List Recv) :
    s.executed <+: (controllerRun env stack s tape).executed := by
  induction tape generalizing s with
  | nil => exact List.prefix_rfl
  | cons r tape ih => exact (step_executed env stack s r).trans (ih _)

lemma run_requests (s : Session) (tape : List Recv) :
    s.requests <+: (controllerRun env stack s tape).requests :=
  (run_executed env stack s tape).map _

lemma run_accepting {s : Session} (h : s.phase = .accepting) (tape : List Recv) :
    controllerRun env stack s tape = s := by
  induction tape with
  | nil => rfl
  | cons r tape ih =>
    rw [controllerRun_cons, controllerStep, if_pos h, ih]

def Session.executeAll (s : Session) (reqs : List Request) : Session :=
  reqs.foldl (Session.execute env) s

@[simp] lemma executeAll_nil (s : Session) : s.executeAll env [] = s := rfl

@[simp] lemma executeAll_cons (s : Session) (req : Request) (reqs : List Request) :
    s.executeAll env (req :: reqs) = (s.execute env req).executeAll env reqs := rfl

lemma executeAll_phase {s : Session} (h : s.phase = .header none) (reqs : List Request) :
    (s.executeAll env reqs).phase = .header none := by
  induction reqs generalizing s with
  | nil => exact h
  | cons req reqs ih => exact ih rfl

lemma executeAll_requests (s : Session) (reqs : List Request) :
    (s.executeAll env reqs).requests = s.requests ++ reqs := by
  induction reqs generalizing s with
  | nil => simp
  | cons req reqs ih =>
    rw [executeAll_cons, ih, execute_requests, List.append_assoc, List.singleton_append]

/-! ### Requests as they are sent -/

def Request.packet : Request → Packet
  | .act req => .actReq req
  | .arm req => .armReq req

def encodeRequests (reqs : List Request) : List UInt8 := encode (reqs.map Request.packet)

@[simp] lemma encodeRequests_nil : encodeRequests [] = [] := rfl

lemma encodeRequests_cons (req : Request) (reqs : List Request) :
    encodeRequests (req :: reqs) = (Request.packet req).bytes ++ encodeRequests reqs := by
  simp [encodeRequests]

lemma act_bytes (req : ActReqP) :
    (Request.packet (.act req)).bytes = [0, 0, req.id, req.state] := rfl

lemma arm_bytes (req : ArmReqP) : (Request.packet (.arm req)).bytes = [0, 2, req.level] := rfl

end Hysim.Controller
