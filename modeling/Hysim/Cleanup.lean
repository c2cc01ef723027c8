import Hysim.Connection
import Hysim.Effects
import Hysim.Lib.Runs

/-!
The controller thread from its start to its cancellation: `controller_init`, `controller_run` and
`controller_cleanup` in `controller.c`.

A socket that is open is known to the thread, as the one it listens on or that of the client,
unless closing it has failed. So wherever the thread is cancelled, its cleanup handler closes all
that can be closed, and nothing twice of which the first `close` has succeeded.
-/

namespace Hysim.Cleanup

open Hysim.Lib.Program Hysim.Lib.Threads Hysim.Lib.Runs Hysim.Serve Hysim.Controller
open Hysim.Connection
open Hysim.State (PadM padstateSetConnstatus)

/-! ### The thread -/

/-- The operations of the thread: those of its loops, and those on the socket it listens on. -/
inductive LifeOp
  | net (o : NetOp)
  | socket
  | setReuseaddr (fd : Int)
  | bind (fd : Int)
  | loadSock
  | storeSock (fd : Int)

@[reducible] def LifeOp.Ans : LifeOp → Type
  | .net o => o.Ans
  | .socket => Except Errno ℕ
  | .setReuseaddr _ | .bind _ => Option Errno
  | .loadSock => Int
  | .storeSock _ => Unit

abbrev LifeM := Prog LifeOp LifeOp.Ans

abbrev socket : LifeM (Except Errno ℕ) := .op LifeOp.socket
abbrev setReuseaddr (fd : Int) : LifeM (Option Errno) := .op (LifeOp.setReuseaddr fd)
abbrev bind (fd : Int) : LifeM (Option Errno) := .op (LifeOp.bind fd)
abbrev loadSock : LifeM Int := .op LifeOp.loadSock
abbrev storeSock (fd : Int) : LifeM Unit := .op (LifeOp.storeSock fd)

abbrev netAnswer (o : NetOp) (r : (LifeOp.net o).Ans) : o.Ans := r

def onNet {α : Type} (p : NetM α) : LifeM α := p.embed LifeOp.net netAnswer

/-- `controller_init`: the error, `0` if there is none. -/
def controllerInit : LifeM ℕ := do
  match ← socket with
  | .error err =>
    storeSock (-1)
    return err.val
  | .ok fd =>
    storeSock fd
    let sock ← loadSock
    if let some err ← setReuseaddr sock then return err.val
    onNet (storeClient (-1))
    let sock ← loadSock
    if let some err ← bind sock then return err.val
    return 0

/-- `controller_sock_disconnect`. -/
def controllerSockDisconnect : LifeM ℕ := do
  let sock ← loadSock
  if sock ≥ 0 then
    match ← onNet (close sock) with
    | some err => return err.val
    | none =>
      storeSock (-1)
      return 0
  else return 0

/-- `controller_cleanup`. -/
def controllerCleanup : LifeM Unit := do
  let _ ← onNet controllerClientDisconnect
  let _ ← controllerSockDisconnect
  return ()

/-- `controller_run` ends the process if the initialisation fails. -/
inductive Label
  | starting
  | running (φ : Phase)
  | exited

/-- `controller_run`, from one label to the next. -/
def controllerRun : Label → LifeM Label
  | .starting => do
    let err ← controllerInit
    if err ≠ 0 then return .exited
    else return .running .accepting
  | .running φ => do
    let φ' ← onNet (controllerRunFrom φ)
    return .running φ'
  | .exited => return .exited

/-! ### The sockets -/

/-- `controller.sock` and `controller.client`, the sockets that are open, and those of which a
`close` has failed since they were made. -/
structure Life where
  sock : Int
  client : Int
  opened : List Int
  unclosed : List Int

/-- A new socket is none that is open. Apart from that the calls answer anything, and so do the
loads of the pad state. -/
def Life.Answers (s : Life) : (o : LifeOp) → o.Ans → Prop
  | .socket, .ok fd | .net .accept, .ok fd => (fd : Int) ∉ s.opened
  | .loadSock, r => r = s.sock
  | .net .loadClient, r => r = s.client
  | _, _ => True

def Life.made (s : Life) (fd : ℕ) : Life :=
  { s with opened := (fd : Int) :: s.opened, unclosed := s.unclosed.filter (· ≠ fd) }

def Life.released (s : Life) (fd : Int) : Life := { s with opened := s.opened.filter (· ≠ fd) }

/-- What an operation leaves. Whether a `close` that fails releases the socket depends on the
system. -/
def Life.Leaves (s : Life) : (o : LifeOp) → o.Ans → Life → Prop
  | .socket, .ok fd, s' | .net .accept, .ok fd, s' => s' = s.made fd
  | .net (.close fd), none, s' => s' = s.released fd
  | .net (.close fd), some _, s' => ∃ opened ∈ [s.opened, (s.released fd).opened],
    s' = { s with opened := opened, unclosed := fd :: s.unclosed }
  | .storeSock fd, _, s' => s' = { s with sock := fd }
  | .net (.storeClient fd), _, s' => s' = { s with client := fd }
  | _, _, s' => s' = s

def kernel : Machine Unit LifeOp Life LifeOp.Ans :=
  fun _ o s r s' => s.Answers o r ∧ s.Leaves o r s'

abbrev Thread := Config Unit LifeOp Life Label LifeOp.Ans

abbrev Trace := List (Moment Unit LifeOp Life LifeOp.Ans)

def start : Thread := ⟨⟨-1, -1, [], []⟩, fun _ => .ret .starting⟩

def Lives : Unit → Label → LifeM Label → Prop := fun _ l p => p = controllerRun l

/-! ### What the thread knows -/

/-- The socket it listens on is open, and sockets have numbers from `0` on. -/
structure Listens (s : Life) : Prop where
  nonneg : ∀ fd ∈ s.opened, 0 ≤ fd
  sock : 0 ≤ s.sock → s.sock ∈ s.opened

/-- There is no client the thread does not know of, and it may forget the one it knows. -/
structure Free (s : Life) : Prop extends Listens s where
  client : 0 ≤ s.client → (s.client ∈ s.opened ∨ s.client ∈ s.unclosed) ∧ s.client ≠ s.sock
  known : ∀ fd ∈ s.opened, fd = s.sock ∨ fd ∈ s.unclosed

/-- The thread knows every socket that is open, unless closing it has failed. -/
structure Tidy (s : Life) : Prop extends Listens s where
  client : 0 ≤ s.client → (s.client ∈ s.opened ∨ s.client ∈ s.unclosed) ∧ s.client ≠ s.sock
  known : ∀ fd ∈ s.opened, fd = s.sock ∨ fd = s.client ∨ fd ∈ s.unclosed

lemma Free.tidy {s : Life} (h : Free s) : Tidy s :=
  ⟨h.toListens, h.client, fun fd hfd => (h.known fd hfd).imp_right .inr⟩

/-- All that is open could not be closed. -/
def Left (s : Life) : Prop := ∀ fd ∈ s.opened, fd ∈ s.unclosed

/-- A socket that is closed is open, unless a `close` of it has failed before. -/
def Closes (s : Life) (o : LifeOp) : Prop :=
  ∀ fd, o = .net (.close fd) → fd ∈ s.opened ∨ fd ∈ s.unclosed

/-- A store in one of the variables is no call. -/
def LifeOp.IsCall : LifeOp → Prop
  | .storeSock _ | .net (.storeClient _) => False
  | _ => True

/-- What holds where an operation is due: at a call the thread can be cancelled. -/
def Due (s : Life) (o : LifeOp) : Prop := Closes s o ∧ (o.IsCall → Tidy s)

abbrev Ends {α : Type} (p : LifeM α) (post : α → Life → Prop) (s : Life) : Prop :=
  Wp (kernel ()) Due p post s

def Idle : LifeOp → Prop
  | .socket | .storeSock _ | .net .accept | .net (.close _) | .net (.storeClient _) => False
  | _ => True

lemma due_of_ne {s : Life} {o : LifeOp} (ho : ∀ fd, o ≠ .net (.close fd))
    (h : o.IsCall → Tidy s) : Due s o :=
  ⟨fun fd hclose => absurd hclose (ho fd), h⟩

lemma due_of_idle {s : Life} {o : LifeOp} (ho : Idle o) (h : Tidy s) : Due s o := by
  refine due_of_ne ?_ fun _ => h
  rintro fd rfl
  exact ho

lemma eq_of_idle {s s' : Life} {o : LifeOp} (ho : Idle o) {r : o.Ans} (h : s.Leaves o r s') :
    s' = s := by
  cases o with
  | socket | storeSock => exact ho.elim
  | setReuseaddr | bind | loadSock => exact h
  | net o => cases o <;> first | exact ho.elim | exact h

section Functions

variable {s : Life} {α : Type}

lemma ends_idle {p : LifeM α} (hp : Performs Idle p) (h : Tidy s) :
    Ends p (fun _ y => y = s) s := by
  refine wp_of_performs (I := (· = s)) ?_ ?_ hp rfl
  · rintro _ o ho rfl
    exact due_of_idle ho h
  · rintro o _ r _ ho rfl ⟨-, hleaves⟩
    exact eq_of_idle ho hleaves

lemma performs_onNet {Q : NetOp → Prop} {p : NetM α} (hp : Performs Q p)
    (hQ : ∀ o, Q o → Idle (.net o)) : Performs Idle (onNet p) := by
  refine (hp.embed LifeOp.net netAnswer).mono ?_
  rintro _ ⟨o, ho, rfl⟩
  exact hQ o ho

lemma ends_loadClient {f : Int → NetM α} {post : α → Life → Prop} (h : Tidy s)
    (hf : Ends (onNet (f s.client)) post s) : Ends (onNet (loadClient >>= f)) post s := by
  refine ⟨due_of_idle trivial h, ?_⟩
  rintro _ _ ⟨rfl, rfl⟩
  exact hf

lemma ends_loadSock {f : Int → LifeM α} {post : α → Life → Prop} (h : Tidy s)
    (hf : Ends (f s.sock) post s) : Ends (loadSock >>= f) post s := by
  refine Wp.op_bind (due_of_idle trivial h) ?_
  rintro _ _ ⟨rfl, rfl⟩
  exact hf

lemma ends_onNet_bind {β : Type} {p : NetM α} {f : α → NetM β} {post : β → Life → Prop}
    (h : Ends (onNet p) (fun a y => Ends (onNet (f a)) post y) s) :
    Ends (onNet (p >>= f)) post s := by
  rw [onNet, embed_bind]
  exact Wp.bind h

lemma ends_onPad (p : PadM α) (h : Tidy s) : Ends (onNet (onPad p)) (fun _ y => y = s) s := by
  refine ends_idle (performs_onNet ((performs_true p).embed NetOp.pad padAnswer) ?_) h
  rintro _ ⟨o, -, rfl⟩
  trivial

lemma ends_setsockKeepalive (sockfd : Int) (h : Tidy s) :
    Ends (onNet (setsockKeepalive sockfd)) (fun _ y => y = s) s := by
  refine ends_idle (performs_onNet (setsockKeepalive_performs sockfd) ?_) h
  rintro _ ⟨opt, value, rfl⟩
  trivial

lemma ends_answer (ack : Option Ack) (h : Tidy s) :
    Ends (onNet (answer ack)) (fun _ y => y = s) s := by
  cases ack with
  | none => rfl
  | some ack =>
    refine ends_loadClient h ⟨due_of_idle trivial h, ?_⟩
    rintro _ y ⟨-, hy⟩
    exact hy

lemma Free.accepted {fd : ℕ} (h : Free s) (hfresh : (fd : Int) ∉ s.opened) :
    Tidy { s.made fd with client := fd } := by
  refine ⟨⟨?_, fun hsock => List.mem_cons_of_mem _ (h.sock hsock)⟩, ?_, ?_⟩
  · exact List.forall_mem_cons.mpr ⟨Int.natCast_nonneg fd, h.nonneg⟩
  · refine fun _ => ⟨.inl List.mem_cons_self, fun hsame => ?_⟩
    have hsock : (fd : Int) = s.sock := hsame
    have hopened := h.sock (hsock ▸ Int.natCast_nonneg fd)
    exact hfresh (hsock ▸ hopened)
  · refine List.forall_mem_cons.mpr ⟨.inr (.inl rfl), fun other hother => ?_⟩
    refine (h.known other hother).imp_right fun hunclosed => .inr ?_
    have hne : other ≠ fd := fun hsame => hfresh (hsame ▸ hother)
    exact List.mem_filter.mpr ⟨hunclosed, by simpa using hne⟩

lemma Free.none (h : Free s) : Free { s with client := -1 } :=
  ⟨⟨h.nonneg, h.sock⟩, fun (hclient : 0 ≤ (-1 : Int)) => absurd hclient (by decide), h.known⟩

lemma ends_acceptClient (h : Free s) : Ends (onNet acceptClient) (fun _ y => Tidy y) s := by
  refine ⟨due_of_ne nofun fun _ => h.tidy, ?_⟩
  rintro (err | fd) y ⟨hfresh, hy⟩
  · obtain rfl : y = s := hy
    refine ⟨due_of_ne nofun False.elim, ?_⟩
    rintro - _ ⟨-, rfl⟩
    exact h.none.tidy
  obtain rfl : y = s.made fd := hy
  refine ⟨due_of_ne nofun False.elim, ?_⟩
  rintro - _ ⟨-, rfl⟩
  have htidy := h.accepted hfresh
  refine ends_loadClient htidy ((ends_setsockKeepalive _ htidy).mono ?_)
  rintro _ _ rfl
  exact htidy

lemma ends_awaitClient (wasConnected : Bool) (h : Free s) :
    Ends (onNet (awaitClient wasConnected)) (fun _ y => Tidy y) s := by
  cases wasConnected with
  | false => exact ends_acceptClient h
  | true =>
    refine ⟨due_of_idle trivial h.tidy, ?_⟩
    rintro (err | n) _ ⟨-, rfl⟩
    · exact h.tidy
    · cases n with
      | zero => exact h.tidy
      | succ n => exact ends_acceptClient h

lemma ends_controllerAccept (h : Free s) :
    Ends (onNet controllerAccept) (fun _ y => Tidy y) s := by
  refine ⟨due_of_idle trivial h.tidy, ?_⟩
  rintro (_ | err) _ ⟨-, rfl⟩
  · exact ends_awaitClient false h
  · change Ends (onNet (if err = eaddrinuse then _ else _)) _ _
    split_ifs with hused
    · exact ends_awaitClient true h
    · exact h.tidy

lemma Tidy.closed (h : Tidy s) (hclient : 0 ≤ s.client) :
    Free { s.released s.client with client := -1 } := by
  refine ⟨⟨fun fd hfd => h.nonneg fd (List.mem_of_mem_filter hfd), fun hsock => ?_⟩,
    fun (hnone : 0 ≤ (-1 : Int)) => absurd hnone (by decide), fun fd hfd => ?_⟩
  · have hne : s.sock ≠ s.client := (h.client hclient).2.symm
    exact List.mem_filter.mpr ⟨h.sock hsock, decide_eq_true hne⟩
  · obtain ⟨hopened, hne⟩ := List.mem_filter.mp hfd
    rcases h.known fd hopened with hsock | hsame | hunclosed
    · exact .inl hsock
    · exact absurd hsame (by simpa using hne)
    · exact .inr hunclosed

lemma mem_opened {fd : Int} {opened : List Int}
    (h : opened ∈ [s.opened, (s.released fd).opened]) :
    (∀ x ∈ opened, x ∈ s.opened) ∧ ∀ x ∈ s.opened, x ≠ fd → x ∈ opened := by
  rcases List.mem_pair.mp h with rfl | rfl
  · exact ⟨fun x hx => hx, fun x hx _ => hx⟩
  · exact ⟨fun x hx => List.mem_of_mem_filter hx,
      fun x hx hne => List.mem_filter.mpr ⟨hx, by simpa using hne⟩⟩

lemma Tidy.unclosed (h : Tidy s) (hclient : 0 ≤ s.client) {opened : List Int}
    (hopened : opened ∈ [s.opened, (s.released s.client).opened]) :
    Free { s with opened := opened, unclosed := s.client :: s.unclosed } := by
  obtain ⟨hold, hothers⟩ := mem_opened hopened
  have hne := (h.client hclient).2
  refine ⟨⟨fun fd hfd => h.nonneg fd (hold fd hfd),
    fun hsock => hothers _ (h.sock hsock) hne.symm⟩,
    fun _ => ⟨.inr List.mem_cons_self, hne⟩, fun fd hfd => ?_⟩
  rcases h.known fd (hold fd hfd) with hsock | hsame | hunclosed
  · exact .inl hsock
  · exact .inr (hsame ▸ List.mem_cons_self)
  · exact .inr (List.mem_cons_of_mem _ hunclosed)

lemma Tidy.vacant (h : Tidy s) (hclient : ¬ s.client ≥ 0) : Free s := by
  refine ⟨h.toListens, h.client, fun fd hfd => ?_⟩
  rcases h.known fd hfd with hsock | hsame | hunclosed
  · exact .inl hsock
  · exact absurd (hsame ▸ h.nonneg fd hfd) hclient
  · exact .inr hunclosed

lemma ends_clientDisconnect (h : Tidy s) :
    Ends (onNet controllerClientDisconnect) (fun _ y => Free y) s := by
  refine ends_loadClient h ?_
  split_ifs with hclient
  · refine ⟨⟨fun fd hclose => ?_, fun _ => h⟩, ?_⟩
    · cases hclose
      exact (h.client hclient).1
    · rintro (_ | err) y ⟨-, hy⟩
      · obtain rfl : y = s.released s.client := hy
        refine ⟨due_of_ne nofun False.elim, ?_⟩
        rintro - _ ⟨-, rfl⟩
        exact h.closed hclient
      · obtain ⟨opened, hopened, rfl⟩ := hy
        exact h.unclosed hclient hopened
  · exact h.vacant hclient

lemma ends_sockDisconnect (h : Free s) : Ends controllerSockDisconnect (fun _ y => Left y) s := by
  refine ends_loadSock h.tidy ?_
  split_ifs with hsock
  · refine ⟨⟨fun fd hclose => ?_, fun _ => h.tidy⟩, ?_⟩
    · cases hclose
      exact .inl (h.sock hsock)
    · rintro (_ | err) y ⟨-, hy⟩
      · obtain rfl : y = s.released s.sock := hy
        refine ⟨due_of_ne nofun False.elim, ?_⟩
        rintro - _ ⟨-, rfl⟩
        intro fd hfd
        obtain ⟨hopened, hne⟩ := List.mem_filter.mp hfd
        exact (h.known fd hopened).resolve_left (by simpa using hne)
      · obtain ⟨opened, hopened, rfl⟩ := hy
        intro fd hfd
        rcases h.known fd ((mem_opened hopened).1 fd hfd) with hsame | hunclosed
        · exact hsame ▸ List.mem_cons_self
        · exact List.mem_cons_of_mem _ hunclosed
  · intro fd hfd
    refine (h.known fd hfd).resolve_left fun hsame => ?_
    exact hsock (hsame ▸ h.nonneg fd hfd)

lemma ends_cleanup (h : Tidy s) : Ends controllerCleanup (fun _ y => Left y) s := by
  refine Wp.bind ((ends_clientDisconnect h).mono fun _ y hy => ?_)
  exact Wp.bind ((ends_sockDisconnect hy).mono fun _ _ hz => hz)

def Rest (φ : Phase) (s : Life) : Prop := if φ = .accepting then Free s else Tidy s

lemma Tidy.rest (h : Tidy s) {φ : Phase} (hφ : φ ≠ .accepting) : Rest φ s := by
  rw [Rest, if_neg hφ]
  exact h

lemma ends_acceptLoop (h : Free s) : Ends (onNet acceptLoop) Rest s := by
  refine ends_onNet_bind ((ends_controllerAccept h).mono fun err y hy => ?_)
  split_ifs with herr
  · exact ends_onNet_bind ((ends_clientDisconnect hy).mono fun _ _ hz => hz)
  · refine ends_onNet_bind ((ends_onPad _ hy).mono ?_)
    rintro _ _ rfl
    exact hy.rest Phase.noConfusion

lemma ends_respond (φ : Phase) (stale : ℕ → UInt8) (r : Recv) (h : Tidy s) :
    Ends (onNet (respond φ stale r)) Rest s := by
  unfold respond
  rcases φ.request stale r with _ | req
  · dsimp only
    split_ifs with hnext
    · refine ends_onNet_bind ((ends_clientDisconnect h).mono fun _ y hy => ?_)
      refine ends_onNet_bind ((ends_onPad _ hy.tidy).mono ?_)
      rintro _ _ rfl
      exact hy
    · exact h.rest hnext
  · refine ends_onNet_bind ((ends_onPad _ h).mono ?_)
    rintro out _ rfl
    refine ends_onNet_bind ((ends_answer out.2 h).mono ?_)
    rintro _ _ rfl
    exact h.rest Phase.noConfusion

lemma ends_receiveLoop (φ : Phase) (h : Tidy s) : Ends (onNet (receiveLoop φ)) Rest s := by
  have hrecv (stale : ℕ → UInt8) : Ends (onNet (recv s.client φ))
      (fun r y => Ends (onNet (respond φ stale r)) Rest y) s := by
    refine ⟨due_of_idle trivial h, ?_⟩
    rintro r y ⟨-, hy⟩
    obtain rfl : y = s := hy
    exact ends_respond φ stale r h
  refine ⟨due_of_idle trivial h, ?_⟩
  rintro stale y ⟨-, hy⟩
  obtain rfl : y = s := hy
  exact ends_onNet_bind (p := controllerRecv φ) (ends_loadClient h (hrecv stale))

lemma ends_controllerRunFrom {φ : Phase} (h : Rest φ s) :
    Ends (onNet (controllerRunFrom φ)) Rest s := by
  unfold controllerRunFrom
  unfold Rest at h
  split_ifs at h ⊢ with hφ
  · exact ends_acceptLoop h
  · exact ends_receiveLoop φ h

def At : Label → Life → Prop
  | .starting, s => s = ⟨-1, -1, [], []⟩
  | .running φ, s => Rest φ s
  | .exited, _ => True

lemma free_listening (fd : ℕ) (client : Int) (hclient : client < 0) :
    Free ⟨fd, client, [(fd : Int)], []⟩ := by
  refine ⟨⟨?_, fun _ => List.mem_cons_self⟩, fun hnonneg => absurd hnonneg (Int.not_le.mpr hclient),
    fun other hother => .inl (List.mem_singleton.mp hother)⟩
  intro other hother
  rw [List.mem_singleton.mp hother]
  exact Int.natCast_nonneg fd

lemma ends_controllerInit :
    Ends controllerInit (fun err y => err = 0 → Free y) ⟨-1, -1, [], []⟩ := by
  have hnone : Tidy ⟨-1, -1, [], []⟩ :=
    ⟨⟨by simp, by simp⟩, by simp, by simp⟩
  refine Wp.op_bind (due_of_ne nofun fun _ => hnone) ?_
  rintro (err | fd) y ⟨-, hy⟩
  · refine Wp.op_bind (due_of_ne nofun False.elim) ?_
    rintro - _ -
    exact fun herr => absurd herr err.pos.ne'
  obtain rfl : y = ⟨-1, -1, [(fd : Int)], []⟩ := hy
  refine Wp.op_bind (due_of_ne nofun False.elim) ?_
  rintro - _ ⟨-, rfl⟩
  have hfree : Free ⟨fd, -1, [(fd : Int)], []⟩ := free_listening fd (-1) (by decide)
  refine ends_loadSock hfree.tidy (Wp.op_bind (due_of_idle trivial hfree.tidy) ?_)
  rintro (_ | err) _ ⟨-, rfl⟩
  · refine ⟨due_of_ne nofun False.elim, ?_⟩
    rintro - _ ⟨-, rfl⟩
    refine ends_loadSock hfree.tidy (Wp.op_bind (due_of_idle trivial hfree.tidy) ?_)
    rintro (_ | err) _ ⟨-, rfl⟩
    · exact fun _ => hfree
    · exact fun herr => absurd herr err.pos.ne'
  · exact fun herr => absurd herr err.pos.ne'

lemma ends_controllerRun (l : Label) (h : At l s) : Ends (controllerRun l) At s := by
  cases l with
  | starting =>
    obtain rfl : s = ⟨-1, -1, [], []⟩ := h
    refine Wp.bind (ends_controllerInit.mono fun err y hy => ?_)
    split_ifs with herr
    · trivial
    · exact hy (not_not.mp herr)
  | running φ => exact Wp.bind ((ends_controllerRunFrom h).mono fun _ _ hy => hy)
  | exited => trivial

end Functions

/-! ### Cancelled -/

lemma due_of_run {t : Trace} {c : Thread} (hrun : Run kernel Lives start t c) {o : LifeOp}
    {k : o.Ans → LifeM Label} (hcall : c.prog () = .call o k) : Due c.shared o := by
  obtain ⟨-, hwp⟩ := wp_of_run (J := fun _ _ => True)
    (fun l p s hp hs => hp ▸ ends_controllerRun l hs) (fun _ _ _ _ _ _ _ _ => trivial)
    (show Ends (start.prog ()) At start.shared from rfl) trivial hrun
  rw [hcall] at hwp
  exact hwp.1

/-- **Wherever it is cancelled, the thread leaves no socket behind.** Whatever its calls answer,
the controller thread closes only sockets that are open or of which a `close` has failed before;
and at any of its calls, were it cancelled there, so does the cleanup handler, and what is open
behind it is sockets of which a `close` has failed. -/
theorem cancelled_of_run {t : Trace} {c : Thread} (hrun : Run kernel Lives start t c) {o : LifeOp}
    {k : o.Ans → LifeM Label} (hcall : c.prog () = .call o k) :
    Closes c.shared o ∧
      (o.IsCall → Wp (kernel ()) Closes controllerCleanup (fun _ s => Left s) c.shared) := by
  have hdue := due_of_run hrun hcall
  exact ⟨hdue.1, fun hcancel => (ends_cleanup (hdue.2 hcancel)).due_mono fun _ _ h => h.1⟩

/-! ### Cancelled while it receives -/

/-- Every call succeeds, and nothing is received. -/
def succeeding : Device LifeOp LifeOp.Ans Life where
  ans o s := answers o s
  eff
    | .socket, s => s.made 3
    | .net .accept, s => s.made 4
    | .net (.close fd), s => s.released fd
    | .storeSock fd, s => { s with sock := fd }
    | .net (.storeClient fd), s => { s with client := fd }
    | _, s => s
where
  answers : (o : LifeOp) → Life → o.Ans
    | .socket, _ => .ok 3
    | .setReuseaddr _, _ | .bind _, _ => none
    | .loadSock, s => s.sock
    | .storeSock _, _ => ()
    | .net o, s =>
      Wire.ans ⟨none, .ok 1, .ok 4, none, none, .ok [], fun _ => 0⟩ o
        ⟨s.client, ⟨State.padstateInit State.zeroed, [], 0⟩, []⟩

/-- The numbers 3 and 4 are given to new sockets only. -/
def fresh (s : Life) : LifeOp → Bool
  | .socket => decide (3 ∉ s.opened)
  | .net .accept => decide (4 ∉ s.opened)
  | _ => true

lemma succeeding_step (o : LifeOp) (s : Life) (h : fresh s o = true) :
    kernel () o s (succeeding.ans o s) (succeeding.eff o s) := by
  cases o with
  | socket =>
    have hfresh : (3 : Int) ∉ s.opened := of_decide_eq_true h
    exact ⟨hfresh, rfl⟩
  | loadSock => exact ⟨rfl, rfl⟩
  | setReuseaddr | bind | storeSock => exact ⟨trivial, rfl⟩
  | net o =>
    cases o
    case accept =>
      have hfresh : (4 : Int) ∉ s.opened := of_decide_eq_true h
      exact ⟨hfresh, rfl⟩
    case loadClient => exact ⟨rfl, rfl⟩
    all_goals exact ⟨trivial, rfl⟩

/-- A client is connected, and the thread cancelled while it waits for a request. -/
theorem cancelled_of_run_connected : ∃ (t : Trace) (c : Thread) (o : LifeOp)
    (k : o.Ans → LifeM Label), Run kernel Lives start t c ∧ c.prog () = .call o k ∧
      o = .net (.recv 4 (.header none)) ∧ c.shared.opened = [4, 3] ∧ Closes c.shared o ∧
      (o.IsCall → Wp (kernel ()) Closes controllerCleanup (fun _ s => Left s) c.shared) := by
  have halong (l : Label) (s : Life)
      (h : ∀ m ∈ moments succeeding (controllerRun l) s, fresh m.1 m.2 = true) :
      Along succeeding (fun s o => fresh s o = true) (controllerRun l) s := h
  have h0 : Run kernel Lives start [] start := .refl
  have h1 := run_block succeeding_step h0 rfl rfl (halong .starting _ (by decide))
  have h2 := run_block succeeding_step h1 rfl rfl (halong (.running .accepting) _ (by decide))
  have h3 := h2.start (i := ()) rfl rfl
  have hmoments : ∃ after, moments succeeding (controllerRun (.running (.header none)))
      ⟨3, 4, [4, 3], []⟩ =
        [(⟨3, 4, [4, 3], []⟩, .net .stack), (⟨3, 4, [4, 3], []⟩, .net .loadClient)] ++
          (⟨3, 4, [4, 3], []⟩, .net (.recv 4 (.header none))) :: after := ⟨_, rfl⟩
  obtain ⟨after, hafter⟩ := hmoments
  obtain ⟨k, hk⟩ := run_moment succeeding_step _ h3
    (halong (.running (.header none)) _ (by decide)) hafter
  exact ⟨_, _, _, k, hk, rfl, rfl, rfl, cancelled_of_run hk rfl⟩

end Hysim.Cleanup
