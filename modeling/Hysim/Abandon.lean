import Hysim.BoxRuns

/-!
The connection of the control box, from its loss to the next one.

The loss of the connection shows as an error of `send` or of `recv`, or as the end of the
stream. The loop goes back to connect for two of these errors, and twice for the same one.
-/

namespace Hysim.Abandon

open Hysim.Lib.Program Hysim.Lib.Threads Hysim.Lib.Runs Hysim.Serve Hysim.Controller Hysim.Client
open Hysim.ControlBox Hysim.PadClient Hysim.BoxRuns
open Hysim.Connection (Errno)

/-! ### Losses -/

def econnreset : Int := 104
def epipe : Int := 32

/-- The errors that say that the connection is gone. -/
def Gone (err : Errno) : Prop :=
  (err.val : Int) = econnreset ∨ (err.val : Int) = enotconn ∨ (err.val : Int) = econnaborted ∨
    (err.val : Int) = epipe

instance (err : Errno) : Decidable (Gone err) := by unfold Gone; infer_instance

/-- The socket whose connection a call reports to be gone. -/
def loss : (o : BoxOp) → o.Ans → Option Int
  | .sendmsg fd _ _, some err => if Gone err then some fd else none
  | .recv fd _, .error err => if Gone err then some fd else none
  | .recv fd _, .ok bytes => if bytes = [] then some fd else none
  | _, _ => none

/-- The connection: there, lost with its socket still open, or none since a socket was closed. -/
inductive Line
  | up
  | lost (fd : Int)
  | closed

def watch : Watch Line
  | .close _, _, _ => .closed
  | .connect _, none, _ => .up
  | o, r, line => ((loss o r).map Line.lost).getD line

/-- A loss shows as one of the two errors that are looked for. -/
def Noticed : (o : BoxOp) → o.Ans → Prop
  | .sendmsg _ _ _, some err => (err.val : Int) ≠ econnreset ∧ (err.val : Int) ≠ epipe
  | .recv _ _, .error err => (err.val : Int) ≠ econnreset ∧ (err.val : Int) ≠ epipe
  | .recv _ _, .ok bytes => bytes ≠ []
  | _, _ => True

abbrev Box := Client Line Scan

def start : Box := started .closed

/-! ### What is asked of a run -/

def Renewed (fd : Int) (t : Trace Line) : Prop :=
  ∃ a r found b fd' found' c,
    t = a ++ ⟨(), .close fd, r, found⟩ :: (b ++ ⟨(), .connect fd', none, found'⟩ :: c)

/-- After a loss no command is sent before the connection is made again. -/
def Abandons (t : Trace Line) : Prop :=
  ∀ past m mid next post fd, t = past ++ m :: (mid ++ next :: post) →
    loss m.op m.ans = some fd → (∃ fd' i req, next.op = .sendmsg fd' i req) → Renewed fd mid

def Since (fd : Int) (t : Trace Line) : Line → Prop
  | .up => Renewed fd t
  | .lost fd' => Renewed fd t ∨ fd = fd'
  | .closed => Renewed fd t ∨ ∃ r found, ⟨(), .close fd, r, found⟩ ∈ t

def Ledger (t : Trace Line) (line : Line) : Prop :=
  ∀ past m since fd, t = past ++ m :: since → loss m.op m.ans = some fd → Since fd since line

/-- The connection an operation needs. -/
def Due (s : Memory × Line) : BoxOp → Prop
  | .sendmsg _ _ _ | .recv _ _ => s.2 = .up
  | .close fd => ∀ fd', s.2 = .lost fd' → fd = fd'
  | .connect _ => ∀ fd, s.2 ≠ .lost fd
  | _ => True

lemma Renewed.append {fd : Int} {t : Trace Line} (h : Renewed fd t) (u : Trace Line) :
    Renewed fd (t ++ u) := by
  obtain ⟨a, r, found, b, fd', found', c, rfl⟩ := h
  exact ⟨a, r, found, b, fd', found', c ++ u, by simp⟩

lemma renewed_of_close {fd fd' : Int} {t : Trace Line} {r : Option Errno}
    {found found' : Memory × Line} (h : ⟨(), .close fd, r, found⟩ ∈ t) :
    Renewed fd (t ++ [⟨(), .connect fd', none, found'⟩]) := by
  obtain ⟨a, b, rfl⟩ := List.append_of_mem h
  exact ⟨a, r, found, b, fd', found', [], by simp⟩

lemma Since.append {fd : Int} {t : Trace Line} {line : Line} (h : Since fd t line)
    (u : Trace Line) : Since fd (t ++ u) line := by
  cases line with
  | up => exact Renewed.append h u
  | lost fd' => exact h.imp (·.append u) id
  | closed => exact h.imp (·.append u) fun ⟨r, found, hm⟩ => ⟨r, found, List.mem_append_left _ hm⟩

lemma since_used {fd : Int} {t : Trace Line} (h : Renewed fd t) (found : Option Int) :
    Since fd t ((found.map Line.lost).getD .up) := by
  cases found with
  | none => exact h
  | some fd' => exact .inl h

lemma since_step {o : BoxOp} {r : o.Ans} {s : Memory × Line} (hdue : Due s o) {fd : Int}
    {t : Trace Line} (h : Since fd t s.2) :
    Since fd (t ++ [⟨(), o, r, s⟩]) (watch o r s.2) := by
  cases o
  case close fd' =>
    change Since fd _ .closed
    rcases hline : s.2 with _ | fd'' | _
    · rw [hline] at h
      exact .inl (Renewed.append h _)
    · rw [hline] at h
      rcases h with h | rfl
      · exact .inl (h.append _)
      · obtain rfl : fd' = fd := hdue fd hline
        exact .inr ⟨r, s, by simp⟩
    · rw [hline] at h
      exact h.append _
  case connect fd' =>
    cases r with
    | some err => exact h.append _
    | none =>
      change Renewed fd _
      rcases hline : s.2 with _ | fd'' | _
      · rw [hline] at h
        exact Renewed.append h _
      · exact absurd hline (hdue fd'')
      · rw [hline] at h
        rcases h with h | ⟨r, found, hm⟩
        · exact h.append _
        · exact renewed_of_close hm
  case sendmsg fd' i req =>
    have hup : s.2 = .up := hdue
    rw [hup] at h ⊢
    exact since_used (Renewed.append h _) _
  case recv fd' n =>
    have hup : s.2 = .up := hdue
    rw [hup] at h ⊢
    exact since_used (Renewed.append h _) _
  all_goals exact h.append _

lemma since_loss {o : BoxOp} {r : o.Ans} {fd : Int} (h : loss o r = some fd) (line : Line) :
    Since fd [] (watch o r line) := by
  have hline : watch o r line = .lost fd := by
    cases o
    case sendmsg => simp [watch, h]
    case recv => simp [watch, h]
    all_goals cases h
  rw [hline]
  exact .inr rfl

lemma ledger_step {t : Trace Line} {o : BoxOp} {s : Memory × Line} {r : o.Ans}
    (h : Abandons t ∧ Ledger t s.2) (hdue : Due s o) :
    Abandons (t ++ [⟨(), o, r, s⟩]) ∧ Ledger (t ++ [⟨(), o, r, s⟩]) (watch o r s.2) := by
  obtain ⟨habandons, hledger⟩ := h
  constructor
  · intro past m mid next post fd hcut hloss hnext
    rw [← List.cons_append, ← List.append_assoc] at hcut
    rcases cut_concat hcut with ⟨ht, rfl, -⟩ | ⟨post', -, ht⟩
    · obtain ⟨fd', i, req, rfl⟩ : ∃ fd' i req, o = .sendmsg fd' i req := hnext
      have hsince := hledger past m mid fd ht.symm hloss
      rw [show s.2 = .up from hdue] at hsince
      exact hsince
    · rw [List.append_assoc, List.cons_append] at ht
      exact habandons past m mid next post' fd ht hloss hnext
  · intro past m since fd hcut hloss
    rcases cut_concat hcut with ⟨rfl, rfl, rfl⟩ | ⟨since', rfl, ht⟩
    · exact since_loss hloss s.2
    · exact since_step hdue (hledger past m since' fd ht hloss)

/-! ### The functions of the client -/

abbrev Noticing := fun (o : BoxOp) s r s' => client watch () o s r s' ∧ Noticed o r

abbrev Ends {α : Type} (p : BoxM α) (post : α → Memory × Line → Prop) (s : Memory × Line) : Prop :=
  Wp Noticing Due p post s

/-- No connection was lost without its socket being closed. -/
def Settled (s : Memory × Line) : Prop := ∀ fd, s.2 ≠ .lost fd

def Rest : Label Scan → Memory × Line → Prop
  | .reconnect, s => Settled s
  | .connecting, s => Settled s ∧ 0 ≤ s.1.sock
  | .loop _, s => s.2 = .up ∧ 0 ≤ s.1.sock
  | .exited, _ => True

def Still : BoxOp → Prop
  | .storeSock _ | .storeState _ _ | .sendmsg _ _ _ | .recv _ _ | .close _ | .connect _ => False
  | _ => True

lemma keeps {I : Memory × Line → Prop} {Q : BoxOp → Prop} (hQ : ∀ o, Q o → Still o) :
    Keeps Noticing Due I Q := by
  constructor
  · intro s o ho _
    have hstill := hQ o ho
    cases o <;> trivial
  · rintro o s r _ ho hs ⟨⟨-, rfl⟩, -⟩
    have hstill := hQ o ho
    cases o <;> first | exact hs | exact hstill.elim

section Functions

variable {s : Memory × Line}

lemma ends_loadSock {α : Type} {f : Int → BoxM α} {post : α → Memory × Line → Prop}
    (h : Ends (f s.1.sock) post s) : Ends (loadSock >>= f) post s := by
  refine Wp.op_bind trivial ?_
  rintro _ _ ⟨⟨rfl, rfl⟩, -⟩
  exact h

lemma ends_padInit (h : Settled s) :
    Ends padInit (fun err y => Settled y ∧ (err = 0 → 0 ≤ y.1.sock)) s := by
  refine Wp.op_bind trivial ?_
  rintro (err | fd) _ ⟨⟨-, rfl⟩, -⟩
  · refine Wp.op_bind trivial ?_
    rintro _ _ ⟨⟨-, rfl⟩, -⟩
    exact ⟨h, fun hzero => absurd hzero (Int.natCast_ne_zero.mpr err.pos.ne')⟩
  · refine Wp.op_bind trivial ?_
    rintro _ _ ⟨⟨-, rfl⟩, -⟩
    have hsock : (0 : Int) ≤ (fd : Int) := Int.natCast_nonneg fd
    refine Wp.op_bind trivial ?_
    rintro (_ | err) _ ⟨⟨-, rfl⟩, -⟩
    · refine Wp.op_bind trivial ?_
      rintro (err | (_ | _)) _ ⟨⟨-, rfl⟩, -⟩
      · exact ⟨h, fun _ => hsock⟩
      · exact ⟨h, fun _ => hsock⟩
      · exact ⟨h, fun _ => hsock⟩
    · exact ⟨h, fun _ => hsock⟩

lemma ends_padConnect (h : Settled s) :
    Ends padConnect (fun status y => y.1 = s.1 ∧ Settled y ∧ (status = 0 → y.2 = .up)) s := by
  refine ends_loadSock (Wp.op_bind (fun fd hline => h fd hline) ?_)
  rintro (_ | err) _ ⟨⟨-, rfl⟩, -⟩
  · refine ends_loadSock ?_
    have hkeep := (keeps (I := fun y => y.1 = s.1 ∧ y.2 = .up) fun o ho => ?_).wp
      (setsockKeepalive_performs s.1.sock) (s := (s.1, .up)) ⟨rfl, rfl⟩
    · refine hkeep.mono fun status y ⟨hmemory, hup⟩ => ⟨hmemory, fun fd hlost => ?_, fun _ => hup⟩
      rw [hup] at hlost
      cases hlost
    · cases o <;> trivial
  · exact ⟨rfl, h, fun hzero => absurd hzero (Int.natCast_ne_zero.mpr err.pos.ne')⟩

/-- After a call on the socket the connection is there, or its loss is what the call returns. -/
def Told (sock err : Int) (s : Memory × Line) : Prop :=
  s.1.sock = sock ∧
    (s.2 = .up ∨ (s.2 = .lost sock ∧ (err = enotconn ∨ err = econnaborted)))

lemma told_error {err : Errno} (h : (err.val : Int) ≠ econnreset ∧ (err.val : Int) ≠ epipe)
    (m : Memory) :
    Told m.sock err.val (m, ((if Gone err then some m.sock else none).map Line.lost).getD .up) := by
  split_ifs with hgone
  · refine ⟨rfl, .inr ⟨rfl, ?_⟩⟩
    rcases hgone with hreset | hnot | habort | hpipe
    · exact absurd hreset h.1
    · exact .inl hnot
    · exact .inr habort
    · exact absurd hpipe h.2
  · exact ⟨rfl, .inl rfl⟩

lemma ends_checkReply (req : Request) (hup : s.2 = .up) :
    Ends (checkReply req) (Told s.1.sock) s := by
  obtain ⟨m, line⟩ := s
  obtain rfl : line = .up := hup
  refine Wp.op_bind trivial ?_
  rintro stale _ ⟨⟨-, rfl⟩, -⟩
  refine Wp.bind (ends_loadSock ⟨rfl, ?_⟩)
  rintro (err | bytes) _ ⟨⟨-, rfl⟩, hnoticed⟩
  · change Told m.sock (checkResponse req stale (.error err.val)) _
    rw [checkResponse_error]
    exact told_error hnoticed m
  · refine ⟨rfl, .inl ?_⟩
    have hne : bytes ≠ [] := hnoticed
    simp [watch, loss, hne]

lemma ends_switchCallback (sw : Switch) (i : SwitchIdx) (value : Bool) (hup : s.2 = .up) :
    Ends (switchCallback sw i value) (Told s.1.sock) s := by
  obtain ⟨m, line⟩ := s
  obtain rfl : line = .up := hup
  refine Wp.op_bind trivial ?_
  rintro _ _ ⟨⟨-, rfl⟩, -⟩
  rcases switchRequest sw value with _ | req
  · exact ⟨rfl, .inl rfl⟩
  refine Wp.bind (ends_loadSock ⟨rfl, ?_⟩)
  rintro (_ | err) _ ⟨⟨-, rfl⟩, hnoticed⟩
  · exact ends_checkReply req rfl
  · exact told_error hnoticed _

lemma ends_padDisconnect (hsock : 0 ≤ s.1.sock) (hline : s.2 = .up ∨ s.2 = .lost s.1.sock) :
    Ends padDisconnect (fun _ y => Settled y) s := by
  refine ends_loadSock ?_
  rw [if_pos hsock]
  refine Wp.op_bind (fun fd hfd => ?_) ?_
  · rcases hline with hup | hlost
    · rw [hup] at hfd
      cases hfd
    · rw [hlost] at hfd
      exact Line.lost.inj hfd
  · rintro (_ | err) _ ⟨⟨-, rfl⟩, -⟩
    · refine Wp.op_bind trivial ?_
      rintro _ _ ⟨⟨-, rfl⟩, -⟩
      exact fun fd => Line.noConfusion
    · exact fun fd => Line.noConfusion

lemma ends_report (k i : SwitchIdx) (value : Bool) (h : s.2 = .up ∧ 0 ≤ s.1.sock) :
    Ends (report k i value) Rest s := by
  refine Wp.bind ((ends_switchCallback (switchTable.get i) i value h.1).mono ?_)
  rintro err y ⟨hsock, hline⟩
  have hpos : 0 ≤ y.1.sock := hsock ▸ h.2
  split_ifs with herr
  · refine Wp.bind ((ends_padDisconnect hpos ?_).mono fun _ _ hz => hz)
    rw [hsock]
    exact hline.imp id And.left
  · refine ⟨hline.resolve_right fun hlost => herr ?_, hpos⟩
    rcases hlost.2 with hnot | habort
    · exact .inl hnot
    · exact .inr (.inl habort)

lemma ends_controlBox (l : Label Scan) (h : Rest l s) : Ends (controlBox l) Rest s := by
  cases l with
  | reconnect =>
    refine Wp.bind ((ends_padInit h).mono ?_)
    rintro err y ⟨hsettled, hsock⟩
    split_ifs with herr
    · trivial
    · exact ⟨hsettled, hsock (not_not.mp herr)⟩
  | connecting =>
    refine Wp.bind ((ends_padConnect h.1).mono ?_)
    rintro status y ⟨hmemory, hsettled, hup⟩
    have hsock : 0 ≤ y.1.sock := hmemory ▸ h.2
    split_ifs with hagain hstatus
    · exact ⟨hsettled, hsock⟩
    · trivial
    · exact ⟨hup (not_not.mp hstatus), hsock⟩
  | loop l =>
    cases l with
    | waiting =>
      refine Wp.op_bind trivial ?_
      rintro (_ | err) _ ⟨⟨-, rfl⟩, -⟩
      · exact h
      · exact h
    | visiting k i =>
      refine (keeps fun o ho => ?_).visit ?_ (fun _ hy => hy)
        (fun value y hy _ _ => ends_report k i value hy) h
      · cases o <;> trivial
      · rintro o y r _ ⟨⟨hans, rfl⟩, -⟩
        exact ⟨hans, rfl⟩
  | exited => exact h

end Functions

/-! ### Every run -/

/-- **A dead connection is abandoned** as long as no loss shows as `ECONNRESET`, as `EPIPE` or as
the end of the stream: in every run, once a call on a socket has reported that the connection is
gone, no command is sent before that socket was closed and a connection made again. -/
theorem abandons_of_run {t : Trace Line} {c : Box}
    (hrun : Run (client watch) (Goes controlBox) start t c)
    (hnoticed : ∀ m ∈ t, Noticed m.op m.ans) : Abandons t := by
  have hnil : Abandons [] ∧ Ledger [] start.shared.2 :=
    ⟨fun _ _ _ _ _ _ hcut => by simp at hcut, fun _ _ _ _ hcut => by simp at hcut⟩
  have hstart : Ends (start.prog ()) Rest start.shared := fun fd => Line.noConfusion
  obtain ⟨⟨habandons, -⟩, -⟩ := wp_of_run (J := fun t s => Abandons t ∧ Ledger t s.2)
    (fun l p s hp hs => hp ▸ ends_controlBox l hs)
    (fun t o s r s' h hdue ⟨⟨_, hs'⟩, _⟩ => hs' ▸ ledger_step h hdue) hstart hnil
    (hrun.restrict hnoticed)
  exact habandons

/-! ### What is not noticed -/

/-- The loss of the connection shows in a form that is not looked for. -/
def Overlooked (calls : Calls) : Prop :=
  match calls.sendmsg, calls.recv with
  | some err, _ | none, .error err => (err.val : Int) = econnreset ∨ (err.val : Int) = epipe
  | none, .ok bytes => bytes = []

lemma overlooked_result {calls : Calls} (h : Overlooked calls) (sw : Switch) (value : Bool) :
    ¬ (calls.result sw value = enotconn ∨ calls.result sw value = econnaborted ∨
      calls.result sw value = econnrefused) := by
  have hforms {err : Int} (herr : err = econnreset ∨ err = epipe) :
      ¬ (err = enotconn ∨ err = econnaborted ∨ err = econnrefused) := by
    rcases herr with rfl | rfl <;> decide
  unfold Overlooked at h
  unfold Calls.result
  rcases switchRequest sw value with _ | req
  · dsimp only
    decide
  rcases hsend : calls.sendmsg with _ | err
  · rcases hrecv : calls.recv with err | bytes
    · rw [hsend, hrecv] at h
      simp only [Received.toRecv, checkResponse_error]
      exact hforms h
    · exact checkResponse_ok req calls.stack bytes
  · rw [hsend] at h
    exact hforms h

/-- **The pass goes on** after such a loss: the next switch is looked at, with the same socket. -/
theorem goes_on {calls : Calls} (h : Overlooked calls) (k i : SwitchIdx) (value : Bool)
    (m : Memory) :
    run (calling calls) (report k i value) m =
      (.loop (.advance k i), { m with state := Function.update m.state i value }) := by
  unfold report
  rw [run_bind, switchCallback_run]
  dsimp only
  rw [if_neg (overlooked_result h (switchTable.get i) value)]
  rfl

/-! ### Two runs -/

/-- A box that connects and is interrupted, finds every switch on and sends its request, and
receives this. -/
def asking (recv : Received) : Calls :=
  ⟨.ok 3, .ok true, none, none, none, recv, none, fun _ => 0, .ok 4, .ok false, none, none⟩

/-- The connection is lost and made again, and then the next switch sends. -/
theorem abandons_of_run_lost :
    Abandons (trace watch controlBox (.reconnect, memory, .closed)
      (List.replicate 9 (asking (.error ⟨107, by decide⟩)))) := by
  have hnoticed : ∀ m ∈ trace watch controlBox (.reconnect, memory, .closed)
      (List.replicate 9 (asking (.error ⟨107, by decide⟩))), Noticed m.op m.ans := by
    refine trace_all (P := Noticed) (fun calls hcalls o m => ?_) _
    rw [List.eq_of_mem_replicate hcalls]
    cases o
    case recv fd n => exact ⟨by decide, by decide⟩
    all_goals trivial
  exact abandons_of_run (run_started watch controlBox .closed _) hnoticed

lemma Abandons.closes {t : Trace Line} (h : Abandons t) {i n : ℕ} (hn : i + 1 + n < t.length)
    {fd : Int} (hloss : loss t[i].op t[i].ans = some fd)
    (hnext : ∃ fd' k req, t[i + 1 + n].op = .sendmsg fd' k req) :
    BoxOp.close fd ∈ ((t.drop (i + 1)).take n).map Moment.op := by
  have hlen : n < (t.drop (i + 1)).length := by
    rw [List.length_drop]
    omega
  have hcut : t = t.take i ++ t[i] ::
      ((t.drop (i + 1)).take n ++ t[i + 1 + n] :: (t.drop (i + 1)).drop (n + 1)) := by
    have hnth : (t.drop (i + 1))[n] = t[i + 1 + n] := List.getElem_drop
    rw [← hnth, List.cons_getElem_drop_succ, List.take_append_drop,
      List.cons_getElem_drop_succ, List.take_append_drop]
  obtain ⟨a, r, found, b, fd', found', c, hmid⟩ := h _ _ _ _ _ fd hcut hloss hnext
  rw [hmid]
  simp

def resetting : List Calls := List.replicate 5 (asking (.error ⟨104, by decide⟩))

/-- The connection is reset, and the next switch sends on it. -/
theorem not_abandons : ¬ ∀ (t : Trace Line) (c : Box),
    Run (client watch) (Goes controlBox) start t c → Abandons t := by
  intro h
  have habandons := h _ _ (run_started watch controlBox .closed resetting)
  -- the first request is answered by the reset, and the second one is sent six calls later
  have hclose : BoxOp.close 3 ∈ _ :=
    habandons.closes (i := 21) (n := 6) (by decide) (by decide) ⟨3, _, _, rfl⟩
  exact absurd hclose (by decide)

end Hysim.Abandon
