import Hysim.Lib.Runs
import Hysim.PadClient

/-!
Runs of the control client, with an observer of its calls.

Loads answer what is in memory, and every other call may answer anything. The observer keeps
what a property is about and is not in the memory of the client: what was sent last, or whether
the connection is still there.
-/

namespace Hysim.BoxRuns

open Hysim.Lib.Program Hysim.Lib.Threads Hysim.Lib.Runs Hysim.Serve Hysim.Client
open Hysim.ControlBox Hysim.PadClient

variable {γ Loop : Type}

/-- What an observer makes of an operation and its answer. -/
abbrev Watch (γ : Type) := (o : BoxOp) → o.Ans → γ → γ

def Answers (m : Memory) : (o : BoxOp) → o.Ans → Prop
  | .loadSock, r => r = m.sock
  | .loadState i, r => r = m.state i
  | _, _ => True

def client (watch : Watch γ) : Machine Unit BoxOp (Memory × γ) BoxOp.Ans :=
  fun _ o s r s' => Answers s.1 o r ∧ s' = (s.1.eff o, watch o r s.2)

def Goes (next : Label Loop → BoxM (Label Loop)) :
    Unit → Label Loop → BoxM (Label Loop) → Prop :=
  fun _ l p => p = next l

abbrev Client (γ Loop : Type) := Config Unit BoxOp (Memory × γ) (Label Loop) BoxOp.Ans

abbrev Trace (γ : Type) := List (Moment Unit BoxOp (Memory × γ) BoxOp.Ans)

def Wired (i : SwitchIdx) : Prop := (gpioDev (switchTable.get i)).isSome = true

instance (i : SwitchIdx) : Decidable (Wired i) := by unfold Wired; infer_instance

lemma exists_switchRequest (i : SwitchIdx) (value : Bool) :
    ∃ req, switchRequest (switchTable.get i) value = some req := by
  have hsome : ∀ (i : SwitchIdx) (value : Bool),
      (switchRequest (switchTable.get i) value).isSome = true := by decide
  exact Option.isSome_iff_exists.mp (hsome i value)

def memory : Memory := ⟨-1, fun i => (switchTable.get i).state⟩

def started (seen : γ) : Client γ Loop := ⟨(memory, seen), fun _ => .ret .reconnect⟩

/-! ### What the functions perform -/

def OfInit : BoxOp → Prop
  | .socket | .storeSock _ | .setRcvtimeo _ | .inetPton => True
  | _ => False

def OfKeepalive : BoxOp → Prop
  | .setsockopt _ _ _ => True
  | _ => False

def OfConnect : BoxOp → Prop
  | .loadSock | .connect _ | .setsockopt _ _ _ => True
  | _ => False

def OfReply : BoxOp → Prop
  | .stack | .loadSock | .recv _ _ => True
  | _ => False

def OfDisconnect : BoxOp → Prop
  | .loadSock | .close _ | .storeSock _ => True
  | _ => False

def OfLook : BoxOp → Prop
  | .openDev _ | .gpiocRead _ | .closeDev _ | .loadState _ => True
  | _ => False

lemma padInit_performs : Performs OfInit padInit := by
  refine ⟨trivial, fun sock => ?_⟩
  rcases sock with err | fd
  · exact ⟨trivial, fun _ => trivial⟩
  · refine ⟨trivial, fun _ => ⟨trivial, fun timeo => ?_⟩⟩
    rcases timeo with _ | err
    · refine ⟨trivial, fun addr => ?_⟩
      rcases addr with err | (_ | _) <;> trivial
    · trivial

lemma setsockKeepalive_performs (sockfd : Int) :
    Performs OfKeepalive (setsockKeepalive sockfd) := by
  refine ⟨trivial, fun alive => ?_⟩
  rcases alive with _ | err
  · refine ⟨trivial, fun idle => ?_⟩
    rcases idle with _ | err
    · refine ⟨trivial, fun intvl => ?_⟩
      rcases intvl with _ | err
      · refine ⟨trivial, fun cnt => ?_⟩
        rcases cnt with _ | err <;> trivial
      · trivial
    · trivial
  · trivial

lemma padConnect_performs : Performs OfConnect padConnect := by
  refine ⟨trivial, fun sock => ⟨trivial, fun conn => ?_⟩⟩
  rcases conn with _ | err
  · refine ⟨trivial, fun sock => (setsockKeepalive_performs sock).mono fun o ho => ?_⟩
    cases o <;> trivial
  · trivial

lemma checkReply_performs (req : Request) : Performs OfReply (checkReply req) :=
  ⟨trivial, fun _ => ⟨trivial, fun _ => ⟨trivial, fun _ => trivial⟩⟩⟩

lemma padDisconnect_performs : Performs OfDisconnect padDisconnect := by
  refine ⟨trivial, fun sock => ?_⟩
  change Performs _ (if sock ≥ 0 then _ else _)
  split_ifs with hsock
  · refine ⟨trivial, fun closed => ?_⟩
    rcases closed with _ | err
    · exact ⟨trivial, fun _ => trivial⟩
    · trivial
  · trivial

section Visit

variable {σ : Type} {S : (o : BoxOp) → σ → o.Ans → σ → Prop} {due : σ → BoxOp → Prop}

/-- The operations are due where `I` holds, and keep it. -/
structure Keeps (S : (o : BoxOp) → σ → o.Ans → σ → Prop) (due : σ → BoxOp → Prop)
    (I : σ → Prop) (Q : BoxOp → Prop) : Prop where
  due : ∀ s o, Q o → I s → due s o
  step : ∀ o s r s', Q o → I s → S o s r s' → I s'

variable {I : σ → Prop}

lemma Keeps.wp {Q : BoxOp → Prop} (hkeep : Keeps S due I Q) {α : Type} {p : BoxM α}
    (hp : Performs Q p) {s : σ} (hs : I s) : Wp S due p (fun _ y => I y) s :=
  wp_of_performs hkeep.due hkeep.step hp hs

lemma Keeps.op {Q : BoxOp → Prop} (hkeep : Keeps S due I Q) {o : BoxOp} (ho : Q o) {α : Type}
    {f : o.Ans → BoxM α} {post : α → σ → Prop} {s : σ} (hs : I s)
    (h : ∀ r y, I y → Wp S due (f r) post y) : Wp S due (Prog.op o >>= f) post s :=
  Wp.op_bind (hkeep.due s o ho hs) fun r y hy => h r y (hkeep.step o s r y ho hs hy)

section Connect

variable {first : Loop} {body : Loop → BoxM (Label Loop)} {post : Label Loop → σ → Prop} {s : σ}

lemma Keeps.reconnect (hkeep : Keeps S due I OfInit)
    (hpost : ∀ y, I y → post .exited y ∧ post .connecting y) (hs : I s) :
    Wp S due (mainFrom first body .reconnect) post s := by
  refine Wp.bind ((hkeep.wp padInit_performs hs).mono fun err y hy => ?_)
  obtain ⟨hexited, hconnecting⟩ := hpost y hy
  split_ifs with herr
  · exact hexited
  · exact hconnecting

lemma Keeps.connecting (hkeep : Keeps S due I OfConnect)
    (hpost : ∀ y, I y → post .connecting y ∧ post .exited y ∧ post (.loop first) y) (hs : I s) :
    Wp S due (mainFrom first body .connecting) post s := by
  refine Wp.bind ((hkeep.wp padConnect_performs hs).mono fun status y hy => ?_)
  obtain ⟨hconnecting, hexited, hloop⟩ := hpost y hy
  split_ifs with hagain hstatus
  · exact hconnecting
  · exact hexited
  · exact hloop

end Connect

end Visit

section Compare

variable {S : (o : BoxOp) → Memory × γ → o.Ans → Memory × γ → Prop}
  {due : Memory × γ → BoxOp → Prop} {I : Memory × γ → Prop}

/-- A visit looks, and then goes on, or reports a position that is not the recorded one, with
the key if it is the ignition switched off. -/
lemma Keeps.visit (hclient : ∀ o s r s', S o s r s' → Answers s.1 o r ∧ s'.1 = s.1.eff o)
    (hkeep : Keeps S due I OfLook) {k i : SwitchIdx} {post : Label Scan → Memory × γ → Prop}
    (hnext : ∀ y, I y → post (.loop (.advance k i)) y)
    (hreport : ∀ value y, I y → value ≠ y.1.state i →
      (turningOffIgnition (switchTable.get i) value = true →
        y.1.state valveArmingSwitchIdx = true) → Wp S due (report k i value) post y)
    {s : Memory × γ} (hs : I s) : Wp S due (visit k i) post s := by
  unfold PadClient.visit
  rcases gpioDev (switchTable.get i) with _ | dev
  · exact hnext s hs
  refine hkeep.op (o := .openDev dev) trivial hs fun fd y hy => ?_
  rcases fd with err | fd
  · exact hnext y hy
  refine hkeep.op (o := .gpiocRead fd) trivial hy fun read y hy => ?_
  rcases read with err | high
  · exact hkeep.op (o := .closeDev fd) trivial hy fun _ y hy => hnext y hy
  refine hkeep.op (o := .closeDev fd) trivial hy fun _ y hy => ?_
  refine Wp.op_bind (hkeep.due y _ trivial hy) fun state z hz => ?_
  have hz' : I z := hkeep.step (.loadState i) y _ z trivial hy hz
  obtain ⟨hstate, hmemory⟩ := hclient _ y _ z hz
  obtain rfl : state = z.1.state i := hstate.trans (congrArg (Memory.state · i) hmemory.symm)
  split_ifs with hsame hoff
  · exact hnext z hz'
  · refine Wp.op_bind (hkeep.due z _ trivial hz') fun key w hw => ?_
    have hw' : I w := hkeep.step (.loadState valveArmingSwitchIdx) z _ w trivial hz' hw
    obtain ⟨hkey, hmemory'⟩ := hclient _ z _ w hw
    have hmem : w.1 = z.1 := hmemory'
    split_ifs with hskip
    · exact hnext w hw'
    · refine hreport _ w hw' (by rwa [hmem]) fun _ => ?_
      obtain rfl : key = z.1.state valveArmingSwitchIdx := hkey
      rw [hmem]
      simpa using hskip
  · exact hreport _ z hz' hsame fun h => absurd h hoff

end Compare

/-! ### Runs in rounds -/

def watched (watch : Watch γ) (calls : Calls) : Device BoxOp BoxOp.Ans (Memory × γ) where
  ans o s := s.1.ans calls o
  eff o s := (s.1.eff o, watch o (s.1.ans calls o) s.2)

lemma watched_step (watch : Watch γ) (calls : Calls) (o : BoxOp) (s : Memory × γ) :
    client watch () o s ((watched watch calls).ans o s) ((watched watch calls).eff o s) := by
  refine ⟨?_, rfl⟩
  cases o <;> first | rfl | trivial

def rounds (watch : Watch γ) (next : Label Loop → BoxM (Label Loop)) (x : Label Loop × Memory × γ)
    (cs : List Calls) : Label Loop × Memory × γ :=
  cs.foldl (fun x calls => run (watched watch calls) (next x.1) x.2) x

def trace (watch : Watch γ) (next : Label Loop → BoxM (Label Loop)) (x : Label Loop × Memory × γ) :
    List Calls → Trace γ
  | [] => []
  | calls :: cs =>
    alongDevice (watched watch calls) () (next x.1) x.2 ++
      trace watch next (run (watched watch calls) (next x.1) x.2) cs

lemma trace_all {watch : Watch γ} {next : Label Loop → BoxM (Label Loop)}
    {P : (o : BoxOp) → o.Ans → Prop} {cs : List Calls}
    (hP : ∀ calls ∈ cs, ∀ o (m : Memory), P o (m.ans calls o)) (x : Label Loop × Memory × γ) :
    ∀ m ∈ trace watch next x cs, P m.op m.ans := by
  induction cs generalizing x with
  | nil => simp [trace]
  | cons calls cs ih =>
    obtain ⟨hcalls, hcs⟩ := List.forall_mem_cons.mp hP
    intro m hm
    rcases List.mem_append.mp hm with hm | hm
    · obtain ⟨n, -, rfl⟩ := List.mem_map.mp hm
      exact hcalls n.2 n.1.1
    · exact ih hcs _ m hm

lemma run_rounds {watch : Watch γ} {next : Label Loop → BoxM (Label Loop)} {c : Client γ Loop}
    {t : Trace γ} {x : Label Loop × Memory × γ} (cs : List Calls)
    (hrun : Run (client watch) (Goes next) c t ⟨x.2, fun _ => .ret x.1⟩) :
    Run (client watch) (Goes next) c (t ++ trace watch next x cs)
      ⟨(rounds watch next x cs).2, fun _ => .ret (rounds watch next x cs).1⟩ := by
  induction cs generalizing t x with
  | nil =>
    rw [trace, List.append_nil]
    exact hrun
  | cons calls cs ih =>
    have hround := run_block (P := fun _ _ => True)
      (fun o s _ => watched_step watch calls o s) hrun rfl rfl fun _ _ => trivial
    rw [trace, ← List.append_assoc]
    exact ih (x := run (watched watch calls) (next x.1) x.2) hround

lemma run_started (watch : Watch γ) (next : Label Loop → BoxM (Label Loop)) (seen : γ)
    (cs : List Calls) :
    Run (client watch) (Goes next) (started seen)
      (trace watch next (.reconnect, memory, seen) cs)
      ⟨(rounds watch next (.reconnect, memory, seen) cs).2,
        fun _ => .ret (rounds watch next (.reconnect, memory, seen) cs).1⟩ :=
  run_rounds (x := (.reconnect, memory, seen)) cs .refl

end Hysim.BoxRuns
