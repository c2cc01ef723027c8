import Mathlib.Data.List.Nodup
import Hysim.Lib.Runs
import Hysim.Publish

/-!
A datagram with the pad state is a snapshot.

Its values are loaded one by one, but while they are the controller cannot record an update.
So it stores at most one actuator and after that a level or the connection status, and the
loads come in the opposite order: at some moment between the first and the last all of them
would have answered as they did.
-/

namespace Hysim.Snapshot

open Hysim.Lib.Program Hysim.Lib.Threads Hysim.Lib.Runs Hysim.Packets Hysim.Actuators Hysim.State
open Hysim.Serve Hysim.Telemetry Hysim.Publish Hysim.Paths

abbrev Trace := List (Moment Who PadOp Shared PadOp.Ans)

/-! ### Loads -/

def IsRead (m : Moment Who PadOp Shared PadOp.Ans) : Prop :=
  m.who = .telemetry ∧ m.op ∈ padReads

instance (m : Moment Who PadOp Shared PadOp.Ans) : Decidable (IsRead m) := by
  unfold IsRead; infer_instance

def reads (t : Trace) : List PadOp := (t.filter IsRead).map Moment.op

@[simp] lemma reads_append (t u : Trace) : reads (t ++ u) = reads t ++ reads u := by
  simp [reads]

lemma reads_singleton {m : Moment Who PadOp Shared PadOp.Ans} (h : IsRead m) :
    reads [m] = [m.op] := by
  simp [reads, h]

lemma reads_singleton_of_not {m : Moment Who PadOp Shared PadOp.Ans} (h : ¬ IsRead m) :
    reads [m] = [] := by
  simp [reads, h]

/-- What a store writes, as the load that sees it. -/
def field : PadOp → Option PadOp
  | .storeLevel _ => some .loadLevel
  | .storeConn _ => some .loadConn
  | .storeAct act _ => some (.loadAct act)
  | _ => none

lemma reads_effect {w o : PadOp} (h : field w ≠ some o) (r : o.Ans) (pad : PadState) :
    Reads o r (w.effect pad) ↔ Reads o r pad := by
  cases o
  case loadLevel => cases w <;> first | exact Iff.rfl | exact absurd rfl h
  case loadConn => cases w <;> first | exact Iff.rfl | exact absurd rfl h
  case loadAct act =>
    cases w
    case storeAct other b =>
      have hne : act ≠ other := fun hc => h (by rw [field, hc])
      simp [Reads, PadOp.effect, PadState.setAct_state, hne]
    all_goals exact Iff.rfl
  all_goals exact Iff.rfl

/-- Both pad states answer the loads alike. -/
def SameOn (os : List PadOp) (p q : PadState) : Prop :=
  ∀ o ∈ os, ∀ r, Reads o r p ↔ Reads o r q

lemma sameOn_refl (os : List PadOp) (p : PadState) : SameOn os p p := fun _ _ _ => Iff.rfl

lemma SameOn.effect {os : List PadOp} {p q : PadState} (h : SameOn os p q) {w : PadOp}
    (hw : ∀ o ∈ os, field w ≠ some o) : SameOn os p (w.effect q) :=
  fun o ho r => (h o ho r).trans (reads_effect (hw o ho) r q).symm

/-! ### Windows -/

/-- The last loads of a datagram: `window` runs from the first of them to the last. -/
structure Window (past window : Trace) : Prop where
  split : ∃ before after, past = before ++ window ++ after ∧ reads after = []
  loads : reads window = padReads
  first : ∃ m ∈ window.head?, IsRead m
  last : ∃ m ∈ window.getLast?, IsRead m

/-- A datagram that carries the pad state of one moment of the loads before. -/
def FromWindow (past : Trace) (msg : Datagram) : Prop :=
  ∃ window, Window past window ∧ ∃ n ∈ window, ∃ time, msg = padDatagram time n.found.pad

/-- All the datagrams so far are snapshots. -/
def Consistent (t : Trace) : Prop :=
  ∀ past post m msg, t = past ++ m :: post → m.op = .publish msg → FromWindow past msg

lemma Consistent.concat {t : Trace} (h : Consistent t) {m : Moment Who PadOp Shared PadOp.Ans}
    (hm : ∀ msg, m.op = .publish msg → FromWindow t msg) : Consistent (t ++ [m]) := by
  intro past post n msg hsplit hn
  rcases cut_concat hsplit with ⟨rfl, rfl, -⟩ | ⟨post', -, ht⟩
  · exact hm msg hn
  · exact h past post' n msg ht hn

/-- The loads of a datagram so far, `todo` still to come. -/
structure Gathering (before window after t : Trace) (todo : List PadOp)
    (seen : PadState → Prop) : Prop where
  split : t = before ++ window ++ after
  after_reads : reads after = []
  after_nil : todo ≠ [] → after = []
  loads : reads window ++ todo = padReads
  first : ∃ m ∈ window.head?, IsRead m
  last : todo = [] → ∃ m ∈ window.getLast?, IsRead m
  only : ∀ p q, SameOn (reads window) p q → seen p → seen q

/-- What was loaded so far is true of the pad state; or of that of an earlier moment, and the
controller has not recorded an update since. -/
def Found (window : Trace) (todo : List PadOp) (seen : PadState → Prop) (pad : PadState)
    (stage : Stage) : Prop :=
  (todo ≠ [] ∧ seen pad) ∨ ∃ n ∈ window, seen n.found.pad ∧
    (todo = [] ∨ SameOn todo n.found.pad pad ∧ stage ≠ .fresh)

/-- The telemetry thread is putting a datagram together. -/
def Sending (t : Trace) (todo : List PadOp) (seen : PadState → Prop) (pad : PadState)
    (stage : Stage) : Prop :=
  ∃ before window after, Gathering before window after t todo seen ∧
    Found window todo seen pad stage

lemma padReads_nodup : padReads.Nodup := by decide

section Gathering

variable {before window after t : Trace} {todo : List PadOp} {seen : PadState → Prop}

lemma Gathering.level_loaded (h : Gathering before window after t todo seen) :
    .loadLevel ∉ todo := by
  obtain ⟨m, hm, hread⟩ := h.first
  obtain ⟨rest, rfl⟩ := List.head?_eq_some_iff.mp hm
  have hreads := h.loads
  rw [← List.singleton_append, reads_append, reads_singleton hread] at hreads
  have htail : reads rest ++ todo = padReads.tail := congrArg List.tail hreads
  intro hmem
  have hin : PadOp.loadLevel ∈ padReads.tail := htail ▸ List.mem_append_right _ hmem
  exact absurd hin (by decide)

lemma Gathering.not_loaded (h : Gathering before window after t todo seen) {o : PadOp}
    (ho : o ∈ todo) : o ∉ reads window := by
  have hnodup := padReads_nodup
  rw [← h.loads] at hnodup
  exact fun hmem => List.disjoint_of_nodup_append hnodup hmem ho

lemma Gathering.extend (h : Gathering before window after t todo seen)
    {m : Moment Who PadOp Shared PadOp.Ans} (hm : ¬ IsRead m) :
    (todo = [] ∧ Gathering before window (after ++ [m]) (t ++ [m]) todo seen) ∨
      (todo ≠ [] ∧ Gathering before (window ++ [m]) [] (t ++ [m]) todo seen) := by
  have hreads : reads (window ++ [m]) = reads window := by
    rw [reads_append, reads_singleton_of_not hm, List.append_nil]
  by_cases htodo : todo = []
  · refine .inl ⟨htodo, ?_, ?_, fun hne => absurd htodo hne, h.loads, h.first, h.last, h.only⟩
    · rw [h.split, List.append_assoc]
    · rw [reads_append, h.after_reads, reads_singleton_of_not hm, List.append_nil]
  · refine .inr ⟨htodo, ?_, rfl, fun _ => rfl, hreads ▸ h.loads, ?_, fun hnil => absurd hnil htodo,
      hreads ▸ h.only⟩
    · rw [h.split, h.after_nil htodo]
      simp
    · obtain ⟨n, hn, hread⟩ := h.first
      exact ⟨n, by rw [List.head?_append, hn]; rfl, hread⟩

end Gathering

/-! ### What the threads do while a datagram is put together -/

section Sending

variable {t : Trace} {todo : List PadOp} {seen : PadState → Prop} {pad : PadState} {stage : Stage}

lemma Found.mono {window window' : Trace} (h : Found window todo seen pad stage)
    (hsub : ∀ n ∈ window, n ∈ window') : Found window' todo seen pad stage := by
  rcases h with h | ⟨n, hn, h⟩
  · exact .inl h
  · exact .inr ⟨n, hsub n hn, h⟩

lemma Sending.other (h : Sending t todo seen pad stage) {m : Moment Who PadOp Shared PadOp.Ans}
    (hm : ¬ IsRead m) : Sending (t ++ [m]) todo seen pad stage := by
  obtain ⟨before, window, after, hgather, hfound⟩ := h
  rcases hgather.extend hm with ⟨-, hnext⟩ | ⟨-, hnext⟩
  · exact ⟨before, window, after ++ [m], hnext, hfound⟩
  · exact ⟨before, window ++ [m], [], hnext, hfound.mono fun n hn => List.mem_append_left _ hn⟩

/-- A store of the controller: something still to be loaded may change under what was seen,
and otherwise the moment of the store is the one that was seen. -/
lemma Sending.store (h : Sending t todo seen pad stage) {m : Moment Who PadOp Shared PadOp.Ans}
    (hm : ¬ IsRead m) (hpad : m.found.pad = pad) (w : PadOp) {stage' : Stage}
    (hstage : stage' ≠ .fresh) (hw : stage = .fresh ∨ field w = some .loadLevel) :
    Sending (t ++ [m]) todo seen (w.effect pad) stage' := by
  obtain ⟨before, window, after, hgather, hfound⟩ := h
  rcases hgather.extend hm with ⟨hnil, hnext⟩ | ⟨htodo, hnext⟩
  · refine ⟨before, window, after ++ [m], hnext, ?_⟩
    rcases hfound with ⟨hne, -⟩ | ⟨n, hn, hseen, -⟩
    · exact absurd hnil hne
    · exact .inr ⟨n, hn, hseen, .inl hnil⟩
  · refine ⟨before, window ++ [m], [], hnext, ?_⟩
    rcases hfound with ⟨-, hseen⟩ | ⟨n, hn, hseen, hrest⟩
    · by_cases hload : ∃ o ∈ todo, field w = some o
      · -- not loaded yet: what was seen says nothing about it
        obtain ⟨o, ho, hfield⟩ := hload
        refine .inl ⟨htodo, hgather.only pad _ ?_ hseen⟩
        refine (sameOn_refl _ pad).effect fun o' ho' hc => ?_
        obtain rfl : o = o' := Option.some.inj (hfield.symm.trans hc)
        exact hgather.not_loaded ho ho'
      · -- loaded already: the store found what was seen
        refine .inr ⟨m, by simp, hpad ▸ hseen, .inr ⟨?_, hstage⟩⟩
        rw [hpad]
        exact (sameOn_refl _ pad).effect fun o ho hc => hload ⟨o, ho, hc⟩
    · obtain ⟨hsame, hpast⟩ := hrest.resolve_left htodo
      refine .inr ⟨n, List.mem_append_left _ hn, hseen, .inr ⟨?_, hstage⟩⟩
      refine hsame.effect fun o ho hc => ?_
      have hlevel := (hw.resolve_left hpast).symm.trans hc
      exact hgather.level_loaded (Option.some.inj hlevel ▸ ho)

lemma Sending.read {o : PadOp} {r : o.Ans} (h : Sending t (o :: todo) seen pad stage)
    {m : Moment Who PadOp Shared PadOp.Ans} (hm : IsRead m) (hop : m.op = o)
    (hpad : m.found.pad = pad) (hr : Reads o r pad) :
    Sending (t ++ [m]) todo (fun pad => seen pad ∧ Reads o r pad) pad stage := by
  obtain ⟨before, window, after, hgather, hfound⟩ := h
  have hafter := hgather.after_nil (List.cons_ne_nil _ _)
  have hreads : reads (window ++ [m]) = reads window ++ [o] := by
    rw [reads_append, reads_singleton hm, hop]
  refine ⟨before, window ++ [m], [], ⟨?_, rfl, fun _ => rfl, ?_, ?_, fun _ => ?_, ?_⟩, ?_⟩
  · rw [hgather.split, hafter]
    simp
  · rw [hreads, List.append_assoc]
    exact hgather.loads
  · obtain ⟨n, hn, hread⟩ := hgather.first
    exact ⟨n, by rw [List.head?_append, hn]; rfl, hread⟩
  · exact ⟨m, List.getLast?_concat, hm⟩
  · rintro p q hsame ⟨hp, hrp⟩
    rw [hreads] at hsame
    refine ⟨hgather.only p q (fun o' ho' => hsame o' (List.mem_append_left _ ho')) hp, ?_⟩
    exact (hsame o (by simp) r).mp hrp
  · rcases hfound with ⟨-, hseen⟩ | ⟨n, hn, hseen, hrest⟩
    · by_cases htodo : todo = []
      · exact .inr ⟨m, by simp, hpad ▸ ⟨hseen, hr⟩, .inl htodo⟩
      · exact .inl ⟨htodo, hseen, hr⟩
    · obtain ⟨hsame, hpast⟩ := hrest.resolve_left (List.cons_ne_nil _ _)
      refine .inr ⟨n, List.mem_append_left _ hn,
        ⟨hseen, (hsame o List.mem_cons_self r).mpr hr⟩, .inr ⟨fun o' ho' => ?_, hpast⟩⟩
      exact hsame o' (List.mem_cons_of_mem _ ho')

lemma sending_first {r : ArmLvl} {m : Moment Who PadOp Shared PadOp.Ans} (hm : IsRead m)
    (hop : m.op = .loadLevel) (hr : Reads .loadLevel r pad) :
    Sending (t ++ [m]) padReads.tail (Reads .loadLevel r) pad stage := by
  have hreads : reads [m] = [.loadLevel] := by rw [reads_singleton hm, hop]
  refine ⟨t, [m], [], ⟨by simp, rfl, fun _ => rfl, ?_, ⟨m, rfl, hm⟩, fun hnil => ?_, ?_⟩,
    .inl ⟨List.cons_ne_nil _ _, hr⟩⟩
  · rw [hreads]
    rfl
  · cases hnil
  · intro p q hsame hp
    rw [hreads] at hsame
    exact (hsame .loadLevel (by simp) r).mp hp

/-- Once everything is loaded, some moment of the window is what was seen. -/
lemma Sending.fromWindow {msg : Datagram} {time : UInt32} (h : Sending t [] seen pad stage)
    (hmsg : ∀ pad, seen pad → msg = padDatagram time pad) : FromWindow t msg := by
  obtain ⟨before, window, after, hgather, hfound⟩ := h
  rcases hfound with ⟨hne, -⟩ | ⟨n, hn, hseen, -⟩
  · exact absurd rfl hne
  · refine ⟨window, ⟨⟨before, after, hgather.split, hgather.after_reads⟩, ?_, hgather.first,
      hgather.last rfl⟩, n, hn, time, hmsg _ hseen⟩
    rw [← hgather.loads, List.append_nil]

end Sending

/-! ### Every interleaving -/

structure Track (t : Trace) (s : Shared) (ctl : CtlPath) (tel : TelPath) : Prop where
  ctlHolds : ctl.holds = true → s.mutex = some .controller
  telHolds : tel ≠ .outside → s.mutex = some .telemetry
  sending : ∀ todo seen, tel = .sending todo seen → Sending t todo seen s.pad ctl.stage
  consistent : Consistent t

section Track

variable {t : Trace} {s : Shared} {ctl : CtlPath} {tel : TelPath}

lemma Track.outside (h : Track t s ctl tel) (hm : s.mutex ≠ some .telemetry) :
    tel = .outside := by
  by_contra hne
  exact hm (h.telHolds hne)

lemma Track.not_holds (h : Track t s ctl tel) (hm : s.mutex ≠ some .controller) :
    ctl.holds ≠ true :=
  fun hh => hm (h.ctlHolds hh)

lemma not_isRead_controller (o : PadOp) (r : o.Ans) (s : Shared) :
    ¬ IsRead ⟨.controller, o, r, s⟩ :=
  fun h => Who.noConfusion h.1

lemma track_ctl {ctl' : CtlPath} {o : PadOp} {r : o.Ans} (h : Track t s ctl tel)
    (hen : s.Enabled o) (hstep : CtlPathStep ctl o r ctl') :
    Track (t ++ [⟨.controller, o, r, s⟩]) (s.eff .controller o) ctl' tel := by
  have hread := not_isRead_controller o r s
  have hpub : Consistent (t ++ [⟨.controller, o, r, s⟩]) :=
    h.consistent.concat fun msg hop => by
      obtain rfl : o = .publish msg := hop
      cases hstep
  cases hstep with
  | rdlock | wrlock | rwUnlock | loadLevel | drive | condSignal =>
    exact ⟨h.ctlHolds, h.telHolds,
      fun todo seen htel => (h.sending todo seen htel).other hread, hpub⟩
  | storeAct act b _ hfresh =>
    exact ⟨h.ctlHolds, h.telHolds, fun todo seen htel =>
      (h.sending todo seen htel).store hread rfl (.storeAct act b) Stage.noConfusion
        (.inl hfresh), hpub⟩
  | storeLevel level _ hstage =>
    exact ⟨h.ctlHolds, h.telHolds, fun todo seen htel =>
      (h.sending todo seen htel).store hread rfl (.storeLevel level) Stage.noConfusion
        (.inr rfl), hpub⟩
  | storeConn status _ hfresh =>
    exact ⟨h.ctlHolds, h.telHolds, fun todo seen htel =>
      (h.sending todo seen htel).store hread rfl (.storeConn status) Stage.noConfusion
        (.inl hfresh), hpub⟩
  | mutexLock =>
    have hfree : s.mutex = none := hen
    obtain rfl := h.outside (by rw [hfree]; simp)
    exact ⟨fun _ => rfl, by simp, by simp, hpub⟩
  | record _ hholds =>
    have hmine := h.ctlHolds hholds
    obtain rfl := h.outside (by rw [hmine]; simp)
    exact ⟨fun _ => hmine, by simp, by simp, hpub⟩
  | mutexUnlock _ hholds =>
    obtain rfl := h.outside (by rw [h.ctlHolds hholds]; simp)
    exact ⟨by simp, by simp, by simp, hpub⟩

lemma reads_of_answers {o : PadOp} {r : o.Ans} (hans : s.Answers o r) : Reads o r s.pad := by
  cases o <;> first | exact Eq.symm hans | trivial

lemma eff_of_load {o : PadOp} (ho : o ∈ padReads) (who : Who) : s.eff who o = s := by
  simp only [padReads, List.mem_cons, List.mem_map] at ho
  rcases ho with rfl | rfl | ⟨act, -, rfl⟩ <;> rfl

lemma track_tel {tel' : TelPath} {o : PadOp} {r : o.Ans} (h : Track t s ctl tel)
    (hen : s.Enabled o) (hans : s.Answers o r) (hstep : TelPathStep tel o r tel') :
    Track (t ++ [⟨.telemetry, o, r, s⟩]) (s.eff .telemetry o) ctl tel' := by
  have hpub : (∀ msg, o ≠ .publish msg) → Consistent (t ++ [⟨.telemetry, o, r, s⟩]) :=
    fun hne => h.consistent.concat fun msg hop => absurd hop (hne msg)
  cases hstep with
  | clock | loadUpdate | rdlock | rwUnlock =>
    exact ⟨h.ctlHolds, h.telHolds, fun todo seen htel =>
      (h.sending todo seen htel).other (by simp [IsRead, padReads]), hpub (by simp)⟩
  | mutexLock | condReacquire =>
    have hfree : s.mutex = none := hen
    have hnot := h.not_holds (by rw [hfree]; simp)
    exact ⟨fun hh => absurd hh hnot, fun _ => rfl, by simp, hpub (by simp)⟩
  | condRelease =>
    have hnot := h.not_holds (by rw [h.telHolds (by simp)]; simp)
    exact ⟨fun hh => absurd hh hnot, by simp, by simp, hpub (by simp)⟩
  | first =>
    refine ⟨h.ctlHolds, fun _ => h.telHolds (by simp), fun todo seen htel => ?_, hpub (by simp)⟩
    obtain ⟨rfl, rfl⟩ := TelPath.sending.inj htel
    exact sending_first ⟨rfl, by simp [padReads]⟩ rfl (reads_of_answers hans)
  | read _ todo seen _ ho =>
    have hne : ∀ msg, o ≠ .publish msg := by
      rintro msg rfl
      simp [padReads] at ho
    rw [eff_of_load ho]
    refine ⟨h.ctlHolds, fun _ => h.telHolds (by simp), fun todo' seen' htel => ?_, hpub hne⟩
    obtain ⟨rfl, rfl⟩ := TelPath.sending.inj htel
    exact (h.sending _ seen rfl).read ⟨rfl, ho⟩ rfl rfl (reads_of_answers hans)
  | publish seen msg _ hmsg =>
    obtain ⟨time, hmsg⟩ := hmsg
    refine ⟨h.ctlHolds, fun _ => h.telHolds (by simp), by simp, h.consistent.concat ?_⟩
    intro msg' hop
    obtain rfl : msg = msg' := PadOp.publish.inj hop
    exact (h.sending [] seen rfl).fromWindow hmsg
  | clear =>
    exact ⟨h.ctlHolds, fun _ => h.telHolds (by simp), by simp, hpub (by simp)⟩
  | mutexUnlock =>
    have hnot := h.not_holds (by rw [h.telHolds (by simp)]; simp)
    exact ⟨fun hh => absurd hh hnot, by simp, by simp, hpub (by simp)⟩

end Track

def AtLabel : (who : Who) → Label → Path who → Prop
  | .controller => fun _ => Rested
  | .telemetry => PathAt

lemma path_block {who : Who} {l : Label} {p : PadM Label} {x : Path who} (hp : Blocks who l p)
    (hx : AtLabel who l x) : Follows (paths who) p (AtLabel who) x := by
  cases who with
  | controller =>
    rcases hp with ⟨req, rfl⟩ | ⟨status, rfl⟩
    · exact Follows.bind ((ctl_handle req hx).mono fun _ _ hy => hy)
    · exact Follows.bind ((ctl_setConnstatus status hx.1).mono fun _ _ hy => hy)
  | telemetry =>
    obtain rfl : p = telemetryUpdatePadstate l := hp
    exact tel_updatePadstate l hx

lemma system_tracks (state : PadState) :
    Tracks paths AtLabel (fun t s x => Track t s (x .controller) (x .telemetry)) []
      (system state) := by
  refine ⟨fun | .controller => ⟨.fresh, false⟩ | .telemetry => .outside, ?_, ?_⟩
  · exact ⟨by simp, by simp, by simp, by simp [Consistent]⟩
  · rintro (_ | _)
    · exact ⟨rfl, rfl⟩
    · exact rfl

lemma run_tracks {state : PadState} {c : System} {t : Trace}
    (h : Run (ofMemory memory) Blocks (system state) t c) :
    Tracks paths AtLabel (fun t s x => Track t s (x .controller) (x .telemetry)) t c := by
  refine tracks_of_run ?_ (fun _ _ _ _ hp hx => path_block hp hx) ?_ (system_tracks state) h
  · rintro who o s r s' ⟨-, hans, -⟩
    cases who <;> cases o <;> first | exact hans | trivial
  · rintro t (_ | _) o s r s' x y hJ ⟨hen, hans, rfl⟩ hstep
    · exact track_ctl hJ hen hstep
    · exact track_tel hJ hen hans hstep

/-- **Every datagram is a snapshot.** In any interleaving, what is published carries the
level, the connection status and the actuators of one moment between the first and the last
of the loads it was put together from. -/
theorem snapshot_of_run {state : PadState} {c : System} {past post : Trace}
    {m : Moment Who PadOp Shared PadOp.Ans} {msg : Datagram}
    (h : Run (ofMemory memory) Blocks (system state) (past ++ m :: post) c)
    (hm : m.op = .publish msg) :
    ∃ window, Window past window ∧ ∃ n ∈ window, ∃ time, msg = padDatagram time n.found.pad := by
  obtain ⟨x, htrack, -⟩ := run_tracks h
  exact htrack.consistent past post m msg rfl hm

lemma run_afterBlock (who : Who) (l : Label) (p : PadM Label) {c d : System} {t : Trace}
    (h : Run (ofMemory memory) Blocks c t d) (hp : Blocks who l p) (hret : d.prog who = .ret l)
    (hen : Along (alone who) (fun s o => s.Enabled o) p d.shared) :
    Run (ofMemory memory) Blocks c (t ++ alongDevice (alone who) who p d.shared)
      (afterBlock who p d) := by
  refine run_block (P := fun s o => s.Enabled o) (fun o s ho => ⟨ho, ?_, rfl⟩) h hret hp hen
  cases o <;> first | rfl | trivial

/-- The controller is connected to, and the telemetry thread is about to send. -/
def connectedAndAwake : System :=
  afterBlock .telemetry (telemetryUpdatePadstate (.check 0))
    (afterBlock .telemetry (telemetryUpdatePadstate .outer)
      (afterBlock .controller (padstateSetConnstatus .connConnected >>= fun _ => pure .idle)
        (system zeroed)))

def sendTrace : Trace :=
  alongDevice (alone .telemetry) .telemetry (telemetryUpdatePadstate .send)
    connectedAndAwake.shared

theorem snapshot_of_run_connected : ∃ past post m,
    Run (ofMemory memory) Blocks (system zeroed) (past ++ m :: post) connectedAndPublished ∧
      m.op = .publish (padDatagram 0 connectedAndPublished.shared.pad) ∧
      ∃ window, Window past window ∧ ∃ n ∈ window, ∃ time,
        padDatagram 0 connectedAndPublished.shared.pad = padDatagram time n.found.pad := by
  have h1 := run_afterBlock .controller .idle
    (padstateSetConnstatus .connConnected >>= fun _ => pure .idle) (.refl (c := system zeroed))
    (Or.inr ⟨.connConnected, rfl⟩) rfl (by decide)
  have h2 := run_afterBlock .telemetry .outer _ h1 rfl rfl (by decide)
  have h3 := run_afterBlock .telemetry (.check 0) _ h2 rfl rfl (by decide)
  have h4 := run_afterBlock .telemetry .send _ h3 rfl rfl (by decide)
  have hsplit : sendTrace = sendTrace.take 23 ++ ⟨.telemetry,
      .publish (padDatagram 0 connectedAndPublished.shared.pad), (),
      (sendTrace.get ⟨23, by decide⟩).found⟩ :: sendTrace.drop 24 := rfl
  change Run _ _ _ (_ ++ sendTrace) connectedAndPublished at h4
  rw [hsplit, ← List.append_assoc] at h4
  exact ⟨_, _, _, h4, rfl, snapshot_of_run h4 rfl⟩

end Hysim.Snapshot
