import Hysim.Channel
import Hysim.Snapshot

/-!
What an operator sees of the pad, in the order it happened.

The loads of a datagram begin after the datagram before it, so that the moments the datagrams show
are in order. Datagrams may be lost on their way, and those of the sensors come in between. The
telemetry client reports the first packet of each that arrives, which is the arming level if it is
one with the pad state.
-/

namespace Hysim.History

open Hysim.Lib.Program Hysim.Lib.Threads Hysim.Lib.Runs Hysim.Packets Hysim.Actuators Hysim.State
open Hysim.Serve Hysim.Telemetry Hysim.Publish Hysim.Paths Hysim.Snapshot Hysim.TelemClient
open Hysim.Channel hiding Shown

/-- The datagram carries the pad state of the moment. -/
def Carries (m : Moment Who PadOp Shared PadOp.Ans) (msg : Datagram) : Prop :=
  ∃ time, msg = padDatagram time m.found.pad

/-! ### The datagrams of a run -/

/-- What was loaded since the last datagram, from where the telemetry thread is. -/
def Loaded (rest : Trace) : TelPath → Prop
  | .sending todo _ => reads rest ++ todo = padReads
  | _ => reads rest = []

/-- Up to the last datagram, `past`, there is a moment for each. -/
structure Ordered (past rest : Trace) (s : Shared) (tel : TelPath) : Prop where
  shows : ∃ shown, shown.Sublist past ∧ List.Forall₂ Carries shown s.published
  loaded : Loaded rest tel

section Ordered

variable {past rest : Trace} {s s' : Shared} {tel tel' : TelPath}
  {m : Moment Who PadOp Shared PadOp.Ans}

lemma Loaded.aside (h : Loaded rest tel) (hm : ¬ IsRead m) : Loaded (rest ++ [m]) tel := by
  cases tel <;> simpa [Loaded, reads_singleton_of_not hm] using h

lemma Ordered.aside (h : Ordered past rest s tel) (hm : ¬ IsRead m)
    (hpub : s'.published = s.published) : Ordered past (rest ++ [m]) s' tel :=
  ⟨hpub ▸ h.shows, h.loaded.aside hm⟩

lemma Ordered.pass (h : Ordered past rest s tel) (hm : ¬ IsRead m)
    (hpub : s'.published = s.published) (htel : ∀ todo seen, tel ≠ .sending todo seen)
    (htel' : ∀ todo seen, tel' ≠ .sending todo seen) : Ordered past (rest ++ [m]) s' tel' := by
  have hrest : reads rest = [] := by
    have hloaded := h.loaded
    cases tel with
    | sending todo seen => exact absurd rfl (htel todo seen)
    | outside | holding | sent => exact hloaded
  refine ⟨hpub ▸ h.shows, ?_⟩
  cases tel' with
  | sending todo seen => exact absurd rfl (htel' todo seen)
  | outside | holding | sent => simpa [Loaded, reads_singleton_of_not hm] using hrest

lemma suffix_of_window {window : Trace} (hwindow : Window (past ++ rest) window)
    (hrest : reads rest = padReads) : ∃ before after, rest = before ++ window ++ after := by
  obtain ⟨before, after, hsplit, hafter⟩ := hwindow.split
  rw [List.append_assoc] at hsplit
  rcases List.append_eq_append_iff.mp hsplit with ⟨before', -, hr⟩ | ⟨extra, -, hw⟩
  · exact ⟨before', after, by rw [hr, List.append_assoc]⟩
  -- otherwise the first load of the window is one too many
  · obtain ⟨m, hm, hread⟩ := hwindow.first
    rcases extra with _ | ⟨n, extra⟩
    · exact ⟨[], after, by simpa using hw.symm⟩
    · have hlen := congrArg (fun t => (reads t).length) hw
      obtain ⟨w, rfl⟩ := List.head?_eq_some_iff.mp hm
      obtain rfl : m = n := (List.cons.inj hw).1
      have hcons : reads (m :: extra ++ rest) = m.op :: (reads extra ++ padReads) := by
        rw [List.cons_append, ← List.singleton_append, reads_append, reads_append,
          reads_singleton hread, hrest, List.singleton_append]
      simp only [reads_append, hwindow.loads, hafter] at hlen
      rw [← reads_append, hcons] at hlen
      simp at hlen
      omega

lemma Ordered.publish {msg : Datagram} {seen : PadState → Prop}
    (h : Ordered past rest s (.sending [] seen)) (hfrom : FromWindow (past ++ rest) msg)
    (hpub : s'.published = s.published ++ [msg]) :
    Ordered (past ++ rest ++ [m]) [] s' .sent := by
  obtain ⟨shown, hsub, hall⟩ := h.shows
  obtain ⟨window, hwindow, n, hn, hcarries⟩ := hfrom
  have hloaded : reads rest ++ [] = padReads := h.loaded
  obtain ⟨before, after, hrest⟩ := suffix_of_window hwindow (by rwa [List.append_nil] at hloaded)
  refine ⟨⟨shown ++ [n], ?_, ?_⟩, rfl⟩
  · have hmem : n ∈ rest ++ [m] := by
      rw [hrest]
      simp [hn]
    rw [List.append_assoc]
    exact hsub.append (List.singleton_sublist.mpr hmem)
  · rw [hpub]
    exact List.rel_append hall (.cons hcarries .nil)

end Ordered

structure Told (t : Trace) (s : Shared) (ctl : CtlPath) (tel : TelPath) : Prop where
  track : Track t s ctl tel
  ordered : ∃ past rest, t = past ++ rest ∧ Ordered past rest s tel

section Told

variable {t : Trace} {s : Shared} {ctl : CtlPath} {tel : TelPath}

lemma told_ctl {ctl' : CtlPath} {o : PadOp} {r : o.Ans} (h : Told t s ctl tel)
    (hen : s.Enabled o) (hstep : CtlPathStep ctl o r ctl') :
    Told (t ++ [⟨.controller, o, r, s⟩]) (s.eff .controller o) ctl' tel := by
  obtain ⟨htrack, past, rest, rfl, hordered⟩ := h
  refine ⟨track_ctl htrack hen hstep, past, _, List.append_assoc .., ?_⟩
  refine hordered.aside (not_isRead_controller o r s) ?_
  cases hstep <;> rfl

lemma not_isRead_of_not_mem {o : PadOp} (r : o.Ans) (s : Shared) (h : o ∉ padReads) :
    ¬ IsRead ⟨.telemetry, o, r, s⟩ :=
  fun hread => h hread.2

lemma told_tel {tel' : TelPath} {o : PadOp} {r : o.Ans} (h : Told t s ctl tel)
    (hen : s.Enabled o) (hans : s.Answers o r) (hstep : TelPathStep tel o r tel') :
    Told (t ++ [⟨.telemetry, o, r, s⟩]) (s.eff .telemetry o) ctl tel' := by
  obtain ⟨htrack, past, rest, rfl, hordered⟩ := h
  refine ⟨track_tel htrack hen hans hstep, ?_⟩
  cases hstep with
  | clock | loadUpdate | rdlock | rwUnlock =>
    refine ⟨past, _, List.append_assoc .., hordered.aside ?_ rfl⟩
    exact not_isRead_of_not_mem _ s (by simp [padReads])
  | mutexLock | condRelease | condReacquire | clear | mutexUnlock =>
    refine ⟨past, _, List.append_assoc .., hordered.pass ?_ rfl (by simp) (by simp)⟩
    exact not_isRead_of_not_mem _ s (by simp [padReads])
  | first =>
    have hrest : reads rest = [] := hordered.loaded
    refine ⟨past, _, List.append_assoc .., hordered.shows, ?_⟩
    change reads (rest ++ _) ++ padReads.tail = padReads
    rw [reads_append, hrest, reads_singleton ⟨rfl, by simp [padReads]⟩]
    rfl
  | read _ todo seen _ hmem =>
    have hrest : reads rest ++ o :: todo = padReads := hordered.loaded
    refine ⟨past, _, List.append_assoc .., ?_, ?_⟩
    · rw [eff_of_load hmem]
      exact hordered.shows
    · change reads (rest ++ _) ++ todo = padReads
      rw [reads_append, reads_singleton ⟨rfl, hmem⟩, List.append_assoc]
      exact hrest
  | publish seen msg _ hmsg =>
    obtain ⟨time, hmsg⟩ := hmsg
    have hfrom : FromWindow (past ++ rest) msg := (htrack.sending [] seen rfl).fromWindow hmsg
    exact ⟨past ++ rest ++ [_], [], (List.append_nil _).symm, hordered.publish hfrom rfl⟩

end Told

lemma told_of_run {state : PadState} {t : Trace} {c : System}
    (hrun : Run (ofMemory memory) Blocks (system state) t c) :
    Tracks paths AtLabel (fun t s x => Told t s (x .controller) (x .telemetry)) t c := by
  have hstart : Tracks paths AtLabel (fun t s x => Told t s (x .controller) (x .telemetry)) []
      (system state) := by
    obtain ⟨x, htrack, hfollows⟩ := system_tracks state
    have htel : x .telemetry = .outside := hfollows .telemetry
    refine ⟨x, ⟨htrack, [], [], rfl, ⟨[], .slnil, .nil⟩, ?_⟩, hfollows⟩
    rw [htel]
    rfl
  refine tracks_of_run ?_ ?_ ?_ hstart hrun
  · rintro who o s r s' ⟨-, hans, -⟩
    cases who <;> cases o <;> first | exact hans | trivial
  · exact fun _ _ _ _ hp hx => path_block hp hx
  · rintro t (_ | _) o s r s' x y hJ ⟨hen, hans, rfl⟩ hstep
    · exact told_ctl hJ hen hstep
    · exact told_tel hJ hen hans hstep

/-- **The datagrams tell the history of the pad.** In every interleaving in which the lock calls
succeed there is a moment of the run for each datagram published, in the same order, whose pad state
it carries. -/
theorem history_of_run {state : PadState} {t : Trace} {c : System}
    (hrun : Run (ofMemory memory) Blocks (system state) t c) :
    ∃ shown, shown.Sublist t ∧ List.Forall₂ Carries shown c.shared.published := by
  obtain ⟨x, ⟨-, past, rest, rfl, hordered⟩, -⟩ := told_of_run hrun
  obtain ⟨shown, hsub, hall⟩ := hordered.shows
  exact ⟨shown, hsub.trans (List.sublist_append_left past rest), hall⟩

lemma publishing : ∃ t, Run (ofMemory memory) Blocks (system zeroed) t connectedAndPublished := by
  have h0 : Run (ofMemory memory) Blocks (system zeroed) [] (system zeroed) := .refl
  have h1 := run_afterBlock .controller .idle
    (padstateSetConnstatus .connConnected >>= fun _ => pure .idle) h0 (.inr ⟨_, rfl⟩) rfl
    (by decide)
  have h2 := run_afterBlock .telemetry .outer _ h1 rfl rfl (by decide)
  have h3 := run_afterBlock .telemetry (.check 0) _ h2 rfl rfl (by decide)
  exact ⟨_, run_afterBlock .telemetry .send _ h3 rfl rfl (by decide)⟩

theorem history_of_run_connected : ∃ t,
    Run (ofMemory memory) Blocks (system zeroed) t connectedAndPublished ∧
      connectedAndPublished.shared.published.length = 1 ∧
      ∃ shown, shown.Sublist t ∧
        List.Forall₂ Carries shown connectedAndPublished.shared.published := by
  obtain ⟨t, hrun⟩ := publishing
  exact ⟨t, hrun, rfl, history_of_run hrun⟩

/-! ### What arrives, and what is reported -/

/-- Of the datagrams with the pad state some are lost. Those of the sensors come in between. -/
inductive Arrives : List Datagram → List Datagram → Prop
  | nil : Arrives [] []
  | lost {msgs queue : List Datagram} (msg : Datagram) (h : Arrives msgs queue) :
      Arrives (msg :: msgs) queue
  | padstate {msgs queue : List Datagram} (msg : Datagram) (h : Arrives msgs queue) :
      Arrives (msg :: msgs) (msg :: queue)
  | sensors {msgs queue : List Datagram} (p : Packet) (ps : Datagram) (hp : IsSensor p)
      (h : Arrives msgs queue) : Arrives msgs ((p :: ps) :: queue)

def levels (reports : List Packet) : List UInt8 :=
  reports.filterMap fun
    | .arm p => some p.state
    | _ => none

def waiting (c : Client) (queue : List Datagram) : Client :=
  { c with queue := queue.map encode, running := true }

def firsts (queue : List Datagram) : List Packet := queue.filterMap List.head?

@[simp] lemma firsts_cons (p : Packet) (ps : Datagram) (queue : List Datagram) :
    firsts ((p :: ps) :: queue) = p :: firsts queue := rfl

/-- The first packet is one the client has a case for. -/
def Heads (msg : Datagram) : Prop := ∃ p ps, msg = p :: ps ∧ Channel.Shown p

lemma IsSensor.shown {p : Packet} (h : IsSensor p) : Channel.Shown p := by
  cases p <;> first | exact h.elim | trivial

lemma iterate_heads (c : Client) {p : Packet} (hp : Channel.Shown p) (ps : Datagram)
    (queue : List Datagram) : ∃ d, iterate received (waiting c ((p :: ps) :: queue)) =
      waiting d queue ∧ d.reports = c.reports ++ [p] := by
  obtain ⟨packet, hcase, hdecode⟩ := telemCase_shown hp
  have htype : p.header.type = PacketType.telem.val := by
    cases p <;> first | rfl | exact hp.elim
  have hbytes : encode (p :: ps) ≠ [] := by simp [bytes_ne_nil]
  have hpeek : (waiting c ((p :: ps) :: queue)).peeked (encode (p :: ps)) =
      { waiting c ((p :: ps) :: queue) with hdr := p.header } := by
    simp [Client.peeked, Packet.bytes, HeaderP.bytes]
  have hread : iterate received (waiting c ((p :: ps) :: queue)) =
      report received { waiting c ((p :: ps) :: queue) with hdr := p.header } := by
    rw [iterate, if_neg (by simp [waiting]), if_neg (by simp [received])]
    change (if encode (p :: ps) = [] then _ else _) = _
    rw [if_neg hbytes, hpeek, if_neg (not_not.mpr htype)]
  refine ⟨{ c with hdr := p.header, buffer := fill c.buffer p.bytes, reports := c.reports ++ [p] },
    ?_, rfl⟩
  rw [hread, report, hcase]
  simp [streamRecv, waiting, received, hdecode]

lemma iterations_heads (n : ℕ) (c : Client) {queue : List Datagram} (h : ∀ msg ∈ queue, Heads msg) :
    ∃ d, iterations n (waiting c queue) = waiting d (queue.drop n) ∧
      d.reports = c.reports ++ firsts (queue.take n) := by
  induction n generalizing c queue with
  | zero => exact ⟨c, rfl, by simp [firsts]⟩
  | succ n ih =>
    rcases queue with _ | ⟨msg, queue⟩
    · have hidle : iterate received (waiting c []) = waiting c [] := by
        simp [iterate, waiting, received]
      obtain ⟨d, hd, hreports⟩ := ih c h
      refine ⟨d, ?_, by simpa using hreports⟩
      rw [iterations, Function.iterate_succ_apply, hidle]
      exact hd.trans (by simp)
    · obtain ⟨p, ps, rfl, hp⟩ := h msg List.mem_cons_self
      obtain ⟨d, hd, hreports⟩ := iterate_heads c hp ps queue
      obtain ⟨e, he, hrest⟩ := ih d fun msg hm => h msg (List.mem_cons_of_mem _ hm)
      refine ⟨e, ?_, ?_⟩
      · rw [iterations, Function.iterate_succ_apply, hd]
        exact he
      · rw [hrest, hreports]
        simp

lemma length_heads {queue : List Datagram} (h : ∀ msg ∈ queue, Heads msg) :
    (firsts queue).length = queue.length := by
  induction queue with
  | nil => rfl
  | cons msg queue ih =>
    obtain ⟨p, ps, rfl, -⟩ := h msg List.mem_cons_self
    rw [firsts_cons, List.length_cons, List.length_cons,
      ih fun msg hm => h msg (List.mem_cons_of_mem _ hm)]

section Arrives

variable {msgs queue : List Datagram}

lemma arrives_nil (msgs : List Datagram) : Arrives msgs [] := by
  induction msgs with
  | nil => exact .nil
  | cons msg _ ih => exact .lost msg ih

lemma Arrives.take (h : Arrives msgs queue) (n : ℕ) : Arrives msgs (queue.take n) := by
  induction h generalizing n with
  | nil => simpa using Arrives.nil
  | lost msg _ ih => exact .lost msg (ih n)
  | padstate msg _ ih =>
    cases n with
    | zero => exact arrives_nil _
    | succ n => exact .padstate msg (ih n)
  | sensors p ps hp _ ih =>
    cases n with
    | zero => exact arrives_nil _
    | succ n => exact .sensors p ps hp (ih n)

lemma Arrives.heads {shown : Trace} (h : Arrives msgs queue)
    (hall : List.Forall₂ Carries shown msgs) : ∀ msg ∈ queue, Heads msg := by
  induction h generalizing shown with
  | nil => simp
  | lost _ _ ih =>
    cases hall with
    | cons _ hrest => exact ih hrest
  | padstate _ _ ih =>
    cases hall with
    | cons hcarries hrest =>
      obtain ⟨time, rfl⟩ := hcarries
      exact List.forall_mem_cons.mpr ⟨⟨_, _, rfl, trivial⟩, ih hrest⟩
  | sensors p ps hp _ ih =>
    exact List.forall_mem_cons.mpr ⟨⟨p, ps, rfl, IsSensor.shown hp⟩, ih hall⟩

def Level (m : Moment Who PadOp Shared PadOp.Ans) (level : UInt8) : Prop :=
  level = m.found.pad.armLevel.val.toUInt8

lemma levels_sensor {p : Packet} (hp : IsSensor p) (ps : List Packet) :
    levels (p :: ps) = levels ps := by
  cases p <;> first | exact hp.elim | rfl

lemma Arrives.levels {shown : Trace} (h : Arrives msgs queue)
    (hall : List.Forall₂ Carries shown msgs) : ∃ seen, seen.Sublist shown ∧
      List.Forall₂ Level seen (levels (firsts queue)) := by
  induction h generalizing shown with
  | nil => exact ⟨[], List.nil_sublist _, .nil⟩
  | lost _ _ ih =>
    cases hall with
    | cons _ hrest =>
      obtain ⟨seen, hsub, hseen⟩ := ih hrest
      exact ⟨seen, hsub.cons _, hseen⟩
  | padstate _ _ ih =>
    cases hall with
    | @cons m _ _ _ hcarries hrest =>
      obtain ⟨time, rfl⟩ := hcarries
      obtain ⟨seen, hsub, hseen⟩ := ih hrest
      exact ⟨m :: seen, hsub.cons_cons m, .cons rfl hseen⟩
  | sensors p ps hp _ ih =>
    obtain ⟨seen, hsub, hseen⟩ := ih hall
    refine ⟨seen, hsub, ?_⟩
    rw [firsts_cons, levels_sensor hp]
    exact hseen

end Arrives

lemma reports_of_arrives {msgs queue : List Datagram} {shown : Trace}
    (harrives : Arrives msgs queue) (hall : List.Forall₂ Carries shown msgs) (client : Client)
    (hnone : client.reports = []) (n : ℕ) :
    (iterations n (waiting client queue)).reports = firsts (queue.take n) := by
  obtain ⟨d, hd, hreports⟩ := iterations_heads n client (harrives.heads hall)
  rw [hd]
  simpa [waiting, hnone] using hreports

lemma exists_seen {state : PadState} {t : Trace} {c : System}
    (hrun : Run (ofMemory memory) Blocks (system state) t c) {queue : List Datagram}
    (harrives : Arrives c.shared.published queue) (client : Client) (hnone : client.reports = [])
    (n : ℕ) : ∃ seen, seen.Sublist t ∧
      List.Forall₂ Level seen (levels (iterations n (waiting client queue)).reports) := by
  obtain ⟨x, ⟨-, past, rest, rfl, hordered⟩, -⟩ := told_of_run hrun
  obtain ⟨shown, hshown, hall⟩ := hordered.shows
  rw [reports_of_arrives harrives hall client hnone]
  obtain ⟨seen, hsub, hseen⟩ := (harrives.take n).levels hall
  exact ⟨seen, hsub.trans (hshown.trans (List.sublist_append_left past rest)), hseen⟩

/-- **What the operator sees happened, in that order.** Whatever datagrams are lost, however those
of the sensors come in between and as far as the client has come: it has reported one packet of
each datagram, and the arming levels among them are the levels of moments of the run, in their
order. The lock calls of the run succeed. -/
theorem operator_of_run {state : PadState} {t : Trace} {c : System}
    (hrun : Run (ofMemory memory) Blocks (system state) t c) {queue : List Datagram}
    (harrives : Arrives c.shared.published queue) (client : Client) (hnone : client.reports = [])
    (n : ℕ) :
    (iterations n (waiting client queue)).reports.length = min n queue.length ∧
      ∃ seen, seen.Sublist t ∧
        List.Forall₂ Level seen (levels (iterations n (waiting client queue)).reports) := by
  refine ⟨?_, exists_seen hrun harrives client hnone n⟩
  obtain ⟨x, ⟨-, past, rest, rfl, hordered⟩, -⟩ := told_of_run hrun
  obtain ⟨shown, -, hall⟩ := hordered.shows
  rw [reports_of_arrives harrives hall client hnone, ← List.length_take]
  exact length_heads fun msg hmsg => harrives.heads hall msg (List.mem_of_mem_take hmsg)

def started : Client := ⟨[], ⟨0, 0⟩, fun _ => 0, [], true⟩

theorem operator_of_run_connected : ∃ t queue,
    Run (ofMemory memory) Blocks (system zeroed) t connectedAndPublished ∧
      Arrives connectedAndPublished.shared.published queue ∧ queue.length = 2 ∧
      (iterations 2 (waiting started queue)).reports.length = min 2 queue.length ∧
      ∃ seen, seen.Sublist t ∧
        List.Forall₂ Level seen (levels (iterations 2 (waiting started queue)).reports) := by
  obtain ⟨t, hrun⟩ := publishing
  have hpub : connectedAndPublished.shared.published =
      [padDatagram 0 connectedAndPublished.shared.pad] := rfl
  have harrives : Arrives connectedAndPublished.shared.published
      [[.mass ⟨0, 0, 0⟩], padDatagram 0 connectedAndPublished.shared.pad] := by
    rw [hpub]
    exact .sensors _ _ trivial (.padstate _ .nil)
  exact ⟨t, _, hrun, harrives, rfl, operator_of_run hrun harrives started rfl 2⟩

end Hysim.History
