import Hysim.Paths

/-!
The controller and the telemetry thread side by side.

An update may be recorded before, during or after a wait, and while a datagram is put
together. None is lost: whatever was stored before the mutex was taken is in the datagram,
and whatever is stored later records an update once the mutex is free again.
-/

namespace Hysim.Publish

open Hysim.Lib.Program Hysim.Lib.Threads Hysim.Packets Hysim.Actuators Hysim.State
open Hysim.Serve Hysim.Telemetry Hysim.Paths

/-! ### The monitors -/

/-- What the controller has done so far: stored something no update is recorded for yet,
taken the mutex. -/
structure CtlMon where
  dirty : Bool
  holds : Bool

inductive CtlStep : CtlMon → (o : PadOp) → o.Ans → CtlMon → Prop
  | rdlock (m r) : CtlStep m .rdlock r m
  | wrlock (m r) : CtlStep m .wrlock r m
  | rwUnlock (m r) : CtlStep m .rwUnlock r m
  | loadLevel (m r) : CtlStep m .loadLevel r m
  | drive (m act on r) : CtlStep m (.drive act on) r m
  | storeLevel (m level r) : CtlStep m (.storeLevel level) r { m with dirty := true }
  | storeConn (m status r) : CtlStep m (.storeConn status) r { m with dirty := true }
  | storeAct (m act b r) : CtlStep m (.storeAct act b) r { m with dirty := true }
  | mutexLock (m r) : CtlStep m .mutexLock r { m with holds := true }
  | record (m r) (h : m.holds = true) : CtlStep m (.storeUpdate true) r { m with dirty := false }
  | condSignal (m r) : CtlStep m .condSignal r m
  | mutexUnlock (m r) (h : m.holds = true) : CtlStep m .mutexUnlock r { m with holds := false }

/-- Where the telemetry thread is: without the mutex, with it and some knowledge of the pad
state, or past publishing. -/
inductive TelMon
  | outside
  | reading (known : PadState → Prop)
  | sent

inductive TelStep : TelMon → (o : PadOp) → o.Ans → TelMon → Prop
  | clock (m r) : TelStep m .clock r m
  | mutexLock (r) : TelStep .outside .mutexLock r (.reading fun _ => True)
  | loadUpdate (m r) : TelStep m .loadUpdate r m
  | condRelease (known r) : TelStep (.reading known) .condRelease r .outside
  | condReacquire (r) : TelStep .outside .condReacquire r (.reading fun _ => True)
  | rdlock (m r) : TelStep m .rdlock r m
  | rwUnlock (m r) : TelStep m .rwUnlock r m
  | loadLevel (known r) : TelStep (.reading known) .loadLevel r
      (.reading fun pad => known pad ∧ pad.armLevel = r)
  | loadConn (known r) : TelStep (.reading known) .loadConn r
      (.reading fun pad => known pad ∧ pad.connStatus = r)
  | loadAct (known act r) : TelStep (.reading known) (.loadAct act) r
      (.reading fun pad => known pad ∧ (pad.actuators act).state = r)
  | publish (known msg r) (h : ∃ time, ∀ pad, known pad → msg = padDatagram time pad) :
      TelStep (.reading known) (.publish msg) r .sent
  | clear (r) : TelStep .sent (.storeUpdate false) r .sent
  | mutexUnlock (r) : TelStep .sent .mutexUnlock r .outside

@[reducible] def Mon : Who → Type
  | .controller => CtlMon
  | .telemetry => TelMon

def monitor : (who : Who) → Monitor PadOp PadOp.Ans (Mon who)
  | .controller => ⟨Expects, CtlStep⟩
  | .telemetry => ⟨Expects, TelStep⟩

/-! ### The invariant -/

structure Inv (s : Shared) (ctl : CtlMon) (tel : TelMon) : Prop where
  shown : ctl.dirty = false → s.pad.updateRecorded = false → s.changed = true → Shown s
  ctlHolds : ctl.holds = true → s.mutex = some .controller
  telHolds : tel ≠ .outside → s.mutex = some .telemetry
  known : ∀ known, tel = .reading known → ctl.dirty = false → known s.pad
  sent : tel = .sent → ctl.dirty = false → Shown s

lemma Inv.outside {s : Shared} {ctl : CtlMon} {tel : TelMon} (h : Inv s ctl tel)
    (hm : s.mutex ≠ some .telemetry) : tel = .outside := by
  by_contra hne
  exact hm (h.telHolds hne)

lemma Inv.not_holds {s : Shared} {ctl : CtlMon} {tel : TelMon} (h : Inv s ctl tel)
    (hm : s.mutex ≠ some .controller) : ctl.holds ≠ true :=
  fun hh => hm (h.ctlHolds hh)

lemma Inv.learn {s : Shared} {ctl : CtlMon} {known claim : PadState → Prop}
    (h : Inv s ctl (.reading known)) (hclaim : claim s.pad) :
    Inv s ctl (.reading fun pad => known pad ∧ claim pad) := by
  refine ⟨h.shown, h.ctlHolds, fun _ => h.telHolds (by simp), fun known' hk hd => ?_, by simp⟩
  obtain rfl := TelMon.reading.inj hk
  exact ⟨h.known known rfl hd, hclaim⟩

lemma inv_ctl {s : Shared} {ctl ctl' : CtlMon} {tel : TelMon} {o : PadOp} {r : o.Ans}
    (h : Inv s ctl tel) (hen : s.Enabled o) (hstep : CtlStep ctl o r ctl') :
    Inv (s.eff .controller o) ctl' tel := by
  cases hstep with
  | rdlock | wrlock | rwUnlock | loadLevel | drive | condSignal =>
    exact ⟨h.shown, h.ctlHolds, h.telHolds, h.known, h.sent⟩
  | storeLevel | storeConn | storeAct =>
    exact ⟨by simp, h.ctlHolds, h.telHolds, by simp, by simp⟩
  | mutexLock =>
    have hfree : s.mutex = none := hen
    obtain rfl := h.outside (by rw [hfree]; simp)
    exact ⟨h.shown, fun _ => rfl, by simp, by simp, by simp⟩
  | record r hholds =>
    have hmine := h.ctlHolds hholds
    obtain rfl := h.outside (by rw [hmine]; simp)
    exact ⟨fun _ hrec => absurd hrec (by simp [Shared.eff, PadOp.effect]), fun _ => hmine, by simp,
      by simp, by simp⟩
  | mutexUnlock r hholds =>
    obtain rfl := h.outside (by rw [h.ctlHolds hholds]; simp)
    exact ⟨h.shown, by simp, by simp, by simp, by simp⟩

lemma inv_tel {s : Shared} {ctl : CtlMon} {tel tel' : TelMon} {o : PadOp} {r : o.Ans}
    (h : Inv s ctl tel) (hen : s.Enabled o) (hans : s.Answers o r)
    (hstep : TelStep tel o r tel') : Inv (s.eff .telemetry o) ctl tel' := by
  cases hstep with
  | clock | loadUpdate | rdlock | rwUnlock =>
    exact ⟨h.shown, h.ctlHolds, h.telHolds, h.known, h.sent⟩
  | mutexLock | condReacquire =>
    have hfree : s.mutex = none := hen
    have hnot := h.not_holds (by rw [hfree]; simp)
    refine ⟨h.shown, fun hh => absurd hh hnot, fun _ => rfl, fun known hk _ => ?_, by simp⟩
    obtain rfl := TelMon.reading.inj hk
    trivial
  | condRelease known =>
    have hnot := h.not_holds (by rw [h.telHolds (by simp)]; simp)
    exact ⟨h.shown, fun hh => absurd hh hnot, by simp, by simp, by simp⟩
  | loadLevel known => exact h.learn hans.symm
  | loadConn known => exact h.learn hans.symm
  | loadAct known act => exact h.learn hans.symm
  | publish known msg r hmsg =>
    obtain ⟨time, hmsg⟩ := hmsg
    have hshown : ctl.dirty = false → Shown (s.eff .telemetry (.publish msg)) := by
      intro hd
      refine ⟨time, ?_⟩
      rw [hmsg s.pad (h.known known rfl hd)]
      exact List.getLast?_concat
    exact ⟨fun hd _ _ => hshown hd, h.ctlHolds, fun _ => h.telHolds (by simp), by simp,
      fun _ hd => hshown hd⟩
  | clear =>
    have hshown : ctl.dirty = false → Shown (s.eff .telemetry (.storeUpdate false)) := h.sent rfl
    exact ⟨fun hd _ _ => hshown hd, h.ctlHolds, fun _ => h.telHolds (by simp), by simp,
      fun _ hd => hshown hd⟩
  | mutexUnlock =>
    have hnot := h.not_holds (by rw [h.telHolds (by simp)]; simp)
    exact ⟨h.shown, fun hh => absurd hh hnot, by simp, by simp, by simp⟩

/-! ### From the paths to the monitors -/

def monOf (m : CtlPath) : CtlMon := ⟨m.stage ≠ .fresh, m.holds⟩

lemma ctl_simulates {x y : CtlPath} {o : PadOp} {r : o.Ans} (h : CtlPathStep x o r y) :
    CtlStep (monOf x) o r (monOf y) := by
  cases h with
  | rdlock => exact .rdlock _ _
  | wrlock => exact .wrlock _ _
  | rwUnlock => exact .rwUnlock _ _
  | loadLevel => exact .loadLevel _ _
  | drive act on => exact .drive _ act on _
  | condSignal => exact .condSignal _ _
  | storeAct act b => exact .storeAct _ act b _
  | storeLevel level => exact .storeLevel _ level _
  | storeConn status => exact .storeConn _ status _
  | mutexLock => exact .mutexLock _ _
  | record _ hholds => exact .record _ _ hholds
  | mutexUnlock _ hholds => exact .mutexUnlock _ _ hholds

def Covers : TelPath → TelMon → Prop
  | .outside, m => m = .outside
  | .holding, m => ∃ known, m = .reading known
  | .sending _ seen, m => ∃ known, m = .reading known ∧ ∀ pad, known pad → seen pad
  | .sent, m => m = .sent

lemma tel_simulates {x y : TelPath} {o : PadOp} {r : o.Ans} {x' : TelMon}
    (h : TelPathStep x o r y) (hx : Covers x x') : ∃ y', TelStep x' o r y' ∧ Covers y y' := by
  cases h with
  | clock => exact ⟨x', .clock _ _, hx⟩
  | loadUpdate => exact ⟨x', .loadUpdate _ _, hx⟩
  | rdlock => exact ⟨x', .rdlock _ _, hx⟩
  | rwUnlock => exact ⟨x', .rwUnlock _ _, hx⟩
  | mutexLock =>
    obtain rfl : x' = .outside := hx
    exact ⟨_, .mutexLock _, _, rfl⟩
  | condReacquire =>
    obtain rfl : x' = .outside := hx
    exact ⟨_, .condReacquire _, _, rfl⟩
  | condRelease =>
    obtain ⟨known, rfl⟩ := hx
    exact ⟨_, .condRelease known _, rfl⟩
  | first =>
    obtain ⟨known, rfl⟩ := hx
    exact ⟨_, .loadLevel known _, _, rfl, fun pad hp => hp.2⟩
  | read _ todo seen _ hread =>
    obtain ⟨known, rfl, hknown⟩ := hx
    simp only [padReads, List.mem_cons, List.mem_map] at hread
    rcases hread with rfl | rfl | ⟨act, -, rfl⟩
    · exact ⟨_, .loadLevel known _, _, rfl, fun pad hp => ⟨hknown pad hp.1, hp.2⟩⟩
    · exact ⟨_, .loadConn known _, _, rfl, fun pad hp => ⟨hknown pad hp.1, hp.2⟩⟩
    · exact ⟨_, .loadAct known act _, _, rfl, fun pad hp => ⟨hknown pad hp.1, hp.2⟩⟩
  | publish seen msg _ hmsg =>
    obtain ⟨known, rfl, hknown⟩ := hx
    obtain ⟨time, hmsg⟩ := hmsg
    exact ⟨_, .publish known msg _ ⟨time, fun pad hp => hmsg pad (hknown pad hp)⟩, rfl⟩
  | clear =>
    obtain rfl : x' = .sent := hx
    exact ⟨_, .clear _, rfl⟩
  | mutexUnlock =>
    obtain rfl : x' = .sent := hx
    exact ⟨_, .mutexUnlock _, rfl⟩

/-- An update is recorded for everything stored. -/
def Clean (m : CtlMon) : Prop := m.dirty = false ∧ m.holds = false

lemma ctl_follows {α : Type} {p : PadM α} (h : Ctl p (fun _ y => Rested y) ⟨.fresh, false⟩)
    {m : CtlMon} (hm : Clean m) : Follows (monitor .controller) p (fun _ y => Clean y) m := by
  have hstart : m = monOf ⟨.fresh, false⟩ := by
    obtain ⟨dirty, holds⟩ := m
    obtain ⟨rfl, rfl⟩ : dirty = false ∧ holds = false := hm
    rfl
  have hall : Follows (monitor .controller) p
      (fun _ m => ∃ y : CtlPath, Rested y ∧ m = monOf y) m :=
    Follows.simulate (m := paths .controller) (R := fun (x : CtlPath) m => m = monOf x)
      (fun _ _ hr => hr) (fun x o r y _ hs hx => ⟨_, hx ▸ ctl_simulates hs, rfl⟩) h hstart
  refine hall.mono ?_
  rintro _ _ ⟨y, ⟨hstage, hholds⟩, rfl⟩
  exact ⟨by simp [monOf, hstage], hholds⟩

/-- With the mutex held, the thread knows what this says about the pad state. -/
def Knows (claim : PadState → Prop) (m : TelMon) : Prop :=
  ∃ known, m = .reading known ∧ ∀ pad, known pad → claim pad

def TelAt : Label → TelMon → Prop
  | .outer, m => m = .outside
  | .check _, m => Knows (fun _ => True) m
  | .send, m => Knows (fun _ => True) m
  | .idle, _ => False

lemma tel_follows (l : Label) {m : TelMon} (h : TelAt l m) :
    Follows (monitor .telemetry) (telemetryUpdatePadstate l) TelAt m := by
  have hat : ∃ x, PathAt l x ∧ Covers x m := by
    cases l with
    | outer => exact ⟨.outside, rfl, h⟩
    | check err =>
      obtain ⟨known, rfl, -⟩ := h
      exact ⟨.holding, rfl, known, rfl⟩
    | send =>
      obtain ⟨known, rfl, -⟩ := h
      exact ⟨.holding, rfl, known, rfl⟩
    | idle => exact h.elim
  obtain ⟨x, hx, hcovers⟩ := hat
  have hall : Follows (monitor .telemetry) (telemetryUpdatePadstate l)
      (fun l' m' => ∃ y, PathAt l' y ∧ Covers y m') m :=
    Follows.simulate (m := paths .telemetry) (R := Covers) (fun _ _ hr => hr)
      (fun x o r y x' hs hx => tel_simulates hs hx) (tel_updatePadstate l hx) hcovers
  refine hall.mono ?_
  rintro l' m' ⟨y, hy, hcovers⟩
  cases l' with
  | outer =>
    obtain rfl : y = .outside := hy
    exact hcovers
  | check err =>
    obtain rfl : y = .holding := hy
    obtain ⟨known, rfl⟩ := hcovers
    exact ⟨known, rfl, fun _ _ => trivial⟩
  | send =>
    obtain rfl : y = .holding := hy
    obtain ⟨known, rfl⟩ := hcovers
    exact ⟨known, rfl, fun _ _ => trivial⟩
  | idle => exact hy.elim

/-! ### Every interleaving -/

def AtRest : (who : Who) → Label → Mon who → Prop
  | .controller => fun _ => Clean
  | .telemetry => TelAt

lemma system_good (state : PadState) :
    Good monitor AtRest (fun s x => Inv s (x .controller) (x .telemetry)) (system state) := by
  refine ⟨fun | .controller => ⟨false, false⟩ | .telemetry => .outside, ?_, ?_⟩
  · exact ⟨by simp [system], by simp, by simp, by simp, by simp⟩
  · rintro (_ | _)
    · exact ⟨rfl, rfl⟩
    · exact rfl

lemma reach_good {state : PadState} {c : System} (h : Reach memory Blocks (system state) c) :
    Good monitor AtRest (fun s x => Inv s (x .controller) (x .telemetry)) c := by
  refine good_of_reach ?_ ?_ ?_ (system_good state) h
  · intro who o s r hans
    cases who <;> cases o <;> first | exact hans | trivial
  · rintro (_ | _) l p x hp hx
    · rcases hp with ⟨req, rfl⟩ | ⟨status, rfl⟩
      · exact Follows.bind (ctl_follows (ctl_handle req ⟨rfl, rfl⟩) hx)
      · exact Follows.bind (ctl_follows (ctl_setConnstatus status rfl) hx)
    · obtain rfl : p = telemetryUpdatePadstate l := hp
      exact tel_follows l hx
  · rintro (_ | _) o s r x y hJ hen hans hstep
    · exact inv_ctl hJ hen hstep
    · exact inv_tel hJ hen hans hstep

/-- **No update is lost.** Whenever the controller is between two operations and no update is
recorded, the last datagram carries the state of the pad, once it was ever changed. The mutex
need not be free for it. -/
theorem shown_of_reach {state : PadState} {c : System}
    (h : Reach memory Blocks (system state) c) (hidle : Idle c)
    (hrec : c.shared.pad.updateRecorded = false) (hchanged : c.shared.changed = true) :
    Shown c.shared := by
  obtain ⟨x, hinv, hfollows⟩ := reach_good h
  obtain ⟨l, hl⟩ := hidle
  have hclean := hfollows .controller
  rw [hl] at hclean
  exact hinv.shown hclean.1 hrec hchanged

/-- A thread that is not interrupted, every call answered at once. -/
def alone (who : Who) : Device PadOp PadOp.Ans Shared where
  ans
    | .rdlock, _ | .wrlock, _ | .mutexLock, _ | .condSignal, _ | .condReacquire, _ => (0 : Int)
    | .drive _ _, _ => (0 : Int)
    | .loadLevel, s => s.pad.armLevel
    | .loadConn, s => s.pad.connStatus
    | .loadAct act, s => (s.pad.actuators act).state
    | .loadUpdate, s => s.pad.updateRecorded
    | .clock, _ => (0 : UInt32)
    | .rwUnlock, _ | .mutexUnlock, _ | .condRelease, _ | .storeLevel _, _ | .storeConn _, _
    | .storeAct _ _, _ | .storeUpdate _, _ | .publish _, _ => ()
  eff o s := s.eff who o

/-- A thread at a label has run one of its programs without interruption. -/
def afterBlock (who : Who) (p : PadM Label) (c : System) : System :=
  ⟨(run (alone who) p c.shared).2, Function.update c.prog who (.ret (run (alone who) p c.shared).1)⟩

lemma reach_afterBlock {who : Who} {l : Label} {p : PadM Label} {c : System}
    (hp : Blocks who l p) (hret : c.prog who = .ret l)
    (hen : Along (alone who) (fun s o => s.Enabled o) p c.shared) :
    Reach memory Blocks c (afterBlock who p c) := by
  refine reach_block (fun o s => ?_) (fun _ _ => rfl) hp hret hen
  cases o <;> first | rfl | trivial

instance (who : Who) (p : PadM Label) (s : Shared) :
    Decidable (Along (alone who) (fun s o => s.Enabled o) p s) :=
  inferInstanceAs (Decidable (∀ m ∈ moments (alone who) p s, m.1.Enabled m.2))

/-- The controller is connected to, and the telemetry thread wakes up and publishes. -/
def connectedAndPublished : System :=
  afterBlock .telemetry (telemetryUpdatePadstate .send)
    (afterBlock .telemetry (telemetryUpdatePadstate (.check 0))
      (afterBlock .telemetry (telemetryUpdatePadstate .outer)
        (afterBlock .controller (padstateSetConnstatus .connConnected >>= fun _ => pure .idle)
          (system zeroed))))

theorem shown_of_reach_connected : connectedAndPublished.shared.pad.connStatus = .connConnected ∧
    Shown connectedAndPublished.shared := by
  have hreach : Reach memory Blocks (system zeroed) connectedAndPublished := by
    unfold connectedAndPublished
    refine .trans ?_ (reach_afterBlock (l := .send) rfl rfl (by decide))
    refine .trans ?_ (reach_afterBlock (l := .check 0) rfl rfl (by decide))
    refine .trans ?_ (reach_afterBlock (l := .outer) rfl rfl (by decide))
    exact reach_afterBlock (l := .idle) (Or.inr ⟨_, rfl⟩) rfl (by decide)
  exact ⟨rfl, shown_of_reach hreach ⟨.idle, rfl⟩ rfl rfl⟩

end Hysim.Publish
