import Hysim.Lib.Runs
import Hysim.Pieces
import Hysim.Publish

/-!
Waking up the thread that publishes the pad state.

Here the wait for the condition lasts until it is signalled. That it may also end at its timeout,
or for no reason, is allowed for but never needed: the thread falls asleep only if no update is
recorded, and an update is signalled before the mutex is given back.
-/

namespace Hysim.Wakeups

open Hysim.Lib.Program Hysim.Lib.Threads Hysim.Lib.Runs Hysim.Packets Hysim.Actuators Hysim.State
open Hysim.Serve Hysim.Telemetry Hysim.Pieces
open Hysim.Publish hiding system System Inv

/-! ### The system -/

/-- The shared memory, and whether the telemetry thread is blocked in its wait. -/
structure Waiting where
  shared : Shared
  asleep : Bool

/-- The first half of the wait falls asleep. A signal wakes up. -/
def asleepAfter (asleep : Bool) : PadOp → Bool
  | .condRelease => true
  | .condSignal | .condReacquire => false
  | _ => asleep

def Waiting.eff (s : Waiting) (who : Who) (o : PadOp) : Waiting :=
  ⟨s.shared.eff who o, asleepAfter s.asleep o⟩

/-- The second half of the wait is not entered before the condition is signalled, if it does not
end `early`. -/
def machine (early : Prop) : Machine Who PadOp Waiting PadOp.Ans := fun who o s r s' =>
  s.shared.Enabled o ∧ s.shared.Answers o r ∧
    (o = .condReacquire → s.asleep = false ∨ early) ∧ s' = s.eff who o

abbrev System := Config Who PadOp Waiting Label PadOp.Ans

def system (state : PadState) : System :=
  ⟨⟨(Publish.system state).shared, false⟩, (Publish.system state).prog⟩

def System.memory (c : System) : Publish.System := ⟨c.shared.shared, c.prog⟩

abbrev Trace := List (Moment Who PadOp Waiting PadOp.Ans)

lemma reach_of_run {early : Prop} {state : PadState} {t : Trace} {c : System}
    (hrun : Run (machine early) Blocks (system state) t c) :
    Reach Publish.memory Blocks (Publish.system state) c.memory := by
  induction hrun with
  | refl => exact .refl
  | start _ hret hp ih => exact ih.tail (.start hret hp)
  | call _ hcall hstep ih =>
    obtain ⟨hen, hans, -, rfl⟩ := hstep
    exact ih.tail (.call hcall hen hans)

lemma expects_of_machine {early : Prop} {who : Who} {o : PadOp} {s s' : Waiting} {r : o.Ans}
    (h : machine early who o s r s') : Expects o r := by
  obtain ⟨-, hans, -, -⟩ := h
  cases o <;> first | exact hans | trivial

/-! ### The monitors -/

/-- Operations that touch neither the mutex nor the condition, nor what they guard. -/
def Aside : PadOp → Prop
  | .mutexLock | .mutexUnlock | .condSignal | .condRelease | .condReacquire | .loadUpdate
  | .storeUpdate _ => False
  | _ => True

def Looks : PadOp → Prop
  | .rdlock | .rwUnlock | .loadLevel | .loadConn | .loadAct _ | .clock | .publish _ => True
  | _ => False

/-- How far the controller is in recording an update. -/
inductive CtlWake
  | quiet | locked | recorded | signalled

inductive CtlWakeStep : CtlWake → (o : PadOp) → o.Ans → CtlWake → Prop
  | mutexLock (r) : CtlWakeStep .quiet .mutexLock r .locked
  | record (r) : CtlWakeStep .locked (.storeUpdate true) r .recorded
  | signal (r) : CtlWakeStep .recorded .condSignal r .signalled
  | mutexUnlock (r) : CtlWakeStep .signalled .mutexUnlock r .quiet
  | aside (o r) (h : Aside o) : CtlWakeStep .quiet o r .quiet

/-- Where the telemetry thread is: without the mutex, with it, with it and no update recorded, in
its wait. -/
inductive TelWake
  | outside | holding | seen | waiting

inductive TelWakeStep : TelWake → (o : PadOp) → o.Ans → TelWake → Prop
  | mutexLock (r) : TelWakeStep .outside .mutexLock r .holding
  | load (m) (r : Bool) (h : m = .holding ∨ m = .seen) :
      TelWakeStep m .loadUpdate r (if r then .holding else .seen)
  | condRelease (r) : TelWakeStep .seen .condRelease r .waiting
  | condReacquire (r) : TelWakeStep .waiting .condReacquire r .holding
  | clear (m r) (h : m = .holding ∨ m = .seen) : TelWakeStep m (.storeUpdate false) r .holding
  | mutexUnlock (r) : TelWakeStep .holding .mutexUnlock r .outside
  | looks (m o r) (h : Looks o) : TelWakeStep m o r m

@[reducible] def Wake : Who → Type
  | .controller => CtlWake
  | .telemetry => TelWake

def wake : (who : Who) → Monitor PadOp PadOp.Ans (Wake who)
  | .controller => ⟨Expects, CtlWakeStep⟩
  | .telemetry => ⟨Expects, TelWakeStep⟩

def WakeAt : (who : Who) → Label → Wake who → Prop
  | .controller, _, m => m = .quiet
  | .telemetry, .outer, m => m = .outside
  | .telemetry, .check _, m | .telemetry, .send, m => m = .holding
  | .telemetry, .idle, _ => False

/-! ### The controller -/

abbrev Quietly {α : Type} (p : PadM α) : Prop :=
  Follows (wake .controller) p (fun _ m => m = .quiet) .quiet

lemma closed_quietly : Closed fun _ (p : PadM _) => Quietly p where
  pure _ _ := rfl
  bind _ _ _ _ hp hf := by
    refine Follows.bind (Follows.mono hp ?_)
    rintro a _ rfl
    exact hf a

lemma quietly_aside {o : PadOp} (h : Aside o) : Quietly (Prog.op o) :=
  fun r _ => ⟨.quiet, .aside o r h, rfl⟩

lemma quietly_signalUpdate : Quietly padstateSignalUpdate := by
  rintro _ rfl
  refine ⟨_, .mutexLock 0, fun _ _ => ⟨_, .record _, fun r _ => ?_⟩⟩
  exact ⟨_, .signal r, fun _ _ => ⟨_, .mutexUnlock _, rfl⟩⟩

lemma quietly_changeLevel (newArm : CEnum) : Quietly (padstateChangeLevel newArm) := by
  unfold padstateChangeLevel
  split_ifs with hrange
  · exact rfl
  rintro _ rfl
  refine ⟨_, .aside .wrlock 0 trivial, fun level _ => ⟨_, .aside .loadLevel level trivial, ?_⟩⟩
  change Follows _ (if _ then _ else _) _ _
  split_ifs with hmove
  · refine closed_quietly.bind _ _ _ _ (quietly_aside (o := .storeLevel _) trivial) fun _ => ?_
    refine closed_quietly.bind _ _ _ _ (quietly_aside (o := .rwUnlock) trivial) fun _ => ?_
    exact closed_quietly.bind _ _ _ _ quietly_signalUpdate fun _ => rfl
  · exact closed_quietly.bind _ _ _ _ (quietly_aside (o := .rwUnlock) trivial) fun _ => rfl

lemma quietly_setConnstatus (newStatus : ConnStatus) :
    Quietly (padstateSetConnstatus newStatus) := by
  rintro _ rfl
  refine ⟨_, .aside .wrlock 0 trivial, ?_⟩
  refine Follows.op_bind fun r _ => ⟨_, .aside (.storeConn newStatus) r trivial, ?_⟩
  refine Follows.op_bind fun r _ => ⟨_, .aside .rwUnlock r trivial, ?_⟩
  exact closed_quietly.bind _ _ _ _ quietly_signalUpdate fun _ => rfl

lemma quietly_getLevel : Quietly padstateGetLevel := by
  rintro _ rfl
  refine ⟨_, .aside .rdlock 0 trivial, fun level _ => ⟨_, .aside .loadLevel level trivial, ?_⟩⟩
  exact fun r _ => ⟨_, .aside .rwUnlock r trivial, rfl⟩

lemma controls_quietly : Controls fun _ (p : PadM _) => Quietly p where
  toClosed := closed_quietly
  drive _ _ := quietly_aside trivial
  storeAct _ _ := quietly_aside trivial
  getLevel := quietly_getLevel
  changeLevel := quietly_changeLevel
  setConnstatus := quietly_setConnstatus
  signalUpdate := quietly_signalUpdate

/-! ### The telemetry thread -/

lemma looks_getLevel : Performs Looks padstateGetLevel := by
  refine Performs.bind (.op trivial) fun err => ?_
  split_ifs with herr
  · trivial
  · exact Performs.bind (.op trivial) fun level => Performs.bind (.op trivial) fun _ => trivial

lemma looks_getConnstatus : Performs Looks padstateGetConnstatus := by
  refine Performs.bind (.op trivial) fun err => ?_
  split_ifs with herr
  · trivial
  · exact Performs.bind (.op trivial) fun status => Performs.bind (.op trivial) fun _ => trivial

lemma reports_looks : Reports fun _ (p : PadM _) => Performs Looks p where
  pure _ _ := trivial
  bind _ _ _ _ hp hf := Performs.bind hp hf
  clock := .op trivial
  getLevel := looks_getLevel
  getConnstatus := looks_getConnstatus
  loadAct _ := .op trivial
  publish _ := .op trivial

lemma follows_looks {α : Type} {p : PadM α} (h : Performs Looks p) (m : TelWake) :
    Follows (wake .telemetry) p (fun _ m' => m' = m) m := by
  induction p with
  | ret a => exact rfl
  | call o k ih => exact fun r _ => ⟨m, .looks m o r h.1, ih r (h.2 r)⟩

lemma wake_block {who : Who} {l : Label} {p : PadM Label} {m : Wake who} (hp : Blocks who l p)
    (hm : WakeAt who l m) : Follows (wake who) p (WakeAt who) m := by
  cases who with
  | controller =>
    obtain rfl : m = .quiet := hm
    rcases hp with ⟨req, rfl⟩ | ⟨status, rfl⟩
    · exact closed_quietly.bind _ _ _ _ (controls_quietly.handle req) fun _ => rfl
    · exact closed_quietly.bind _ _ _ _ (quietly_setConnstatus status) fun _ => rfl
  | telemetry =>
    obtain rfl : p = telemetryUpdatePadstate l := hp
    cases l with
    | outer =>
      obtain rfl : m = .outside := hm
      refine Follows.op_bind fun time _ => ⟨_, .looks _ .clock time trivial, ?_⟩
      rintro _ rfl
      exact ⟨_, .mutexLock 0, rfl⟩
    | check err =>
      obtain rfl : m = .holding := hm
      unfold telemetryUpdatePadstate
      dsimp only
      split_ifs with herr
      · exact rfl
      · refine Follows.op_bind fun recorded _ => ⟨_, .load _ recorded (.inl rfl), ?_⟩
        cases recorded with
        | true => exact rfl
        | false => exact fun r _ => ⟨_, .condRelease r, fun err _ => ⟨_, .condReacquire err, rfl⟩⟩
    | send =>
      obtain rfl : m = .holding := hm
      refine Follows.op_bind fun recorded _ => ⟨_, .load _ recorded (.inl rfl), ?_⟩
      refine Follows.bind (Follows.mono (follows_looks reports_looks.sendPadstate _) ?_)
      rintro _ _ rfl
      have hheld : (if recorded then TelWake.holding else .seen) = .holding ∨
          (if recorded then TelWake.holding else .seen) = .seen := by
        cases recorded
        · exact .inr rfl
        · exact .inl rfl
      exact fun r _ => ⟨_, .clear _ r hheld, fun r _ => ⟨_, .mutexUnlock r, rfl⟩⟩
    | idle => exact hm.elim

/-! ### The invariant -/

structure Inv (s : Waiting) (ctl : CtlWake) (tel : TelWake) : Prop where
  ctlHolds : ctl ≠ .quiet → s.shared.mutex = some .controller
  telHolds : tel = .holding ∨ tel = .seen → s.shared.mutex = some .telemetry
  seen : tel = .seen → s.shared.pad.updateRecorded = false
  asleep : s.asleep = true → tel = .waiting
  recorded : s.asleep = true → s.shared.pad.updateRecorded = true → ctl = .recorded

lemma effect_of_aside {o : PadOp} (h : Aside o) (pad : PadState) :
    (o.effect pad).updateRecorded = pad.updateRecorded := by
  cases o <;> first | rfl | exact h.elim

@[simp] lemma eff_pad (s : Shared) (who : Who) (o : PadOp) :
    (s.eff who o).pad = o.effect s.pad := by
  cases o <;> rfl

lemma eff_mutex_of_aside {o : PadOp} (h : Aside o) (s : Shared) (who : Who) :
    (s.eff who o).mutex = s.mutex := by
  cases o <;> first | rfl | exact h.elim

lemma asleepAfter_of_aside {o : PadOp} (h : Aside o) (asleep : Bool) :
    asleepAfter asleep o = asleep := by
  cases o <;> first | rfl | exact h.elim

lemma Looks.aside {o : PadOp} (h : Looks o) : Aside o := by
  cases o <;> first | exact h.elim | trivial

lemma Inv.of_aside {s : Waiting} {ctl : CtlWake} {tel : TelWake} (h : Inv s ctl tel) {o : PadOp}
    (ho : Aside o) (who : Who) : Inv (s.eff who o) ctl tel := by
  have hmutex : (s.eff who o).shared.mutex = s.shared.mutex := eff_mutex_of_aside ho _ _
  have hrec : (s.eff who o).shared.pad.updateRecorded = s.shared.pad.updateRecorded := by
    change (s.shared.eff who o).pad.updateRecorded = _
    rw [eff_pad, effect_of_aside ho]
  have hasleep : (s.eff who o).asleep = s.asleep := asleepAfter_of_aside ho _
  exact ⟨fun hne => hmutex ▸ h.ctlHolds hne, fun hheld => hmutex ▸ h.telHolds hheld,
    fun hseen => hrec ▸ h.seen hseen, fun hs => h.asleep (hasleep ▸ hs),
    fun hs hr => h.recorded (hasleep ▸ hs) (hrec ▸ hr)⟩

lemma inv_ctl {s : Waiting} {ctl ctl' : CtlWake} {tel : TelWake} {o : PadOp} {r : o.Ans}
    (h : Inv s ctl tel) (hen : s.shared.Enabled o) (hstep : CtlWakeStep ctl o r ctl') :
    Inv (s.eff .controller o) ctl' tel := by
  cases hstep with
  | mutexLock =>
    have hfree : s.shared.mutex = none := hen
    have hnot : ¬ (tel = .holding ∨ tel = .seen) := by
      intro hheld
      rw [h.telHolds hheld] at hfree
      cases hfree
    exact ⟨fun _ => rfl, fun hheld => absurd hheld hnot, h.seen, h.asleep,
      fun hs hr => absurd (h.recorded hs hr) (by simp)⟩
  | record =>
    have hmine := h.ctlHolds (by simp)
    have hnot : ¬ (tel = .holding ∨ tel = .seen) := by
      intro hheld
      rw [h.telHolds hheld] at hmine
      cases hmine
    exact ⟨fun _ => hmine, fun hheld => absurd hheld hnot, fun hs => absurd (.inr hs) hnot,
      h.asleep, fun _ _ => rfl⟩
  | signal =>
    exact ⟨fun _ => h.ctlHolds (by simp), h.telHolds, h.seen, by simp [Waiting.eff, asleepAfter],
      by simp [Waiting.eff, asleepAfter]⟩
  | mutexUnlock =>
    have hmine := h.ctlHolds (by simp)
    have hnot : ¬ (tel = .holding ∨ tel = .seen) := by
      intro hheld
      rw [h.telHolds hheld] at hmine
      cases hmine
    exact ⟨by simp, fun hheld => absurd hheld hnot, h.seen, h.asleep,
      fun hs hr => absurd (h.recorded hs hr) (by simp)⟩
  | aside _ _ ho => exact h.of_aside ho _

lemma inv_tel {s : Waiting} {ctl : CtlWake} {tel tel' : TelWake} {o : PadOp} {r : o.Ans}
    (h : Inv s ctl tel) (hen : s.shared.Enabled o) (hans : s.shared.Answers o r)
    (hstep : TelWakeStep tel o r tel') : Inv (s.eff .telemetry o) ctl tel' := by
  -- while the telemetry thread has the mutex, the controller does not record an update
  have hquiet : s.shared.mutex ≠ some .controller → ctl = .quiet := fun hm => by
    by_contra hne
    exact hm (h.ctlHolds hne)
  cases hstep with
  | mutexLock =>
    have hfree : s.shared.mutex = none := hen
    obtain rfl := hquiet (by simp [hfree])
    exact ⟨by simp, fun _ => rfl, by simp, fun hs => by simpa using h.asleep hs, h.recorded⟩
  | load m r hm =>
    have hmine := h.telHolds hm
    have hawake : s.asleep ≠ true := by
      intro hs
      rw [h.asleep hs] at hm
      simp at hm
    have hr : r = s.shared.pad.updateRecorded := hans
    refine ⟨h.ctlHolds, fun _ => hmine, fun hseen => ?_, fun hs => absurd hs hawake,
      fun hs => absurd hs hawake⟩
    cases r with
    | true => cases hseen
    | false => exact hr.symm
  | condRelease =>
    have hmine := h.telHolds (.inr rfl)
    obtain rfl := hquiet (by simp [hmine])
    refine ⟨by simp, by simp, by simp, fun _ => rfl, fun _ hr => ?_⟩
    have hnone := h.seen rfl
    exact absurd (hnone.symm.trans hr) (by simp)
  | condReacquire =>
    have hfree : s.shared.mutex = none := hen
    obtain rfl := hquiet (by simp [hfree])
    exact ⟨by simp, fun _ => rfl, by simp, by simp [Waiting.eff, asleepAfter],
      by simp [Waiting.eff, asleepAfter]⟩
  | clear m r hm =>
    have hmine := h.telHolds hm
    have hawake : s.asleep ≠ true := by
      intro hs
      rw [h.asleep hs] at hm
      simp at hm
    exact ⟨h.ctlHolds, fun _ => hmine, by simp, fun hs => absurd hs hawake,
      fun hs => absurd hs hawake⟩
  | mutexUnlock =>
    have hmine := h.telHolds (.inl rfl)
    obtain rfl := hquiet (by simp [hmine])
    have hawake : s.asleep ≠ true := by
      intro hs
      have := h.asleep hs
      simp at this
    exact ⟨by simp, by simp, by simp, fun hs => absurd hs hawake, fun hs => absurd hs hawake⟩
  | looks _ _ _ ho => exact h.of_aside ho.aside _

lemma run_inv {early : Prop} {state : PadState} {t : Trace} {c : System}
    (hrun : Run (machine early) Blocks (system state) t c) :
    Tracks wake WakeAt (fun _ s m => Inv s (m .controller) (m .telemetry)) t c := by
  have hstart : Tracks wake WakeAt (fun _ s m => Inv s (m .controller) (m .telemetry)) []
      (system state) := by
    refine ⟨fun | .controller => .quiet | .telemetry => .outside, ?_, ?_⟩
    · exact ⟨by simp, by simp, by simp, by simp [system], by simp [system]⟩
    · rintro (_ | _)
      · exact rfl
      · exact rfl
  refine tracks_of_run ?_ (fun _ _ _ _ hp hm => wake_block hp hm) ?_ hstart hrun
  · rintro (_ | _) o s r s' h
    · exact expects_of_machine h
    · exact expects_of_machine h
  · rintro t (_ | _) o s r s' m y hJ ⟨hen, hans, -, rfl⟩ hstep
    · exact inv_ctl hJ hen hstep
    · exact inv_tel hJ hen hans hstep

/-! ### No wake-up is lost -/

lemma exists_expected (o : PadOp) : ∃ r : o.Ans, Expects o r := by
  cases o <;> first
    | exact ⟨(0 : Int), rfl⟩
    | exact ⟨(0 : Int), trivial⟩
    | exact ⟨(), trivial⟩
    | exact ⟨false, trivial⟩
    | exact ⟨(0 : UInt32), trivial⟩
    | exact ⟨ArmLvl.armedPad, trivial⟩
    | exact ⟨ConnStatus.connConnected, trivial⟩

lemma machine_of {early : Prop} {who : Who} {s : Waiting} (o : PadOp) (r : o.Ans)
    (hen : s.shared.Enabled o) (hans : s.shared.Answers o r) (ho : o ≠ .condReacquire) :
    machine early who o s r (s.eff who o) :=
  ⟨hen, hans, fun heq => absurd heq ho, rfl⟩

lemma recording (early : Prop) : ∃ (t : Trace) (c : System) (k : Int → PadM Label),
    Run (machine early) Blocks (system zeroed) t c ∧ c.shared.asleep = true ∧
      c.shared.shared.mutex = some .controller ∧ c.shared.shared.pad.updateRecorded = true ∧
      c.prog .controller = .call .condSignal k ∧
      ∀ r, k r = .call .mutexUnlock fun _ => .ret .idle := by
  have htel : Blocks .telemetry .outer (telemetryUpdatePadstate .outer) := rfl
  have hcheck : Blocks .telemetry (.check 0) (telemetryUpdatePadstate (.check 0)) := rfl
  have hctl : Blocks .controller .idle
      (padstateSetConnstatus .connConnected >>= fun _ => pure .idle) := .inr ⟨_, rfl⟩
  have h0 : Run (machine early) Blocks (system zeroed) [] (system zeroed) := .refl
  have h1 := h0.start rfl htel
  have h2 := h1.call (i := .telemetry) rfl
    (machine_of PadOp.clock (0 : UInt32) trivial trivial (by simp))
  have h3 := h2.call (i := .telemetry) rfl (machine_of PadOp.mutexLock (0 : Int) rfl rfl (by simp))
  have h4 := h3.start rfl hcheck
  have h5 := h4.call (i := .telemetry) rfl (machine_of PadOp.loadUpdate false trivial rfl (by simp))
  have h6 := h5.call (i := .telemetry) rfl
    (machine_of PadOp.condRelease () trivial trivial (by simp))
  have h7 := h6.start rfl hctl
  have h8 := h7.call (i := .controller) rfl (machine_of PadOp.wrlock (0 : Int) rfl rfl (by simp))
  have h9 := h8.call (i := .controller) rfl
    (machine_of (PadOp.storeConn .connConnected) () trivial trivial (by simp))
  have h10 := h9.call (i := .controller) rfl
    (machine_of PadOp.rwUnlock () trivial trivial (by simp))
  have h11 := h10.call (i := .controller) rfl
    (machine_of PadOp.mutexLock (0 : Int) rfl rfl (by simp))
  have h12 := h11.call (i := .controller) rfl
    (machine_of (PadOp.storeUpdate true) () trivial trivial (by simp))
  exact ⟨_, _, _, h12, rfl, rfl, rfl, rfl, fun _ => rfl⟩

/-- What is recorded while the telemetry thread is asleep is about to be signalled. -/
lemma signals_of_asleep {early : Prop} {state : PadState} {t : Trace} {c : System}
    (hrun : Run (machine early) Blocks (system state) t c) (hasleep : c.shared.asleep = true)
    (hrec : c.shared.shared.pad.updateRecorded = true) :
    ∃ k, c.prog .controller = .call .condSignal k := by
  obtain ⟨m, hinv, hfollows⟩ := run_inv hrun
  have hctl := hfollows .controller
  rw [hinv.recorded hasleep hrec] at hctl
  rcases hprog : c.prog .controller with l | ⟨o, k⟩
  · rw [hprog] at hctl
    cases hctl
  · rw [hprog] at hctl
    obtain ⟨r, hr⟩ := exists_expected o
    obtain ⟨y, hstep, -⟩ := hctl r hr
    cases hstep
    exact ⟨k, rfl⟩

/-- **No wake-up is lost.** In every interleaving in which the lock calls succeed, with or without
waits that end early: if the telemetry thread is asleep while an update is recorded, the controller
is about to signal it. -/
theorem no_lost_wakeup {early : Prop} {state : PadState} {t : Trace} {c : System}
    (hrun : Run (machine early) Blocks (system state) t c) (hasleep : c.shared.asleep = true)
    (hrec : c.shared.shared.pad.updateRecorded = true) :
    c.shared.shared.mutex = some .controller ∧ ∃ k, c.prog .controller = .call .condSignal k := by
  obtain ⟨m, hinv, -⟩ := run_inv hrun
  have hrecorded := hinv.recorded hasleep hrec
  exact ⟨hinv.ctlHolds (by simp [hrecorded]), signals_of_asleep hrun hasleep hrec⟩

theorem no_lost_wakeup_recording : ∃ (t : Trace) (c : System),
    Run (machine False) Blocks (system zeroed) t c ∧ c.shared.asleep = true ∧
      c.shared.shared.pad.updateRecorded = true ∧
      c.shared.shared.mutex = some .controller ∧ ∃ k, c.prog .controller = .call .condSignal k := by
  obtain ⟨t, c, -, hrun, hasleep, -, hrec, -⟩ := recording False
  exact ⟨t, c, hrun, hasleep, hrec, no_lost_wakeup hrun hasleep hrec⟩

end Hysim.Wakeups
