import Hysim.Deadlock
import Hysim.History
import Hysim.Lib.Inevitable
import Hysim.Wakeups

/-!
What the telemetry thread brings about on its own.

While the controller holds no lock and is not about to signal, nothing keeps the telemetry thread
from going on, and it needs no wait to end early. So the mutex the controller waits for is given
back, and an update that is recorded is published.
-/

namespace Hysim.Liveness

open Hysim.Lib.Program Hysim.Lib.Threads Hysim.Lib.Runs Hysim.Lib.Inevitable Hysim.Packets
open Hysim.Actuators Hysim.State Hysim.Serve Hysim.Telemetry Hysim.Pieces Hysim.Wakeups
open Hysim.Publish hiding system System Inv
open Hysim.Deadlock (Held HeldStep Mode RestAt Returns held nothing)

/-! ### The locks of the system -/

def rwOf : Mode → Mode → Option RwLock
  | .free, .free => some .free
  | .reading, .free | .free, .reading => some (.reading 1)
  | .reading, .reading => some (.reading 2)
  | .writing, .free | .free, .writing => some .writing
  | _, _ => none

lemma rwOf_comm (a b : Mode) : rwOf a b = rwOf b a := by
  cases a <;> cases b <;> rfl

section RwOf

variable {a b : Mode} {l : RwLock}

lemma rwOf_read (h : rwOf .free b = some l) (hl : l ≠ .writing) :
    rwOf .reading b = some l.addReader := by
  cases b <;> cases h <;> first | rfl | exact absurd rfl hl

lemma rwOf_write (h : rwOf .free b = some .free) : rwOf .writing b = some .writing := by
  cases b <;> first | rfl | cases h

lemma rwOf_release (ha : a ≠ .free) (h : rwOf a b = some l) :
    rwOf .free b = some l.release := by
  cases a <;> cases b <;> cases h <;> first | rfl | exact absurd rfl ha

end RwOf

def other : Who → Who
  | .controller => .telemetry
  | .telemetry => .controller

structure Agree (s : Waiting) (x : Who → Held) : Prop where
  mutex : ∀ i, s.shared.mutex = some i ↔ (x i).mutex = true
  rw : ∀ i, rwOf (x i).rw (x (other i)).rw = some s.shared.rwLock

section Agree

variable {s : Waiting} {x : Who → Held} {who : Who} {o : PadOp} {r : o.Ans} {y : Held}

lemma Agree.quiet (h : Agree s x) (ho : Deadlock.Quiet o) : Agree (s.eff who o) x := by
  have hlocks : (s.eff who o).shared.mutex = s.shared.mutex ∧
      (s.eff who o).shared.rwLock = s.shared.rwLock := by
    cases o <;> first | exact ⟨rfl, rfl⟩ | exact ho.elim
  exact ⟨by rw [hlocks.1]; exact h.mutex, by rw [hlocks.2]; exact h.rw⟩

lemma Agree.takeMutex (h : Agree s x) (hfree : s.shared.mutex = none) {s' : Waiting}
    (hmutex : s'.shared.mutex = some who) (hrw : s'.shared.rwLock = s.shared.rwLock)
    (hx : x who = nothing) : Agree s' (Function.update x who ⟨true, .free⟩) := by
  refine ⟨fun i => ?_, fun i => ?_⟩
  · by_cases hi : i = who
    · subst hi
      simp [hmutex]
    · have hnot : (x i).mutex ≠ true := fun ht => by
        rw [(h.mutex i).mpr ht] at hfree
        cases hfree
      simp [hmutex, hi, Ne.symm hi, hnot]
  · rw [hrw, ← h.rw i]
    cases who <;> cases i <;> simp [hx, nothing, other]

lemma Agree.dropMutex (h : Agree s x) (hheld : (x who).mutex = true) {s' : Waiting}
    (hmutex : s'.shared.mutex = none) (hrw : s'.shared.rwLock = s.shared.rwLock) :
    Agree s' (Function.update x who { x who with mutex := false }) := by
  have hmine := (h.mutex who).mpr hheld
  refine ⟨fun i => ?_, fun i => ?_⟩
  · by_cases hi : i = who
    · subst hi
      simp [hmutex]
    · have hnot : (x i).mutex ≠ true := fun ht =>
        hi (Option.some.inj (((h.mutex i).mpr ht).symm.trans hmine))
      simp [hmutex, hi, hnot]
  · rw [hrw, ← h.rw i]
    cases who <;> cases i <;> simp [other]

lemma Agree.changeRw (h : Agree s x) {mode : Mode} {s' : Waiting}
    (hmutex : s'.shared.mutex = s.shared.mutex)
    (hrw : rwOf mode (x (other who)).rw = some s'.shared.rwLock) :
    Agree s' (Function.update x who { x who with rw := mode }) := by
  refine ⟨fun i => ?_, fun i => ?_⟩
  · rw [hmutex, h.mutex i]
    by_cases hi : i = who
    · subst hi
      simp
    · simp [hi]
  · have hrw' := (rwOf_comm _ _).trans hrw
    cases who <;> cases i <;> simpa [other] using by first | exact hrw | exact hrw'

lemma agree_step (h : Agree s x) (hen : s.shared.Enabled o) (hans : s.shared.Answers o r)
    (hstep : HeldStep (x who) o r y) : Agree (s.eff who o) (Function.update x who y) := by
  have hrw := h.rw who
  cases hstep with
  | rdlock hfree =>
    rw [hfree] at hrw
    exact h.changeRw rfl (rwOf_read hrw hen)
  | noRdlock _ hfree hr => exact absurd hans hr
  | wrlock hfree =>
    have hlock : s.shared.rwLock = .free := hen
    rw [hfree, hlock] at hrw
    exact h.changeRw rfl (rwOf_write hrw)
  | noWrlock _ hfree hr => exact absurd hans hr
  | rwUnlock _ hheld => exact h.changeRw rfl (rwOf_release hheld hrw)
  | mutexLock hx => exact h.takeMutex hen rfl rfl hx
  | noMutexLock _ hx hr => exact absurd hans hr
  | condReacquire _ hx => exact h.takeMutex hen rfl rfl hx
  | mutexUnlock _ hheld => exact h.dropMutex hheld rfl rfl
  | condRelease _ hheld => exact h.dropMutex hheld rfl rfl
  | quiet _ _ hq =>
    rw [Function.update_eq_self]
    exact h.quiet hq

end Agree

lemma controls_returns : Controls fun _ (p : PadM _) => Returns .controller p nothing where
  pure _ _ := rfl
  bind _ _ _ _ hp hf := Returns.bind hp hf
  drive _ _ := Deadlock.returns_quiet trivial
  storeAct _ _ := Deadlock.returns_quiet trivial
  getLevel := Deadlock.returns_getLevel rfl
  changeLevel := Deadlock.returns_changeLevel
  setConnstatus := Deadlock.returns_setConnstatus
  signalUpdate := Deadlock.returns_signalUpdate

lemma held_block {who : Who} {l : Label} {p : PadM Label} {x : Held} (hp : Blocks who l p)
    (hx : RestAt who l x) : Follows (held who) p (RestAt who) x := by
  cases who with
  | controller =>
    obtain rfl : x = nothing := hx
    rcases hp with ⟨req, rfl⟩ | ⟨status, rfl⟩
    · exact Returns.bind (controls_returns.handle req) fun _ => rfl
    · exact Returns.bind (Deadlock.returns_setConnstatus status) fun _ => rfl
  | telemetry => exact @Deadlock.held_block .telemetry _ _ _ hp hx

lemma held_of_expects {who : Who} {o : PadOp} {r : o.Ans} (h : Expects o r) :
    Deadlock.Expects who o r := by
  cases who <;> cases o <;> first | exact h | trivial

lemma run_agree {early : Prop} {state : PadState} {t : Trace} {c : System}
    (hrun : Run (machine early) Blocks (system state) t c) :
    Tracks held RestAt (fun _ s x => Agree s x) t c := by
  have hstart : Tracks held RestAt (fun _ s x => Agree s x) [] (system state) := by
    refine ⟨fun _ => nothing, ⟨fun i => ?_, fun i => rfl⟩, ?_⟩
    · simp [system, Publish.system, nothing]
    · rintro (_ | _)
      · exact rfl
      · exact rfl
  refine tracks_of_run ?_ (fun _ _ _ _ hp hx => held_block hp hx) ?_ hstart hrun
  · exact fun _ _ _ _ _ h => held_of_expects (expects_of_machine h)
  · rintro t who o s r s' x y hJ ⟨hen, hans, -, rfl⟩ hstep
    exact agree_step hJ hen hans hstep

/-! ### The telemetry thread goes on -/

/-- The controller is between two operations, or about to take the mutex. -/
def Aloof (c : System) : Prop :=
  (∃ l, c.prog .controller = .ret l) ∨ ∃ k, c.prog .controller = .call .mutexLock k

lemma Aloof.not_signals {c : System} (h : Aloof c) :
    ¬ ∃ k, c.prog .controller = .call .condSignal k := by
  rintro ⟨k, hk⟩
  rcases h with ⟨l, hl⟩ | ⟨k', hk'⟩
  · rw [hk] at hl
    cases hl
  · rw [hk] at hk'
    cases hk'

lemma Aloof.holds_nothing {c : System} (h : Aloof c) {x : Held}
    (hfollows : Follows (held .controller) (c.prog .controller) (RestAt .controller) x) :
    x = nothing := by
  rcases h with ⟨l, hl⟩ | ⟨k, hk⟩
  · rw [hl] at hfollows
    exact hfollows
  · rw [hk] at hfollows
    obtain ⟨y, hstep, -⟩ := hfollows (0 : Int) trivial
    cases hstep with
    | mutexLock hx | noMutexLock _ hx => exact hx
    | quiet _ _ hq => exact hq.elim

/-- While the controller is aloof, nothing keeps the telemetry thread from going on, whatever it is
about to do. -/
lemma enabled_of_run {early : Prop} {state : PadState} {t : Trace} {c : System}
    (hrun : Run (machine early) Blocks (system state) t c) (haloof : Aloof c) {o : PadOp}
    {k : o.Ans → PadM Label} (hcall : c.prog .telemetry = .call o k) :
    c.shared.shared.Enabled o := by
  obtain ⟨x, hagree, hfollows⟩ := run_agree hrun
  have hnothing := haloof.holds_nothing (hfollows .controller)
  have htel := hfollows .telemetry
  rw [hcall] at htel
  have hmutex : x .telemetry = nothing → c.shared.shared.mutex = none := by
    intro hx
    rcases hm : c.shared.shared.mutex with _ | (_ | _)
    · rfl
    · have := (hagree.mutex _).mp hm
      simp [hnothing, nothing] at this
    · have := (hagree.mutex _).mp hm
      simp [hx, nothing] at this
  have hrw : (x .telemetry).rw = .free → c.shared.shared.rwLock = .free := by
    intro hfree
    have := hagree.rw .telemetry
    rw [hfree, other, hnothing] at this
    exact (Option.some.inj this).symm
  obtain ⟨r, hr⟩ := exists_expected o
  obtain ⟨y, hstep, -⟩ := htel r (held_of_expects hr)
  cases hstep with
  | rdlock hfree | noRdlock _ hfree =>
    change c.shared.shared.rwLock ≠ .writing
    simp [hrw hfree]
  | wrlock hfree | noWrlock _ hfree => exact hrw hfree
  | mutexLock hx | noMutexLock _ hx | condReacquire _ hx => exact hmutex hx
  | rwUnlock | mutexUnlock | condRelease => trivial
  | quiet _ _ hq => cases o <;> first | exact hq.elim | trivial

lemma exists_answers (s : Shared) (o : PadOp) : ∃ r : o.Ans, s.Answers o r := by
  cases o <;> first
    | exact ⟨_, rfl⟩
    | exact ⟨(0 : Int), trivial⟩
    | exact ⟨(), trivial⟩
    | exact ⟨(0 : UInt32), trivial⟩

lemma late_of_machine {who : Who} {o : PadOp} {s s' : Waiting} {r : o.Ans}
    (h : machine False who o s r s') : machine True who o s r s' :=
  ⟨h.1, h.2.1, fun _ => .inr trivial, h.2.2.2⟩

/-! ### The mutex is given back -/

/-- A configuration some interleaving comes to, in which the controller waits for the mutex and the
telemetry thread has it. -/
structure Blocking (state : PadState) (c : System) : Prop where
  reached : ∃ t, Run (machine True) Blocks (system state) t c
  waits : ∃ k, c.prog .controller = .call .mutexLock k
  holder : c.shared.shared.mutex = some .telemetry

section Blocking

variable {state : PadState} {c : System}

lemma Blocking.start (h : Blocking state c) {l : Label} {p : PadM Label}
    (hret : c.prog .telemetry = .ret l) (hp : Blocks .telemetry l p) :
    Blocking state ⟨c.shared, Function.update c.prog .telemetry p⟩ := by
  obtain ⟨⟨t, hrun⟩, ⟨k, hk⟩, hholder⟩ := h
  exact ⟨⟨t, hrun.start hret hp⟩, ⟨k, by simpa using hk⟩, hholder⟩

lemma mutex_of_not_drops {s : Shared} {o : PadOp} (h : s.mutex = some .telemetry)
    (ho : ¬ Deadlock.Drops o) : (s.eff .telemetry o).mutex = some .telemetry := by
  cases o <;> first | exact h | rfl | simp [Deadlock.GivesBack] at ho

lemma Blocking.call (h : Blocking state c) {o : PadOp} {k : o.Ans → PadM Label}
    (hcall : c.prog .telemetry = .call o k) (hdrops : ¬ Deadlock.Drops o) :
    (∃ r s, machine False .telemetry o c.shared r s) ∧
      ∀ r s, machine False .telemetry o c.shared r s → Deadlock.Expects .telemetry o r ∧
        Blocking state ⟨s, Function.update c.prog .telemetry (k r)⟩ := by
  obtain ⟨⟨t, hrun⟩, ⟨k', hk'⟩, hholder⟩ := h
  constructor
  · have hen := enabled_of_run hrun (.inr ⟨k', hk'⟩) hcall
    obtain ⟨r, hans⟩ := exists_answers c.shared.shared o
    refine ⟨r, _, hen, hans, ?_, rfl⟩
    rintro rfl
    have hfree : c.shared.shared.mutex = none := hen
    rw [hholder] at hfree
    cases hfree
  · intro r s hstep
    have hlate := late_of_machine hstep
    refine ⟨held_of_expects (expects_of_machine hlate), ⟨_, hrun.call hcall hlate⟩,
      ⟨k', by simpa using hk'⟩, ?_⟩
    obtain ⟨-, -, -, rfl⟩ := hstep
    exact mutex_of_not_drops hholder hdrops

lemma Blocking.drop (h : Blocking state c) {o : PadOp} {k : o.Ans → PadM Label}
    (hcall : c.prog .telemetry = .call o k) (hdrops : Deadlock.Drops o) :
    Eventually (StepOf (machine False) Blocks .telemetry)
      (fun d => d.shared.shared.mutex = none) c := by
  obtain ⟨⟨t, hrun⟩, hwaits, -⟩ := h
  have hen := enabled_of_run hrun (.inr hwaits) hcall
  obtain ⟨r, hans⟩ := exists_answers c.shared.shared o
  have hdo : machine False .telemetry o c.shared r (c.shared.eff .telemetry o) := by
    refine ⟨hen, hans, ?_, rfl⟩
    rintro rfl
    simp [Deadlock.GivesBack] at hdrops
  refine .next ⟨_, .call hcall hdo⟩ fun d hd => .now ?_
  cases hd with
  | start hret =>
    rw [hcall] at hret
    cases hret
  | call hcall' hstep =>
    rw [hcall] at hcall'
    cases hcall'
    obtain ⟨-, -, -, rfl⟩ := hstep
    rcases hdrops with rfl | rfl
    · exact rfl
    · exact rfl

end Blocking

/-- **The mutex is given back.** In every interleaving in which the lock calls succeed, while the
controller waits for the mutex: the telemetry thread on its own, without its wait ever ending early,
comes to leave it free. -/
theorem mutex_freed_of_run {state : PadState} {t : Trace} {c : System}
    (hrun : Run (machine True) Blocks (system state) t c) {k : Int → PadM Label}
    (hwaits : c.prog .controller = .call .mutexLock k) :
    Eventually (StepOf (machine False) Blocks .telemetry)
      (fun d => d.shared.shared.mutex = none) c := by
  obtain ⟨x, hagree, hfollows⟩ := run_agree hrun
  have haloof : Aloof c := .inr ⟨k, hwaits⟩
  rcases hm : c.shared.shared.mutex with _ | (_ | _)
  · exact .now hm
  · have hheld := (hagree.mutex _).mp hm
    rw [haloof.holds_nothing (hfollows .controller)] at hheld
    cases hheld
  · have hheld := (hagree.mutex _).mp hm
    have hcomes : Comes (Deadlock.Expects .telemetry) (Blocks .telemetry) Deadlock.Drops
        (c.prog .telemetry) := Deadlock.comes_drops (hfollows .telemetry) hheld
    refine Eventually.trans (eventually_of_comes (Blocking state)
      (fun d l p hd hret hp => hd.start hret hp) (fun d o k hd hcall hno => hd.call hcall hno)
      hcomes ⟨⟨t, hrun⟩, ⟨k, hwaits⟩, hm⟩ rfl) ?_
    rintro d ⟨hd, o, k, hcall, hdrops⟩
    exact hd.drop hcall hdrops

theorem mutex_freed_of_run_connecting : ∃ (t : Trace) (c : System) (k : Int → PadM Label),
    Run (machine True) Blocks (system zeroed) t c ∧ c.prog .controller = .call .mutexLock k ∧
      c.shared.shared.mutex = some .telemetry ∧
      Eventually (StepOf (machine False) Blocks .telemetry)
        (fun d => d.shared.shared.mutex = none) c := by
  have htel : Blocks .telemetry .outer (telemetryUpdatePadstate .outer) := rfl
  have hctl : Blocks .controller .idle
      (padstateSetConnstatus .connConnected >>= fun _ => pure .idle) := .inr ⟨_, rfl⟩
  have h0 : Run (machine True) Blocks (system zeroed) [] (system zeroed) := .refl
  have h1 := h0.start rfl htel
  have h2 := h1.call (i := .telemetry) rfl
    (machine_of PadOp.clock (0 : UInt32) trivial trivial (by simp))
  have h3 := h2.call (i := .telemetry) rfl (machine_of PadOp.mutexLock (0 : Int) rfl rfl (by simp))
  have h4 := h3.start rfl hctl
  have h5 := h4.call (i := .controller) rfl (machine_of PadOp.wrlock (0 : Int) rfl rfl (by simp))
  have h6 := h5.call (i := .controller) rfl
    (machine_of (PadOp.storeConn .connConnected) () trivial trivial (by simp))
  have h7 := h6.call (i := .controller) rfl (machine_of PadOp.rwUnlock () trivial trivial (by simp))
  exact ⟨_, _, _, h7, rfl, rfl, mutex_freed_of_run h7 rfl⟩

/-! ### What is recorded is published -/

def Answered : (o : PadOp) → o.Ans → Prop
  | .rdlock, r | .wrlock, r | .mutexLock, r => r = (0 : Int)
  | .loadUpdate, r => r = true
  | _, _ => True

/-- What clears the update, right after it was published. -/
abbrev Clears : PadOp → Prop := fun o => o = .storeUpdate false

lemma comes_send : Comes Answered (Blocks .telemetry) Clears (.ret .send) := by
  refine .start ⟨_, rfl⟩ ?_
  rintro _ rfl
  refine comes_bind fun _ => ?_
  refine comes_bind fun _ => ?_
  exact .here rfl

lemma comes_check (err : Int) :
    Comes Answered (Blocks .telemetry) Clears (.ret (.check err)) := by
  refine .start ⟨_, rfl⟩ ?_
  rintro _ rfl
  unfold telemetryUpdatePadstate
  dsimp only
  split_ifs with herr
  · exact comes_send
  · refine .after ?_
    rintro _ rfl
    exact comes_send

lemma comes_outer : Comes Answered (Blocks .telemetry) Clears (.ret .outer) := by
  refine .start ⟨_, rfl⟩ ?_
  rintro _ rfl
  refine .after fun time _ => .after fun err _ => ?_
  exact comes_check err

lemma comes_clears {p : PadM Label} {x : Held}
    (h : Follows (held .telemetry) p (RestAt .telemetry) x) :
    Comes Answered (Blocks .telemetry) Clears p := by
  have hsim : Follows (⟨Answered, HeldStep⟩ : Monitor PadOp PadOp.Ans Held) p
      (fun l y => ∃ z, RestAt .telemetry l z ∧ z = y) x := by
    refine Follows.simulate (m := held .telemetry) ?_ ?_ h rfl
    · intro o r hr
      cases o <;> first | exact hr | trivial
    · rintro x o r y _ hy rfl
      exact ⟨y, hy, rfl⟩
  refine Follows.comes (I := fun _ => True) (fun _ _ _ _ _ _ => .inr trivial) ?_ hsim trivial
  rintro l _ ⟨x, hrest, rfl⟩ -
  cases l with
  | outer => exact comes_outer
  | check err => exact comes_check err
  | send => exact comes_send
  | idle => exact hrest.elim

/-- A configuration some interleaving comes to, with the controller at rest and an update of this
pad state recorded. -/
structure Pending (state pad : PadState) (c : System) : Prop where
  reached : ∃ t, Run (machine True) Blocks (system state) t c
  rests : ∃ l, c.prog .controller = .ret l
  kept : c.shared.shared.pad = pad
  recorded : pad.updateRecorded = true

lemma telemetry_effect {m m' : TelWake} {o : PadOp} {r : o.Ans} (h : TelWakeStep m o r m')
    (hclear : ¬ Clears o) (pad : PadState) : o.effect pad = pad := by
  cases h with
  | clear => exact absurd rfl hclear
  | looks _ _ _ ho => cases o <;> first | rfl | exact ho.elim
  | mutexLock | load | condRelease | condReacquire | mutexUnlock => rfl

section Pending

variable {state pad : PadState} {c : System}

lemma Pending.start (h : Pending state pad c) {l : Label} {p : PadM Label}
    (hret : c.prog .telemetry = .ret l) (hp : Blocks .telemetry l p) :
    Pending state pad ⟨c.shared, Function.update c.prog .telemetry p⟩ := by
  obtain ⟨⟨t, hrun⟩, ⟨l', hrest⟩, hpad, hrec⟩ := h
  exact ⟨⟨t, hrun.start hret hp⟩, ⟨l', by simpa using hrest⟩, hpad, hrec⟩

lemma Pending.call (h : Pending state pad c) {o : PadOp} {k : o.Ans → PadM Label}
    (hcall : c.prog .telemetry = .call o k) (hclear : ¬ Clears o) :
    (∃ r s, machine False .telemetry o c.shared r s) ∧
      ∀ r s, machine False .telemetry o c.shared r s →
        Answered o r ∧ Pending state pad ⟨s, Function.update c.prog .telemetry (k r)⟩ := by
  obtain ⟨⟨t, hrun⟩, ⟨l, hrest⟩, hpad, hrec⟩ := h
  constructor
  · have haloof : Aloof c := .inl ⟨l, hrest⟩
    have hen := enabled_of_run hrun haloof hcall
    obtain ⟨r, hans⟩ := exists_answers c.shared.shared o
    refine ⟨r, _, hen, hans, fun _ => .inl ?_, rfl⟩
    -- nobody is about to signal what is recorded
    by_contra hasleep
    exact haloof.not_signals
      (signals_of_asleep hrun (by simpa using hasleep) (by rw [hpad, hrec]))
  · rintro r s hstep
    have hstep' := late_of_machine hstep
    obtain ⟨m, -, hfollows⟩ := run_inv hrun
    have htel := hfollows .telemetry
    rw [hcall] at htel
    obtain ⟨m', hm', -⟩ := htel r (expects_of_machine hstep')
    refine ⟨?_, ⟨_, hrun.call hcall hstep'⟩, ⟨l, by simpa using hrest⟩, ?_, hrec⟩
    · obtain ⟨-, hans, -, -⟩ := hstep
      cases o <;> first
        | exact hans
        | trivial
        | exact Eq.trans hans (by rw [hpad, hrec])
    · obtain ⟨-, -, -, rfl⟩ := hstep
      change (c.shared.shared.eff .telemetry o).pad = pad
      rw [eff_pad, telemetry_effect hm' hclear, hpad]

lemma Pending.shown (h : Pending state pad c) {b : Bool} {k : Unit → PadM Label}
    (hcall : c.prog .telemetry = .call (.storeUpdate b) k) : Shown c.shared.shared := by
  obtain ⟨⟨t, hrun⟩, ⟨l, hrest⟩, -, -⟩ := h
  obtain ⟨x, hinv, hfollows⟩ := reach_good (reach_of_run hrun)
  have hctl : Follows (monitor .controller) (c.prog .controller) (AtRest .controller)
      (x .controller) := hfollows .controller
  have htel : Follows (monitor .telemetry) (c.prog .telemetry) (AtRest .telemetry)
      (x .telemetry) := hfollows .telemetry
  rw [hrest] at hctl
  rw [hcall] at htel
  obtain ⟨y, hstep, -⟩ := htel () trivial
  have hsent : x .telemetry = .sent := by
    generalize x .telemetry = tel at hstep
    cases hstep
    rfl
  exact hinv.sent hsent hctl.1

lemma Pending.clear (h : Pending state pad c) {o : PadOp} {k : o.Ans → PadM Label}
    (hcall : c.prog .telemetry = .call o k) (hclear : Clears o) :
    Eventually (StepOf (machine False) Blocks .telemetry)
      (fun d => d.shared.shared.pad = { pad with updateRecorded := false } ∧
        Shown d.shared.shared) c := by
  obtain rfl : o = .storeUpdate false := hclear
  have hshown := h.shown hcall
  have hdo : machine False .telemetry (.storeUpdate false) c.shared ()
      (c.shared.eff .telemetry (.storeUpdate false)) := ⟨trivial, trivial, by simp, rfl⟩
  refine .next ⟨_, .call hcall hdo⟩ fun d hd => ?_
  refine .now ?_
  cases hd with
  | start hret =>
    rw [hcall] at hret
    cases hret
  | call hcall' hstep =>
    rw [hcall] at hcall'
    cases hcall'
    obtain ⟨-, -, -, rfl⟩ := hstep
    refine ⟨?_, hshown⟩
    change (PadOp.storeUpdate false).effect c.shared.shared.pad = _
    rw [h.kept]
    rfl

end Pending

lemma clears_of_run {state : PadState} {t : Trace} {c : System}
    (hrun : Run (machine True) Blocks (system state) t c) {l : Label}
    (hrest : c.prog .controller = .ret l) (hrec : c.shared.shared.pad.updateRecorded = true) :
    Eventually (StepOf (machine False) Blocks .telemetry)
      (fun d => Pending state c.shared.shared.pad d ∧
        ∃ (o : PadOp) (k : o.Ans → PadM Label), d.prog .telemetry = .call o k ∧ Clears o) c := by
  have hpending : Pending state c.shared.shared.pad c := ⟨⟨t, hrun⟩, ⟨l, hrest⟩, rfl, hrec⟩
  obtain ⟨x, -, hfollows⟩ := run_agree hrun
  exact eventually_of_comes (Pending state c.shared.shared.pad)
    (fun d l' p hd hret hp => hd.start hret hp) (fun d o k hd hcall hno => hd.call hcall hno)
    (comes_clears (hfollows .telemetry)) hpending rfl

/-- **What is recorded is published.** From every configuration some interleaving comes to, with
the controller between two operations and an update recorded: the telemetry thread on its own,
without its wait ever ending early, publishes the pad state as it is and clears the update. Lock
calls and the sending of a datagram succeed. -/
theorem published_of_run {state : PadState} {t : Trace} {c : System}
    (hrun : Run (machine True) Blocks (system state) t c) {l : Label}
    (hrest : c.prog .controller = .ret l) (hrec : c.shared.shared.pad.updateRecorded = true) :
    Eventually (StepOf (machine False) Blocks .telemetry)
      (fun d => d.shared.shared.pad = { c.shared.shared.pad with updateRecorded := false } ∧
        Shown d.shared.shared) c := by
  refine (clears_of_run hrun hrest hrec).trans ?_
  rintro d ⟨hd, o, k, hcall, hclear⟩
  exact hd.clear hcall hclear

lemma recorded : ∃ (t : Trace) (c : System), Run (machine True) Blocks (system zeroed) t c ∧
    c.shared.shared.pad.updateRecorded = true ∧ c.prog .controller = .ret .idle := by
  obtain ⟨t, c, k, hrun, -, -, hrec, hcall, hk⟩ := recording True
  have hsignal := hrun.call hcall (machine_of PadOp.condSignal (0 : Int) trivial trivial (by simp))
  have hnext : Function.update c.prog .controller (k 0) .controller =
      .call .mutexUnlock fun _ => .ret .idle := by
    rw [Function.update_self, hk]
  have hunlock := hsignal.call (i := .controller) hnext
    (machine_of PadOp.mutexUnlock () trivial trivial (by simp))
  have hrest : Function.update (Function.update c.prog .controller (k 0)) .controller
      (.ret .idle) .controller = .ret .idle := Function.update_self ..
  exact ⟨_, _, hunlock, hrec, hrest⟩

theorem published_of_run_recorded : ∃ (t : Trace) (c : System),
    Run (machine True) Blocks (system zeroed) t c ∧ c.shared.shared.pad.updateRecorded = true ∧
      Eventually (StepOf (machine False) Blocks .telemetry)
        (fun d => d.shared.shared.pad = { c.shared.shared.pad with updateRecorded := false } ∧
          Shown d.shared.shared) c := by
  obtain ⟨t, c, hrun, hrec, hrest⟩ := recorded
  exact ⟨t, c, hrun, hrec, published_of_run hrun hrest hrec⟩

/-! ### The operator -/

open Hysim.TelemClient Hysim.History

lemma last_level {s : Shared} (h : Shown s) : ∃ before msg, s.published = before ++ [msg] ∧
    ∀ (queue : List Datagram) (client : Client), (∀ m ∈ queue, Heads m) →
      (levels (iterations (queue.length + 1) (waiting client (queue ++ [msg]))).reports).getLast? =
        some s.pad.armLevel.val.toUInt8 := by
  obtain ⟨time, hlast⟩ := h
  obtain ⟨before, hbefore⟩ := List.getLast?_eq_some_iff.mp hlast
  refine ⟨before, padDatagram time s.pad, hbefore, fun queue client hqueue => ?_⟩
  have hheads : ∀ m ∈ queue ++ [padDatagram time s.pad], Heads m := by
    refine List.forall_mem_append.mpr ⟨hqueue, ?_⟩
    exact List.forall_mem_singleton.mpr ⟨_, _, rfl, trivial⟩
  obtain ⟨d, hd, hreports⟩ := iterations_heads (queue.length + 1) client hheads
  have hall : (queue ++ [padDatagram time s.pad]).take (queue.length + 1) =
      queue ++ [padDatagram time s.pad] := List.take_of_length_le (by simp)
  have hfirsts : firsts (queue ++ [padDatagram time s.pad]) =
      firsts queue ++ [.arm ⟨time, s.pad.armLevel.val.toUInt8⟩] := List.filterMap_append ..
  rw [hd]
  change (levels d.reports).getLast? = _
  rw [hreports, hall, hfirsts, ← List.append_assoc, levels, List.filterMap_append]
  exact List.getLast?_concat

/-- **What is recorded is shown.** In such a configuration the telemetry thread on its own brings
it about that it publishes a datagram behind which the operator is shown the level as it is: the
client that reads it last, behind whatever datagrams it knows the first packet of, has reported
that level last. Lock calls and the sending of a datagram succeed. -/
theorem latest_shown {state : PadState} {t : Trace} {c : System}
    (hrun : Run (machine True) Blocks (system state) t c) {l : Label}
    (hrest : c.prog .controller = .ret l) (hrec : c.shared.shared.pad.updateRecorded = true) :
    Eventually (StepOf (machine False) Blocks .telemetry)
      (fun d => ∃ before msg, d.shared.shared.published = before ++ [msg] ∧
        ∀ (queue : List Datagram) (client : Client), (∀ m ∈ queue, Heads m) →
          (levels (iterations (queue.length + 1)
            (waiting client (queue ++ [msg]))).reports).getLast? =
              some c.shared.shared.pad.armLevel.val.toUInt8) c := by
  refine (clears_of_run hrun hrest hrec).trans ?_
  rintro d ⟨hd, o, k, hcall, hclear⟩
  refine (hd.clear hcall hclear).trans ?_
  rintro e ⟨hpad, hshown⟩
  have hlast := last_level hshown
  rw [hpad] at hlast
  exact .now hlast

theorem latest_shown_recorded : ∃ (t : Trace) (c : System),
    Run (machine True) Blocks (system zeroed) t c ∧ c.shared.shared.pad.updateRecorded = true ∧
      Eventually (StepOf (machine False) Blocks .telemetry)
        (fun d => ∃ before msg, d.shared.shared.published = before ++ [msg] ∧
          ∀ (queue : List Datagram) (client : Client), (∀ m ∈ queue, Heads m) →
            (levels (iterations (queue.length + 1)
              (waiting client (queue ++ [msg]))).reports).getLast? =
                some c.shared.shared.pad.armLevel.val.toUInt8) c := by
  obtain ⟨t, c, hrun, hrec, hrest⟩ := recorded
  exact ⟨t, c, hrun, hrec, latest_shown hrun hrest hrec⟩

end Hysim.Liveness
