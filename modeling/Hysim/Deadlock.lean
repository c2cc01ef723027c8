import Hysim.Lib.Runs
import Hysim.Shared

/-!
The locks of the pad state, with the threads that hold them.

The telemetry thread loads the level and the connection status under `rw_lock` while it holds
`update_mut`. The controller takes one lock at a time. A thread that holds `rw_lock` takes
nothing more, so whoever holds a lock another thread waits for is not waiting itself.
-/

namespace Hysim.Deadlock

open Hysim.Lib.Program Hysim.Lib.Threads Hysim.Lib.Runs Hysim.Packets Hysim.Actuators Hysim.State
open Hysim.Serve Hysim.Telemetry Hysim.Publish

/-! ### The locks -/

/-- Who holds `update_mut`, who holds `rw_lock` for writing, and how often each thread holds it
for reading. -/
@[ext] structure Locks where
  mutex : Option Who
  writer : Option Who
  readers : Who → ℕ

def Locks.addReader (s : Locks) (who : Who) : Locks :=
  { s with readers := Function.update s.readers who (s.readers who + 1) }

/-- `pthread_rwlock_unlock`, for whichever way the thread holds the lock. -/
def Locks.rwUnlock (s : Locks) (who : Who) : Locks :=
  if s.writer = some who then { s with writer := none }
  else { s with readers := Function.update s.readers who (s.readers who - 1) }

def Quiet : PadOp → Prop
  | .rdlock | .wrlock | .rwUnlock | .mutexLock | .mutexUnlock | .condRelease
  | .condReacquire => False
  | _ => True

/-- A lock call waits, or takes the lock, or fails and takes nothing. The telemetry thread asserts
that it gets the mutex. Everything else may be answered in any way. -/
inductive LockStep (who : Who) : (o : PadOp) → Locks → o.Ans → Locks → Prop
  | rdlock (s) (h : s.writer = none) : LockStep who .rdlock s (0 : Int) (s.addReader who)
  | noRdlock (s) (r : Int) (h : r ≠ 0) : LockStep who .rdlock s r s
  | wrlock (s) (h : s.writer = none) (hr : ∀ i, s.readers i = 0) :
      LockStep who .wrlock s (0 : Int) { s with writer := some who }
  | noWrlock (s) (r : Int) (h : r ≠ 0) : LockStep who .wrlock s r s
  | rwUnlock (s r) : LockStep who .rwUnlock s r (s.rwUnlock who)
  | mutexLock (s) (h : s.mutex = none) :
      LockStep who .mutexLock s (0 : Int) { s with mutex := some who }
  | noMutexLock (s) (r : Int) (h : r ≠ 0) (hwho : who = .controller) :
      LockStep who .mutexLock s r s
  | mutexUnlock (s r) : LockStep who .mutexUnlock s r { s with mutex := none }
  | condRelease (s r) : LockStep who .condRelease s r { s with mutex := none }
  | condReacquire (s r) (h : s.mutex = none) :
      LockStep who .condReacquire s r { s with mutex := some who }
  | quiet (o s r) (h : Quiet o) : LockStep who o s r s

def machine : Machine Who PadOp Locks PadOp.Ans := LockStep

/-- The operations of the controller, in any order and with any arguments, and the thread that
publishes the pad state. -/
def Blocks : Who → Label → PadM Label → Prop
  | .controller, l, p =>
    (∃ id reqState, p = padActuate id reqState >>= fun _ => pure l) ∨
      (∃ newArm, p = padstateChangeLevel newArm >>= fun _ => pure l) ∨
      ∃ newStatus, p = padstateSetConnstatus newStatus >>= fun _ => pure l
  | .telemetry, l, p => p = telemetryUpdatePadstate l

abbrev System := Config Who PadOp Locks Label PadOp.Ans

def unlocked : Locks := ⟨none, none, fun _ => 0⟩

def system : System where
  shared := unlocked
  prog
    | .controller => .ret .idle
    | .telemetry => .ret .outer

/-- The lock the operation takes is not to be had. -/
def Unavailable (s : Locks) : PadOp → Prop
  | .rdlock => s.writer ≠ none
  | .wrlock => s.writer ≠ none ∨ ∃ i, s.readers i ≠ 0
  | .mutexLock | .condReacquire => s.mutex ≠ none
  | _ => False

/-- The thread holds the lock the operation takes, in a way that keeps others from it. -/
def HoldsFor (s : Locks) (who : Who) : PadOp → Prop
  | .rdlock => s.writer = some who
  | .wrlock => s.writer = some who ∨ s.readers who ≠ 0
  | .mutexLock | .condReacquire => s.mutex = some who
  | _ => False

def GivesBack : PadOp → PadOp → Prop
  | .rdlock | .wrlock => fun o => o = .rwUnlock
  | .mutexLock | .condReacquire => fun o => o = .mutexUnlock ∨ o = .condRelease
  | _ => fun _ => False

/-- The thread is about to perform the operation, and has to wait. -/
def WaitsAt (c : System) (who : Who) (o : PadOp) : Prop :=
  (∃ k, c.prog who = .call o k) ∧ Unavailable c.shared o

def Waits (c : System) (who : Who) : Prop := ∃ o, WaitsAt c who o

def HoldsNothing (s : Locks) (who : Who) : Prop :=
  s.mutex ≠ some who ∧ s.writer ≠ some who ∧ s.readers who = 0

/-- The answers a thread goes on with. -/
def Expects : Who → (o : PadOp) → o.Ans → Prop
  | .telemetry, .mutexLock, r => r = (0 : Int)
  | _, _, _ => True

/-! ### What a thread holds -/

inductive Mode
  | free | reading | writing
  deriving DecidableEq

structure Held where
  mutex : Bool
  rw : Mode

def nothing : Held := ⟨false, .free⟩

/-- With `rw_lock` held no lock is taken, and no mutex is taken twice. -/
inductive HeldStep : Held → (o : PadOp) → o.Ans → Held → Prop
  | rdlock (x) (h : x.rw = .free) : HeldStep x .rdlock (0 : Int) { x with rw := .reading }
  | noRdlock (x) (r : Int) (h : x.rw = .free) (hr : r ≠ 0) : HeldStep x .rdlock r x
  | wrlock (x) (h : x.rw = .free) : HeldStep x .wrlock (0 : Int) { x with rw := .writing }
  | noWrlock (x) (r : Int) (h : x.rw = .free) (hr : r ≠ 0) : HeldStep x .wrlock r x
  | rwUnlock (x r) (h : x.rw ≠ .free) : HeldStep x .rwUnlock r { x with rw := .free }
  | mutexLock (x) (h : x = nothing) : HeldStep x .mutexLock (0 : Int) ⟨true, .free⟩
  | noMutexLock (x) (r : Int) (h : x = nothing) (hr : r ≠ 0) : HeldStep x .mutexLock r x
  | mutexUnlock (x r) (h : x.mutex = true) : HeldStep x .mutexUnlock r { x with mutex := false }
  | condRelease (x r) (h : x.mutex = true) : HeldStep x .condRelease r { x with mutex := false }
  | condReacquire (x r) (h : x = nothing) : HeldStep x .condReacquire r ⟨true, .free⟩
  | quiet (x o r) (h : Quiet o) : HeldStep x o r x

def held (who : Who) : Monitor PadOp PadOp.Ans Held := ⟨Expects who, HeldStep⟩

/-- The telemetry thread holds the mutex at every label but the outermost. -/
def RestAt : Who → Label → Held → Prop
  | .controller, _, x => x = nothing
  | .telemetry, .outer, x => x = nothing
  | .telemetry, .check _, x | .telemetry, .send, x => x = ⟨true, .free⟩
  | .telemetry, .idle, _ => False

/-- The locks are held by a thread as it knows. -/
structure Own (s : Locks) (who : Who) (x : Held) : Prop where
  mutex : s.mutex = some who ↔ x.mutex = true
  writer : s.writer = some who ↔ x.rw = .writing
  readers : s.readers who = if x.rw = .reading then 1 else 0

def Agrees (s : Locks) (x : Who → Held) : Prop := ∀ i, Own s i (x i)

/-! ### One operation -/

lemma Own.free {s : Locks} {who : Who} {x : Held} (h : Own s who x) (hfree : x.rw = .free) :
    s.writer ≠ some who ∧ s.readers who = 0 := by
  refine ⟨fun hw => ?_, ?_⟩
  · rw [h.writer.mp hw] at hfree
    cases hfree
  · rw [h.readers, hfree]
    rfl

lemma Own.holdsNothing {s : Locks} {who : Who} {x : Held} (h : Own s who x) (hx : x = nothing) :
    HoldsNothing s who := by
  subst hx
  exact ⟨fun hm => Bool.false_ne_true (h.mutex.mp hm), h.free rfl⟩

section Step

variable {who : Who} {o : PadOp} {r : o.Ans} {s s' : Locks} {x y : Held}

lemma own_step (h : Own s who x) (hstep : LockStep who o s r s') (hy : HeldStep x o r y) :
    Own s' who y := by
  cases hstep with
  | rdlock _ hw =>
    cases hy with
    | rdlock hfree =>
      refine ⟨h.mutex, by simp [Locks.addReader, hw], ?_⟩
      simp [Locks.addReader, (h.free hfree).2]
    | noRdlock _ hfree hr => exact absurd rfl hr
    | quiet _ _ hq => exact hq.elim
  | noRdlock _ _ hr =>
    cases hy with
    | rdlock hfree => exact absurd rfl hr
    | noRdlock _ hfree hr => exact h
    | quiet _ _ hq => exact hq.elim
  | wrlock _ hw hr =>
    cases hy with
    | wrlock hfree => exact ⟨h.mutex, by simp, by simp [hr]⟩
    | noWrlock _ hfree hr => exact absurd rfl hr
    | quiet _ _ hq => exact hq.elim
  | noWrlock _ _ hr =>
    cases hy with
    | wrlock hfree => exact absurd rfl hr
    | noWrlock _ hfree hr => exact h
    | quiet _ _ hq => exact hq.elim
  | rwUnlock _ _ =>
    cases hy with
    | rwUnlock _ hheld =>
      unfold Locks.rwUnlock
      split_ifs with hw
      · refine ⟨h.mutex, by simp, ?_⟩
        simp [h.readers, h.writer.mp hw]
      · refine ⟨h.mutex, by simp [hw], ?_⟩
        have hone : s.readers who ≤ 1 := by
          rw [h.readers]
          split_ifs <;> simp
        simp only [Function.update_self, reduceCtorEq, if_false]
        omega
    | quiet _ _ hq => exact hq.elim
  | mutexLock _ hm =>
    cases hy with
    | mutexLock hx => exact ⟨by simp, by simp [(h.free (hx ▸ rfl)).1], (h.free (hx ▸ rfl)).2⟩
    | noMutexLock _ hx hr => exact absurd rfl hr
    | quiet _ _ hq => exact hq.elim
  | noMutexLock _ _ hr hwho =>
    cases hy with
    | mutexLock hx => exact absurd rfl hr
    | noMutexLock _ hx hr => exact h
    | quiet _ _ hq => exact hq.elim
  | mutexUnlock _ _ =>
    cases hy with
    | mutexUnlock _ hm => exact ⟨by simp, h.writer, h.readers⟩
    | quiet _ _ hq => exact hq.elim
  | condRelease _ _ =>
    cases hy with
    | condRelease _ hm => exact ⟨by simp, h.writer, h.readers⟩
    | quiet _ _ hq => exact hq.elim
  | condReacquire _ _ hm =>
    cases hy with
    | condReacquire _ hx =>
      exact ⟨by simp, by simp [(h.free (hx ▸ rfl)).1], (h.free (hx ▸ rfl)).2⟩
    | quiet _ _ hq => exact hq.elim
  | quiet _ _ _ hq =>
    cases hy with
    | quiet => exact h
    | _ => exact hq.elim

lemma other_step {other : Who} {z : Held} (hne : other ≠ who) (hz : Own s other z)
    (h : Own s who x) (hstep : LockStep who o s r s') (hy : HeldStep x o r y) :
    Own s' other z := by
  have hmutex : s.mutex = some who ∨ s.mutex = none → z.mutex ≠ true := by
    rintro (hm | hm) hz'
    · exact hne (Option.some.inj ((hz.mutex.mpr hz').symm.trans hm))
    · exact absurd ((hz.mutex.mpr hz').symm.trans hm) (by simp)
  have hwriter : s.writer = some who ∨ s.writer = none → z.rw ≠ .writing := by
    rintro (hw | hw) hz'
    · exact hne (Option.some.inj ((hz.writer.mpr hz').symm.trans hw))
    · exact absurd ((hz.writer.mpr hz').symm.trans hw) (by simp)
  cases hstep with
  | rdlock _ hw =>
    refine ⟨hz.mutex, hz.writer, ?_⟩
    change Function.update s.readers who (s.readers who + 1) other = _
    rw [Function.update_of_ne hne]
    exact hz.readers
  | wrlock _ hw hr => exact ⟨hz.mutex, by simp [hne.symm, hwriter (.inr hw)], hz.readers⟩
  | rwUnlock _ _ =>
    unfold Locks.rwUnlock
    split_ifs with hw
    · exact ⟨hz.mutex, by simp [hwriter (.inl hw)], hz.readers⟩
    · refine ⟨hz.mutex, hz.writer, ?_⟩
      change Function.update s.readers who (s.readers who - 1) other = _
      rw [Function.update_of_ne hne]
      exact hz.readers
  | mutexLock _ hm => exact ⟨by simp [hne.symm, hmutex (.inr hm)], hz.writer, hz.readers⟩
  | condReacquire _ _ hm => exact ⟨by simp [hne.symm, hmutex (.inr hm)], hz.writer, hz.readers⟩
  | mutexUnlock _ _ =>
    cases hy with
    | mutexUnlock _ hheld =>
      exact ⟨by simp [hmutex (.inl (h.mutex.mpr hheld))], hz.writer, hz.readers⟩
    | quiet _ _ hq => exact hq.elim
  | condRelease _ _ =>
    cases hy with
    | condRelease _ hheld =>
      exact ⟨by simp [hmutex (.inl (h.mutex.mpr hheld))], hz.writer, hz.readers⟩
    | quiet _ _ hq => exact hq.elim
  | noRdlock _ _ hr => exact hz
  | noWrlock _ _ hr => exact hz
  | noMutexLock _ _ hr hwho => exact hz
  | quiet _ _ _ hq => exact hz

lemma agrees_step {x : Who → Held} (h : Agrees s x) (hstep : LockStep who o s r s')
    (hy : HeldStep (x who) o r y) : Agrees s' (Function.update x who y) := by
  intro i
  by_cases hi : i = who
  · subst hi
    rw [Function.update_self]
    exact own_step (h i) hstep hy
  · rw [Function.update_of_ne hi]
    exact other_step hi (h i) (h who) hstep hy

lemma expects_step (hstep : LockStep who o s r s') : Expects who o r := by
  cases hstep with
  | mutexLock _ hm => cases who <;> trivial
  | noMutexLock _ _ hr hwho => subst hwho; trivial
  | rdlock | noRdlock | wrlock | noWrlock | rwUnlock | mutexUnlock | condRelease | condReacquire =>
    cases who <;> trivial
  | quiet _ _ _ hq => cases who <;> cases o <;> trivial

end Step

/-! ### What the operations hold -/

abbrev Returns (who : Who) {α : Type} (p : PadM α) (x : Held) : Prop :=
  Follows (held who) p (fun _ y => y = x) x

section Operations

variable {who : Who} {α β : Type} {x : Held}

lemma Returns.bind {p : PadM α} {f : α → PadM β} (hp : Returns who p x)
    (hf : ∀ a, Returns who (f a) x) : Returns who (p >>= f) x := by
  refine Follows.bind (Follows.mono hp ?_)
  rintro a _ rfl
  exact hf a

lemma returns_quiet {o : PadOp} (h : Quiet o) : Returns who (Prog.op o) x :=
  fun r _ => ⟨x, .quiet x o r h, rfl⟩

lemma returns_lockedRead {load : PadOp} (hload : Quiet load) (val : load.Ans → CEnum)
    (h : x.rw = .free) :
    Returns who (rdlock >>= fun err => if err ≠ 0 then pure (-1)
      else Prog.op load >>= fun r => rwUnlock >>= fun _ => pure (val r)) x := by
  refine Follows.op_bind fun err _ => ?_
  by_cases herr : err = 0
  · subst herr
    refine ⟨_, .rdlock x h, fun r _ => ⟨_, .quiet _ load r hload, fun r' _ => ?_⟩⟩
    refine ⟨_, .rwUnlock _ r' (by simp), ?_⟩
    obtain ⟨mutex, rw⟩ := x
    obtain rfl : rw = .free := h
    rfl
  · rw [if_pos herr]
    exact ⟨x, .noRdlock x err h herr, rfl⟩

lemma returns_getLevel (h : x.rw = .free) : Returns who padstateGetLevel x :=
  @returns_lockedRead who x .loadLevel trivial ArmLvl.val h

lemma returns_getConnstatus (h : x.rw = .free) : Returns who padstateGetConnstatus x :=
  @returns_lockedRead who x .loadConn trivial ConnStatus.val h

lemma returns_signalUpdate : Returns who padstateSignalUpdate nothing := by
  refine Follows.op_bind fun err _ => ?_
  by_cases herr : err = 0
  · subst herr
    refine ⟨_, .mutexLock nothing rfl, fun _ _ => ⟨_, .quiet _ _ _ trivial, fun r _ => ?_⟩⟩
    exact ⟨_, .quiet _ .condSignal r trivial, fun _ _ => ⟨_, .mutexUnlock _ _ rfl, rfl⟩⟩
  · rw [if_pos herr]
    exact ⟨nothing, .noMutexLock nothing err rfl herr, rfl⟩

lemma returns_changeLevel (new : CEnum) : Returns who (padstateChangeLevel new) nothing := by
  unfold padstateChangeLevel
  split_ifs with hrange
  · exact rfl
  refine Follows.op_bind fun err _ => ?_
  by_cases herr : err = 0
  · subst herr
    refine ⟨_, .wrlock nothing rfl, fun level _ => ⟨_, .quiet _ .loadLevel level trivial, ?_⟩⟩
    change Follows _ (if _ then _ else _) _ _
    split_ifs with hmove
    · refine Follows.op_bind fun r _ => ⟨_, .quiet _ _ r trivial, ?_⟩
      refine Follows.op_bind fun r _ => ⟨_, .rwUnlock _ r (by simp), ?_⟩
      exact Returns.bind returns_signalUpdate fun _ => rfl
    · refine Follows.op_bind fun r _ => ⟨_, .rwUnlock _ r (by simp), rfl⟩
  · rw [if_pos herr]
    exact ⟨nothing, .noWrlock nothing err rfl herr, rfl⟩

lemma returns_setConnstatus (status : ConnStatus) :
    Returns who (padstateSetConnstatus status) nothing := by
  refine Follows.op_bind fun err _ => ?_
  by_cases herr : err = 0
  · subst herr
    refine ⟨_, .wrlock nothing rfl, ?_⟩
    refine Follows.op_bind fun r _ => ⟨_, .quiet _ (.storeConn status) r trivial, ?_⟩
    refine Follows.op_bind fun r _ => ⟨_, .rwUnlock _ r (by simp), ?_⟩
    exact Returns.bind returns_signalUpdate fun _ => rfl
  · rw [if_pos herr]
    exact ⟨nothing, .noWrlock nothing err rfl herr, rfl⟩

lemma returns_actuatorSet (act : ActIdx) (b : Bool) : Returns who (actuatorSet act b) x := by
  have hboth : Returns who (drive act b >>= fun err =>
      if err = -1 then pure err else storeAct act b >>= fun _ => pure 0) x := by
    refine Returns.bind (returns_quiet trivial) fun err => ?_
    split_ifs with herr
    · exact rfl
    · exact Returns.bind (returns_quiet trivial) fun _ => rfl
  cases b
  · exact hboth
  · exact hboth

lemma returns_advanceLevel (reqState : UInt8) (forward : ArmLvl) :
    Returns who (advanceLevel reqState forward) nothing := by
  unfold advanceLevel
  split_ifs with hs
  · refine Returns.bind (returns_getLevel rfl) fun level => ?_
    split_ifs with hlt
    · exact Returns.bind (returns_changeLevel _) fun _ => rfl
    · exact rfl
  · exact rfl

lemma returns_retreatLevel (reqState : UInt8) (back : ArmLvl) :
    Returns who (retreatLevel reqState back) nothing := by
  unfold retreatLevel
  split_ifs with hs
  · exact Returns.bind (returns_changeLevel _) fun _ => rfl
  · exact rfl

lemma returns_followLevel (id reqState : UInt8) :
    Returns who (followLevel id reqState) nothing := by
  unfold followLevel
  split_ifs with hq hi
  · exact Returns.bind (returns_advanceLevel _ _) fun _ => returns_retreatLevel _ _
  · exact Returns.bind (returns_advanceLevel _ _) fun _ => returns_retreatLevel _ _
  · exact rfl

lemma returns_actuateActuator (act : ActIdx) (id reqState : UInt8) :
    Returns who (actuateActuator act id reqState) nothing := by
  unfold actuateActuator
  refine Returns.bind (returns_actuatorSet _ _) fun err => ?_
  split_ifs with herr
  · exact rfl
  · refine Returns.bind (returns_followLevel _ _) fun _ => ?_
    exact Returns.bind returns_signalUpdate fun _ => rfl

lemma returns_padActuate (id reqState : UInt8) : Returns who (padActuate id reqState) nothing := by
  unfold padActuate
  split_ifs with hid hd hst
  · exact returns_actuateActuator _ _ _
  · exact rfl
  · refine Returns.bind (returns_getLevel rfl) fun level => ?_
    split_ifs with hdeny
    · exact rfl
    · exact returns_actuateActuator _ _ _
  · exact rfl

lemma returns_actPackets (time : UInt32) (acts : List ActIdx) :
    Returns who (actPackets time acts) x := by
  induction acts with
  | nil => exact rfl
  | cons act acts ih => exact Returns.bind (returns_quiet trivial) fun _ => ih.bind fun _ => rfl

lemma returns_sendPadstate (h : x.rw = .free) : Returns who telemetrySendPadstate x := by
  refine Returns.bind (returns_quiet trivial) fun time => ?_
  refine Returns.bind (returns_getLevel h) fun level => ?_
  refine Returns.bind (returns_getConnstatus h) fun status => ?_
  exact Returns.bind (returns_actPackets time _) fun acts => returns_quiet trivial

end Operations

/-! ### The threads -/

lemma held_send : Follows (held .telemetry) (telemetryUpdatePadstate .send)
    (fun l y => l = .outer ∧ y = nothing) ⟨true, .free⟩ := by
  refine Follows.op_bind fun recorded _ => ⟨_, .quiet _ .loadUpdate recorded trivial, ?_⟩
  refine Follows.bind (Follows.mono (returns_sendPadstate rfl) ?_)
  rintro _ _ rfl
  refine Follows.op_bind fun r _ => ⟨_, .quiet _ (.storeUpdate false) r trivial, ?_⟩
  exact fun r _ => ⟨_, .mutexUnlock _ r rfl, rfl, rfl⟩

lemma held_block {who : Who} {l : Label} {p : PadM Label} {x : Held} (hp : Blocks who l p)
    (hx : RestAt who l x) : Follows (held who) p (RestAt who) x := by
  cases who with
  | controller =>
    obtain rfl : x = nothing := hx
    rcases hp with ⟨id, reqState, rfl⟩ | ⟨newArm, rfl⟩ | ⟨newStatus, rfl⟩
    · exact Returns.bind (returns_padActuate id reqState) fun _ => rfl
    · exact Returns.bind (returns_changeLevel newArm) fun _ => rfl
    · exact Returns.bind (returns_setConnstatus newStatus) fun _ => rfl
  | telemetry =>
    obtain rfl : p = telemetryUpdatePadstate l := hp
    cases l with
    | outer =>
      obtain rfl : x = nothing := hx
      refine Follows.op_bind fun time _ => ⟨_, .quiet _ .clock time trivial, ?_⟩
      rintro _ rfl
      exact ⟨_, .mutexLock nothing rfl, rfl⟩
    | check err =>
      obtain rfl : x = ⟨true, .free⟩ := hx
      unfold telemetryUpdatePadstate
      dsimp only
      split_ifs with herr
      · exact rfl
      · refine Follows.op_bind fun recorded _ => ⟨_, .quiet _ .loadUpdate recorded trivial, ?_⟩
        split_ifs with hrec
        · exact rfl
        · refine Follows.op_bind fun r _ => ⟨_, .condRelease _ r rfl, fun err _ => ?_⟩
          exact ⟨_, .condReacquire _ err rfl, rfl⟩
    | send =>
      obtain rfl : x = ⟨true, .free⟩ := hx
      refine held_send.mono ?_
      rintro _ _ ⟨rfl, rfl⟩
      exact rfl
    | idle => exact hx.elim

lemma comes_rwUnlock {who : Who} {p : PadM Label} {x : Held}
    (h : Follows (held who) p (RestAt who) x) (hx : x.rw ≠ .free) :
    Comes (Expects who) (Blocks who) (fun o => o = .rwUnlock) p := by
  refine Follows.comes (m := held who) (I := fun x => x.rw ≠ .free) ?_ ?_ h hx
  · intro x o r y hy hheld
    cases hy with
    | rdlock hfree | noRdlock _ hfree | wrlock hfree | noWrlock _ hfree => exact absurd hfree hheld
    | rwUnlock => exact .inl rfl
    | mutexLock hx | noMutexLock _ hx | condReacquire _ hx => exact absurd (by rw [hx]; rfl) hheld
    | mutexUnlock | condRelease | quiet => exact .inr hheld
  · intro l x hrest hheld
    refine absurd ?_ hheld
    cases who with
    | controller => rw [show x = nothing from hrest]; rfl
    | telemetry =>
      cases l with
      | outer => rw [show x = nothing from hrest]; rfl
      | check | send => rw [show x = ⟨true, .free⟩ from hrest]
      | idle => exact hrest.elim

abbrev Drops : PadOp → Prop := GivesBack .mutexLock

lemma mutex_step {x y : Held} {o : PadOp} {r : o.Ans} (hy : HeldStep x o r y)
    (hx : x.mutex = true) : Drops o ∨ y.mutex = true := by
  cases hy with
  | mutexUnlock => exact .inl (.inl rfl)
  | condRelease => exact .inl (.inr rfl)
  | mutexLock hn | noMutexLock _ hn | condReacquire _ hn =>
    rw [hn] at hx
    cases hx
  | rdlock | noRdlock | wrlock | noWrlock | rwUnlock | quiet => exact .inr hx

lemma comes_send : Comes (Expects .telemetry) (Blocks .telemetry) Drops (.ret .send) := by
  refine .start ⟨_, rfl⟩ ?_
  rintro _ rfl
  refine Follows.comes (m := held .telemetry) (fun _ _ _ _ => mutex_step) ?_ held_send rfl
  rintro l _ ⟨-, rfl⟩ hheld
  cases hheld

lemma comes_check (err : Int) :
    Comes (Expects .telemetry) (Blocks .telemetry) Drops (.ret (.check err)) := by
  refine .start ⟨_, rfl⟩ ?_
  rintro _ rfl
  unfold telemetryUpdatePadstate
  dsimp only
  split_ifs with herr
  · exact comes_send
  · refine .after fun recorded _ => ?_
    change Comes _ _ _ (if _ then _ else _)
    split_ifs with hrec
    · exact comes_send
    · exact .here (.inr rfl)

lemma comes_drops {who : Who} {p : PadM Label} {x : Held}
    (h : Follows (held who) p (RestAt who) x) (hx : x.mutex = true) :
    Comes (Expects who) (Blocks who) Drops p := by
  refine Follows.comes (m := held who) (fun _ _ _ _ => mutex_step) ?_ h hx
  intro l x hrest hheld
  cases who with
  | controller =>
    rw [show x = nothing from hrest] at hheld
    cases hheld
  | telemetry =>
    cases l with
    | outer =>
      rw [show x = nothing from hrest] at hheld
      cases hheld
    | check err => exact comes_check err
    | send => exact comes_send
    | idle => exact hrest.elim

/-! ### Runs -/

/-- Wherever the threads are, they hold the locks as they know and keep to what they may do. -/
abbrev Kept : List (Moment Who PadOp Locks PadOp.Ans) → System → Prop :=
  Tracks held RestAt fun _ s x => Agrees s x

lemma kept_system : Kept [] system := by
  refine ⟨fun _ => nothing, fun i => ⟨by simp [system, unlocked, nothing],
    by simp [system, unlocked, nothing], rfl⟩, fun who => ?_⟩
  cases who with
  | controller => exact rfl
  | telemetry => exact rfl

lemma kept_of_run {t : List (Moment Who PadOp Locks PadOp.Ans)} {c : System}
    (hrun : Run machine Blocks system t c) : Kept t c :=
  tracks_of_run (J := fun _ s x => Agrees s x) (fun _ _ _ _ _ h => expects_step h)
    (fun _ _ _ _ hp hx => held_block hp hx)
    (fun _ _ _ _ _ _ _ _ h hstep hy => agrees_step h hstep hy) kept_system hrun

lemma held_waiting {s : Locks} {who : Who} {o : PadOp} {k : o.Ans → PadM Label} {x : Held}
    (h : Follows (held who) (.call o k) (RestAt who) x) (hun : Unavailable s o) :
    x.rw = .free ∧ (o = .mutexLock ∨ o = .condReacquire → x = nothing) := by
  have hstep : ∃ r y, HeldStep x o r y := by
    cases o with
    | rdlock | wrlock | condReacquire =>
      obtain ⟨y, hy, -⟩ := h (0 : Int) (by cases who <;> trivial)
      exact ⟨_, y, hy⟩
    | mutexLock =>
      obtain ⟨y, hy, -⟩ := h (0 : Int) (by cases who <;> trivial)
      exact ⟨_, y, hy⟩
    | _ => exact hun.elim
  obtain ⟨r, y, hy⟩ := hstep
  cases hy with
  | rdlock hfree | noRdlock _ hfree | wrlock hfree | noWrlock _ hfree =>
    exact ⟨hfree, by simp⟩
  | mutexLock hx | noMutexLock _ hx | condReacquire _ hx => exact ⟨by rw [hx]; rfl, fun _ => hx⟩
  | rwUnlock | mutexUnlock | condRelease => exact hun.elim
  | quiet _ _ hq => cases o <;> first | exact hq.elim | exact hun.elim

lemma free_of_rdlock {who : Who} {k : Int → PadM Label} {x : Held}
    (h : Follows (held who) (.call .rdlock k) (RestAt who) x) : x.rw = .free := by
  obtain ⟨y, hy, -⟩ := h 0 (by cases who <;> trivial)
  cases hy with
  | rdlock hfree => exact hfree
  | noRdlock _ hfree => exact hfree
  | quiet _ _ hq => exact hq.elim

section Waiting

variable {s : Locks} {x : Who → Held} {who other : Who} {o : PadOp}

lemma unavailable_cases (h : Unavailable s o) :
    (o = .rdlock ∨ o = .wrlock) ∨ o = .mutexLock ∨ o = .condReacquire := by
  cases o <;> first | exact h.elim | simp

lemma Agrees.of_holds_rw (h : Agrees s x) (ho : o = .rdlock ∨ o = .wrlock)
    (hholds : HoldsFor s other o) : (x other).rw ≠ .free := by
  intro hfree
  obtain ⟨hw, hr⟩ := (h other).free hfree
  rcases ho with rfl | rfl
  · exact hw hholds
  · rcases hholds with hwriter | hreader
    · exact hw hwriter
    · exact hreader hr

lemma Agrees.of_holds_mutex (h : Agrees s x) (ho : o = .mutexLock ∨ o = .condReacquire)
    (hholds : HoldsFor s other o) : (x other).mutex = true := by
  rcases ho with rfl | rfl
  · exact (h other).mutex.mp hholds
  · exact (h other).mutex.mp hholds

lemma Agrees.holder (h : Agrees s x) (hfree : (x who).rw = .free)
    (hnone : o = .mutexLock ∨ o = .condReacquire → x who = nothing) (hun : Unavailable s o) :
    ∃ other, other ≠ who ∧ HoldsFor s other o := by
  obtain ⟨hw, hr⟩ := (h who).free hfree
  have hmutex : x who = nothing → s.mutex ≠ none → ∃ other, other ≠ who ∧ s.mutex = some other := by
    intro hx hm
    obtain ⟨other, hother⟩ := Option.ne_none_iff_exists'.mp hm
    exact ⟨other, fun heq => ((h who).holdsNothing hx).1 (heq ▸ hother), hother⟩
  rcases unavailable_cases hun with (rfl | rfl) | rfl | rfl
  · obtain ⟨other, hother⟩ := Option.ne_none_iff_exists'.mp hun
    exact ⟨other, fun heq => hw (heq ▸ hother), hother⟩
  · rcases hun with hwriter | ⟨other, hother⟩
    · obtain ⟨other, hother⟩ := Option.ne_none_iff_exists'.mp hwriter
      exact ⟨other, fun heq => hw (heq ▸ hother), .inl hother⟩
    · exact ⟨other, fun heq => hother (heq ▸ hr), .inr hother⟩
  · exact hmutex (hnone (.inl rfl)) hun
  · exact hmutex (hnone (.inr rfl)) hun

end Waiting

/-- A thread that asks to read never finds the other waiting to write, so that it makes no
difference which of the two `rw_lock` would prefer. -/
theorem not_behind_writer {t : List (Moment Who PadOp Locks PadOp.Ans)} {c : System}
    (hrun : Run machine Blocks system t c) {reader writer : Who} (hne : reader ≠ writer)
    {k : Int → PadM Label} (hk : c.prog reader = .call .rdlock k) : ¬ WaitsAt c writer .wrlock := by
  rintro ⟨⟨k', hk'⟩, hun⟩
  obtain ⟨x, hagrees, hfollows⟩ := kept_of_run hrun
  have hreader := hfollows reader
  have hwriter := hfollows writer
  rw [hk] at hreader
  rw [hk'] at hwriter
  obtain ⟨hfree, hnone⟩ := held_waiting hwriter hun
  obtain ⟨other, hother, hholds⟩ := hagrees.holder hfree hnone hun
  obtain rfl : other = reader := by
    cases other <;> cases reader <;> cases writer <;> simp at hne hother ⊢
  exact hagrees.of_holds_rw (.inr rfl) hholds (free_of_rdlock hreader)

/-- **The controller and the telemetry thread cannot deadlock.** In every run a thread that is
not inside an operation holds no lock; and when a thread has to wait for a lock the other one
holds it, does not wait itself, and comes to give it back. -/
theorem no_deadlock {t : List (Moment Who PadOp Locks PadOp.Ans)} {c : System}
    (hrun : Run machine Blocks system t c) :
    (∀ l, c.prog .controller = .ret l → HoldsNothing c.shared .controller) ∧
      (c.prog .telemetry = .ret .outer → HoldsNothing c.shared .telemetry) ∧
      ∀ who o, WaitsAt c who o → ∃ other, other ≠ who ∧ HoldsFor c.shared other o ∧
        ¬ Waits c other ∧ Comes (Expects other) (Blocks other) (GivesBack o) (c.prog other) := by
  obtain ⟨x, hagrees, hfollows⟩ := kept_of_run hrun
  refine ⟨fun l hl => ?_, fun hl => ?_, ?_⟩
  · have hrest := hfollows .controller
    rw [hl] at hrest
    exact (hagrees .controller).holdsNothing hrest
  · have hrest := hfollows .telemetry
    rw [hl] at hrest
    exact (hagrees .telemetry).holdsNothing hrest
  · rintro who o ⟨⟨k, hk⟩, hun⟩
    have hwho := hfollows who
    rw [hk] at hwho
    obtain ⟨hfree, hnone⟩ := held_waiting hwho hun
    obtain ⟨other, hne, hholds⟩ := hagrees.holder hfree hnone hun
    refine ⟨other, hne, hholds, ?_, ?_⟩
    · rintro ⟨o', ⟨k', hk'⟩, hun'⟩
      have hother := hfollows other
      rw [hk'] at hother
      obtain ⟨hfree', hnone'⟩ := held_waiting hother hun'
      rcases unavailable_cases hun with hrw | hm
      · exact hagrees.of_holds_rw hrw hholds hfree'
      -- the other thread holds the mutex, so it waits for `rw_lock`, which is free
      have hheld := hagrees.of_holds_mutex hm hholds
      rcases unavailable_cases hun' with hrw' | hm'
      · obtain ⟨third, hthird, hholds'⟩ := hagrees.holder hfree' hnone' hun'
        obtain rfl : third = who := by
          cases third <;> cases who <;> cases other <;> simp at hne hthird ⊢
        exact hagrees.of_holds_rw hrw' hholds' hfree
      · rw [hnone' hm'] at hheld
        cases hheld
    · rcases unavailable_cases hun with hrw | hm
      · have hcomes := comes_rwUnlock (hfollows other) (hagrees.of_holds_rw hrw hholds)
        rcases hrw with rfl | rfl
        · exact hcomes
        · exact hcomes
      · have hcomes := comes_drops (hfollows other) (hagrees.of_holds_mutex hm hholds)
        rcases hm with rfl | rfl
        · exact hcomes
        · exact hcomes

/-- The telemetry thread has the mutex, and the controller is about to record an update. -/
theorem controller_waits : ∃ (t : List (Moment Who PadOp Locks PadOp.Ans)) (c : System),
    Run machine Blocks system t c ∧ ∃ other, other ≠ .controller ∧
      HoldsFor c.shared other .mutexLock ∧ ¬ Waits c other ∧
      Comes (Expects other) (Blocks other) (GivesBack .mutexLock) (c.prog other) := by
  have htel : Blocks .telemetry .outer (telemetryUpdatePadstate .outer) := rfl
  have hctl : Blocks .controller .idle
      (padstateSetConnstatus .connConnected >>= fun _ => pure .idle) := .inr (.inr ⟨_, rfl⟩)
  have h0 : Run machine Blocks system [] system := .refl
  have h1 := h0.start rfl htel
  have h2 := h1.call (i := .telemetry) rfl (LockStep.quiet .clock unlocked 0 trivial)
  have h3 := h2.call (i := .telemetry) rfl (LockStep.mutexLock unlocked rfl)
  have h4 := h3.start rfl hctl
  have h5 := h4.call (i := .controller) rfl (LockStep.wrlock _ rfl fun _ => rfl)
  have h6 := h5.call (i := .controller) rfl
    (LockStep.quiet (.storeConn .connConnected) _ () trivial)
  have h7 := h6.call (i := .controller) rfl (LockStep.rwUnlock _ ())
  exact ⟨_, _, h7, (no_deadlock h7).2.2 .controller .mutexLock
    ⟨⟨_, rfl⟩, Option.some_ne_none Who.telemetry⟩⟩

end Hysim.Deadlock
