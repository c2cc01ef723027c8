import Hysim.Shutdown

/-!
The pad server once the thread that publishes the pad state has ended.

That thread ends with the update mutex, be it at a Ctrl+C or because the telemetry thread gave up,
as it does when it cannot open its data file. The controller goes on until it has changed something
of the pad: it never comes back from recording the update, sends no acknowledgement and calls no
driver any more.
-/

namespace Hysim.Silent

open Relation Hysim.Lib.Program Hysim.Packets Hysim.Actuators Hysim.State Hysim.Telemetry
open Hysim.Lib.Threads hiding Step
open Hysim.Deadlock hiding system machine
open Hysim.Shutdown
open Hysim.Publish (Who)

/-! ### What the controller owes -/

def Stores : PadOp → Prop
  | .storeAct _ _ | .storeLevel _ | .storeConn _ => True
  | _ => False

/-- Whether the controller has changed something since it last asked for the mutex. It then calls
no driver. -/
inductive OwesStep : Bool → (o : PadOp) → o.Ans → Bool → Prop
  | store (x o r) (h : Stores o) : OwesStep x o r true
  | ask (x r) : OwesStep x .mutexLock r false
  | drive (act on r) : OwesStep false (.drive act on) r false
  | other (x o r) (h : ¬ Stores o) (hask : o ≠ .mutexLock) (hdrive : ∀ act on, o ≠ .drive act on) :
      OwesStep x o r x

/-- Lock calls may fail, and drivers too. -/
def owing : Monitor PadOp PadOp.Ans Bool := ⟨fun _ _ => True, OwesStep⟩

abbrev Settles {α : Type} (p : PadM α) (x : Bool) : Prop :=
  Follows owing p (fun _ y => y = x ∨ y = false) x

abbrev Pays {α : Type} (p : PadM α) (x : Bool) : Prop := Follows owing p (fun _ y => y = false) x

section Operations

variable {α β : Type}

lemma Settles.bind {p : PadM α} {f : α → PadM β} {x : Bool} (hp : Settles p x)
    (hf : ∀ a y, Settles (f a) y) : Settles (p >>= f) x := by
  refine Follows.bind (Follows.mono hp ?_)
  rintro a y (rfl | rfl)
  · exact hf a y
  · exact (hf a false).mono fun _ z hz => .inr (hz.elim id id)

lemma Pays.settles {p : PadM α} {x : Bool} (h : Pays p x) : Settles p x :=
  Follows.mono h fun _ _ hy => .inr hy

lemma settles_pure (a : α) (x : Bool) : Settles (pure a : PadM α) x := .inl rfl

lemma settles_op {o : PadOp} (h : ¬ Stores o) (hask : o ≠ .mutexLock)
    (hdrive : ∀ act on, o ≠ .drive act on) (x : Bool) : Settles (Prog.op o) x :=
  fun r _ => ⟨x, .other x o r h hask hdrive, .inl rfl⟩

lemma settles_getLevel (x : Bool) : Settles padstateGetLevel x := by
  refine Settles.bind (settles_op id (by simp) (by simp) x) fun err y => ?_
  split_ifs with herr
  · exact settles_pure _ y
  · refine Settles.bind (settles_op id (by simp) (by simp) y) fun level z => ?_
    exact Settles.bind (settles_op id (by simp) (by simp) z) fun _ w => settles_pure _ w

lemma pays_signalUpdate (x : Bool) : Pays padstateSignalUpdate x := by
  refine Follows.op_bind fun err _ => ⟨false, .ask x err, ?_⟩
  have hrest : Settles (if err ≠ 0 then pure err else storeUpdate true >>= fun _ =>
      condSignal >>= fun err => mutexUnlock >>= fun _ => pure err) false := by
    split_ifs with herr
    · exact settles_pure _ _
    · refine Settles.bind (settles_op id (by simp) (by simp) _) fun _ y => ?_
      refine Settles.bind (settles_op id (by simp) (by simp) y) fun err z => ?_
      exact Settles.bind (settles_op id (by simp) (by simp) z) fun _ w => settles_pure _ w
  exact hrest.mono fun _ _ hy => hy.elim id id

lemma settles_changeLevel (new : CEnum) (x : Bool) : Settles (padstateChangeLevel new) x := by
  unfold padstateChangeLevel
  split_ifs with hrange
  · exact settles_pure _ x
  refine Settles.bind (settles_op id (by simp) (by simp) x) fun err y => ?_
  split_ifs with herr
  · exact settles_pure _ y
  refine Settles.bind (settles_op id (by simp) (by simp) y) fun level z => ?_
  split_ifs with hmove
  · refine Pays.settles (Follows.op_bind fun r _ => ⟨true, .store z _ r trivial, ?_⟩)
    refine Follows.op_bind fun r _ => ⟨true, .other _ _ r id (by simp) (by simp), ?_⟩
    exact Follows.bind ((pays_signalUpdate true).mono fun _ _ hy => hy)
  · exact Settles.bind (settles_op id (by simp) (by simp) z) fun _ w => settles_pure _ w

lemma settles_setConnstatus (status : ConnStatus) (x : Bool) :
    Settles (padstateSetConnstatus status) x := by
  refine Settles.bind (settles_op id (by simp) (by simp) x) fun err y => ?_
  split_ifs with herr
  · exact settles_pure _ y
  refine Pays.settles (Follows.op_bind fun r _ => ⟨true, .store y _ r trivial, ?_⟩)
  refine Follows.op_bind fun r _ => ⟨true, .other _ _ r id (by simp) (by simp), ?_⟩
  exact Follows.bind ((pays_signalUpdate true).mono fun _ _ hy => hy)

lemma settles_advanceLevel (reqState : UInt8) (forward : ArmLvl) (x : Bool) :
    Settles (advanceLevel reqState forward) x := by
  unfold advanceLevel
  split_ifs with hs
  · refine Settles.bind (settles_getLevel x) fun level y => ?_
    split_ifs with hlt
    · exact Settles.bind (settles_changeLevel _ y) fun _ z => settles_pure _ z
    · exact settles_pure _ y
  · exact settles_pure _ x

lemma settles_retreatLevel (reqState : UInt8) (back : ArmLvl) (x : Bool) :
    Settles (retreatLevel reqState back) x := by
  unfold retreatLevel
  split_ifs with hs
  · exact Settles.bind (settles_changeLevel _ x) fun _ y => settles_pure _ y
  · exact settles_pure _ x

lemma settles_followLevel (id reqState : UInt8) (x : Bool) :
    Settles (followLevel id reqState) x := by
  unfold followLevel
  split_ifs with hq hi
  · exact Settles.bind (settles_advanceLevel _ _ x) fun _ y => settles_retreatLevel _ _ y
  · exact Settles.bind (settles_advanceLevel _ _ x) fun _ y => settles_retreatLevel _ _ y
  · exact settles_pure _ x

lemma owing_actuatorSet (act : ActIdx) (b : Bool) :
    Follows owing (actuatorSet act b) (fun err y => err ≠ 0 → y = false) false := by
  have hboth : Follows owing (drive act b >>= fun err =>
      if err = -1 then pure err else storeAct act b >>= fun _ => pure 0)
      (fun err y => err ≠ 0 → y = false) false := by
    refine Follows.op_bind fun err _ => ⟨false, .drive act b err, ?_⟩
    split_ifs with herr
    · exact fun _ => rfl
    · exact Follows.op_bind fun r _ => ⟨true, .store _ _ r trivial, fun hne => absurd rfl hne⟩
  cases b
  · exact hboth
  · exact hboth

/-- The update is recorded behind the level changes, however these end. -/
lemma pays_actuateActuator (act : ActIdx) (id reqState : UInt8) :
    Pays (actuateActuator act id reqState) false := by
  refine Follows.bind ((owing_actuatorSet act _).mono fun err y hy => ?_)
  split_ifs with herr
  · exact hy herr
  · refine Follows.bind (Follows.mono (settles_followLevel id reqState y) fun _ z _ => ?_)
    exact Follows.bind ((pays_signalUpdate z).mono fun _ _ hw => hw)

lemma pays_padActuate (id reqState : UInt8) : Pays (padActuate id reqState) false := by
  unfold padActuate
  split_ifs with hid hd hst
  · exact pays_actuateActuator _ id reqState
  · exact rfl
  · refine Follows.bind (Follows.mono (settles_getLevel false) ?_)
    rintro level y hy
    obtain rfl : y = false := (or_self_iff ..).mp hy
    split_ifs with hdeny
    · exact rfl
    · exact pays_actuateActuator _ id reqState
  · exact rfl

lemma pays_block {l : Label} {p : PadM Label} (hp : Blocks .controller l p) : Pays p false := by
  rcases hp with ⟨id, reqState, rfl⟩ | ⟨newArm, rfl⟩ | ⟨status, rfl⟩
  · exact Follows.bind ((pays_padActuate id reqState).mono fun _ _ hy => hy)
  · exact Follows.bind (Follows.mono (settles_changeLevel newArm false) fun _ _ hy => hy.elim id id)
  · exact Follows.bind (Follows.mono (settles_setConnstatus status false)
      fun _ _ hy => hy.elim id id)

end Operations

/-! ### A server that no longer answers -/

variable {points : Points}

lemma controller_step {c c' : Server} (hstep : Step points c c') :
    c'.threads.prog .controller = c.threads.prog .controller ∨
      (∃ l p, c.threads.prog .controller = .ret l ∧ Blocks .controller l p ∧
        c'.threads.prog .controller = p) ∨
      ∃ o k r s, c.threads.prog .controller = .call o k ∧
        LockStep .controller o c.threads.shared r s ∧ c'.threads.prog .controller = k r := by
  cases hstep with
  | signal | cancelTelem | joinTelem | cancelController | joinController | create | telemReturns
    | telemExits | cancelPad | joinPad | exit | exitWait | exitIdle => exact .inl rfl
  | @start i l p _ hret hp =>
    cases i with
    | controller => exact .inr (.inl ⟨l, p, hret, hp, by simp⟩)
    | telemetry => exact .inl (by simp)
  | @call i o k r s _ hcall hlock =>
    cases i with
    | controller => exact .inr (.inr ⟨o, k, r, s, hcall, hlock, by simp⟩)
    | telemetry => exact .inl (by simp)

def Owes (c : Server) (x : Bool) : Prop := Pays (c.threads.prog .controller) x

lemma owes_of_steps {c : Server} (h : Steps points server c) : ∃ x, Owes c x := by
  induction h with
  | refl => exact ⟨false, rfl⟩
  | tail _ hstep ih =>
    obtain ⟨x, hx⟩ := ih
    rcases controller_step hstep with heq | ⟨l, p, hret, hp, heq⟩ | ⟨o, k, r, -, hcall, -, heq⟩
    · exact ⟨x, by rwa [Owes, heq]⟩
    · exact ⟨false, by rw [Owes, heq]; exact pays_block hp⟩
    · rw [Owes, hcall] at hx
      obtain ⟨y, -, hrest⟩ := hx r trivial
      exact ⟨y, by rwa [Owes, heq]⟩

/-- The thread that publishes the pad state has ended, and the controller owes an update. -/
structure Deaf (c : Server) : Prop where
  dead : c.life .telemetry = .dead
  owes : Owes c true

lemma dead_step {c c' : Server} (hord : Ordered c) (h : c.life .telemetry = .dead)
    (hstep : Step points c c') : c'.life .telemetry = .dead := by
  cases hstep with
  | signal | cancelTelem | joinTelem | cancelController | joinController | telemReturns
    | telemExits | cancelPad | joinPad | start | call => exact h
  | create hstart => exact absurd (hord.pad (.inr h)) (Telem.exit_of_pad (.inl hstart))
  | @exit i | @exitWait i =>
    cases i with
    | controller => simpa using h
    | telemetry => simp
  | exitIdle => simpa using h

lemma Kept.mutex {c : Server} (h : Kept c) (hdead : c.life .telemetry = .dead) :
    c.threads.shared.mutex = some .telemetry := by
  obtain ⟨x, hagrees, -, hmutex⟩ := h
  exact (hagrees .telemetry).mutex.mpr (hmutex hdead)

lemma deaf_step {c c' : Server} (hkept : Kept c) (hord : Ordered c) (h : Deaf c)
    (hstep : Step points c c') (hlock : ¬ LockFails c c') : Deaf c' := by
  refine ⟨dead_step hord h.dead hstep, ?_⟩
  have howes := h.owes
  rcases controller_step hstep with heq | ⟨l, p, hret, -, -⟩ | ⟨o, k, r, s, hcall, hans, heq⟩
  · rwa [Owes, heq]
  · rw [Owes, hret] at howes
    cases howes
  · rw [Owes, hcall] at howes
    obtain ⟨y, hy, hrest⟩ := howes r trivial
    rw [Owes, heq]
    cases hy with
    | store => exact hrest
    | other => exact hrest
    | ask =>
      -- the mutex is not to be had, and the call does not fail
      cases hans with
      | mutexLock _ hfree =>
        rw [Kept.mutex hkept h.dead] at hfree
        cases hfree
      | noMutexLock _ _ hr => exact absurd ⟨k, _, hcall, hr, heq⟩ hlock
      | quiet _ _ _ hq => exact hq.elim

lemma deaf_of_steps {c c' : Server} (h : Steps points server c) (hdeaf : Deaf c)
    (hsteps : ReflTransGen (fun d d' => Step points d d' ∧ ¬ LockFails d d') c c') : Deaf c' := by
  have hall : Steps points server c' ∧ Deaf c' := by
    induction hsteps with
    | refl => exact ⟨h, hdeaf⟩
    | tail _ hstep ih =>
      exact ⟨ih.1.tail hstep.1,
        deaf_step (kept_of_steps ih.1) (ordered_of_steps ih.1) ih.2 hstep.1 hstep.2⟩
  exact hall.2

lemma Deaf.not_ret {c : Server} (h : Deaf c) (l : Label) :
    c.threads.prog .controller ≠ .ret l := by
  intro hret
  have howes := h.owes
  rw [Owes, hret] at howes
  cases howes

lemma Deaf.not_drive {c : Server} (h : Deaf c) (act : ActIdx) (on : Bool)
    (k : Int → PadM Label) : c.threads.prog .controller ≠ .call (.drive act on) k := by
  intro hdrive
  have howes := h.owes
  rw [Owes, hdrive] at howes
  obtain ⟨y, hy, -⟩ := howes (0 : Int) trivial
  cases hy with
  | store _ _ _ hstores => exact hstores
  | other _ _ _ _ _ hno => exact hno act on rfl

inductive Changes : Server → Server → Prop
  | call {c : Server} {o : PadOp} {k : o.Ans → PadM Label} {r : o.Ans} {s : Locks}
      (hstores : Stores o) (hlive : c.life .controller = .alive)
      (hcall : c.threads.prog .controller = .call o k)
      (hlock : LockStep .controller o c.threads.shared r s) :
      Changes c
        { c with threads := ⟨s, Function.update c.threads.prog .controller (k r)⟩ }

lemma deaf_of_changes {c d : Server} (h : Steps points server c)
    (hdead : c.life .telemetry = .dead) (hchanges : Changes c d) :
    Steps points server d ∧ Deaf d := by
  cases hchanges with
  | @call o k r s hstores hlive hcall hlock =>
    refine ⟨h.tail (.call hlive hcall hlock), hdead, ?_⟩
    obtain ⟨x, hx⟩ := owes_of_steps h
    rw [Owes, hcall] at hx
    obtain ⟨y, hy, hrest⟩ := hx r trivial
    have hpays : Pays (k r) true := by
      cases hy with
      | store => exact hrest
      | ask | drive => exact hstores.elim
      | other _ _ _ hno => exact absurd hstores hno
    simpa [Owes] using hpays

/-- **The server falls silent.** Once the thread that publishes the pad state has ended, the first
change the controller makes to the pad is its last: in every run from there, unless the call to
lock the mutex fails, it neither comes to the end of its operation, and so to the acknowledgement,
nor calls a driver. -/
theorem silent_of_change (points : Points) {c d e : Server} (h : Steps points server c)
    (hdead : c.life .telemetry = .dead) (hchanges : Changes c d)
    (hsteps : ReflTransGen (fun c c' => Step points c c' ∧ ¬ LockFails c c') d e) :
    (∀ l, e.threads.prog .controller ≠ .ret l) ∧
      ∀ act on k, e.threads.prog .controller ≠ .call (.drive act on) k := by
  obtain ⟨hreach, hdeaf⟩ := deaf_of_changes h hdead hchanges
  have hafter := deaf_of_steps hreach hdeaf hsteps
  exact ⟨hafter.not_ret, hafter.not_drive⟩

lemma exists_change {c : Server} (_ : Steps points server c) {status : ConnStatus}
    {k : Unit → PadM Label} (hlive : c.life .controller = .alive)
    (hcall : c.threads.prog .controller = .call (.storeConn status) k) :
    ∃ d, Changes c d ∧ d.life = c.life ∧ d.threads.prog .controller = k () :=
  ⟨_, .call (o := .storeConn status) trivial hlive hcall (.quiet _ _ () trivial), rfl, by simp⟩

lemma exists_unlock {c : Server} (_ : Steps points server c) {k : Unit → PadM Label}
    (hlive : c.life .controller = .alive) (hcall : c.threads.prog .controller = .call .rwUnlock k) :
    ∃ d, Step points c d ∧ ¬ LockFails c d := by
  refine ⟨_, .call hlive hcall (.rwUnlock _ ()), ?_⟩
  rintro ⟨_, _, hlock, -⟩
  rw [hcall] at hlock
  cases hlock

/-- The data file cannot be opened. The first client to connect is never heard. -/
theorem silent_of_change_connecting : ∃ c d e, Steps posix server c ∧ Changes c d ∧
    Step posix d e ∧ c.handler = .idle ∧
    (∀ l, e.threads.prog .controller ≠ .ret l) ∧
      ∀ act on k, e.threads.prog .controller ≠ .call (.drive act on) k := by
  obtain ⟨c, hc, hstarted⟩ := started posix
  obtain ⟨k, hwait⟩ := hstarted.pad
  have hctl : Blocks .controller .idle
      (padstateSetConnstatus .connConnected >>= fun _ => pure .idle) := .inr (.inr ⟨_, rfl⟩)
  have hwriter : c.threads.shared.writer = none := congrArg Locks.writer hstarted.shared
  have hreaders : ∀ i, c.threads.shared.readers i = 0 :=
    congrFun (congrArg Locks.readers hstarted.shared)
  have hmutex : c.threads.shared.mutex = none := congrArg Locks.mutex hstarted.shared
  have h1 := hc.steps.tail (.telemReturns (.inr hstarted.telem))
  have h2 := h1.tail (.cancelPad (congrArg Telem.exit hstarted.telem))
  have h3 := h2.tail (.exitWait (i := .telemetry) (hstarted.life _) rfl hwait hmutex)
  have hlive : Function.update c.life .telemetry .dead .controller = .alive := by
    simpa using hstarted.life .controller
  have h4 := h3.tail (.start hlive hstarted.controller hctl)
  have h5 := h4.tail (.call (i := .controller) hlive rfl (LockStep.wrlock _ hwriter hreaders))
  obtain ⟨d, hchanges, hlife, hprog⟩ := exists_change h5 hlive rfl
  obtain ⟨e, hstep, hok⟩ :=
    exists_unlock (deaf_of_changes h5 rfl hchanges).1 (hlife ▸ hlive) hprog
  exact ⟨_, d, e, h5, hchanges, hstep, hstarted.handler,
    silent_of_change posix h5 rfl hchanges (.single ⟨hstep, hok⟩)⟩

end Hysim.Silent
