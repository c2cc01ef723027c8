import Hysim.Deadlock
import Hysim.Pieces

/-!
The lock discipline of the controller and the thread that publishes the pad state.

A plain variable of the pad state is touched with its lock held, so that the threads never touch
one at the same time unless both read it. Drivers are called with no lock held, and under
`rw_lock` there is nothing to wait for.
-/

namespace Hysim.Discipline

open Hysim.Lib.Program Hysim.Lib.Threads Hysim.Lib.Runs Hysim.Packets Hysim.Actuators Hysim.State
open Hysim.Serve Hysim.Telemetry Hysim.Deadlock Hysim.Pieces
open Hysim.Publish (Who)

/-- The plain variables the threads share. The states of the actuators are atomic. -/
inductive Var
  | armLevel | connStatus | updateRecorded
  deriving DecidableEq

inductive Access
  | read | write
  deriving DecidableEq

def access : PadOp → Option (Var × Access)
  | .loadLevel => some (.armLevel, .read)
  | .storeLevel _ => some (.armLevel, .write)
  | .loadConn => some (.connStatus, .read)
  | .storeConn _ => some (.connStatus, .write)
  | .loadUpdate => some (.updateRecorded, .read)
  | .storeUpdate _ => some (.updateRecorded, .write)
  | _ => none

/-- Both operations touch a variable, and one of them writes it. -/
def Conflict (o o' : PadOp) : Prop :=
  ∃ v a a', access o = some (v, a) ∧ access o' = some (v, a') ∧ (a = .write ∨ a' = .write)

/-- Two threads are about to perform conflicting operations. -/
def Race (c : System) : Prop :=
  ∃ i j o o' k k', i ≠ j ∧ c.prog i = .call o k ∧ c.prog j = .call o' k' ∧ Conflict o o'

/-- What the thread holds when it performs an operation: the lock of the variable it touches, no
lock at all when it calls a driver, and not `rw_lock` when it may have to wait. -/
def Disciplined (s : Locks) (who : Who) : PadOp → Prop
  | .loadLevel | .loadConn => s.writer = some who ∨ s.readers who ≠ 0
  | .storeLevel _ | .storeConn _ => s.writer = some who
  | .loadUpdate | .storeUpdate _ => s.mutex = some who
  | .drive _ _ => HoldsNothing s who
  | .rdlock | .wrlock | .mutexLock | .condReacquire | .publish _ =>
    s.writer ≠ some who ∧ s.readers who = 0
  | _ => True

/-! ### The monitor -/

def Allowed (x : Held) : PadOp → Prop
  | .loadLevel | .loadConn => x.rw ≠ .free
  | .storeLevel _ | .storeConn _ => x.rw = .writing
  | .loadUpdate | .storeUpdate _ => x.mutex = true
  | .drive _ _ => x = nothing
  | .rdlock | .wrlock | .mutexLock | .condReacquire | .publish _ => x.rw = .free
  | _ => True

def disciplined (who : Who) : Monitor PadOp PadOp.Ans Held where
  expects := Expects who
  step x o r y := HeldStep x o r y ∧ Allowed x o

/-- The operation keeps the discipline and gives back every lock it takes. -/
abbrev Keeps (who : Who) {α : Type} (p : PadM α) (x : Held) : Prop :=
  Follows (disciplined who) p (fun _ y => y = x) x

section Operations

variable {who : Who} {x : Held}

lemma closed_keeps (who : Who) (x : Held) : Closed fun _ (p : PadM _) => Keeps who p x where
  pure _ _ := rfl
  bind _ _ _ _ hp hf := by
    refine Follows.bind (Follows.mono hp ?_)
    rintro a _ rfl
    exact hf a

lemma keeps_op {o : PadOp} (hquiet : Quiet o) (h : Allowed x o) : Keeps who (Prog.op o) x :=
  fun r _ => ⟨x, ⟨.quiet x o r hquiet, h⟩, rfl⟩

lemma keeps_lockedRead {load : PadOp} (hload : Quiet load)
    (hallowed : ∀ y : Held, y.rw = .reading → Allowed y load) (val : load.Ans → CEnum)
    (h : x.rw = .free) :
    Keeps who (rdlock >>= fun err => if err ≠ 0 then pure (-1)
      else Prog.op load >>= fun r => rwUnlock >>= fun _ => pure (val r)) x := by
  refine Follows.op_bind fun err _ => ?_
  by_cases herr : err = 0
  · subst herr
    refine ⟨_, ⟨.rdlock x h, h⟩, fun r _ => ⟨_, ⟨.quiet _ load r hload, hallowed _ rfl⟩, ?_⟩⟩
    refine fun r' _ => ⟨_, ⟨.rwUnlock _ r' (by simp), trivial⟩, ?_⟩
    obtain ⟨mutex, rw⟩ := x
    obtain rfl : rw = .free := h
    rfl
  · rw [if_pos herr]
    exact ⟨x, ⟨.noRdlock x err h herr, h⟩, rfl⟩

lemma keeps_getLevel (h : x.rw = .free) : Keeps who padstateGetLevel x :=
  @keeps_lockedRead who x .loadLevel trivial (fun y hy => by simp [Allowed, hy]) ArmLvl.val h

lemma keeps_getConnstatus (h : x.rw = .free) : Keeps who padstateGetConnstatus x :=
  @keeps_lockedRead who x .loadConn trivial (fun y hy => by simp [Allowed, hy]) ConnStatus.val h

lemma keeps_signalUpdate : Keeps who padstateSignalUpdate nothing := by
  refine Follows.op_bind fun err _ => ?_
  by_cases herr : err = 0
  · subst herr
    refine ⟨_, ⟨.mutexLock nothing rfl, rfl⟩, fun _ _ => ⟨_, ⟨.quiet _ _ _ trivial, rfl⟩, ?_⟩⟩
    refine fun r _ => ⟨_, ⟨.quiet _ .condSignal r trivial, trivial⟩, fun _ _ => ?_⟩
    exact ⟨_, ⟨.mutexUnlock _ _ rfl, trivial⟩, rfl⟩
  · rw [if_pos herr]
    exact ⟨nothing, ⟨.noMutexLock nothing err rfl herr, rfl⟩, rfl⟩

lemma keeps_changeLevel (newArm : CEnum) : Keeps who (padstateChangeLevel newArm) nothing := by
  unfold padstateChangeLevel
  split_ifs with hrange
  · exact rfl
  refine Follows.op_bind fun err _ => ?_
  by_cases herr : err = 0
  · subst herr
    refine ⟨_, ⟨.wrlock nothing rfl, rfl⟩, fun level _ => ?_⟩
    refine ⟨_, ⟨.quiet _ .loadLevel level trivial, by simp [Allowed]⟩, ?_⟩
    change Follows _ (if _ then _ else _) _ _
    split_ifs with hmove
    · refine Follows.op_bind fun r _ => ⟨_, ⟨.quiet _ _ r trivial, rfl⟩, ?_⟩
      refine Follows.op_bind fun r _ => ⟨_, ⟨.rwUnlock _ r (by simp), trivial⟩, ?_⟩
      exact (closed_keeps who nothing).bind _ _ _ _ keeps_signalUpdate fun _ => rfl
    · exact Follows.op_bind fun r _ => ⟨_, ⟨.rwUnlock _ r (by simp), trivial⟩, rfl⟩
  · rw [if_pos herr]
    exact ⟨nothing, ⟨.noWrlock nothing err rfl herr, rfl⟩, rfl⟩

lemma keeps_setConnstatus (newStatus : ConnStatus) :
    Keeps who (padstateSetConnstatus newStatus) nothing := by
  refine Follows.op_bind fun err _ => ?_
  by_cases herr : err = 0
  · subst herr
    refine ⟨_, ⟨.wrlock nothing rfl, rfl⟩, ?_⟩
    refine Follows.op_bind fun r _ => ⟨_, ⟨.quiet _ (.storeConn newStatus) r trivial, rfl⟩, ?_⟩
    refine Follows.op_bind fun r _ => ⟨_, ⟨.rwUnlock _ r (by simp), trivial⟩, ?_⟩
    exact (closed_keeps who nothing).bind _ _ _ _ keeps_signalUpdate fun _ => rfl
  · rw [if_pos herr]
    exact ⟨nothing, ⟨.noWrlock nothing err rfl herr, rfl⟩, rfl⟩

lemma controls_keeps (who : Who) : Controls fun _ (p : PadM _) => Keeps who p nothing where
  toClosed := closed_keeps who nothing
  drive _ _ := keeps_op trivial rfl
  storeAct _ _ := keeps_op trivial trivial
  getLevel := keeps_getLevel rfl
  changeLevel := keeps_changeLevel
  setConnstatus := keeps_setConnstatus
  signalUpdate := keeps_signalUpdate

lemma reports_keeps (who : Who) {x : Held} (h : x.rw = .free) :
    Reports fun _ (p : PadM _) => Keeps who p x where
  toClosed := closed_keeps who x
  clock := keeps_op trivial trivial
  getLevel := keeps_getLevel h
  getConnstatus := keeps_getConnstatus h
  loadAct _ := keeps_op trivial trivial
  publish _ := keeps_op trivial h

end Operations

/-! ### The threads -/

lemma keeps_send : Follows (disciplined .telemetry) (telemetryUpdatePadstate .send)
    (RestAt .telemetry) ⟨true, .free⟩ := by
  refine Follows.op_bind fun recorded _ => ⟨_, ⟨.quiet _ .loadUpdate recorded trivial, rfl⟩, ?_⟩
  have hsend : Keeps .telemetry telemetrySendPadstate ⟨true, .free⟩ :=
    (reports_keeps .telemetry rfl).sendPadstate
  refine Follows.bind (Follows.mono hsend ?_)
  rintro _ _ rfl
  refine Follows.op_bind fun r _ => ⟨_, ⟨.quiet _ (.storeUpdate false) r trivial, rfl⟩, ?_⟩
  exact fun r _ => ⟨_, ⟨.mutexUnlock _ r rfl, trivial⟩, rfl⟩

lemma keeps_block {who : Who} {l : Label} {p : PadM Label} {x : Held} (hp : Blocks who l p)
    (hx : RestAt who l x) : Follows (disciplined who) p (RestAt who) x := by
  cases who with
  | controller =>
    obtain rfl : x = nothing := hx
    have hall := controls_keeps .controller
    rcases hp with ⟨id, reqState, rfl⟩ | ⟨newArm, rfl⟩ | ⟨newStatus, rfl⟩
    · exact hall.bind _ _ _ _ (hall.padActuate id reqState) fun _ => rfl
    · exact hall.bind _ _ _ _ (hall.changeLevel newArm) fun _ => rfl
    · exact hall.bind _ _ _ _ (hall.setConnstatus newStatus) fun _ => rfl
  | telemetry =>
    obtain rfl : p = telemetryUpdatePadstate l := hp
    cases l with
    | outer =>
      obtain rfl : x = nothing := hx
      refine Follows.op_bind fun time _ => ⟨_, ⟨.quiet _ .clock time trivial, trivial⟩, ?_⟩
      rintro _ rfl
      exact ⟨_, ⟨.mutexLock nothing rfl, rfl⟩, rfl⟩
    | check err =>
      obtain rfl : x = ⟨true, .free⟩ := hx
      unfold telemetryUpdatePadstate
      dsimp only
      split_ifs with herr
      · exact rfl
      · refine Follows.op_bind fun recorded _ =>
          ⟨_, ⟨.quiet _ .loadUpdate recorded trivial, rfl⟩, ?_⟩
        split_ifs with hrec
        · exact rfl
        · refine Follows.op_bind fun r _ => ⟨_, ⟨.condRelease _ r rfl, trivial⟩, fun err _ => ?_⟩
          exact ⟨_, ⟨.condReacquire _ err rfl, rfl⟩, rfl⟩
    | send =>
      obtain rfl : x = ⟨true, .free⟩ := hx
      exact keeps_send
    | idle => exact hx.elim

/-! ### Runs -/

/-- `rw_lock` is not held for reading while it is held for writing. -/
def Exclusive (s : Locks) : Prop := s.writer ≠ none → ∀ i, s.readers i = 0

lemma exclusive_step {who : Who} {o : PadOp} {r : o.Ans} {s s' : Locks} (h : Exclusive s)
    (hstep : LockStep who o s r s') : Exclusive s' := by
  cases hstep with
  | rdlock _ hw => exact fun hne => absurd hw hne
  | wrlock _ hw hr => exact fun _ => hr
  | rwUnlock _ _ =>
    unfold Locks.rwUnlock
    split_ifs with hw
    · exact fun hne => absurd rfl hne
    · intro hne i
      have hzero := h hne
      change Function.update s.readers who (s.readers who - 1) i = 0
      by_cases hi : i = who
      · subst hi
        simp [hzero]
      · rw [Function.update_of_ne hi]
        exact hzero i
  | noRdlock | noWrlock | mutexLock | noMutexLock | mutexUnlock | condRelease | condReacquire
    | quiet => exact h

lemma disciplined_of_allowed {s : Locks} {who : Who} {x : Held} (h : Own s who x) {o : PadOp}
    (ho : Allowed x o) : Disciplined s who o := by
  cases o with
  | loadLevel | loadConn =>
    obtain ⟨mutex, rw⟩ := x
    cases rw with
    | free => exact absurd rfl ho
    | reading => exact .inr (by simp [h.readers])
    | writing => exact .inl (h.writer.mpr rfl)
  | storeLevel | storeConn => exact h.writer.mpr ho
  | loadUpdate | storeUpdate => exact h.mutex.mpr ho
  | drive => exact h.holdsNothing ho
  | rdlock | wrlock | mutexLock | condReacquire | publish => exact h.free ho
  | rwUnlock | mutexUnlock | condSignal | condRelease | loadAct | storeAct | clock => trivial

/-- The locks as the threads know them, and the discipline kept so far. -/
structure Orderly (t : List (Moment Who PadOp Locks PadOp.Ans)) (s : Locks) (x : Who → Held) :
    Prop where
  agrees : Agrees s x
  exclusive : Exclusive s
  kept : ∀ m ∈ t, Disciplined m.found m.who m.op

lemma orderly_of_run {t : List (Moment Who PadOp Locks PadOp.Ans)} {c : System}
    (hrun : Run machine Blocks system t c) : Tracks disciplined RestAt Orderly t c := by
  have hstart : Tracks disciplined RestAt Orderly [] system := by
    refine ⟨fun _ => nothing, ⟨fun i => ⟨by simp [system, unlocked, nothing],
      by simp [system, unlocked, nothing], rfl⟩, fun hne => absurd rfl hne, by simp⟩, fun who => ?_⟩
    cases who with
    | controller => exact rfl
    | telemetry => exact rfl
  refine tracks_of_run (fun _ _ _ _ _ h => expects_step h) (fun _ _ _ _ hp hx => keeps_block hp hx)
    ?_ hstart hrun
  rintro t who o s r s' x y h hstep ⟨hy, hallowed⟩
  refine ⟨agrees_step h.agrees hstep hy, exclusive_step h.exclusive hstep, ?_⟩
  intro m hm
  rcases List.mem_append.mp hm with hm | hm
  · exact h.kept m hm
  · obtain rfl := List.mem_singleton.mp hm
    exact disciplined_of_allowed (h.agrees who) hallowed

lemma connecting : ∃ (t : List (Moment Who PadOp Locks PadOp.Ans)) (c : System),
    Run machine Blocks system t c ∧ t.length = 4 ∧
      (∃ k, c.prog .controller = .call (.storeConn .connConnected) k) ∧
      ∃ k, c.prog .telemetry = .call .condRelease k := by
  have htel : Blocks .telemetry .outer (telemetryUpdatePadstate .outer) := rfl
  have hcheck : Blocks .telemetry (.check 0) (telemetryUpdatePadstate (.check 0)) := rfl
  have hctl : Blocks .controller .idle
      (padstateSetConnstatus .connConnected >>= fun _ => pure .idle) := .inr (.inr ⟨_, rfl⟩)
  have h0 : Run machine Blocks system [] system := .refl
  have h1 := h0.start rfl htel
  have h2 := h1.call (i := .telemetry) rfl (LockStep.quiet .clock unlocked 0 trivial)
  have h3 := h2.call (i := .telemetry) rfl (LockStep.mutexLock unlocked rfl)
  have h4 := h3.start rfl hcheck
  have h5 := h4.call (i := .telemetry) rfl (LockStep.quiet .loadUpdate _ false trivial)
  have h6 := h5.start rfl hctl
  have h7 := h6.call (i := .controller) rfl (LockStep.wrlock _ rfl fun _ => rfl)
  exact ⟨_, _, h7, rfl, ⟨_, rfl⟩, _, rfl⟩

/-- **The lock discipline.** Whatever calls fail, a plain variable is touched with its lock held,
drivers are called with no lock held, and no thread waits for anything while it has `rw_lock`. -/
theorem disciplined_of_run {t : List (Moment Who PadOp Locks PadOp.Ans)} {c : System}
    (hrun : Run machine Blocks system t c) : ∀ m ∈ t, Disciplined m.found m.who m.op := by
  obtain ⟨x, horderly, -⟩ := orderly_of_run hrun
  exact horderly.kept

theorem disciplined_connecting : ∃ (t : List (Moment Who PadOp Locks PadOp.Ans)) (c : System),
    Run machine Blocks system t c ∧ t.length = 4 ∧ ∀ m ∈ t, Disciplined m.found m.who m.op := by
  obtain ⟨t, c, hrun, hlen, -⟩ := connecting
  exact ⟨t, c, hrun, hlen, disciplined_of_run hrun⟩

lemma expects_access {o : PadOp} (h : access o ≠ none) (who : Who) : ∃ r, Expects who o r := by
  cases o with
  | loadLevel => exact ⟨ArmLvl.armedPad, by cases who <;> trivial⟩
  | loadConn => exact ⟨ConnStatus.connConnected, by cases who <;> trivial⟩
  | loadUpdate => exact ⟨false, by cases who <;> trivial⟩
  | storeLevel | storeConn | storeUpdate => exact ⟨(), by cases who <;> trivial⟩
  | _ => exact absurd rfl h

lemma disciplined_next {s : Locks} {who : Who} {x : Held} {o : PadOp} {k : o.Ans → PadM Label}
    (hown : Own s who x) (h : Follows (disciplined who) (.call o k) (RestAt who) x)
    (ho : access o ≠ none) : Disciplined s who o := by
  obtain ⟨r, hr⟩ := expects_access ho who
  obtain ⟨y, ⟨-, hallowed⟩, -⟩ := h r hr
  exact disciplined_of_allowed hown hallowed

lemma eq_of_conflict {s : Locks} (h : Exclusive s) {i j : Who} {o o' : PadOp}
    (hi : Disciplined s i o) (hj : Disciplined s j o') (hconflict : Conflict o o') : i = j := by
  have hwriter : ∀ {i j : Who}, s.writer = some i → s.writer = some j ∨ s.readers j ≠ 0 →
      i = j := by
    intro i j hi hj
    rcases hj with hj | hj
    · exact Option.some.inj (hi.symm.trans hj)
    · exact absurd (h (by simp [hi]) j) hj
  have hmutex : s.mutex = some i → s.mutex = some j → i = j := fun hi hj =>
    Option.some.inj (hi.symm.trans hj)
  obtain ⟨v, a, a', ho, ho', hwrite⟩ := hconflict
  cases o with
  | loadLevel | loadConn =>
    cases o' with
    | storeLevel | storeConn => exact (hwriter hj hi).symm
    | loadLevel | loadConn =>
      obtain ⟨-, rfl⟩ := Prod.mk.inj (Option.some.inj ho)
      obtain ⟨-, rfl⟩ := Prod.mk.inj (Option.some.inj ho')
      simp at hwrite
    | loadUpdate | storeUpdate => cases ho; cases ho'
    | _ => cases ho'
  | storeLevel | storeConn =>
    cases o' with
    | loadLevel | loadConn => exact hwriter hi hj
    | storeLevel | storeConn => exact hwriter hi (.inl hj)
    | loadUpdate | storeUpdate => cases ho; cases ho'
    | _ => cases ho'
  | loadUpdate | storeUpdate =>
    cases o' with
    | loadUpdate | storeUpdate => exact hmutex hi hj
    | loadLevel | loadConn | storeLevel | storeConn => cases ho; cases ho'
    | _ => cases ho'
  | _ => cases ho

/-- **There is no data race.** In no interleaving, whatever calls fail, are the two threads about
to touch the same plain variable unless both read it. -/
theorem race_free {t : List (Moment Who PadOp Locks PadOp.Ans)} {c : System}
    (hrun : Run machine Blocks system t c) : ¬ Race c := by
  rintro ⟨i, j, o, o', k, k', hne, hi, hj, hconflict⟩
  obtain ⟨x, horderly, hfollows⟩ := orderly_of_run hrun
  have hfi := hfollows i
  have hfj := hfollows j
  rw [hi] at hfi
  rw [hj] at hfj
  obtain ⟨v, a, a', ho, ho', -⟩ := id hconflict
  have hdi := disciplined_next (horderly.agrees i) hfi (by simp [ho])
  have hdj := disciplined_next (horderly.agrees j) hfj (by simp [ho'])
  exact hne (eq_of_conflict horderly.exclusive hdi hdj hconflict)

theorem race_free_connecting : ∃ (t : List (Moment Who PadOp Locks PadOp.Ans)) (c : System),
    Run machine Blocks system t c ∧
      (∃ k, c.prog .controller = .call (.storeConn .connConnected) k) ∧ ¬ Race c := by
  obtain ⟨t, c, hrun, -, hctl, -⟩ := connecting
  exact ⟨t, c, hrun, hctl, race_free hrun⟩

end Hysim.Discipline
