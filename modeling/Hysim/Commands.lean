import Hysim.Ladder
import Hysim.Lib.Serial
import Hysim.Pieces
import Hysim.Snapshot

/-!
The controller beside the telemetry thread does what it does alone.

In every interleaving its operations are those of requests and connection events carried out one
after the other, each undisturbed. Only whether an update is recorded may differ, and that the
controller never looks at. So what holds of the controller alone holds beside the telemetry thread.
-/

namespace Hysim.Commands

open Hysim.Lib.Program Hysim.Lib.Threads Hysim.Lib.Runs Hysim.Lib.Serial Hysim.Lib.Climb
open Hysim.Packets Hysim.Actuators Hysim.State Hysim.Arming Hysim.Serve Hysim.Ladder
open Hysim.Telemetry Hysim.Publish Hysim.Paths Hysim.Pieces
open Hysim.Snapshot (Trace run_afterBlock)

/-! ### Commands -/

/-- What the controller carries out: a request, with the result of the driver it may call, or a
change of the connection. -/
inductive Command
  | request (req : Request) (drv : Int)
  | connection (status : ConnStatus)

/-- The pad state a command leaves, carried out alone. -/
def obey (pad : PadState) : Command → PadState
  | .request req drv => (serve ⟨[], drv⟩ pad req).2
  | .connection status => (run solo (padstateSetConnstatus status) ⟨pad, [], 0⟩).2.pad

def obeyAll (pad : PadState) (cmds : List Command) : PadState := cmds.foldl obey pad

/-- The operations of a command, in order, each with what it found. -/
def steps (pad : PadState) : Command → List (Solo × PadOp)
  | .request req drv => moments solo (handle req) ⟨pad, [], drv⟩
  | .connection status => moments solo (padstateSetConnstatus status) ⟨pad, [], 0⟩

def allSteps (pad : PadState) : List Command → List (Solo × PadOp)
  | [] => []
  | cmd :: cmds => steps pad cmd ++ allSteps (obey pad cmd) cmds

lemma obeyAll_concat (pad : PadState) (cmds : List Command) (cmd : Command) :
    obeyAll pad (cmds ++ [cmd]) = obey (obeyAll pad cmds) cmd := by
  simp [obeyAll]

lemma allSteps_concat (pad : PadState) (cmds : List Command) (cmd : Command) :
    allSteps pad (cmds ++ [cmd]) = allSteps pad cmds ++ steps (obeyAll pad cmds) cmd := by
  induction cmds generalizing pad with
  | nil => simp [allSteps, obeyAll]
  | cons first cmds ih =>
    rw [List.cons_append, allSteps, ih, allSteps, List.append_assoc]
    rfl

/-! ### Programs whose answers the pad state decides -/

/-- The pad state apart from whether an update is recorded. -/
def apart (pad : PadState) : PadState := { pad with updateRecorded := false }

/-- Calls succeed, and loads answer what is stored. -/
def CtlSem (o : PadOp) (pad : PadState) (r : o.Ans) (pad' : PadState) : Prop :=
  Expects o r ∧ Reads o r pad ∧ pad' = apart (o.effect pad)

/-- An operation whose answer the pad state determines: it calls no driver, reads no clock and does
not depend on what another thread does. -/
def Determined : PadOp → Prop
  | .drive _ _ | .clock | .condSignal | .condReacquire | .loadUpdate => False
  | _ => True

/-- Whatever is answered, at most one driver is called, none if not `b`, and the result of
`pthread_cond_signal` is not looked at. -/
inductive Tame {α : Type} : Bool → PadM α → Prop
  | ret (b : Bool) (a : α) : Tame b (.ret a)
  | op (b : Bool) (o : PadOp) (k : o.Ans → PadM α) (ho : Determined o) (h : ∀ r, Tame b (k r)) :
      Tame b (.call o k)
  | drive (act : ActIdx) (on : Bool) (k : Int → PadM α) (h : ∀ r, Tame false (k r)) :
      Tame true (.call (.drive act on) k)
  | signal (b : Bool) (p : PadM α) (h : Tame b p) : Tame b (.call .condSignal fun _ => p)

section Tame

variable {α β : Type} {b : Bool}

lemma Tame.mono {p : PadM α} (h : Tame false p) : Tame b p := by
  induction p with
  | ret a => exact .ret b a
  | call o k ih =>
    cases h with
    | op _ _ _ ho hk => exact .op b o k ho fun r => ih r (hk r)
    | signal _ p hp => exact .signal b p (ih 0 hp)

lemma Tame.after {p : PadM α} {f : α → PadM β} (hp : Performs Determined p)
    (hf : ∀ a, Tame b (f a)) : Tame b (p >>= f) := by
  induction p with
  | ret a => exact hf a
  | call o k ih => exact .op b o _ hp.1 fun r => ih r (hp.2 r)

lemma Tame.bind {p : PadM α} {f : α → PadM β} (hp : Tame b p) (hf : ∀ a, Tame false (f a)) :
    Tame b (p >>= f) := by
  induction hp with
  | ret b a => exact (hf a).mono
  | op b o k ho _ ih => exact .op b o _ ho fun r => ih r
  | drive act on k _ ih => exact .drive act on _ fun r => ih r
  | signal b p _ ih => exact .signal b _ ih

end Tame

section Operations

variable {α : Type} {b : Bool}

lemma determined_getLevel : Performs Determined padstateGetLevel := by
  refine Performs.bind (.op trivial) fun err => ?_
  split_ifs with herr
  · trivial
  · exact Performs.bind (.op trivial) fun _ => Performs.bind (.op trivial) fun _ => trivial

lemma tame_signalUpdate {p : PadM α} (hp : Tame b p) :
    Tame b (padstateSignalUpdate >>= fun _ => p) := by
  have hsignal : Tame b (condSignal >>= fun _ => mutexUnlock >>= fun _ => p) :=
    .signal b _ (.op b .mutexUnlock _ trivial fun _ => hp)
  refine .op b .mutexLock _ trivial fun err => ?_
  change Tame b ((if err ≠ 0 then pure err else storeUpdate true >>= fun _ => condSignal >>=
    fun err => mutexUnlock >>= fun _ => pure err) >>= fun _ => p)
  split_ifs with herr
  · exact hp
  · exact .op b (.storeUpdate true) _ trivial fun _ => hsignal

lemma tame_changeLevel (newArm : CEnum) : Tame false (padstateChangeLevel newArm) := by
  unfold padstateChangeLevel
  split_ifs with hrange
  · exact .ret _ _
  refine .op _ .wrlock _ trivial fun err => ?_
  change Tame false (if _ then _ else _)
  split_ifs with herr
  · exact .ret _ _
  refine .op _ .loadLevel _ trivial fun level => ?_
  change Tame false (if _ then _ else _)
  split_ifs with hmove
  · refine .op _ (.storeLevel _) _ trivial fun _ => .op _ .rwUnlock _ trivial fun _ => ?_
    exact tame_signalUpdate (.ret _ _)
  · exact .op _ .rwUnlock _ trivial fun _ => .ret _ _

lemma tame_setConnstatus (status : ConnStatus) : Tame false (padstateSetConnstatus status) := by
  refine .op _ .wrlock _ trivial fun err => ?_
  change Tame false (if _ then _ else _)
  split_ifs with herr
  · exact .ret _ _
  · refine .op _ (.storeConn status) _ trivial fun _ => .op _ .rwUnlock _ trivial fun _ => ?_
    exact tame_signalUpdate (.ret _ _)

lemma tame_advanceLevel (reqState : UInt8) (forward : ArmLvl) :
    Tame false (advanceLevel reqState forward) := by
  unfold advanceLevel
  split_ifs with hs
  · refine .after determined_getLevel fun level => ?_
    split_ifs with hlt
    · exact (tame_changeLevel _).bind fun _ => .ret _ _
    · exact .ret _ _
  · exact .ret _ _

lemma tame_retreatLevel (reqState : UInt8) (back : ArmLvl) :
    Tame false (retreatLevel reqState back) := by
  unfold retreatLevel
  split_ifs with hs
  · exact (tame_changeLevel _).bind fun _ => .ret _ _
  · exact .ret _ _

lemma tame_followLevel (id reqState : UInt8) : Tame false (followLevel id reqState) := by
  unfold followLevel
  split_ifs with hq hi
  · exact (tame_advanceLevel _ _).bind fun _ => tame_retreatLevel _ _
  · exact (tame_advanceLevel _ _).bind fun _ => tame_retreatLevel _ _
  · exact .ret _ _

lemma tame_actuatorSet (act : ActIdx) (newState : Bool) : Tame true (actuatorSet act newState) := by
  have hboth : Tame true (drive act newState >>= fun err =>
      if err = -1 then pure err else storeAct act newState >>= fun _ => pure 0) := by
    refine .drive act newState _ fun err => ?_
    change Tame false (if _ then _ else _)
    split_ifs with herr
    · exact .ret _ _
    · exact .op _ (.storeAct act newState) _ trivial fun _ => .ret _ _
  cases newState
  · exact hboth
  · exact hboth

lemma tame_actuateActuator (act : ActIdx) (id reqState : UInt8) :
    Tame true (actuateActuator act id reqState) := by
  refine (tame_actuatorSet act _).bind fun err => ?_
  split_ifs with herr
  · exact .ret _ _
  · exact (tame_followLevel id reqState).bind fun _ => tame_signalUpdate (.ret _ _)

lemma tame_padActuate (id reqState : UInt8) : Tame true (padActuate id reqState) := by
  unfold padActuate
  split_ifs with hid hd hst
  · exact tame_actuateActuator _ _ _
  · exact .ret _ _
  · refine .after determined_getLevel fun level => ?_
    split_ifs with hdeny
    · exact .ret _ _
    · exact tame_actuateActuator _ _ _
  · exact .ret _ _

lemma tame_handle (req : Request) : Tame true (handle req) := by
  cases req with
  | act req =>
    refine (tame_padActuate _ _).bind fun err => ?_
    split_ifs with herr
    · exact .ret _ _
    · exact .ret _ _
  | arm req => exact ((tame_changeLevel _).bind fun err => .ret _ _).mono

end Operations

/-! ### From what happened to the commands -/

def seen (m : Solo × PadOp) : PadOp × PadState := (m.2, apart m.1.pad)

def done (m : Moment Unit PadOp PadState PadOp.Ans) : PadOp × PadState := (m.op, m.found)

@[simp] lemma apart_apart (pad : PadState) : apart (apart pad) = apart pad := rfl

lemma apart_effect (o : PadOp) (pad : PadState) :
    apart (o.effect (apart pad)) = apart (o.effect pad) := by
  cases o <;> rfl

lemma ans_of_sem {o : PadOp} {pad pad' : PadState} {r : o.Ans} (h : CtlSem o (apart pad) r pad')
    (ho : Determined o) (drv : Int) : Solo.ans o ⟨pad, [], drv⟩ = r := by
  obtain ⟨hr, hreads, -⟩ := h
  cases o <;> first | exact ho.elim | exact hr.symm | exact hreads | rfl

lemma eff_solo (o : PadOp) (pad : PadState) (drv : Int) :
    Solo.eff o ⟨pad, [], drv⟩ = ⟨o.effect pad, [], drv⟩ := by
  cases o <;> rfl

structure Replays {α : Type} (p : PadM α) (pad : PadState) (drv : Int)
    (t : List (Moment Unit PadOp PadState PadOp.Ans)) (a : α) (left : PadState) : Prop where
  result : (run solo p ⟨pad, [], drv⟩).1 = a
  leaves : apart (run solo p ⟨pad, [], drv⟩).2.pad = left
  performs : (moments solo p ⟨pad, [], drv⟩).map seen = t.map done

lemma Replays.call {α : Type} {o : PadOp} {k : o.Ans → PadM α} {pad left : PadState} {drv : Int}
    {t : List (Moment Unit PadOp PadState PadOp.Ans)} {a : α} {r : o.Ans}
    (h : Replays (k r) (o.effect pad) drv t a left)
    (hk : k (Solo.ans o ⟨pad, [], drv⟩) = k r) :
    Replays (.call o k) pad drv (⟨(), o, r, apart pad⟩ :: t) a left := by
  obtain ⟨hresult, hpad, hsteps⟩ := h
  have hrun : run solo (.call o k) ⟨pad, [], drv⟩ = run solo (k r) ⟨o.effect pad, [], drv⟩ := by
    rw [run_call, solo_ans, solo_eff, hk, eff_solo]
  have hmoments : moments solo (.call o k) ⟨pad, [], drv⟩ =
      (⟨pad, [], drv⟩, o) :: moments solo (k r) ⟨o.effect pad, [], drv⟩ := by
    rw [moments, solo_ans, solo_eff, hk, eff_solo]
  refine ⟨hrun ▸ hresult, hrun ▸ hpad, ?_⟩
  rw [hmoments, List.map_cons, List.map_cons, hsteps]
  rfl

/-- **A tame program replays**: what it did beside the telemetry thread it does alone, with some
result of the driver. -/
lemma exists_replays {α : Type} {b : Bool} {p : PadM α} (htame : Tame b p) {pad left : PadState}
    {t : List (Moment Unit PadOp PadState PadOp.Ans)} {a : α}
    (h : Goes CtlSem p (apart pad) t (.ret a) left) :
    ∃ drv, ∀ drv', (b = true → drv' = drv) → Replays p pad drv' t a left := by
  induction htame generalizing pad t with
  | ret b a' =>
    rcases h.cases_head with ⟨rfl, hret, rfl⟩ | ⟨o, k, r, s, t', hcall, -⟩
    · obtain rfl := Prog.ret.inj hret
      exact ⟨0, fun _ _ => ⟨rfl, rfl, rfl⟩⟩
    · cases hcall
  | op b o k ho _ ih =>
    rcases h.cases_head with ⟨-, hret, -⟩ | ⟨o', k', r, s, t', hcall, hsem, rfl, hrest⟩
    · cases hret
    · cases hcall
      obtain rfl : s = apart (o.effect pad) := hsem.2.2.trans (apart_effect o pad)
      obtain ⟨drv, hdrv⟩ := ih r hrest
      exact ⟨drv, fun drv' hb => (hdrv drv' hb).call (by rw [ans_of_sem hsem ho])⟩
  | drive act on k _ ih =>
    rcases h.cases_head with ⟨-, hret, -⟩ | ⟨o', k', r, s, t', hcall, hsem, rfl, hrest⟩
    · cases hret
    · cases hcall
      obtain rfl : s = apart pad := hsem.2.2
      obtain ⟨drv, hdrv⟩ := ih r hrest
      refine ⟨r, fun drv' hb => ?_⟩
      obtain rfl := hb rfl
      exact Replays.call (o := .drive act on) (hdrv _ (by simp)) rfl
  | signal b p _ ih =>
    rcases h.cases_head with ⟨-, hret, -⟩ | ⟨o', k', r, s, t', hcall, hsem, rfl, hrest⟩
    · cases hret
    · cases hcall
      obtain rfl : s = apart pad := hsem.2.2
      obtain ⟨drv, hdrv⟩ := ih hrest
      exact ⟨drv, fun drv' hb => Replays.call (o := .condSignal) (hdrv drv' hb) rfl⟩

lemma exists_command {p : PadM Label} {l l' : Label} (hp : Blocks .controller l p)
    {pad left : PadState} {t : List (Moment Unit PadOp PadState PadOp.Ans)}
    (h : Goes CtlSem p (apart pad) t (.ret l') left) :
    ∃ cmd, apart (obey pad cmd) = left ∧ (steps pad cmd).map seen = t.map done := by
  rcases hp with ⟨req, rfl⟩ | ⟨status, rfl⟩
  · obtain ⟨drv, hdrv⟩ := exists_replays ((tame_handle req).bind fun _ => .ret _ _) h
    obtain ⟨-, hpad, hsteps⟩ := hdrv drv fun _ => rfl
    refine ⟨.request req drv, ?_, ?_⟩
    · simpa [obey, serve] using hpad
    · simpa [steps] using hsteps
  · obtain ⟨drv, hdrv⟩ := exists_replays ((tame_setConnstatus status).bind fun _ => .ret _ l) h
    obtain ⟨-, hpad, hsteps⟩ := hdrv 0 (by simp)
    refine ⟨.connection status, ?_, ?_⟩
    · simpa [obey] using hpad
    · simpa [steps] using hsteps

lemma exists_commands {l l' : Label} {pad left : PadState}
    {t : List (Moment Unit PadOp PadState PadOp.Ans)}
    (h : InTurn CtlSem (Blocks .controller) l (apart pad) t l' left) :
    ∃ cmds, apart (obeyAll pad cmds) = left ∧ (allSteps pad cmds).map seen = t.map done := by
  induction h with
  | nil => exact ⟨[], rfl, rfl⟩
  | block _ hp hgoes ih =>
    obtain ⟨cmds, rfl, hsteps⟩ := ih
    obtain ⟨cmd, hpad, hlast⟩ := exists_command hp hgoes
    refine ⟨cmds ++ [cmd], by rw [obeyAll_concat, hpad], ?_⟩
    rw [allSteps_concat, List.map_append, List.map_append, hsteps, hlast]

/-! ### From the interleaving to what happened -/

/-- All the operation may change is whether an update is recorded. -/
def Spares : PadOp → Prop
  | .storeLevel _ | .storeConn _ | .storeAct _ _ | .drive _ _ => False
  | _ => True

lemma Spares.apart_effect {o : PadOp} (h : Spares o) (pad : PadState) :
    apart (o.effect pad) = apart pad := by
  cases o <;> first | exact h.elim | rfl

lemma spares_getLevel : Performs Spares padstateGetLevel := by
  refine Performs.bind (.op trivial) fun err => ?_
  split_ifs with herr
  · trivial
  · exact Performs.bind (.op trivial) fun _ => Performs.bind (.op trivial) fun _ => trivial

lemma spares_getConnstatus : Performs Spares padstateGetConnstatus := by
  refine Performs.bind (.op trivial) fun err => ?_
  split_ifs with herr
  · trivial
  · exact Performs.bind (.op trivial) fun _ => Performs.bind (.op trivial) fun _ => trivial

lemma reports_spares : Reports fun _ (p : PadM _) => Performs Spares p where
  pure _ _ := trivial
  bind _ _ _ _ hp hf := Performs.bind hp hf
  clock := .op trivial
  getLevel := spares_getLevel
  getConnstatus := spares_getConnstatus
  loadAct _ := .op trivial
  publish _ := .op trivial

lemma spares_updatePadstate (l : Label) : Performs Spares (telemetryUpdatePadstate l) := by
  cases l with
  | outer =>
    refine Performs.bind (.op trivial) fun _ => ?_
    exact Performs.bind (.op trivial) fun _ => trivial
  | check err =>
    unfold telemetryUpdatePadstate
    dsimp only
    split_ifs with herr
    · trivial
    · refine Performs.bind (.op trivial) fun recorded => ?_
      split_ifs with hrec
      · trivial
      · refine Performs.bind (.op trivial) fun _ => ?_
        exact Performs.bind (.op trivial) fun _ => trivial
  | send =>
    refine Performs.bind (.op trivial) fun _ => ?_
    refine Performs.bind reports_spares.sendPadstate fun _ => ?_
    refine Performs.bind (.op trivial) fun _ => ?_
    exact Performs.bind (.op trivial) fun _ => trivial
  | idle => trivial

/-- What the threads may do to the pad state. -/
def Touches : Who → PadOp → Prop
  | .controller, _ => True
  | .telemetry, o => Spares o

lemma touches_block {who : Who} {l : Label} {p : PadM Label} (hp : Blocks who l p) :
    Performs (Touches who) p := by
  cases who with
  | controller => exact performs_true p
  | telemetry =>
    obtain rfl : p = telemetryUpdatePadstate l := hp
    exact spares_updatePadstate l

lemma touches_system (state : PadState) (who : Who) :
    Performs (Touches who) ((system state).prog who) := by
  cases who <;> trivial

@[simp] lemma eff_pad (s : Shared) (who : Who) (o : PadOp) :
    (s.eff who o).pad = o.effect s.pad := by
  cases o <;> rfl

lemma sem_of_memory {o : PadOp} {r : o.Ans} {s s' : Shared}
    (h : ofMemory memory .controller o s r s') : CtlSem o (apart s.pad) r (apart s'.pad) := by
  obtain ⟨-, hans, rfl⟩ := h
  refine ⟨?_, ?_, ?_⟩
  · cases o <;> first | exact hans | trivial
  · cases o <;> first | exact (hans : _ = _).symm | trivial
  · rw [apart_effect]
    exact congrArg apart (eff_pad s .controller o)

lemma spared_of_memory {who : Who} {o : PadOp} {r : o.Ans} {s s' : Shared}
    (hwho : who ≠ .controller) (ho : Touches who o) (h : ofMemory memory who o s r s') :
    apart s'.pad = apart s.pad := by
  obtain ⟨-, -, rfl⟩ := h
  cases who with
  | controller => exact absurd rfl hwho
  | telemetry =>
    exact (congrArg apart (eff_pad s .telemetry o)).trans (Spares.apart_effect ho s.pad)

lemma exists_sem (o : PadOp) (pad : PadState) : ∃ r pad', CtlSem o pad r pad' := by
  cases o <;> first
    | exact ⟨(0 : Int), _, rfl, trivial, rfl⟩
    | exact ⟨(0 : Int), _, trivial, trivial, rfl⟩
    | exact ⟨(), _, trivial, trivial, rfl⟩
    | exact ⟨false, _, trivial, trivial, rfl⟩
    | exact ⟨(0 : UInt32), _, trivial, trivial, rfl⟩
    | exact ⟨_, _, trivial, rfl, rfl⟩

/-- The operations of the controller in a run, in order, each with the pad state it found. -/
def operations (t : Trace) : List (PadOp × PadState) :=
  (own .controller (fun s => apart s.pad) t).map done

lemma under_of_memory {state : PadState} {t : Trace} {c : System}
    (hrun : Run (ofMemory memory) Blocks (system state) t c) :
    Under CtlSem (Blocks .controller) .idle (apart (padstateInit state))
      (own .controller (fun s => apart s.pad) t) (c.prog .controller) (apart c.shared.pad) :=
  under_of_run (Q := Touches) (f := fun s : Shared => apart s.pad)
    (fun _ _ _ _ _ h => sem_of_memory h) (fun _ _ _ _ _ hwho ho h => spared_of_memory hwho ho h)
    (fun _ _ _ hp => touches_block hp) (touches_system state) rfl hrun

lemma exists_commands_of_run {state : PadState} {t : Trace} {c : System}
    (hrun : Run (ofMemory memory) Blocks (system state) t c) :
    ∃ cmds, operations t <+: (allSteps (padstateInit state) cmds).map seen := by
  obtain ⟨u, l, left, hserial, -⟩ := (under_of_memory hrun).exists_serial exists_sem
  obtain ⟨cmds, -, hsteps⟩ := exists_commands hserial
  refine ⟨cmds, ?_⟩
  rw [hsteps, List.map_append]
  exact List.prefix_append _ _

/-- **The controller is undisturbed.** In every interleaving in which the lock calls succeed its
operations, and what they find of the pad, are those of commands carried out one after the other and
alone, the last one perhaps not to its end. Between two operations the pad is as these commands
leave it, but for `update_recorded`, which the telemetry thread clears. -/
theorem serial_of_run {state : PadState} {t : Trace} {c : System}
    (hrun : Run (ofMemory memory) Blocks (system state) t c) :
    ∃ cmds, operations t <+: (allSteps (padstateInit state) cmds).map seen ∧
      (Idle c → operations t = (allSteps (padstateInit state) cmds).map seen ∧
        apart c.shared.pad = apart (obeyAll (padstateInit state) cmds)) := by
  by_cases hidle : Idle c
  · have hunder := under_of_memory hrun
    obtain ⟨l, hl⟩ := hidle
    rw [hl] at hunder
    obtain ⟨cmds, hpad, hsteps⟩ := exists_commands hunder.serial
    exact ⟨cmds, hsteps ▸ List.prefix_refl _, fun _ => ⟨hsteps.symm, hpad.symm⟩⟩
  · obtain ⟨cmds, hpre⟩ := exists_commands_of_run hrun
    exact ⟨cmds, hpre, fun h => absurd h hidle⟩

def armed : System :=
  afterBlock .controller (handle (.arm ⟨1⟩) >>= fun _ => pure .idle) (system zeroed)

def shown : System :=
  afterBlock .telemetry (telemetryUpdatePadstate .send)
    (afterBlock .telemetry (telemetryUpdatePadstate (.check 0))
      (afterBlock .telemetry (telemetryUpdatePadstate .outer) armed))

def open1 : PadM Label := handle (.act ⟨idXv1, 1⟩) >>= fun _ => pure .idle

def opening : Trace := alongDevice (alone .controller) .controller open1 shown.shared

lemma run_opened : ∃ t, Run (ofMemory memory) Blocks (system zeroed) (t ++ opening)
    (afterBlock .controller open1 shown) := by
  have h0 : Run (ofMemory memory) Blocks (system zeroed) [] (system zeroed) := .refl
  have h1 := run_afterBlock .controller .idle (handle (.arm ⟨1⟩) >>= fun _ => pure .idle) h0
    (.inl ⟨_, rfl⟩) rfl (by decide)
  have h2 := run_afterBlock .telemetry .outer _ h1 rfl rfl (by decide)
  have h3 := run_afterBlock .telemetry (.check 0) _ h2 rfl rfl (by decide)
  have h4 := run_afterBlock .telemetry .send _ h3 rfl rfl (by decide)
  exact ⟨_, run_afterBlock .controller .idle open1 h4 (.inl ⟨_, rfl⟩) rfl (by decide)⟩

theorem serial_of_run_opened : ∃ t cmds,
    Run (ofMemory memory) Blocks (system zeroed) t (afterBlock .controller open1 shown) ∧
      operations t <+: (allSteps (padstateInit zeroed) cmds).map seen ∧
      (Idle (afterBlock .controller open1 shown) →
        operations t = (allSteps (padstateInit zeroed) cmds).map seen ∧
        apart (afterBlock .controller open1 shown).shared.pad =
          apart (obeyAll (padstateInit zeroed) cmds)) := by
  obtain ⟨t, hrun⟩ := run_opened
  obtain ⟨cmds, hserial⟩ := serial_of_run hrun
  exact ⟨_, cmds, hrun, hserial⟩

/-! ### Safe actuation beside the telemetry thread -/

lemma steps_guarded (pad : PadState) (cmd : Command) : ∀ m ∈ steps pad cmd, Guarded m.1 m.2 := by
  cases cmd with
  | request req drv => exact handle_guarded pad drv req
  | connection status =>
    have hall : Along solo Guarded (padstateSetConnstatus status) ⟨pad, [], 0⟩ := by
      simp [padstateSetConnstatus, Guarded, signalUpdate_guarded]
    exact hall

lemma allSteps_guarded (pad : PadState) (cmds : List Command) :
    ∀ m ∈ allSteps pad cmds, Guarded m.1 m.2 := by
  induction cmds generalizing pad with
  | nil => simp [allSteps]
  | cons cmd cmds ih =>
    intro m hm
    rcases List.mem_append.mp hm with hm | hm
    · exact steps_guarded pad cmd m hm
    · exact ih _ m hm

lemma guarded_congr {s s' : Solo} {o : PadOp} (h : Guarded s o)
    (hlevel : s.pad.armLevel = s'.pad.armLevel) : Guarded s' o := by
  cases o with
  | storeLevel level =>
    change Moves s'.pad.armLevel level
    exact hlevel ▸ h
  | drive act on =>
    change required _ ≤ s'.pad.armLevel
    exact hlevel ▸ h
  | _ => trivial

variable {state : PadState} {t : Trace} {c : System}

lemma guarded_of_run (hrun : Run (ofMemory memory) Blocks (system state) t c) :
    ∀ m ∈ t, Touches m.who m.op ∧ (m.who = .controller → Guarded ⟨m.found.pad, [], 0⟩ m.op) := by
  intro m hm
  refine ⟨performed_of_run (fun _ _ _ hp => touches_block hp) (touches_system state) hrun m hm, ?_⟩
  intro hwho
  obtain ⟨cmds, hpre⟩ := exists_commands_of_run hrun
  have hmem : (m.op, apart m.found.pad) ∈ operations t := by
    simp only [operations, own, List.map_map, List.mem_map, List.mem_filter]
    exact ⟨m, ⟨hm, by simp [hwho]⟩, rfl⟩
  obtain ⟨⟨s, o⟩, hs, hsame⟩ := List.mem_map.mp (hpre.subset hmem)
  obtain ⟨rfl, hpad⟩ := Prod.mk.inj hsame
  have hlevel := congrArg PadState.armLevel hpad
  exact guarded_congr (allSteps_guarded _ cmds _ hs) hlevel

def height (s : Shared) : ℕ := s.pad.armLevel.toNat

/-- The level rises by one step at a time, whatever the telemetry thread does in between. -/
lemma gentle_of_run (hrun : Run (ofMemory memory) Blocks (system state) t c) :
    Gentle ((t.map Moment.found ++ [c.shared]).map height) := by
  refine (List.isChain_map height).mpr (isChain_of_run ?_ (hrun.restrict (guarded_of_run hrun)))
  rintro who o s r s' ⟨⟨-, -, rfl⟩, htouches, hguarded⟩
  change (s.eff who o).pad.armLevel.toNat ≤ s.pad.armLevel.toNat + 1
  rw [eff_pad]
  cases who with
  | controller =>
    have hgentle := Guarded.gentle (hguarded rfl)
    rwa [eff_solo] at hgentle
  | telemetry =>
    have hsame := congrArg PadState.armLevel (Spares.apart_effect htouches s.pad)
    have hlevel : (o.effect s.pad).armLevel = s.pad.armLevel := hsame
    rw [hlevel]
    exact Nat.le_succ _

/-- **Safe actuation, beside the telemetry thread.** In every interleaving in which the lock calls
succeed a driver is called only at the level its actuator needs, and by then every level up to the
current one has been passed, in order, since the pad was last at its lowest. -/
theorem driven_of_run {past post : Trace} {m : Moment Who PadOp Shared PadOp.Ans}
    (hrun : Run (ofMemory memory) Blocks (system state) (past ++ m :: post) c) {act : ActIdx}
    {on : Bool} (hm : m.op = .drive act on) :
    required (UInt8.ofNat act) ≤ m.found.pad.armLevel ∧
      Climbed ((past ++ [m]).map fun n => height n.found) := by
  obtain ⟨htouches, hguarded⟩ := guarded_of_run hrun m (by simp)
  constructor
  · rw [hm] at htouches hguarded
    rcases hwho : m.who with _ | _
    · exact hguarded hwho
    · rw [hwho] at htouches
      exact htouches.elim
  · have hsplit : ((past ++ m :: post).map Moment.found ++ [c.shared]).map height =
        (past ++ [m]).map (fun n => height n.found) ++
          (post.map Moment.found ++ [c.shared]).map height := by
      simp
    have hgentle := gentle_of_run hrun
    have hhead := congrArg (Option.map height) (head_of_run hrun)
    rw [← List.head?_map, hsplit] at hhead
    rw [hsplit] at hgentle
    refine climbed_of_gentle hgentle.of_append fun h hh => ?_
    rw [List.head?_append, hh] at hhead
    simpa [height, system, padstateInit, ArmLvl.toNat] using hhead

theorem driven_of_run_opened : ∃ past post m,
    Run (ofMemory memory) Blocks (system zeroed) (past ++ m :: post)
      (afterBlock .controller open1 shown) ∧
      m.op = .drive ⟨idXv1.toNat, by decide⟩ true ∧ required idXv1 ≤ m.found.pad.armLevel ∧
      Climbed ((past ++ [m]).map fun n => height n.found) := by
  obtain ⟨t, hrun⟩ := run_opened
  have hsplit : opening = opening.take 3 ++
      ⟨.controller, .drive ⟨idXv1.toNat, by decide⟩ true, (0 : Int), shown.shared⟩ ::
        opening.drop 4 := rfl
  rw [hsplit, ← List.append_assoc] at hrun
  obtain ⟨hlevel, hclimbed⟩ := driven_of_run hrun rfl
  exact ⟨_, _, _, hrun, rfl, hlevel, hclimbed⟩

end Hysim.Commands
