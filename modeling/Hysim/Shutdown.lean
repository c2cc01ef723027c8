import Hysim.Deadlock

/-!
Ctrl+C on the pad server, from `int_handler` in `pad_server_main.c` and the cleanup handlers of
`telemetry.c`.

The handler cancels and joins the telemetry thread, whose cleanup cancels and joins the thread
that publishes the pad state; then it cancels and joins the controller. Wherever the thread that
publishes the pad state acts on its cancellation it has the update mutex, and nothing gives it
back: a controller that then records an update waits for it without end.
-/

namespace Hysim.Shutdown

open Relation Hysim.Lib.Program Hysim.Actuators Hysim.State Hysim.Telemetry Hysim.Deadlock
open Hysim.Lib.Threads hiding Step
open Hysim.Publish (Who)

/-! ### The server -/

/-- `telemetry_run`: before it created the thread that publishes the pad state, while it publishes
telemetry, in its cleanup handler and behind it. -/
inductive Telem
  | starting | running | cancelPad | joinPad | gone
  deriving DecidableEq

/-- `int_handler`. -/
inductive Handler
  | idle | cancelTelem | joinTelem | cancelController | joinController | finished
  deriving DecidableEq

inductive Life
  | unborn | alive | dead
  deriving DecidableEq

/-- The controller and the thread that publishes the pad state, with the cancellations they have
not acted on; the telemetry thread; and the handler. -/
structure Server where
  threads : System
  life : Who → Life
  cancelled : Who → Bool
  telem : Telem
  telemCancelled : Bool
  handler : Handler

def server : Server where
  threads := system
  life
    | .controller => .alive
    | .telemetry => .unborn
  cancelled _ := false
  telem := .starting
  telemCancelled := false
  handler := .idle

/-- Where a thread may act on a cancellation, in an operation or in what it prints behind it.
To lock a mutex and to read a clock are no cancellation points, and the wait has a rule of its
own. -/
structure Points where
  point : Who → PadOp → Prop
  lock : ∀ i, ¬ point i .mutexLock
  clock : ∀ i, ¬ point i .clock
  wait : ∀ i, ¬ point i .condReacquire

/-- The calls that have to be cancellation points: the wait and `sendmsg`. -/
def posix : Points where
  point _ o := o = .condRelease ∨ ∃ msg, o = .publish msg
  lock := by simp
  clock := by simp
  wait := by simp

/-- The telemetry thread ends: the cleanup handler is run if it was pushed. -/
def Telem.exit : Telem → Telem
  | .starting => .gone
  | .running => .cancelPad
  | stage => stage

/-- One step of the handler or of a thread, or the end of one. -/
inductive Step (points : Points) : Server → Server → Prop
  | signal {c : Server} (h : c.handler = .idle) : Step points c { c with handler := .cancelTelem }
  | cancelTelem {c : Server} (h : c.handler = .cancelTelem) :
      Step points c { c with handler := .joinTelem, telemCancelled := true }
  | joinTelem {c : Server} (h : c.handler = .joinTelem) (hgone : c.telem = .gone) :
      Step points c { c with handler := .cancelController }
  | cancelController {c : Server} (h : c.handler = .cancelController) :
      Step points c { c with handler := .joinController
                             cancelled := Function.update c.cancelled .controller true }
  | joinController {c : Server} (h : c.handler = .joinController)
      (hdead : c.life .controller = .dead) : Step points c { c with handler := .finished }
  | create {c : Server} (h : c.telem = .starting) :
      Step points c { c with telem := .running
                             life := Function.update c.life .telemetry .alive }
  -- the socket, the other thread or the data file fails
  | telemReturns {c : Server} (h : c.telem = .starting ∨ c.telem = .running) :
      Step points c { c with telem := c.telem.exit }
  | telemExits {c : Server} (h : c.telem = .starting ∨ c.telem = .running)
      (hc : c.telemCancelled = true) : Step points c { c with telem := c.telem.exit }
  | cancelPad {c : Server} (h : c.telem = .cancelPad) :
      Step points c { c with telem := .joinPad
                             cancelled := Function.update c.cancelled .telemetry true }
  | joinPad {c : Server} (h : c.telem = .joinPad) (hdead : c.life .telemetry = .dead) :
      Step points c { c with telem := .gone }
  | start {c : Server} {i : Who} {l : Label} {p : PadM Label} (hlive : c.life i = .alive)
      (hret : c.threads.prog i = .ret l) (hp : Blocks i l p) :
      Step points c { c with threads := ⟨c.threads.shared, Function.update c.threads.prog i p⟩ }
  | call {c : Server} {i : Who} {o : PadOp} {k : o.Ans → PadM Label} {r : o.Ans} {s : Locks}
      (hlive : c.life i = .alive) (hcall : c.threads.prog i = .call o k)
      (hstep : LockStep i o c.threads.shared r s) :
      Step points c { c with threads := ⟨s, Function.update c.threads.prog i (k r)⟩ }
  -- a thread acts on its cancellation, and keeps the locks it has
  | exit {c : Server} {i : Who} {o : PadOp} {k : o.Ans → PadM Label} (hlive : c.life i = .alive)
      (hc : c.cancelled i = true) (hcall : c.threads.prog i = .call o k)
      (hpoint : points.point i o) :
      Step points c { c with life := Function.update c.life i .dead }
  -- in the wait it takes the mutex again first
  | exitWait {c : Server} {i : Who} {k : Int → PadM Label} (hlive : c.life i = .alive)
      (hc : c.cancelled i = true) (hcall : c.threads.prog i = .call .condReacquire k)
      (hfree : c.threads.shared.mutex = none) :
      Step points c { c with life := Function.update c.life i .dead
                             threads := ⟨{ c.threads.shared with mutex := some i },
                               c.threads.prog⟩ }
  -- between two operations the controller is in the calls on its sockets
  | exitIdle {c : Server} {l : Label} (hlive : c.life .controller = .alive)
      (hc : c.cancelled .controller = true) (hret : c.threads.prog .controller = .ret l) :
      Step points c { c with life := Function.update c.life .controller .dead }

abbrev Steps (points : Points) := ReflTransGen (Step points)

def AtMutex (c : Server) (i : Who) : Prop :=
  ∃ o, (o = .mutexLock ∨ o = .condReacquire) ∧ ∃ k, c.threads.prog i = .call o k

/-- The thread waits for the mutex, and whoever has it no longer exists. -/
def Orphaned (c : Server) (i : Who) : Prop :=
  c.life i = .alive ∧ AtMutex c i ∧
    ∃ owner, c.threads.shared.mutex = some owner ∧ c.life owner = .dead

/-- The handler waits to join an orphaned thread, itself or through the telemetry thread. -/
def Hung (c : Server) : Prop :=
  c.handler = .joinController ∧ Orphaned c .controller ∨
    c.handler = .joinTelem ∧ c.telem = .joinPad ∧ Orphaned c .telemetry

/-- The thread that publishes the pad state no longer exists, and the controller is about to
record an update. -/
def Late (c : Server) : Prop :=
  c.life .telemetry = .dead ∧ c.life .controller = .alive ∧ AtMutex c .controller

abbrev TimelySteps (points : Points) := ReflTransGen fun c c' => Step points c c' ∧ ¬ Late c'

/-! ### The order of a shutdown -/

/-- The controller is cancelled last, and the thread that publishes the pad state by the cleanup
of the telemetry thread. -/
structure Ordered (c : Server) : Prop where
  controller : c.cancelled .controller = true ∨ c.life .controller = .dead →
    c.handler = .joinController ∨ c.handler = .finished
  pad : c.cancelled .telemetry = true ∨ c.life .telemetry = .dead →
    c.telem = .joinPad ∨ c.telem = .gone
  finished : c.handler = .finished → c.life .controller = .dead

variable {points : Points}

lemma ordered_server : Ordered server := ⟨by simp [server], by simp [server], by simp [server]⟩

lemma Telem.exit_of_pad {stage : Telem} (h : stage = .starting ∨ stage = .running) :
    ¬ (stage = .joinPad ∨ stage = .gone) := by
  rcases h with rfl | rfl <;> simp

lemma ordered_step {c c' : Server} (h : Ordered c) (hstep : Step points c c') : Ordered c' := by
  cases hstep with
  | signal hidle | cancelTelem hidle | joinTelem hidle _ =>
    refine ⟨fun hlast => ?_, h.pad, by simp⟩
    have := h.controller hlast
    simp [hidle] at this
  | cancelController hidle => exact ⟨fun _ => .inl rfl, by simpa using h.pad, by simp⟩
  | joinController hidle hdead => exact ⟨fun _ => .inr rfl, h.pad, fun _ => hdead⟩
  | create hstart =>
    refine ⟨by simpa using h.controller, fun hpad => ?_, by simpa using h.finished⟩
    have hpad : c.cancelled .telemetry = true := by simpa using hpad
    exact absurd (h.pad (.inl hpad)) (Telem.exit_of_pad (.inl hstart))
  | telemReturns hlive | telemExits hlive _ =>
    exact ⟨h.controller, fun hpad => absurd (h.pad hpad) (Telem.exit_of_pad hlive), h.finished⟩
  | cancelPad _ => exact ⟨by simpa using h.controller, fun _ => .inl rfl, h.finished⟩
  | joinPad _ _ => exact ⟨h.controller, fun _ => .inr rfl, h.finished⟩
  | start _ _ _ | call _ _ _ => exact ⟨h.controller, h.pad, h.finished⟩
  | @exit i _ _ _ hc _ _ | @exitWait i _ _ hc _ _ =>
    cases i with
    | controller =>
      exact ⟨fun _ => h.controller (.inl hc), by simpa using h.pad, fun _ => by simp⟩
    | telemetry =>
      exact ⟨by simpa using h.controller, fun _ => h.pad (.inl hc), by simpa using h.finished⟩
  | exitIdle _ hc _ =>
    exact ⟨fun _ => h.controller (.inl hc), by simpa using h.pad, fun _ => by simp⟩

lemma ordered_of_steps {c : Server} (h : Steps points server c) : Ordered c := by
  induction h with
  | refl => exact ordered_server
  | tail _ hstep ih => exact ordered_step ih hstep

/-! ### Shutdown -/

lemma not_late_server : ¬ Late server := by
  rintro ⟨hdead, -⟩
  cases hdead

lemma TimelySteps.steps {c c' : Server} (h : TimelySteps points c c') : Steps points c c' :=
  ReflTransGen.mono (fun _ _ hstep => hstep.1) _ _ h

lemma TimelySteps.not_late {c : Server} (h : TimelySteps points server c) : ¬ Late c := by
  rcases h.cases_tail with rfl | ⟨_, _, _, hnot⟩
  · exact not_late_server
  · exact hnot

/-- The thread that publishes the pad state left the mutex locked, and the controller waits for it
and is waited for. -/
structure Stuck (c : Server) : Prop where
  handler : c.handler = .joinController
  life : c.life .controller = .alive
  waits : AtMutex c .controller
  owner : c.threads.shared.mutex = some .telemetry
  dead : c.life .telemetry = .dead

/-- There is one way to hang: the controller outlives the telemetry threads. -/
lemma stuck_of_hung {c : Server} (h : Ordered c) (hhung : Hung c) : Stuck c := by
  rcases hhung with ⟨hjoin, hlive, hat, owner, howner, hdead⟩ |
    ⟨hjoin, -, hlive, -, owner, -, hdead⟩
  · cases owner with
    | controller =>
      rw [hlive] at hdead
      cases hdead
    | telemetry => exact ⟨hjoin, hlive, hat, howner, hdead⟩
  · cases owner with
    | controller =>
      rcases h.controller (.inr hdead) with hlast | hlast <;>
        · rw [hjoin] at hlast
          cases hlast
    | telemetry =>
      rw [hlive] at hdead
      cases hdead

lemma late_of_hung {c : Server} (h : Ordered c) (hhung : Hung c) : Late c := by
  have hstuck := stuck_of_hung h hhung
  exact ⟨hstuck.dead, hstuck.life, hstuck.waits⟩

/-- **Shutdown does not hang while no update comes too late.** In every run in which the
controller is at no step about to record an update when the thread that publishes the pad state
no longer exists, the handler never waits to join a thread that waits for a mutex which was left
locked. -/
theorem no_hang (points : Points) {c : Server} (h : TimelySteps points server c) : ¬ Hung c :=
  fun hhung => h.not_late (late_of_hung (ordered_of_steps h.steps) hhung)

/-! ### A mutex that is left locked -/

/-- What the thread that publishes the pad state does only while it has the mutex. -/
def Inside (o : PadOp) : Prop := o ≠ .clock ∧ o ≠ .mutexLock ∧ o ≠ .condReacquire

/-- A thread holds the locks as it knows, and does not publish the pad state without the mutex. -/
def guarded (i : Who) : Monitor PadOp PadOp.Ans Held where
  expects := Expects i
  step x o r y := HeldStep x o r y ∧ (i = .telemetry → Inside o → x.mutex = true)

lemma guarded_of_held {α : Type} {p : PadM α} {post : α → Held → Prop} {x : Held}
    (h : Follows (held .telemetry) p post x) (hx : x.mutex = true)
    (hp : Performs (fun o => ¬ Drops o) p) : Follows (guarded .telemetry) p post x := by
  induction p generalizing x with
  | ret a => exact h
  | call o k ih =>
    intro r hr
    obtain ⟨y, hy, hrest⟩ := h r hr
    have hmutex : y.mutex = true := (mutex_step hy hx).resolve_left hp.1
    exact ⟨y, ⟨hy, fun _ _ => hx⟩, ih r hrest hmutex (hp.2 r)⟩

lemma lockedRead_keeps (load : PadOp) (hload : ¬ Drops load) (val : load.Ans → Packets.CEnum) :
    Performs (fun o => ¬ Drops o) (rdlock >>= fun err => if err ≠ 0 then pure (-1)
      else Prog.op load >>= fun r => rwUnlock >>= fun _ => pure (val r)) := by
  refine Performs.bind (.op (by simp [GivesBack])) fun err => ?_
  split_ifs with herr
  · trivial
  · refine Performs.bind (.op hload) fun r => ?_
    exact Performs.bind (.op (by simp [GivesBack])) fun _ => trivial

lemma actPackets_keeps (time : UInt32) (acts : List ActIdx) :
    Performs (fun o => ¬ Drops o) (actPackets time acts) := by
  induction acts with
  | nil => trivial
  | cons act acts ih =>
    exact Performs.bind (.op (by simp [GivesBack])) fun state => Performs.bind ih fun _ => trivial

lemma sendPadstate_keeps : Performs (fun o => ¬ Drops o) telemetrySendPadstate := by
  refine Performs.bind (.op (by simp [GivesBack])) fun time => ?_
  refine Performs.bind (lockedRead_keeps .loadLevel (by simp [GivesBack]) _) fun level => ?_
  refine Performs.bind (lockedRead_keeps .loadConn (by simp [GivesBack]) _) fun status => ?_
  exact Performs.bind (actPackets_keeps time _) fun acts => .op (by simp [GivesBack])

lemma guarded_send : Follows (guarded .telemetry) (telemetryUpdatePadstate .send)
    (RestAt .telemetry) ⟨true, .free⟩ := by
  refine Follows.op_bind fun recorded _ => ⟨_, ⟨.quiet _ .loadUpdate recorded trivial, by simp⟩, ?_⟩
  have hsend : Returns .telemetry telemetrySendPadstate ⟨true, .free⟩ := returns_sendPadstate rfl
  refine Follows.bind ((guarded_of_held hsend rfl sendPadstate_keeps).mono ?_)
  rintro _ _ rfl
  refine Follows.op_bind fun r _ => ⟨_, ⟨.quiet _ (.storeUpdate false) r trivial, by simp⟩, ?_⟩
  exact fun r _ => ⟨_, ⟨.mutexUnlock _ r rfl, by simp⟩, rfl⟩

lemma guarded_block {i : Who} {l : Label} {p : PadM Label} {x : Held} (hp : Blocks i l p)
    (hx : RestAt i l x) : Follows (guarded i) p (RestAt i) x := by
  cases i with
  | controller =>
    have hsim : Follows (guarded .controller) p
        (fun l y => ∃ z, RestAt .controller l z ∧ z = y) x := by
      refine Follows.simulate (m := held .controller) ?_ ?_ (held_block hp hx) rfl
      · exact fun _ _ h => h
      · rintro x o r y _ hy rfl
        exact ⟨y, ⟨hy, by simp⟩, rfl⟩
    refine hsim.mono ?_
    rintro l _ ⟨z, hpost, rfl⟩
    exact hpost
  | telemetry =>
    obtain rfl : p = telemetryUpdatePadstate l := hp
    cases l with
    | outer =>
      obtain rfl : x = nothing := hx
      refine Follows.op_bind fun time _ =>
        ⟨_, ⟨.quiet _ .clock time trivial, fun _ h => absurd rfl h.1⟩, ?_⟩
      rintro _ rfl
      exact ⟨_, ⟨.mutexLock nothing rfl, fun _ h => absurd rfl h.2.1⟩, rfl⟩
    | check err =>
      obtain rfl : x = ⟨true, .free⟩ := hx
      unfold telemetryUpdatePadstate
      dsimp only
      split_ifs with herr
      · exact rfl
      · refine Follows.op_bind fun recorded _ =>
          ⟨_, ⟨.quiet _ .loadUpdate recorded trivial, by simp⟩, ?_⟩
        split_ifs with hrec
        · exact rfl
        · refine Follows.op_bind fun r _ => ⟨_, ⟨.condRelease _ r rfl, by simp⟩, fun err _ => ?_⟩
          exact ⟨_, ⟨.condReacquire _ err rfl, fun _ h => absurd rfl h.2.2⟩, rfl⟩
    | send =>
      obtain rfl : x = ⟨true, .free⟩ := hx
      exact guarded_send
    | idle => exact hx.elim

/-- The threads that exist hold the locks as they know, and the thread that publishes the pad state
has the mutex when it no longer exists. -/
def Kept (c : Server) : Prop :=
  ∃ x, Agrees c.threads.shared x ∧
    (∀ i, c.life i ≠ .dead → Follows (guarded i) (c.threads.prog i) (RestAt i) (x i)) ∧
    (c.life .telemetry = .dead → (x .telemetry).mutex = true)

lemma kept_server : Kept server := by
  refine ⟨fun _ => nothing, fun i => ⟨by simp [server, system, unlocked, nothing],
    by simp [server, system, unlocked, nothing], rfl⟩, fun i _ => ?_, by simp [server]⟩
  cases i with
  | controller => exact rfl
  | telemetry => exact rfl

lemma expects_some (o : PadOp) : ∃ r : o.Ans, Expects .telemetry o r := by
  cases o <;> first
    | exact ⟨(0 : Int), rfl⟩
    | exact ⟨(0 : Int), trivial⟩
    | exact ⟨(), trivial⟩
    | exact ⟨false, trivial⟩
    | exact ⟨(0 : UInt32), trivial⟩
    | exact ⟨Packets.ArmLvl.armedPad, trivial⟩
    | exact ⟨Packets.ConnStatus.connConnected, trivial⟩

lemma mutex_of_inside {o : PadOp} {k : o.Ans → PadM Label} {x : Held}
    (h : Follows (guarded .telemetry) (.call o k) (RestAt .telemetry) x) (ho : Inside o) :
    x.mutex = true := by
  obtain ⟨r, hr⟩ := expects_some o
  obtain ⟨y, ⟨-, hguard⟩, -⟩ := h r hr
  exact hguard rfl ho

lemma alive_of_update {life : Who → Life} {i j : Who}
    (h : Function.update life i .dead j ≠ .dead) : life j ≠ .dead := by
  by_cases hji : j = i
  · subst hji
    simp at h
  · rwa [Function.update_of_ne hji] at h

lemma follows_update {life : Who → Life} {prog : Who → PadM Label} {x : Who → Held}
    (hfollows : ∀ j, life j ≠ .dead → Follows (guarded j) (prog j) (RestAt j) (x j)) {i : Who}
    {p : PadM Label} {y : Held} (hp : Follows (guarded i) p (RestAt i) y) (j : Who)
    (hj : life j ≠ .dead) :
    Follows (guarded j) (Function.update prog i p j) (RestAt j) (Function.update x i y j) := by
  by_cases hji : j = i
  · subst hji
    rw [Function.update_self, Function.update_self]
    exact hp
  · rw [Function.update_of_ne hji, Function.update_of_ne hji]
    exact hfollows j hj

lemma kept_exit {c : Server} (h : Kept c) {i : Who} {o : PadOp} {k : o.Ans → PadM Label}
    (hlive : c.life i = .alive) (hcall : c.threads.prog i = .call o k) (ho : Inside o) :
    Kept { c with life := Function.update c.life i .dead } := by
  obtain ⟨x, hagrees, hfollows, hdead⟩ := h
  have hi := hfollows i (by simp [hlive])
  rw [hcall] at hi
  refine ⟨x, hagrees, fun j hj => hfollows j (alive_of_update hj), fun hd => ?_⟩
  by_cases hti : Who.telemetry = i
  · subst hti
    exact mutex_of_inside hi ho
  · exact hdead (by simpa [Function.update_of_ne hti] using hd)

lemma kept_exitWait {c : Server} (h : Kept c) {i : Who} {k : Int → PadM Label}
    (hlive : c.life i = .alive) (hcall : c.threads.prog i = .call .condReacquire k)
    (hfree : c.threads.shared.mutex = none) :
    Kept { c with life := Function.update c.life i .dead
                  threads := ⟨{ c.threads.shared with mutex := some i }, c.threads.prog⟩ } := by
  obtain ⟨x, hagrees, hfollows, hdead⟩ := h
  have hi := hfollows i (by simp [hlive])
  rw [hcall] at hi
  have hlock : LockStep i .condReacquire c.threads.shared (0 : Int)
      { c.threads.shared with mutex := some i } := .condReacquire _ _ hfree
  obtain ⟨y, ⟨hheld, -⟩, -⟩ := hi (0 : Int) (expects_step hlock)
  have hafter := agrees_step hagrees hlock hheld
  refine ⟨Function.update x i y, hafter, fun j hj => ?_, fun hd => ?_⟩
  · have hji : j ≠ i := by
      rintro rfl
      simp at hj
    rw [Function.update_of_ne hji]
    exact hfollows j (alive_of_update hj)
  · by_cases hti : Who.telemetry = i
    · subst hti
      exact (hafter .telemetry).mutex.mp rfl
    · rw [Function.update_of_ne hti]
      exact hdead (by simpa [Function.update_of_ne hti] using hd)

lemma kept_step {c c' : Server} (h : Kept c) (hord : Ordered c) (hstep : Step points c c') :
    Kept c' := by
  have hkept := h
  obtain ⟨x, hagrees, hfollows, hdead⟩ := h
  cases hstep with
  | signal | cancelTelem | joinTelem | cancelController | joinController | telemReturns
    | telemExits | cancelPad | joinPad => exact ⟨x, hagrees, hfollows, hdead⟩
  | create hstart =>
    have hlife : c.life .telemetry ≠ .dead := fun hd =>
      Telem.exit_of_pad (.inl hstart) (hord.pad (.inr hd))
    refine ⟨x, hagrees, fun j hj => hfollows j ?_, by simp⟩
    cases j with
    | controller => simpa using hj
    | telemetry => exact hlife
  | @start i l p hlive hret hp =>
    have hrest := hfollows i (by simp [hlive])
    rw [hret] at hrest
    have hafter := follows_update hfollows (guarded_block hp hrest)
    rw [Function.update_eq_self] at hafter
    exact ⟨x, hagrees, hafter, hdead⟩
  | @call i o k r s hlive hcall hlock =>
    have hi := hfollows i (by simp [hlive])
    rw [hcall] at hi
    obtain ⟨y, ⟨hheld, -⟩, hrest⟩ := hi r (expects_step hlock)
    refine ⟨Function.update x i y, agrees_step hagrees hlock hheld,
      follows_update hfollows hrest, fun hd => ?_⟩
    have hne : Who.telemetry ≠ i := by
      rintro rfl
      rw [hlive] at hd
      cases hd
    rw [Function.update_of_ne hne]
    exact hdead hd
  | @exit i o k hlive _ hcall hpoint =>
    refine kept_exit hkept hlive hcall ⟨?_, ?_, ?_⟩
    · rintro rfl
      exact points.clock _ hpoint
    · rintro rfl
      exact points.lock _ hpoint
    · rintro rfl
      exact points.wait _ hpoint
  | exitWait hlive _ hcall hfree => exact kept_exitWait hkept hlive hcall hfree
  | exitIdle =>
    exact ⟨x, hagrees, fun j hj => hfollows j (alive_of_update hj), by simpa using hdead⟩

lemma kept_of_steps {c : Server} (h : Steps points server c) : Kept c := by
  induction h with
  | refl => exact kept_server
  | tail hsteps hstep ih => exact kept_step ih (ordered_of_steps hsteps) hstep

lemma orphaned_of_late {c : Server} (h : Kept c) (hlate : Late c) : Orphaned c .controller := by
  obtain ⟨x, hagrees, -, hmutex⟩ := h
  obtain ⟨hdead, hlive, hat⟩ := hlate
  exact ⟨hlive, hat, .telemetry, (hagrees .telemetry).mutex.mpr (hmutex hdead), hdead⟩

lemma orphaned_congr {c c' : Server} {i : Who} (hthreads : c'.threads = c.threads)
    (hlife : c'.life = c.life) (h : Orphaned c i) : Orphaned c' i := by
  rw [Orphaned, AtMutex, hthreads, hlife]
  exact h

lemma steps_joinController {c : Server} (hgone : c.telem = .gone) (h : c.handler ≠ .finished) :
    ∃ c', Steps points c c' ∧ c'.handler = .joinController ∧ c'.threads = c.threads ∧
      c'.life = c.life := by
  rcases hstage : c.handler with _ | _ | _ | _ | _ | _
  · exact ⟨_, .head (.signal hstage) (.head (.cancelTelem rfl) (.head (.joinTelem rfl hgone)
      (.single (.cancelController rfl)))), rfl, rfl, rfl⟩
  · exact ⟨_, .head (.cancelTelem hstage) (.head (.joinTelem rfl hgone)
      (.single (.cancelController rfl))), rfl, rfl, rfl⟩
  · exact ⟨_, .head (.joinTelem hstage hgone) (.single (.cancelController rfl)), rfl, rfl, rfl⟩
  · exact ⟨_, .single (.cancelController hstage), rfl, rfl, rfl⟩
  · exact ⟨c, .refl, hstage, rfl, rfl⟩
  · exact absurd hstage h

lemma steps_gone {c : Server} (hord : Ordered c) (hdead : c.life .telemetry = .dead) :
    ∃ c', Steps points c c' ∧ c'.telem = .gone ∧ c'.handler = c.handler ∧
      c'.threads = c.threads ∧ c'.life = c.life := by
  rcases hord.pad (.inr hdead) with hjoin | hgone
  · exact ⟨_, .single (.joinPad hjoin hdead), rfl, rfl, rfl, rfl⟩
  · exact ⟨c, .refl, hgone, rfl, rfl, rfl⟩

/-- **From every reachable state, the handler can come to hang exactly if an update can come too
late.** -/
theorem hangs_iff_late (points : Points) {c : Server} (h : Steps points server c) :
    (∃ c', Steps points c c' ∧ Hung c') ↔ ∃ c', Steps points c c' ∧ Late c' := by
  constructor
  · rintro ⟨c', hsteps, hhung⟩
    exact ⟨c', hsteps, late_of_hung (ordered_of_steps (h.trans hsteps)) hhung⟩
  · rintro ⟨late, hsteps, hlate⟩
    have hreach := h.trans hsteps
    have hord := ordered_of_steps hreach
    have horphan := orphaned_of_late (kept_of_steps hreach) hlate
    obtain ⟨c₁, hfirst, hgone, hhandler, hthreads₁, hlife₁⟩ := steps_gone hord hlate.1
    have hrunning : c₁.handler ≠ .finished := by
      rw [hhandler]
      intro hfinished
      have hdead := hord.finished hfinished
      rw [hlate.2.1] at hdead
      cases hdead
    obtain ⟨c₂, hlast, hjoin, hthreads₂, hlife₂⟩ := steps_joinController hgone hrunning
    refine ⟨c₂, hsteps.trans (hfirst.trans hlast), .inl ⟨hjoin, ?_⟩⟩
    exact orphaned_congr (hthreads₂.trans hthreads₁) (hlife₂.trans hlife₁) horphan

/-! ### A handler that hangs -/

/-- The controller's call to lock the mutex fails. -/
def LockFails (c c' : Server) : Prop :=
  ∃ k r, c.threads.prog .controller = .call .mutexLock k ∧ r ≠ (0 : Int) ∧
    c'.threads.prog .controller = k r

lemma Stuck.hung {c : Server} (h : Stuck c) : Hung c :=
  .inl ⟨h.handler, h.life, h.waits, .telemetry, h.owner, h.dead⟩

lemma Stuck.only {c : Server} (h : Stuck c) {i : Who} (hlive : c.life i = .alive) :
    i = .controller := by
  cases i with
  | controller => rfl
  | telemetry =>
    rw [h.dead] at hlive
    cases hlive

lemma stuck_step {c c' : Server} (hord : Ordered c) (h : Stuck c) (hstep : Step points c c')
    (hlock : ¬ LockFails c c') : Stuck c' := by
  have hhandler := h.handler
  obtain ⟨o, ho, k, hcall⟩ := h.waits
  cases hstep with
  | signal hstage | cancelTelem hstage | joinTelem hstage | cancelController hstage =>
    rw [hhandler] at hstage
    cases hstage
  | joinController _ hdead =>
    rw [h.life] at hdead
    cases hdead
  | create hstart => exact absurd (hord.pad (.inr h.dead)) (Telem.exit_of_pad (.inl hstart))
  | telemReturns | telemExits | cancelPad | joinPad =>
    exact ⟨h.handler, h.life, h.waits, h.owner, h.dead⟩
  | start hlive hret =>
    obtain rfl := h.only hlive
    rw [hcall] at hret
    cases hret
  | @call i o' k' r s hlive hcall' hcalled =>
    obtain rfl := h.only hlive
    rw [hcall] at hcall'
    cases hcall'
    -- the call cannot succeed, and it does not fail
    rcases ho with rfl | rfl
    · cases hcalled with
      | mutexLock _ hfree =>
        rw [h.owner] at hfree
        cases hfree
      | noMutexLock _ _ hr => exact absurd ⟨k, r, hcall, hr, rfl⟩ hlock
      | quiet _ _ _ hq => exact hq.elim
    · cases hcalled with
      | condReacquire _ _ hfree =>
        rw [h.owner] at hfree
        cases hfree
      | quiet _ _ _ hq => exact hq.elim
  | @exit i o' k' hlive _ hcall' hpoint =>
    obtain rfl := h.only hlive
    rw [hcall] at hcall'
    cases hcall'
    rcases ho with rfl | rfl
    · exact absurd hpoint (points.lock _)
    · exact absurd hpoint (points.wait _)
  | exitWait _ _ _ hfree =>
    rw [h.owner] at hfree
    cases hfree
  | exitIdle _ _ hret =>
    rw [hcall] at hret
    cases hret

/-- **A handler that hangs hangs for good**, unless the controller's call to lock the mutex
fails. -/
theorem hung_forever (points : Points) {c c' : Server} (h : Steps points server c) (hhung : Hung c)
    (hsteps : ReflTransGen (fun d d' => Step points d d' ∧ ¬ LockFails d d') c c') : Hung c' := by
  have hstuck : Stuck c' ∧ Ordered c' := by
    have hord := ordered_of_steps h
    induction hsteps with
    | refl => exact ⟨stuck_of_hung hord hhung, hord⟩
    | tail _ hstep ih => exact ⟨stuck_step ih.2 ih.1 hstep.1 hstep.2, ordered_step ih.2 hstep.1⟩
  exact hstuck.1.hung

/-! ### The stack of the telemetry thread -/

/-- The thread that publishes the pad state finds its arguments and its socket on the stack of the
telemetry thread, which creates it and joins it. -/
structure Sheltered (c : Server) : Prop where
  starting : c.telem = .starting → c.life .telemetry = .unborn
  gone : c.telem = .gone → c.life .telemetry ≠ .alive
  joined : c.handler = .cancelController ∨ c.handler = .joinController ∨ c.handler = .finished →
    c.telem = .gone

lemma sheltered_server : Sheltered server := ⟨fun _ => rfl, by simp [server], by simp [server]⟩

lemma Sheltered.exit {c : Server} (h : Sheltered c)
    (hlive : c.telem = .starting ∨ c.telem = .running) :
    Sheltered { c with telem := c.telem.exit } := by
  refine ⟨fun hstart => ?_, fun hgone => ?_, fun hjoined => ?_⟩
  · rcases hlive with hlive | hlive <;>
      · rw [hlive] at hstart
        cases hstart
  · rcases hlive with hlive | hlive
    · have hunborn := h.starting hlive
      simp [hunborn]
    · rw [hlive] at hgone
      cases hgone
  · rw [h.joined hjoined] at hlive
    simp at hlive

lemma sheltered_step {c c' : Server} (h : Sheltered c) (hstep : Step points c c') :
    Sheltered c' := by
  cases hstep with
  | signal hstage | cancelTelem hstage => exact ⟨h.starting, h.gone, by simp⟩
  | joinTelem _ hgone => exact ⟨h.starting, h.gone, fun _ => hgone⟩
  | cancelController hstage => exact ⟨h.starting, h.gone, fun _ => h.joined (.inl hstage)⟩
  | joinController hstage _ => exact ⟨h.starting, h.gone, fun _ => h.joined (.inr (.inl hstage))⟩
  | create hstart =>
    refine ⟨by simp, by simp, fun hjoined => ?_⟩
    have hgone := h.joined hjoined
    rw [hstart] at hgone
    cases hgone
  | telemReturns hlive | telemExits hlive _ => exact h.exit hlive
  | cancelPad hstage =>
    refine ⟨by simp, by simp, fun hjoined => ?_⟩
    have hgone := h.joined hjoined
    rw [hstage] at hgone
    cases hgone
  | joinPad hstage hdead => exact ⟨by simp, by simp [hdead], fun _ => rfl⟩
  | start _ _ _ | call _ _ _ => exact ⟨h.starting, h.gone, h.joined⟩
  | @exit i _ _ hlive _ _ _ | @exitWait i _ hlive _ _ _ =>
    cases i with
    | controller => exact ⟨by simpa using h.starting, by simpa using h.gone, h.joined⟩
    | telemetry =>
      refine ⟨fun hstart => ?_, by simp, h.joined⟩
      rw [h.starting hstart] at hlive
      cases hlive
  | exitIdle => exact ⟨by simpa using h.starting, by simpa using h.gone, h.joined⟩

lemma sheltered_of_steps {c : Server} (h : Steps points server c) : Sheltered c := by
  induction h with
  | refl => exact sheltered_server
  | tail _ hstep ih => exact sheltered_step ih hstep

/-- **No thread outlives what it uses.** In every interleaving, with cancellations at any time: the
thread that publishes the pad state exists only while the telemetry thread, on whose stack its
arguments and its socket are, has not returned; and when the handler ends the process none of the
three threads exists any more. -/
theorem outlived_of_steps (points : Points) {c : Server} (h : Steps points server c) :
    (c.life .telemetry = .alive → c.telem ≠ .starting ∧ c.telem ≠ .gone) ∧
      (c.handler = .finished → c.telem = .gone ∧ ∀ i, c.life i ≠ .alive) := by
  have hsheltered := sheltered_of_steps h
  constructor
  · intro hlive
    refine ⟨fun hstart => ?_, fun hgone => hsheltered.gone hgone hlive⟩
    rw [hsheltered.starting hstart] at hlive
    cases hlive
  · intro hfinished
    have hgone := hsheltered.joined (.inr (.inr hfinished))
    refine ⟨hgone, fun i => ?_⟩
    cases i with
    | controller => simp [(ordered_of_steps h).finished hfinished]
    | telemetry => exact hsheltered.gone hgone

/-! ### Two shutdowns -/

lemma not_late_of_ret {c : Server} {l : Label} (h : c.threads.prog .controller = .ret l) :
    ¬ Late c := by
  rintro ⟨-, -, o, -, k, hk⟩
  rw [h] at hk
  cases hk

lemma TimelySteps.tail_of_ret {c c' : Server} {l : Label} (h : TimelySteps points server c)
    (hstep : Step points c c') (hret : c'.threads.prog .controller = .ret l) :
    TimelySteps points server c' :=
  ReflTransGen.tail h ⟨hstep, not_late_of_ret hret⟩

/-- The server has started: one thread waits for an update, the other for a client. -/
structure Started (c : Server) : Prop where
  pad : ∃ k, c.threads.prog .telemetry = .call .condReacquire k
  controller : c.threads.prog .controller = .ret .idle
  shared : c.threads.shared = unlocked
  life : ∀ i, c.life i = .alive
  telem : c.telem = .running
  handler : c.handler = .idle

lemma started (points : Points) : ∃ c, TimelySteps points server c ∧ Started c := by
  have h1 : TimelySteps points server _ := .tail_of_ret .refl (.create rfl) rfl
  have h2 := h1.tail_of_ret (.start (i := .telemetry) rfl rfl rfl) rfl
  have h3 := h2.tail_of_ret (.call (i := .telemetry) rfl rfl
    (LockStep.quiet .clock unlocked 0 trivial)) rfl
  have h4 := h3.tail_of_ret (.call (i := .telemetry) rfl rfl (LockStep.mutexLock unlocked rfl)) rfl
  have h5 := h4.tail_of_ret (.start (i := .telemetry) rfl rfl rfl) rfl
  have h6 := h5.tail_of_ret (.call (i := .telemetry) rfl rfl
    (LockStep.quiet .loadUpdate _ false trivial)) rfl
  have h7 := h6.tail_of_ret (.call (i := .telemetry) rfl rfl (LockStep.condRelease _ ())) rfl
  refine ⟨_, h7, ⟨_, rfl⟩, rfl, rfl, fun i => ?_, rfl, rfl⟩
  cases i with
  | controller => rfl
  | telemetry => rfl

/-- The server has started. -/
theorem outlived_of_steps_started : ∃ c, Steps posix server c ∧ c.life .telemetry = .alive ∧
    (c.life .telemetry = .alive → c.telem ≠ .starting ∧ c.telem ≠ .gone) ∧
      (c.handler = .finished → c.telem = .gone ∧ ∀ i, c.life i ≠ .alive) := by
  obtain ⟨c, hc, hstarted⟩ := started posix
  exact ⟨c, hc.steps, hstarted.life .telemetry, outlived_of_steps posix hc.steps⟩

/-- Ctrl+C while no client is being served. -/
theorem idle_shutdown :
    ∃ c, TimelySteps posix server c ∧ c.handler = .finished ∧ ¬ Hung c := by
  obtain ⟨c, hc, hstarted⟩ := started posix
  obtain ⟨k, hwait⟩ := hstarted.pad
  have hret := hstarted.controller
  have h1 := hc.tail_of_ret (.signal hstarted.handler) hret
  have h2 := h1.tail_of_ret (.cancelTelem rfl) hret
  have h3 := h2.tail_of_ret (.telemExits (.inr hstarted.telem) rfl) hret
  have h4 := h3.tail_of_ret (.cancelPad (congrArg Telem.exit hstarted.telem)) hret
  have h5 := h4.tail_of_ret (.exitWait (i := .telemetry) (hstarted.life _) rfl hwait
    (congrArg Locks.mutex hstarted.shared)) hret
  have h6 := h5.tail_of_ret (.joinPad rfl rfl) hret
  have h7 := h6.tail_of_ret (.joinTelem rfl rfl) hret
  have h8 := h7.tail_of_ret (.cancelController rfl) hret
  have h9 := h8.tail_of_ret (.exitIdle (hstarted.life .controller) rfl hret) hret
  have h10 := h9.tail_of_ret (.joinController rfl rfl) hret
  exact ⟨_, h10, rfl, no_hang posix h10⟩

/-- Ctrl+C while a client is being accepted: its connection is recorded when the thread that
publishes the pad state has ended in its wait. -/
theorem busy_shutdown : ¬ ∀ (points : Points) (c : Server), Steps points server c → ¬ Hung c := by
  intro h
  obtain ⟨c, hc, hstarted⟩ := started posix
  obtain ⟨k, hwait⟩ := hstarted.pad
  have hctl : Blocks .controller .idle
      (padstateSetConnstatus .connConnected >>= fun _ => pure .idle) := .inr (.inr ⟨_, rfl⟩)
  have hwriter : c.threads.shared.writer = none := congrArg Locks.writer hstarted.shared
  have hreaders : ∀ i, c.threads.shared.readers i = 0 :=
    congrFun (congrArg Locks.readers hstarted.shared)
  have hmutex : c.threads.shared.mutex = none := congrArg Locks.mutex hstarted.shared
  have h1 := hc.steps.tail (.start (hstarted.life .controller) hstarted.controller hctl)
  have h2 := h1.tail (.call (i := .controller) (hstarted.life _) rfl
    (LockStep.wrlock _ hwriter hreaders))
  have h3 := h2.tail (.call (i := .controller) (hstarted.life _) rfl
    (LockStep.quiet (.storeConn .connConnected) _ () trivial))
  have h4 := h3.tail (.call (i := .controller) (hstarted.life _) rfl (LockStep.rwUnlock _ ()))
  have h5 := h4.tail (.signal hstarted.handler)
  have h6 := h5.tail (.cancelTelem rfl)
  have h7 := h6.tail (.telemExits (.inr hstarted.telem) rfl)
  have h8 := h7.tail (.cancelPad (congrArg Telem.exit hstarted.telem))
  have h9 := h8.tail (.exitWait (i := .telemetry) (hstarted.life _) rfl hwait
    (by simp [Locks.rwUnlock, hmutex]))
  obtain ⟨c', hsteps, hhung⟩ := (hangs_iff_late posix h9).mpr
    ⟨_, .refl, rfl, hstarted.life .controller, .mutexLock, .inl rfl, _, rfl⟩
  exact h posix c' (h9.trans hsteps) hhung

end Hysim.Shutdown
