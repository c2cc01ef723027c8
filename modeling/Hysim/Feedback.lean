import Mathlib.Data.List.Infix
import Hysim.Commands
import Hysim.Delivery
import Hysim.Effects
import Hysim.History
import Hysim.Lib.Linger

/-!
From the commands an operator gives to the levels the operator is shown.

The controller carries out the requests it reads off its connection, beside the thread that
publishes the pad state, and of the datagrams the telemetry client reports what arrives. A command
changes the level at most once, so that all the operator is ever shown is levels the commands given
so far have led to, in the order of the commands.
-/

namespace Hysim.Feedback

open Hysim.Lib.Program Hysim.Lib.Threads Hysim.Lib.Runs Hysim.Lib.Serial Hysim.Lib.Linger
open Hysim.Packets Hysim.Actuators Hysim.State Hysim.Serve Hysim.Telemetry Hysim.Publish
open Hysim.Commands Hysim.History Hysim.TelemClient
open Hysim.Snapshot (Trace)
open Hysim.Controller (Surroundings Stack calm)
open Hysim.Exchange (Link Event opened armValves xv1)
open Hysim.Delivery (UncutRun uncutRun_cons kept_run kept_opened)

/-! ### A server that reads requests -/

/-- What the threads run while the controller reads these requests. At its labels it knows how
many it has read. -/
def Serving (reqs : List Request) : Who → ℕ × Label → PadM (ℕ × Label) → Prop
  | .controller, (n, l), p =>
    (∃ req, reqs[n]? = some req ∧ p = handle req >>= fun _ => pure (n + 1, l)) ∨
      ∃ status, p = padstateSetConnstatus status >>= fun _ => pure (n, l)
  | .telemetry, (n, l), p => p = telemetryUpdatePadstate l >>= fun l' => pure (n, l')

abbrev Server := Config Who PadOp Shared (ℕ × Label) PadOp.Ans

variable {reqs : List Request} {state : PadState} {t : Trace} {c : Server}

section Operations

variable {α : Type}

end Operations

/-! ### A command calls one driver at most -/

/-- The actuator a driver is called for, and the state it is asked for. -/
def driven : PadOp → Option (UInt8 × Bool)
  | .drive act on => some (UInt8.ofNat act, on)
  | _ => none

/-- What a request asks for. -/
def commanded : Request → Option (UInt8 × Bool)
  | .act req => some (req.id, req.state != 0)
  | .arm _ => none

def Drives (o : PadOp) : Prop := (driven o).isSome

lemma Drives.not_iff {o : PadOp} : ¬ Drives o ↔ driven o = none := by
  simp [Drives]

lemma not_drives_of_determined {o : PadOp} (h : Determined o) : ¬ Drives o := by
  cases o <;> first | exact h.elim | exact Drives.not_iff.mpr rfl

lemma Tame.once {α : Type} {b : Bool} {p : PadM α} (h : Tame b p) : Once Drives b p := by
  induction h with
  | ret b a => exact .ret b a
  | op b o k ho _ ih => exact .op b o k (not_drives_of_determined ho) ih
  | drive act on k _ ih =>
    refine Once.once _ _ ?_
    exact ih
  | signal b p _ ih => exact .op b _ _ (Drives.not_iff.mpr rfl) fun _ => ih

def drivers {ι σ : Type} (t : List (Moment ι PadOp σ PadOp.Ans)) : List (UInt8 × Bool) :=
  t.filterMap fun m => driven m.op

@[simp] lemma drivers_append {ι σ : Type} (t u : List (Moment ι PadOp σ PadOp.Ans)) :
    drivers (t ++ u) = drivers t ++ drivers u := List.filterMap_append ..

def requestsOf (cmds : List Command) : List Request :=
  cmds.filterMap fun
    | .request req _ => some req
    | .connection _ => none

def levelByte (pad : PadState) : UInt8 := pad.armLevel.val.toUInt8

/-- The level the pad starts with, and the level after each of the commands. -/
def passed (pad : PadState) (cmds : List Command) : List UInt8 :=
  cmds.inits.map fun done => levelByte (obeyAll pad done)

variable {pad left : PadState} {cmds : List Command}

lemma passed_concat (pad : PadState) (cmds : List Command) (cmd : Command) :
    passed pad (cmds ++ [cmd]) =
      passed pad cmds ++ [levelByte (obey (obeyAll pad cmds) cmd)] := by
  simp [passed, List.inits_append, obeyAll_concat]

lemma exists_passed (pad : PadState) (cmds : List Command) :
    ∃ earlier, passed pad cmds = earlier ++ [levelByte (obeyAll pad cmds)] := by
  induction cmds using List.reverseRecOn with
  | nil => exact ⟨[], rfl⟩
  | append_singleton cmds cmd _ =>
    rw [passed_concat, obeyAll_concat]
    exact ⟨_, rfl⟩

/-- What the controller did between two labels was this command, and it reads the requests the
command takes. While it did the level was what it was before, and then what it was behind it. -/
structure Served (reqs : List Request) (l l' : ℕ × Label) (pad left : PadState)
    (t : List (Moment Unit PadOp PadState PadOp.Ans)) (cmd : Command) : Prop where
  reads : reqs.take l'.1 = reqs.take l.1 ++ requestsOf [cmd]
  leaves : apart (obey pad cmd) = left
  levels : Lingers [levelByte pad, levelByte left] (t.map fun m => levelByte m.found)
  drives : (drivers t).Sublist ((requestsOf [cmd]).filterMap commanded)

/-- All the controller did, as commands. -/
structure AllServed (reqs : List Request) (n : ℕ) (pad left : PadState)
    (t : List (Moment Unit PadOp PadState PadOp.Ans)) (cmds : List Command) : Prop where
  reads : reqs.take n = requestsOf cmds
  leaves : apart (obeyAll pad cmds) = left
  levels : Lingers (passed pad cmds) (t.map fun m => levelByte m.found)
  drives : (drivers t).Sublist ((requestsOf cmds).filterMap commanded)

lemma AllServed.concat {n : ℕ} {l l' : ℕ × Label} {last : PadState}
    {t u : List (Moment Unit PadOp PadState PadOp.Ans)} {cmd : Command} (hl : l.1 = n)
    (h : AllServed reqs n pad left t cmds)
    (hnext : Served reqs l l' (obeyAll pad cmds) last u cmd) :
    AllServed reqs l'.1 pad last (t ++ u) (cmds ++ [cmd]) := by
  have hsplit : requestsOf (cmds ++ [cmd]) = requestsOf cmds ++ requestsOf [cmd] :=
    List.filterMap_append ..
  refine ⟨?_, by rw [obeyAll_concat, hnext.leaves], ?_, ?_⟩
  · rw [hnext.reads, hl, h.reads, hsplit]
  · obtain ⟨earlier, hearlier⟩ := exists_passed pad cmds
    have hbefore := h.levels
    have hbehind := hnext.levels
    rw [← hnext.leaves] at hbehind
    rw [hearlier] at hbefore
    rw [passed_concat, List.map_append, hearlier, List.append_assoc]
    exact hbefore.join hbehind
  · rw [hsplit, drivers_append, List.filterMap_append]
    exact h.drives.append hnext.drives

section Whole

variable {env : Surroundings} {stack cstack : Stack} {link : Link} {es : List Event}

end Whole

/-! ### Arming and opening a valve -/

instance (who : Who) (p : PadM (ℕ × Label)) (s : Shared) :
    Decidable (Along (alone who) (fun s o => s.Enabled o) p s) :=
  inferInstanceAs (Decidable (∀ m ∈ moments (alone who) p s, m.1.Enabled m.2))

def opening : List Event :=
  [.flip armValves true, .read 2, .read 1, .answer 1, .flip xv1 true, .read 2, .read 2]

end Hysim.Feedback
