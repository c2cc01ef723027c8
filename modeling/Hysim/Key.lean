import Hysim.ControlBox
import Hysim.Disarm

/-!
The control box and the pad server together, and what the arming key is for.

The box is the only client. Its requests arrive whole and in order, and the server executes
them whenever it gets to them. While the key is off the box never asks for the level of the
valves, so that a disarmed pad stays disarmed.
-/

namespace Hysim.Key

open Hysim.Lib.Program Hysim.Packets Hysim.Actuators Hysim.State Hysim.Serve Hysim.Controller
open Hysim.Effects Hysim.Disarm Hysim.Client Hysim.ControlBox

/-! ### What the key allows -/

lemma wired_arming (i : SwitchIdx) (hdev : (gpioDev (switchTable.get i)).isSome = true)
    (hkind : (switchTable.get i).kind = .armReq) :
    i = valveArmingSwitchIdx ∨ i = ⟨17, by decide⟩ := by
  revert i
  decide

lemma switchRequest_arm {sw : Switch} {value : Bool} {req : ArmReqP}
    (h : switchRequest sw value = some (.arm req)) :
    sw.kind = .armReq ∧ req.level = if value then sw.actId else sw.actId - 1 := by
  unfold switchRequest at h
  cases hk : sw.kind <;> simp [hk] at h
  exact ⟨rfl, by rw [← h]⟩

/-- The level of the valves is asked for only with the key on: switching the ignition off
asks for it too, but is not reported without the key. -/
lemma key_of_armValves {b next : Box} (h : Sends b next armValves) :
    next.state valveArmingSwitchIdx = true := by
  obtain ⟨i, value, hdev, hrep, hreq, hnext⟩ := h
  obtain ⟨hkind, hlevel⟩ := switchRequest_arm hreq
  have hid : (b.switch i).actId = (switchTable.get i).actId := rfl
  rw [hid] at hlevel
  rw [hnext]
  rcases wired_arming i hdev hkind with rfl | rfl
  · cases value with
    | true => exact Function.update_self _ _ _
    | false => exact absurd hlevel (by decide)
  · cases value with
    | true => exact absurd hlevel (by decide)
    | false =>
      have hoff : turningOffIgnition (b.switch ⟨17, by decide⟩) false = true := rfl
      have hkey : (b.switch valveArmingSwitchIdx).state = true := by
        simp only [Box.reports, hoff, Bool.true_and, Bool.not_not, Bool.and_eq_true] at hrep
        exact hrep.2
      rw [Function.update_of_ne (by decide)]
      exact hkey

/-! ### Box and server -/

/-- A request under way, with the recorded state of the key when it was sent. -/
structure Sent where
  req : Request
  keyOn : Bool

inductive Cause
  | request (sent : Sent) (driver : Int)
  | connection (status : ConnStatus)

/-- Something the server did, and the pad state it found. -/
structure Deed where
  cause : Cause
  before : PadState

def Deed.trace (d : Deed) : List (Solo × PadOp) :=
  match d.cause with
  | .request sent driver => moments solo (handle sent.req) ⟨d.before, [], driver⟩
  | .connection status => moments solo (padstateSetConnstatus status) ⟨d.before, [], 0⟩

def Deed.after (d : Deed) : PadState :=
  match d.cause with
  | .request sent driver => (serve ⟨[], driver⟩ d.before sent.req).2
  | .connection status => (run solo (padstateSetConnstatus status) ⟨d.before, [], 0⟩).2.pad

/-- The box, its requests under way, the pad, and what the server has done so far. -/
structure System where
  box : Box
  pending : List Sent
  pad : PadState
  log : List Deed

/-- The box moves on, the server executes the next request or notices that a connection was
made or lost, or the last requests under way are lost with their connection. -/
inductive Event
  | box (e : BoxEvent)
  | execute (driver : Int)
  | connection (status : ConnStatus)
  | lost (n : ℕ)

def System.perform (s : System) (d : Deed) : System :=
  { s with pad := d.after, log := s.log ++ [d] }

def System.step (s : System) : Event → System
  | .box e =>
    let out := s.box.step e
    { s with
      box := out.1
      pending := s.pending ++
        (out.2.map fun req => ⟨req, out.1.state valveArmingSwitchIdx⟩).toList }
  | .execute driver =>
    match s.pending with
    | [] => s
    | sent :: rest => { s with pending := rest }.perform ⟨.request sent driver, s.pad⟩
  | .connection status => s.perform ⟨.connection status, s.pad⟩
  | .lost n => { s with pending := s.pending.take n }

def System.run (s : System) (es : List Event) : System := es.foldl System.step s

def system (state : PadState) : System := ⟨box, [], padstateInit state, []⟩

/-! ### The invariant -/

/-- The level of the valves was asked for with the key on. -/
def Sent.Keyed (sent : Sent) : Prop := sent.keyOn = false → sent.req ≠ armValves

def Cause.Keyed : Cause → Prop
  | .request sent _ => sent.Keyed
  | .connection _ => True

/-- One deed starts where the last one ended. -/
def Follows (d e : Deed) : Prop := e.before = d.after

structure Inv (s : System) : Prop where
  pending : ∀ sent ∈ s.pending, sent.Keyed
  log : ∀ d ∈ s.log, d.cause.Keyed
  chain : s.log.IsChain Follows
  last : ∀ d ∈ s.log.getLast?, d.after = s.pad

lemma Inv.perform {s : System} (h : Inv s) {c : Cause} (hc : c.Keyed) :
    Inv (s.perform ⟨c, s.pad⟩) := by
  refine ⟨h.pending, fun d hd => ?_, ?_, fun d hd => ?_⟩
  · rcases List.mem_append.mp hd with hd | hd
    · exact h.log d hd
    · rw [List.mem_singleton.mp hd]
      exact hc
  · refine List.isChain_append.mpr ⟨h.chain, .singleton _, fun d hd e he => ?_⟩
    obtain rfl : ⟨c, s.pad⟩ = e := by simpa using he
    exact (h.last d hd).symm
  · rw [System.perform, List.getLast?_concat] at hd
    rw [← Option.mem_some_iff.mp hd]
    rfl

lemma inv_step {s : System} (h : Inv s) (e : Event) : Inv (s.step e) := by
  cases e with
  | box e =>
    refine ⟨fun sent hsent => ?_, h.log, h.chain, h.last⟩
    rcases List.mem_append.mp hsent with hsent | hsent
    · exact h.pending sent hsent
    · cases hreq : (s.box.step e).2 with
      | none => simp [hreq] at hsent
      | some req =>
        obtain rfl : sent = ⟨req, (s.box.step e).1.state valveArmingSwitchIdx⟩ := by
          simpa [hreq] using hsent
        rintro hoff rfl
        have hon := key_of_armValves (step_sent hreq)
        exact absurd (hoff.symm.trans hon) Bool.false_ne_true
  | execute driver =>
    cases hp : s.pending with
    | nil => simpa [System.step, hp] using h
    | cons sent rest =>
      have hall : ∀ x ∈ sent :: rest, x.Keyed := hp ▸ h.pending
      obtain ⟨hsent, hrest⟩ := List.forall_mem_cons.mp hall
      have hpopped : Inv { s with pending := rest } := ⟨hrest, h.log, h.chain, h.last⟩
      have hstep : s.step (.execute driver) =
          { s with pending := rest }.perform ⟨.request sent driver, s.pad⟩ := by
        simp [System.step, hp]
      rw [hstep]
      exact hpopped.perform hsent
  | connection status => exact h.perform trivial
  | lost n =>
    exact ⟨fun sent hsent => h.pending sent (List.mem_of_mem_take hsent), h.log, h.chain, h.last⟩

lemma inv_run (state : PadState) (es : List Event) : Inv ((system state).run es) := by
  have hstart : Inv (system state) := ⟨by simp [system], by simp [system], .nil, by simp [system]⟩
  unfold System.run
  induction es using List.reverseRecOn with
  | nil => exact hstart
  | append_singleton es e ih =>
    rw [List.foldl_append]
    exact inv_step ih e

/-! ### With the key off -/

/-- A deed that is not for a request sent with the key on. -/
def Cause.KeyOff : Cause → Prop
  | .request sent _ => sent.keyOn = false
  | .connection _ => True

lemma setConnstatus_safe {pad : PadState} (hpad : pad.armLevel = .armedPad) (status : ConnStatus) :
    Along solo Safe (padstateSetConnstatus status) ⟨pad, [], 0⟩ ∧
      (run solo (padstateSetConnstatus status) ⟨pad, [], 0⟩).2.pad.armLevel = .armedPad := by
  have hops := (setConnstatus_performs status).along (D := solo) ⟨pad, [], 0⟩
  obtain ⟨hlevels, hend⟩ := hops.invariant (I := fun s : Solo => s.pad.armLevel = .armedPad)
    (fun s o hs ho => by
      cases o
      case storeLevel level => simp [Quiet] at ho
      all_goals exact hs) hpad
  refine ⟨fun m hm => ⟨hlevels m hm, fun act on ho => ?_⟩, hend⟩
  have hop := hops m hm
  simp [ho, Quiet] at hop

lemma deed_safe {d : Deed} (hd : d.before.armLevel = .armedPad) (hkeyed : d.cause.Keyed)
    (hoff : d.cause.KeyOff) :
    (∀ m ∈ d.trace, Safe m.1 m.2) ∧ d.after.armLevel = .armedPad := by
  obtain ⟨cause, before⟩ := d
  cases cause with
  | request sent driver => exact handle_safe hd driver (hkeyed hoff)
  | connection status => exact setConnstatus_safe hd status

lemma window_safe {d : Deed} {win : List Deed} (hchain : (d :: win).IsChain Follows)
    (hd : d.after.armLevel = .armedPad) (hkeyed : ∀ e ∈ win, e.cause.Keyed)
    (hoff : ∀ e ∈ win, e.cause.KeyOff) :
    ∀ e ∈ win, (∀ m ∈ e.trace, Safe m.1 m.2) ∧ e.after.armLevel = .armedPad := by
  induction win generalizing d with
  | nil => simp
  | cons e win ih =>
    obtain ⟨hfollows, hrest⟩ := List.isChain_cons_cons.mp hchain
    obtain ⟨hke, hkeyed⟩ := List.forall_mem_cons.mp hkeyed
    obtain ⟨hoe, hoff⟩ := List.forall_mem_cons.mp hoff
    have hbefore : e.before.armLevel = .armedPad := by rw [hfollows, hd]
    have hsafe := deed_safe hbefore hke hoe
    refine List.forall_mem_cons.mpr ⟨hsafe, ih hrest hsafe.2 hkeyed hoff⟩

/-- **The arming key.** Once the server has executed the box's request for the lowest level,
and as long as it executes none that was sent with the key on, the level stays there and no
actuator but the dump valve is driven, whatever the other switches do. -/
theorem disarmed_until_key (state : PadState) (es : List Event) {past win post : List Deed}
    {sent : Sent} {driver : Int} {before : PadState} (hreq : sent.req = disarm)
    (hlog : ((system state).run es).log =
      past ++ ⟨.request sent driver, before⟩ :: (win ++ post))
    (hwin : ∀ e ∈ win, ∀ sent driver, e.cause = .request sent driver → sent.keyOn = false) :
    (serve ⟨[], driver⟩ before sent.req).2.armLevel = .armedPad ∧
      ∀ e ∈ win, (∀ m ∈ e.trace, m.1.pad.armLevel = .armedPad ∧
        ∀ act on, m.2 = .drive act on → act = dumpValve) ∧ e.after.armLevel = .armedPad := by
  have hinv := inv_run state es
  have hlevel : (serve ⟨[], driver⟩ before sent.req).2.armLevel = .armedPad := by
    rw [hreq, serve_disarm]
  have hchain : (⟨.request sent driver, before⟩ :: win).IsChain Follows := by
    have hall := hinv.chain
    rw [hlog, ← List.cons_append] at hall
    exact (List.isChain_append.mp (List.isChain_append.mp hall).2.1).1
  have hkeyed : ∀ e ∈ win, e.cause.Keyed := fun e he =>
    hinv.log e (by rw [hlog]; simp [he])
  have hoff : ∀ e ∈ win, e.cause.KeyOff := fun e he => by
    rcases hc : e.cause with ⟨sent, driver⟩ | status
    · exact hwin e he sent driver hc
    · trivial
  exact ⟨hlevel, window_safe hchain hlevel hkeyed hoff⟩

/-- A pass over the switches that finds nothing to report up to the one with index `n`. -/
def passOver (n : ℕ) : List Event := List.replicate n (.box (.look (.openFails 2) none))

/-- A switch is found at a position that is to be reported, and the request is sent, executed
and answered. -/
def flip (high : Bool) : List Event :=
  [.box (.look (.value high) none), .execute 0, .box (.reply (fun _ => 0) (.ok [0]))]

/-- The key is switched on and off again, and then the ignition on. -/
def keyOnAndOff : List Event :=
  [.box (.connect 0), .box .interrupt] ++ passOver 16 ++ flip false ++ passOver 19 ++ flip true ++
    flip false

def armed : PadState := (serve ⟨[], 0⟩ (padstateInit zeroed) armValves).2
def disarmed : PadState := (serve ⟨[], 0⟩ armed disarm).2

theorem disarmed_until_key_ignition :
    ∃ e : Deed, e.cause = .request ⟨.arm ⟨2⟩, false⟩ 0 ∧
      ((system zeroed).run keyOnAndOff).log =
        [⟨.request ⟨armValves, true⟩ 0, padstateInit zeroed⟩] ++
          ⟨.request ⟨disarm, false⟩ 0, armed⟩ :: ([e] ++ []) ∧ e.after.armLevel = .armedPad := by
  have hlog : ((system zeroed).run keyOnAndOff).log =
      [⟨.request ⟨armValves, true⟩ 0, padstateInit zeroed⟩] ++
        ⟨.request ⟨disarm, false⟩ 0, armed⟩ ::
          ([⟨.request ⟨.arm ⟨2⟩, false⟩ 0, disarmed⟩] ++ []) := rfl
  have hwin : ∀ e ∈ [(⟨.request ⟨.arm ⟨2⟩, false⟩ 0, disarmed⟩ : Deed)], ∀ sent driver,
      e.cause = .request sent driver → sent.keyOn = false := by
    intro e he sent driver hc
    rw [List.mem_singleton.mp he] at hc
    cases hc
    rfl
  have hsafe := (disarmed_until_key zeroed keyOnAndOff rfl hlog hwin).2
  exact ⟨_, rfl, hlog, (hsafe _ List.mem_cons_self).2⟩

end Hysim.Key
