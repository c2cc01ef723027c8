import Mathlib.Algebra.Group.Nat.Even
import Hysim.BoxRuns

/-!
The recorded states of the switches against what the pad was told.

A new state is recorded before it is sent. If it is not sent, the record stays, and the next
pass finds nothing to report.
-/

namespace Hysim.Flips

open Hysim.Lib.Program Hysim.Lib.Threads Hysim.Lib.Runs Hysim.Serve Hysim.Client
open Hysim.ControlBox Hysim.PadClient Hysim.BoxRuns

def carried (i : SwitchIdx) (req : Request) : Bool :=
  switchRequest (switchTable.get i) true = some req

/-- For each switch, the new state carried by the last request that was sent, off if there
was none, and the number of requests since then that could not be sent. -/
structure Sends where
  last : SwitchIdx → Bool
  lost : SwitchIdx → ℕ

def watch : Watch Sends
  | .sendmsg _ i req, none, seen =>
    ⟨Function.update seen.last i (carried i req), Function.update seen.lost i 0⟩
  | .sendmsg _ i _, some _, seen =>
    { seen with lost := Function.update seen.lost i (seen.lost i + 1) }
  | _, _, seen => seen

abbrev Box := Client Sends Scan

def start : Box := started ⟨fun _ => false, fun _ => 0⟩

/-- Every switch has a request, and turning it on is another one than turning it off. -/
lemma switchRequest_table (i : SwitchIdx) (value : Bool) :
    ∃ req, switchRequest (switchTable.get i) value = some req ∧ carried i req = value := by
  have hdiffer : ∀ i : SwitchIdx,
      switchRequest (switchTable.get i) true ≠ switchRequest (switchTable.get i) false := by decide
  obtain ⟨req, hreq⟩ := exists_switchRequest i value
  refine ⟨req, hreq, ?_⟩
  cases value with
  | true => exact decide_eq_true hreq
  | false => exact decide_eq_false fun h => hdiffer i (h.trans hreq.symm)

/-- A switch is recorded at the state it was last sent with, or at the other one if an odd number
of requests was lost since: every request is for the state that is not recorded. -/
def Tallies (s : Memory × Sends) : Prop :=
  ∀ i, s.1.state i = s.2.last i ↔ Even (s.2.lost i)

abbrev Ends {α : Type} (p : BoxM α) (post : α → Memory × Sends → Prop)
    (s : Memory × Sends) : Prop :=
  Wp (client watch ()) (fun _ _ => True) p post s

def Other : BoxOp → Prop
  | .storeState _ _ | .sendmsg _ _ _ => False
  | _ => True

lemma keeps {Q : BoxOp → Prop} (hQ : ∀ o, Q o → Other o) :
    Keeps (client watch ()) (fun _ _ => True) Tallies Q := by
  refine ⟨fun _ _ _ _ => trivial, ?_⟩
  rintro o s r _ ho hs ⟨-, rfl⟩
  have hother := hQ o ho
  cases o <;> first | exact hs | exact hother.elim

section Functions

variable {s : Memory × Sends}

lemma tallies_sent (hs : Tallies s) {i : SwitchIdx} {value : Bool} (hvalue : value ≠ s.1.state i)
    {req : Request} (hreq : carried i req = value) (fd : Int) (r : Option Connection.Errno) :
    Tallies (s.1.eff (.storeState i value), watch (.sendmsg fd i req) r s.2) := by
  intro j
  cases r with
  | none =>
    change Function.update s.1.state i value j = Function.update s.2.last i (carried i req) j ↔
      Even (Function.update s.2.lost i 0 j)
    by_cases hj : j = i
    · subst hj
      simp [hreq]
    · simp only [Function.update_of_ne hj]
      exact hs j
  | some err =>
    change Function.update s.1.state i value j = s.2.last j ↔
      Even (Function.update s.2.lost i (s.2.lost i + 1) j)
    by_cases hj : j = i
    · subst hj
      have hother : value = s.2.last j ↔ ¬ s.1.state j = s.2.last j := by
        revert hvalue
        cases value <;> cases s.1.state j <;> cases s.2.last j <;> simp
      simp only [Function.update_self]
      rw [hother, hs j, Nat.even_add_one]
    · simp only [Function.update_of_ne hj]
      exact hs j

lemma ends_switchCallback {i : SwitchIdx} {value : Bool} (hs : Tallies s)
    (hvalue : value ≠ s.1.state i) :
    Ends (switchCallback (switchTable.get i) i value) (fun _ y => Tallies y) s := by
  obtain ⟨req, hreq, hcarried⟩ := switchRequest_table i value
  refine Wp.op_bind trivial ?_
  rintro _ _ ⟨-, rfl⟩
  rw [hreq]
  refine Wp.bind (Wp.op_bind trivial ?_)
  rintro sock _ ⟨-, rfl⟩
  refine ⟨trivial, ?_⟩
  rintro r _ ⟨-, rfl⟩
  have hsent := tallies_sent hs hvalue hcarried sock r
  cases r with
  | none => exact (keeps fun o ho => by cases o <;> trivial).wp (checkReply_performs req) hsent
  | some err => exact hsent

abbrev Rest : Label Scan → Memory × Sends → Prop := fun _ s => Tallies s

lemma ends_report (k : SwitchIdx) {i : SwitchIdx} {value : Bool} (hs : Tallies s)
    (hvalue : value ≠ s.1.state i) : Ends (report k i value) Rest s := by
  refine Wp.bind ((ends_switchCallback hs hvalue).mono fun err y hy => ?_)
  split_ifs with herr
  · refine Wp.bind (((keeps fun o ho => ?_).wp padDisconnect_performs hy).mono fun _ _ hz => hz)
    cases o <;> trivial
  · exact hy

lemma ends_controlBox (l : Label Scan) (hs : Tallies s) : Ends (controlBox l) Rest s := by
  cases l with
  | reconnect =>
    exact (keeps fun o ho => by cases o <;> trivial).reconnect (fun y hy => ⟨hy, hy⟩) hs
  | connecting =>
    exact (keeps fun o ho => by cases o <;> trivial).connecting (fun y hy => ⟨hy, hy, hy⟩) hs
  | loop l =>
    cases l with
    | waiting =>
      refine Wp.op_bind trivial ?_
      rintro (_ | err) _ ⟨-, rfl⟩
      · exact hs
      · exact hs
    | visiting k i =>
      refine (keeps fun o ho => ?_).visit ?_ (fun _ hy => hy)
        (fun value y hy hvalue _ => ends_report k hy hvalue) hs
      · cases o <;> trivial
      · rintro o y r _ ⟨hans, rfl⟩
        exact ⟨hans, rfl⟩
  | exited => exact hs

end Functions

lemma tallies_of_run {t : Trace Sends} {c : Box}
    (hrun : Run (client watch) (Goes controlBox) start t c) {l : Label Scan}
    (hl : c.prog () = .ret l) : Tallies c.shared := by
  have hstart : Tallies start.shared := fun i => by
    revert i
    decide
  obtain ⟨-, hrest⟩ := wp_of_run (J := fun _ _ => True)
    (fun l p s hp hs => hp ▸ ends_controlBox l hs) (fun _ _ _ _ _ _ _ _ => trivial)
    (show Ends (start.prog ()) Rest start.shared from hstart) trivial hrun
  rw [hl] at hrest
  exact hrest

/-- **When no flip is lost**: waiting for the next interrupt, with whatever failures and
reconnections before, the recorded state of every switch with a pin is the one its last request
carried exactly if for each of them an even number of requests was lost since. -/
theorem recorded_iff {t : Trace Sends} {c : Box}
    (hrun : Run (client watch) (Goes controlBox) start t c)
    (hwait : c.prog () = .ret (.loop .waiting)) :
    (∀ i, Wired i → c.shared.1.state i = c.shared.2.last i) ↔
      ∀ i, Wired i → Even (c.shared.2.lost i) :=
  forall_congr' fun i => imp_congr_right fun _ => tallies_of_run hrun hwait i

/-! ### Two runs -/

/-- The calls of a box that connects and is interrupted: the first switch is found on, its
request ends in the loss of the connection, and the box connects again. -/
def flipping (sendmsg : Option Connection.Errno) : List Calls :=
  List.replicate 6 ⟨.ok 3, .ok true, none, none, sendmsg, .error ⟨107, by decide⟩, none,
    fun _ => 0, .ok 4, .ok false, none, none⟩

def flipped (sendmsg : Option Connection.Errno) : Label Scan × Memory × Sends :=
  rounds watch controlBox (.reconnect, start.shared) (flipping sendmsg)

/-- The request was sent, and the answer to it was lost. -/
theorem recorded_iff_flipped : (flipped none).2.1.state 0 = (flipped none).2.2.last 0 := by
  have hrun := run_started watch controlBox start.shared.2 (flipping none)
  exact (recorded_iff hrun rfl).mpr (by decide) 0 (by decide)

/-- The request was lost: the switch is recorded on, and was never sent. -/
theorem not_recorded : ¬ ∀ (t : Trace Sends) (c : Box),
    Run (client watch) (Goes controlBox) start t c → c.prog () = .ret (.loop .waiting) →
      ∀ i, Wired i → c.shared.1.state i = c.shared.2.last i := by
  intro h
  have hrun := run_started watch controlBox start.shared.2 (flipping (some ⟨107, by decide⟩))
  have hfirst := h _ _ hrun rfl 0 rfl
  exact absurd hfirst (by decide)

end Hysim.Flips
