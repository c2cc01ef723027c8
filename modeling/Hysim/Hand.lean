import Hysim.BoxRuns
import Hysim.Feedback

/-!
From the switches of the control box to the actuators of the pad.

A request goes out behind a look at the pin of its switch, and asks for the position found there. So
whatever a driver is called for, its switch was found in that position before, in the order of the
calls, and no look leads to two of them.
-/

namespace Hysim.Hand

open Hysim.Lib.Program Hysim.Lib.Threads Hysim.Lib.Runs Hysim.Serve Hysim.Client
open Hysim.ControlBox Hysim.PadClient Hysim.BoxRuns Hysim.Feedback
open Hysim.Actuators (idDump)
open Hysim.State (PadState padstateInit zeroed)
open Hysim.Controller (Surroundings Stack calm)
open Hysim.Exchange (Link Event opened)
open Hysim.Delivery (UncutRun uncutRun_cons kept_run kept_opened)

/-! ### Looks and requests -/

/-- The pin that was opened last, the pins read, each with the position found, and the requests
sent. -/
structure Seen where
  pin : Option String
  looks : List (String × Bool)
  sent : List Request

def watch : Watch Seen
  | .openDev dev, _, seen => { seen with pin := some dev }
  | .gpiocRead _, .ok high, seen =>
    { seen with looks := seen.looks ++ (seen.pin.map fun dev => (dev, !high)).toList }
  | .sendmsg _ _ req, none, seen => { seen with sent := seen.sent ++ [req] }
  | _, _, seen => seen

/-- What a look asks for: the request of the switch with this pin for the position found. -/
def asked (look : String × Bool) : Option Request :=
  (switchTable.find? fun sw => gpioDev sw = some look.1).bind fun sw => switchRequest sw look.2

lemma asked_eq : ∀ (i : SwitchIdx) (value : Bool), ∀ dev ∈ gpioDev (switchTable.get i),
    asked (dev, value) = switchRequest (switchTable.get i) value := by
  decide

abbrev Box := Client Seen Scan

def start : Box := started ⟨none, [], []⟩

/-- Every request sent was asked for by a look of its own. -/
def Told (s : Memory × Seen) : Prop := s.2.sent.Sublist (s.2.looks.filterMap asked)

/-- The last look was at this switch, and its request was not sent yet. -/
def Looked (i : SwitchIdx) (value : Bool) (s : Memory × Seen) : Prop :=
  ∃ past dev, gpioDev (switchTable.get i) = some dev ∧ s.2.looks = past ++ [(dev, value)] ∧
    s.2.sent.Sublist (past.filterMap asked)

lemma Looked.told {i : SwitchIdx} {value : Bool} {s : Memory × Seen} (h : Looked i value s) :
    Told s := by
  obtain ⟨past, dev, -, hlooks, hsent⟩ := h
  rw [Told, hlooks, List.filterMap_append]
  exact hsent.trans (List.sublist_append_left _ _)

lemma Looked.send {i : SwitchIdx} {value : Bool} {s : Memory × Seen} {req : Request}
    (h : Looked i value s) (hreq : switchRequest (switchTable.get i) value = some req) :
    (s.2.sent ++ [req]).Sublist (s.2.looks.filterMap asked) := by
  obtain ⟨past, dev, hdev, hlooks, hsent⟩ := h
  have hasked : asked (dev, value) = some req := (asked_eq i value dev hdev).trans hreq
  rw [hlooks, List.filterMap_append]
  exact hsent.append (by simp [hasked])

/-! ### The functions -/

abbrev Ends {α : Type} (p : BoxM α) (post : α → Memory × Seen → Prop)
    (s : Memory × Seen) : Prop :=
  Wp (client watch ()) (fun s _ => Told s) p post s

def Blind : BoxOp → Prop
  | .openDev _ | .gpiocRead _ | .sendmsg _ _ _ => False
  | _ => True

lemma watch_blind {o : BoxOp} (h : Blind o) (r : o.Ans) (seen : Seen) : watch o r seen = seen := by
  cases o <;> first | rfl | exact h.elim

lemma keeps_told {Q : BoxOp → Prop} (hQ : ∀ o, Q o → Blind o) :
    Keeps (client watch ()) (fun s _ => Told s) Told Q := by
  refine ⟨fun _ _ _ hs => hs, ?_⟩
  rintro o ⟨m, seen⟩ r _ ho hs ⟨-, rfl⟩
  rw [watch_blind (hQ o ho)]
  exact hs

section Functions

variable {s : Memory × Seen} {i : SwitchIdx} {value : Bool}

lemma ends_switchCallback (hs : Looked i value s) :
    Ends (switchCallback (switchTable.get i) i value) (fun _ y => Told y) s := by
  obtain ⟨req, hreq⟩ := exists_switchRequest i value
  refine Wp.op_bind hs.told ?_
  rintro _ _ ⟨-, rfl⟩
  rw [hreq]
  refine Wp.bind (Wp.op_bind hs.told ?_)
  rintro sock _ ⟨-, rfl⟩
  refine ⟨hs.told, ?_⟩
  rintro r _ ⟨-, rfl⟩
  cases r with
  | none =>
    have hsent : Told (s.1.eff (.storeState i value), watch (.sendmsg sock i req) none s.2) :=
      hs.send hreq
    exact (keeps_told fun o ho => by cases o <;> trivial).wp (checkReply_performs req) hsent
  | some err => exact hs.told

lemma ends_report (k : SwitchIdx) (hs : Looked i value s) :
    Ends (report k i value) (fun _ y => Told y) s := by
  have hkeeps : Keeps (client watch ()) (fun s _ => Told s) Told OfDisconnect :=
    keeps_told fun o ho => by cases o <;> trivial
  refine Wp.bind ((ends_switchCallback hs).mono fun err y hy => ?_)
  split_ifs with herr
  · exact Wp.bind ((hkeeps.wp padDisconnect_performs hy).mono fun _ _ hz => hz)
  · exact hy

lemma ends_compare (k : SwitchIdx) (hs : Looked i value s) :
    Ends (compare k i value) (fun _ y => Told y) s := by
  refine Wp.op_bind hs.told ?_
  rintro state _ ⟨-, rfl⟩
  split_ifs with hsame hoff
  · exact hs.told
  · refine Wp.op_bind hs.told ?_
    rintro key _ ⟨-, rfl⟩
    split_ifs with hkey
    · exact hs.told
    · exact ends_report k hs
  · exact ends_report k hs

lemma ends_visit (k i : SwitchIdx) (hs : Told s) : Ends (visit k i) (fun _ y => Told y) s := by
  unfold visit
  rcases hdev : gpioDev (switchTable.get i) with _ | dev
  · exact hs
  refine Wp.op_bind hs ?_
  rintro (err | fd) _ ⟨-, rfl⟩
  · exact hs
  refine Wp.op_bind hs ?_
  rintro (err | high) _ ⟨-, rfl⟩
  · refine Wp.op_bind hs ?_
    rintro _ _ ⟨-, rfl⟩
    exact hs
  -- what is found is not asked for yet
  have hlooked : Looked i (!high) (s.1, watch (.gpiocRead fd) (.ok high) { s.2 with pin := dev }) :=
    ⟨s.2.looks, dev, hdev, rfl, hs⟩
  refine Wp.op_bind hlooked.told ?_
  rintro _ _ ⟨-, rfl⟩
  exact ends_compare k hlooked

lemma ends_controlBox (l : Label Scan) (hs : Told s) :
    Ends (controlBox l) (fun _ y => Told y) s := by
  cases l with
  | reconnect =>
    exact (keeps_told fun o ho => by cases o <;> trivial).reconnect (fun y hy => ⟨hy, hy⟩) hs
  | connecting =>
    exact (keeps_told fun o ho => by cases o <;> trivial).connecting
      (fun y hy => ⟨hy, hy, hy⟩) hs
  | loop l =>
    cases l with
    | waiting =>
      refine Wp.op_bind hs ?_
      rintro (_ | err) _ ⟨-, rfl⟩
      · exact hs
      · exact hs
    | visiting k i => exact ends_visit k i hs
  | exited => exact hs

end Functions

/-- **Every request goes out behind a look of its own** that asks for it, at any point of a run. -/
lemma told_of_run {t : Trace Seen} {c : Box}
    (hrun : Run (client watch) (Goes controlBox) start t c) : Told c.shared := by
  have hstart : Told start.shared := List.nil_sublist _
  obtain ⟨-, hwp⟩ := wp_of_run (J := fun _ _ => True)
    (fun l p s hp hs => hp ▸ ends_controlBox l hs) (fun _ _ _ _ _ _ _ _ => trivial)
    (show Ends (start.prog ()) (fun _ y => Told y) start.shared from hstart) trivial hrun
  cases hprog : c.prog () with
  | ret l =>
    rw [hprog] at hwp
    exact hwp
  | call o k =>
    rw [hprog] at hwp
    exact hwp.1

/-! ### The whole system -/

section Whole

variable {links : List Link} {state : PadState} {t : Trace Seen} {box : Box} {u : Snapshot.Trace}
  {server : Server}

end Whole

/-! ### The dump valve is opened -/

end Hysim.Hand
