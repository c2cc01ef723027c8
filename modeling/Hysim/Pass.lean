import Hysim.BoxRuns

/-!
The recorded states of the switches against their positions.

A pass looks at every switch with a pin, and what it reads is recorded and reported if it is not
the recorded state. Only the ignition switched off without the key is passed over.
-/

namespace Hysim.Pass

open Hysim.Lib.Program Hysim.Lib.Threads Hysim.Lib.Runs Hysim.Serve Hysim.Client
open Hysim.ControlBox Hysim.PadClient Hysim.BoxRuns

/-! ### Looks -/

def ignitionSwitchIdx : SwitchIdx := ⟨17, by decide⟩

/-- What became of the flip of a switch: it was not seen yet, it was seen, its request was handed
to `sendmsg`, or it was the ignition switched off and the key turned out to be off. -/
inductive Flip
  | unseen
  | seen
  | reported
  | denied
  deriving DecidableEq

/-- The pin that was opened last, and what became of the first flip of each switch. -/
structure Looks where
  pin : Option String
  flip : SwitchIdx → Flip

def unseen : Looks := ⟨none, fun _ => .unseen⟩

variable (pos : SwitchIdx → Bool)

/-- A flip is to another position than this one. -/
def watch : Watch Looks
  | .openDev dev, _, looks => { looks with pin := some dev }
  | .gpiocRead _, .ok high, looks =>
    { looks with flip := fun i =>
        if looks.flip i = .unseen ∧ looks.pin = gpioDev (switchTable.get i) ∧ (!high) ≠ pos i then
          .seen
        else looks.flip i }
  | .loadState j, false, looks =>
    { looks with flip := fun i =>
        if looks.flip i = .seen ∧ j = valveArmingSwitchIdx ∧
          turningOffIgnition (switchTable.get i) (!pos i) = true then .denied
        else looks.flip i }
  | .sendmsg _ j req, _, looks =>
    { looks with flip := fun i =>
        if looks.flip i = .seen ∧ j = i ∧ switchRequest (switchTable.get i) (!pos i) = some req then
          .reported
        else looks.flip i }
  | _, _, looks => looks

/-- No switch moves, every look at a pin succeeds, and so does sending and receiving. -/
def Calm : (o : BoxOp) → o.Ans → Looks → Prop
  | .openDev _, r, _ => ∃ fd, r = .ok fd
  | .gpiocRead _, r, looks =>
    ∀ i, Wired i → looks.pin = gpioDev (switchTable.get i) → r = .ok (!pos i)
  | .sendmsg _ _ _, r, _ => r = none
  | .recv _ _, r, _ => ∃ bytes, r = .ok bytes
  | _, _, _ => True

abbrev Box := Client Looks Scan

/-- The box at the start of a pass, with nothing seen yet. -/
def passing (m : Memory) (k : SwitchIdx) : Box :=
  ⟨(m, unseen), fun _ => .ret (.loop (.visiting k 0))⟩

/-- A switch is recorded where it is. The ignition may be left as it was before, if it is off and
the key is off. -/
def Settled (before state : SwitchIdx → Bool) (i : SwitchIdx) : Prop :=
  state i = pos i ∨ (i = ignitionSwitchIdx ∧ pos ignitionSwitchIdx = false ∧
    pos valveArmingSwitchIdx = false ∧ state i = before i)

/-! ### A pass -/

abbrev CalmStep := fun (o : BoxOp) s r s' =>
  client (watch pos) () o s r s' ∧ Calm pos o r s.2

abbrev Ends {α : Type} (p : BoxM α) (post : α → Memory × Looks → Prop)
    (s : Memory × Looks) : Prop :=
  Wp (CalmStep pos) (fun _ _ => True) p post s

def Unflipped (s : Memory × Looks) : Prop := ∀ i, Wired i → s.2.flip i = .unseen

def AllSettled (before : SwitchIdx → Bool) (s : Memory × Looks) : Prop :=
  ∀ i, Wired i → Settled pos before s.1.state i

/-- In its first pass the box has settled the switches it has looked at, and not touched the
others. After that all are settled. -/
def Rest (k : SwitchIdx) (before : SwitchIdx → Bool) : Label Scan → Memory × Looks → Prop
  | .loop .waiting, s => Unflipped s ∧ AllSettled pos before s
  | .loop (.visiting k' i), s => Unflipped s ∧
    (AllSettled pos before s ∨ (k' = k ∧ (∀ j < i, Wired j → Settled pos before s.1.state j) ∧
      ∀ j ≥ i, s.1.state j = before j))
  | _, _ => False

variable {pos}

lemma unflipped_step {o : BoxOp} {s s' : Memory × Looks} {r : o.Ans} (h : Unflipped s)
    (hstep : CalmStep pos o s r s') : Unflipped s' := by
  obtain ⟨⟨-, rfl⟩, hcalm⟩ := hstep
  intro i hi
  have hunseen := h i hi
  cases o
  case gpiocRead fd =>
    cases r with
    | error err => exact hunseen
    | ok high =>
      refine (if_neg ?_).trans hunseen
      rintro ⟨-, hpin, hmoved⟩
      have hhigh : Except.ok high = Except.ok (!pos i) := hcalm i hi hpin
      simp [Except.ok.inj hhigh] at hmoved
  case loadState j =>
    cases r with
    | true => exact hunseen
    | false => exact (if_neg fun hseen => by simp [hunseen] at hseen).trans hunseen
  case sendmsg fd j req => exact (if_neg fun hseen => by simp [hunseen] at hseen).trans hunseen
  all_goals exact hunseen

def Unrecorded : BoxOp → Prop
  | .storeState _ _ => False
  | _ => True

lemma keeps (pos state : SwitchIdx → Bool) :
    Keeps (CalmStep pos) (fun _ _ => True) (fun s => s.1.state = state ∧ Unflipped s)
      Unrecorded := by
  refine ⟨fun _ _ _ _ => trivial, ?_⟩
  rintro o s r s' ho ⟨hstate, hunflipped⟩ hstep
  refine ⟨?_, unflipped_step hunflipped hstep⟩
  obtain ⟨⟨-, rfl⟩, -⟩ := hstep
  cases o <;> first | exact hstate | exact ho.elim

section Functions

variable {s : Memory × Looks} {k k' i : SwitchIdx} {before : SwitchIdx → Bool}

lemma ends_switchCallback (hunflipped : Unflipped s) :
    Ends pos (switchCallback (switchTable.get i) i (pos i)) (fun err y =>
      ¬ (err = enotconn ∨ err = econnaborted ∨ err = econnrefused) ∧
        y.1.state = Function.update s.1.state i (pos i) ∧ Unflipped y) s := by
  have hkeep := keeps pos (Function.update s.1.state i (pos i))
  refine Wp.op_bind trivial fun _ y hy => ?_
  have hmarked : y.1.state = Function.update s.1.state i (pos i) ∧ Unflipped y := by
    refine ⟨?_, unflipped_step hunflipped hy⟩
    obtain ⟨⟨-, rfl⟩, -⟩ := hy
    rfl
  rcases switchRequest (switchTable.get i) (pos i) with _ | req
  · exact ⟨by decide, hmarked⟩
  refine Wp.bind (hkeep.op (o := .loadSock) trivial hmarked fun sock y hy => ⟨trivial, ?_⟩)
  intro r z hz
  have hsent := hkeep.step (.sendmsg sock i req) y r z trivial hy hz
  obtain ⟨-, hnone⟩ := hz
  obtain rfl : r = none := hnone
  refine hkeep.op (o := .stack) trivial hsent fun stale y hy => ?_
  refine Wp.bind (hkeep.op (o := .loadSock) trivial hy fun sock y hy => ⟨trivial, ?_⟩)
  intro reply z hz
  have hreceived := hkeep.step (.recv sock (ackSize req)) y reply z trivial hy hz
  obtain ⟨-, bytes, rfl⟩ := hz
  exact ⟨checkResponse_ok req stale bytes, hreceived⟩

/-- A visit ends at the next switch, and has settled this one. -/
def Visited (pos before : SwitchIdx → Bool) (k i : SwitchIdx) (s : Memory × Looks)
    (l : Label Scan) (y : Memory × Looks) : Prop :=
  l = .loop (.advance k i) ∧ Unflipped y ∧ Settled pos before y.1.state i ∧
    ∀ j ≠ i, y.1.state j = s.1.state j

lemma ends_report (hunflipped : Unflipped s) :
    Ends pos (report k i (pos i)) (Visited pos before k i s) s := by
  refine Wp.bind ((ends_switchCallback hunflipped).mono ?_)
  rintro err y ⟨herr, hstate, hy⟩
  rw [if_neg herr]
  refine ⟨rfl, hy, .inl ?_, fun j hj => ?_⟩
  · rw [hstate, Function.update_self]
  · rw [hstate, Function.update_of_ne hj]

lemma ends_compare (hunflipped : Unflipped s)
    (hkey : i = ignitionSwitchIdx → s.1.state valveArmingSwitchIdx = pos valveArmingSwitchIdx)
    (hkept : s.1.state i = pos i ∨ s.1.state i = before i) :
    Ends pos (compare k i (pos i)) (Visited pos before k i s) s := by
  have hoffs : ∀ (i : SwitchIdx) (value : Bool),
      turningOffIgnition (switchTable.get i) value = true →
        i = ignitionSwitchIdx ∧ value = false := by decide
  refine Wp.op_bind trivial fun state y hy => ?_
  have hlooked := unflipped_step hunflipped hy
  obtain ⟨⟨rfl, rfl⟩, -⟩ := hy
  split_ifs with hsame hoff
  · exact ⟨rfl, hlooked, .inl hsame.symm, fun _ _ => rfl⟩
  · refine Wp.op_bind trivial fun key z hz => ?_
    have hasked := unflipped_step hlooked hz
    obtain ⟨⟨rfl, rfl⟩, -⟩ := hz
    obtain ⟨hi, hpos⟩ := hoffs i (pos i) hoff
    split_ifs with hskip
    · refine ⟨rfl, hasked, .inr ⟨hi, hi ▸ hpos, ?_, ?_⟩, fun _ _ => rfl⟩
      · rw [← hkey hi]
        simpa using hskip
      · exact hkept.resolve_left fun hsettled => hsame hsettled.symm
    · exact ends_report hasked
  · exact ends_report hlooked

lemma ends_visit (hunflipped : Unflipped s) (hwired : Wired i)
    (hkey : i = ignitionSwitchIdx → s.1.state valveArmingSwitchIdx = pos valveArmingSwitchIdx)
    (hkept : s.1.state i = pos i ∨ s.1.state i = before i) :
    Ends pos (visit k i) (Visited pos before k i s) s := by
  obtain ⟨dev, hdev⟩ := Option.isSome_iff_exists.mp hwired
  unfold visit
  rw [hdev]
  refine Wp.op_bind trivial fun fd y hy => ?_
  have hopened := unflipped_step hunflipped hy
  obtain ⟨⟨-, rfl⟩, fd, rfl⟩ := hy
  refine Wp.op_bind trivial fun read z hz => ?_
  have hread := unflipped_step hopened hz
  obtain ⟨⟨-, rfl⟩, hcalm⟩ := hz
  obtain rfl : read = .ok (!pos i) := hcalm i hwired hdev.symm
  refine Wp.op_bind trivial fun closed y hy => ?_
  have hclosed := unflipped_step hread hy
  obtain ⟨⟨-, rfl⟩, -⟩ := hy
  rw [Bool.not_not]
  exact ends_compare hclosed hkey hkept

/-! ### Every pass -/

lemma settled_of_ne {state : SwitchIdx → Bool} {j : SwitchIdx} (h : Settled pos before state j)
    (hj : j ≠ ignitionSwitchIdx) : state j = pos j :=
  h.resolve_right fun hleft => hj hleft.1

lemma Settled.congr {state state' : SwitchIdx → Bool} {j : SwitchIdx}
    (h : Settled pos before state j) (hsame : state' j = state j) :
    Settled pos before state' j := by
  unfold Settled at h ⊢
  rwa [hsame]

lemma rest_visiting (h : Rest pos k before (.loop (.visiting k' i)) s) (hwired : Wired i) :
    (i = ignitionSwitchIdx → s.1.state valveArmingSwitchIdx = pos valveArmingSwitchIdx) ∧
      (s.1.state i = pos i ∨ s.1.state i = before i) := by
  have hkey : Wired valveArmingSwitchIdx := by decide
  have hne : valveArmingSwitchIdx ≠ ignitionSwitchIdx := by decide
  rcases h.2 with hall | ⟨-, hbelow, hkept⟩
  · exact ⟨fun _ => settled_of_ne (hall _ hkey) hne, (hall i hwired).imp id fun h => h.2.2.2⟩
  · refine ⟨?_, .inr (hkept i le_rfl)⟩
    rintro rfl
    exact settled_of_ne (hbelow _ (by decide) hkey) hne

lemma rest_advance {y : Memory × Looks}
    (h : Rest pos k before (.loop (.visiting k' i)) s) (hunflipped : Unflipped y)
    (hsettled : Wired i → Settled pos before y.1.state i)
    (hother : ∀ j ≠ i, y.1.state j = s.1.state j) :
    Rest pos k before (.loop (.advance k' i)) y := by
  have hstep (j : SwitchIdx) (hj : j ≠ i → Settled pos before s.1.state j) (hwired : Wired j) :
      Settled pos before y.1.state j := by
    by_cases hji : j = i
    · exact hji ▸ hsettled (hji ▸ hwired)
    · exact (hj hji).congr (hother j hji)
  have hall (hall : AllSettled pos before y) : Rest pos k before (.loop (.advance k' i)) y := by
    unfold Scan.advance
    split_ifs with hi hk
    · exact ⟨hunflipped, .inl hall⟩
    · exact ⟨hunflipped, .inl hall⟩
    · exact ⟨hunflipped, hall⟩
  rcases h.2 with hs | ⟨rfl, hbelow, hkept⟩
  · exact hall fun j hj => hstep j (fun _ => hs j hj) hj
  by_cases hi : i.val + 1 < numSwitches
  · unfold Scan.advance
    rw [dif_pos hi]
    refine ⟨hunflipped, .inr ⟨rfl, fun j hj hwired => hstep j (fun hne => ?_) hwired,
      fun j hj => ?_⟩⟩
    · exact hbelow j (lt_of_le_of_ne (Nat.lt_succ_iff.mp hj) hne) hwired
    · have hlt : i < j := hj
      rw [hother j hlt.ne', hkept j hlt.le]
  · refine hall fun j hj => hstep j (fun hne => hbelow j ?_ hj) hj
    have hlast : j.val ≤ i.val := by omega
    exact lt_of_le_of_ne hlast hne

lemma ends_controlBox (l : Label Scan) (h : Rest pos k before l s) :
    Ends pos (controlBox l) (Rest pos k before) s := by
  cases l with
  | reconnect => exact h.elim
  | connecting => exact h.elim
  | loop l =>
    cases l with
    | waiting =>
      refine Wp.op_bind trivial fun signal y hy => ?_
      have hy' := unflipped_step h.1 hy
      obtain ⟨⟨-, rfl⟩, -⟩ := hy
      cases signal with
      | some err => exact ⟨hy', h.2⟩
      | none => exact ⟨hy', .inl h.2⟩
    | visiting k' i =>
      by_cases hwired : Wired i
      · obtain ⟨hkey, hkept⟩ := rest_visiting h hwired
        refine (ends_visit h.1 hwired hkey hkept).mono ?_
        rintro _ y ⟨rfl, hunflipped, hsettled, hother⟩
        exact rest_advance h hunflipped (fun _ => hsettled) hother
      · have hnone : gpioDev (switchTable.get i) = none := by simpa [Wired] using hwired
        change Ends pos (visit k' i) _ s
        unfold visit
        rw [hnone]
        exact rest_advance h h.1 (fun h => absurd h hwired) fun _ _ => rfl
  | exited => exact h.elim

end Functions

lemma allSettled_of_run {m : Memory} {k : SwitchIdx} {t : Trace Looks} {d : Box}
    (hrun : Run (client (watch pos)) (Goes controlBox) (passing m k) t d)
    (hcalm : ∀ m ∈ t, Calm pos m.op m.ans m.found.2) {l : Label Scan} (hend : d.prog () = .ret l)
    (hpass : ∀ i, l ≠ .loop (.visiting k i)) :
    Unflipped d.shared ∧ AllSettled pos m.state d.shared := by
  have hstart : Ends pos ((passing m k).prog ()) (Rest pos k m.state) (passing m k).shared :=
    ⟨fun _ _ => rfl, .inr ⟨rfl, fun j hj => absurd hj (Nat.not_lt_zero j), fun _ _ => rfl⟩⟩
  obtain ⟨-, hrest⟩ := wp_of_run (J := fun _ _ => True)
    (fun l p s hp hs => hp ▸ ends_controlBox l hs) (fun _ _ _ _ _ _ _ _ => trivial) hstart trivial
    (hrun.restrict hcalm)
  rw [hend] at hrest
  match l, hrest with
  | .loop .waiting, ⟨hunflipped, hall⟩ => exact ⟨hunflipped, hall⟩
  | .loop (.visiting k' i), ⟨hunflipped, hor⟩ =>
    refine ⟨hunflipped, hor.resolve_right fun hfirst => ?_⟩
    exact hpass i (hfirst.1 ▸ rfl)

/-! ### Flips -/

/-- The flip of a switch was not seen, and the switch is recorded where it was, or the flip was
dealt with. -/
def Followed (pos : SwitchIdx → Bool) (i : SwitchIdx) (s : Memory × Looks) : Prop :=
  s.2.flip i ≠ .seen ∧ (s.2.flip i = .unseen → s.1.state i = pos i)

section Flips

variable {s : Memory × Looks} {k i j : SwitchIdx}

abbrev Follows (pos : SwitchIdx → Bool) {α : Type} (p : BoxM α) (post : α → Memory × Looks → Prop)
    (s : Memory × Looks) : Prop :=
  Wp (client (watch pos) ()) (fun _ _ => True) p post s

lemma keeps_done (pos : SwitchIdx → Bool) {f : Flip} (hf : f = .reported ∨ f = .denied)
    (i : SwitchIdx) :
    Keeps (client (watch pos) ()) (fun _ _ => True) (fun s => s.2.flip i = f) fun _ => True := by
  have hunseen : f ≠ .unseen := by rcases hf with rfl | rfl <;> decide
  have hseen : f ≠ .seen := by rcases hf with rfl | rfl <;> decide
  refine ⟨fun _ _ _ _ => trivial, ?_⟩
  rintro o s r _ - hs ⟨-, rfl⟩
  have hnot : s.2.flip i ≠ .unseen ∧ s.2.flip i ≠ .seen := by rw [hs]; exact ⟨hunseen, hseen⟩
  cases o
  case gpiocRead fd =>
    cases r with
    | error err => exact hs
    | ok high => exact (if_neg fun h => hnot.1 h.1).trans hs
  case loadState j =>
    cases r with
    | true => exact hs
    | false => exact (if_neg fun h => hnot.2 h.1).trans hs
  case sendmsg fd j req => exact (if_neg fun h => hnot.2 h.1).trans hs
  all_goals exact hs

/-- The switch is recorded where it was, and no flip of it was seen. -/
def Aside (pos : SwitchIdx → Bool) (i : SwitchIdx) (s : Memory × Looks) : Prop :=
  s.2.flip i = .unseen ∧ s.1.state i = pos i

def NotLooking (i : SwitchIdx) (s : Memory × Looks) : BoxOp → Prop
  | .gpiocRead _ => s.2.pin ≠ gpioDev (switchTable.get i)
  | .storeState j _ => j ≠ i
  | _ => True

lemma aside_step {o : BoxOp} {r : o.Ans} (h : Aside pos i s) (ho : NotLooking i s o) :
    Aside pos i (s.1.eff o, watch pos o r s.2) := by
  obtain ⟨hunseen, hstate⟩ := h
  cases o
  case gpiocRead fd =>
    cases r with
    | error err => exact ⟨hunseen, hstate⟩
    | ok high => exact ⟨(if_neg fun hread => ho hread.2.1).trans hunseen, hstate⟩
  case loadState j =>
    cases r with
    | true => exact ⟨hunseen, hstate⟩
    | false => exact ⟨(if_neg fun h => by simp [hunseen] at h).trans hunseen, hstate⟩
  case sendmsg fd j req =>
    exact ⟨(if_neg fun h => by simp [hunseen] at h).trans hunseen, hstate⟩
  case storeState j state =>
    refine ⟨hunseen, ?_⟩
    change Function.update s.1.state j state i = pos i
    rw [Function.update_of_ne (Ne.symm ho)]
    exact hstate
  all_goals exact ⟨hunseen, hstate⟩

/-- The operations at other switches, once their pin is open. -/
def Elsewhere (i : SwitchIdx) : BoxOp → Prop
  | .openDev _ => False
  | .storeState j _ => j ≠ i
  | _ => True

def Between : BoxOp → Prop
  | .gpiocRead _ | .storeState _ _ => False
  | _ => True

lemma keeps_elsewhere (pos : SwitchIdx → Bool)
    (hpin : gpioDev (switchTable.get j) ≠ gpioDev (switchTable.get i)) :
    Keeps (client (watch pos) ()) (fun _ _ => True)
      (fun s => Aside pos i s ∧ s.2.pin = gpioDev (switchTable.get j)) (Elsewhere i) := by
  refine ⟨fun _ _ _ _ => trivial, ?_⟩
  rintro o s r _ ho ⟨haside, hopen⟩ ⟨-, rfl⟩
  refine ⟨aside_step haside ?_, ?_⟩
  · cases o
    case gpiocRead fd => exact fun h => hpin (hopen.symm.trans h)
    case storeState j state => exact ho
    all_goals trivial
  · cases o
    case openDev dev => exact ho.elim
    case gpiocRead fd => cases r <;> exact hopen
    case loadState j => cases r <;> exact hopen
    all_goals exact hopen

lemma keeps_between {Q : BoxOp → Prop} (hQ : ∀ o, Q o → Between o) :
    Keeps (client (watch pos) ()) (fun _ _ => True) (Aside pos i) Q := by
  refine ⟨fun _ _ _ _ => trivial, ?_⟩
  rintro o s r _ ho haside ⟨-, rfl⟩
  refine aside_step haside ?_
  have hbetween := hQ o ho
  cases o <;> trivial

lemma switchCallback_performs (sw : Switch) (hj : j ≠ i) (value : Bool) :
    Performs (Elsewhere i) (switchCallback sw j value) := by
  unfold switchCallback
  refine Performs.bind (p := storeState j value) ⟨hj, fun _ => trivial⟩ fun _ => ?_
  rcases switchRequest sw value with _ | req
  · trivial
  · refine ⟨trivial, fun sock => ⟨trivial, fun sent => ?_⟩⟩
    rcases sent with _ | err
    · exact (checkReply_performs req).mono fun o ho => by cases o <;> trivial
    · trivial

lemma report_performs (k : SwitchIdx) (hj : j ≠ i) (value : Bool) :
    Performs (Elsewhere i) (report k j value) := by
  refine (switchCallback_performs _ hj value).bind fun err => ?_
  split_ifs with herr
  · refine (padDisconnect_performs.mono fun o ho => ?_).bind fun _ => trivial
    cases o <;> trivial
  · trivial

lemma compare_performs (k : SwitchIdx) (hj : j ≠ i) (value : Bool) :
    Performs (Elsewhere i) (compare k j value) := by
  refine ⟨trivial, fun state => ?_⟩
  change Performs _ (if value = state then _ else _)
  split_ifs with hsame hoff
  · trivial
  · refine ⟨trivial, fun key => ?_⟩
    change Performs _ (if (!key) = true then _ else _)
    split_ifs with hskip
    · trivial
    · exact report_performs k hj value
  · exact report_performs k hj value

lemma follows_switchCallback (hseen : s.2.flip i = .seen) :
    Follows pos (switchCallback (switchTable.get i) i (!pos i))
      (fun _ y => y.2.flip i = .reported) s := by
  obtain ⟨req, hreq⟩ := exists_switchRequest i (!pos i)
  refine Wp.op_bind trivial ?_
  rintro _ _ ⟨-, rfl⟩
  rw [hreq]
  refine Wp.bind (Wp.op_bind trivial ?_)
  rintro sock _ ⟨-, rfl⟩
  refine ⟨trivial, ?_⟩
  rintro r _ ⟨-, rfl⟩
  have hreported : (watch pos (.sendmsg sock i req) r s.2).flip i = .reported :=
    if_pos ⟨hseen, rfl, hreq⟩
  cases r with
  | none =>
    have hreply := (checkReply_performs req).mono fun _ _ => trivial
    exact (keeps_done pos (.inl rfl) i).wp hreply hreported
  | some err => exact hreported

lemma follows_report (hseen : s.2.flip i = .seen) :
    Follows pos (report k i (!pos i)) (fun _ y => y.2.flip i = .reported) s := by
  refine Wp.bind ((follows_switchCallback hseen).mono fun err y hy => ?_)
  split_ifs with herr
  · have hclose := padDisconnect_performs.mono fun _ _ => trivial
    exact Wp.bind (((keeps_done pos (.inl rfl) i).wp hclose hy).mono fun _ _ hz => hz)
  · exact hy

lemma Aside.followed (h : Aside pos i s) : Followed pos i s :=
  ⟨by rw [h.1]; decide, fun _ => h.2⟩

lemma followed_done (h : s.2.flip i = .reported ∨ s.2.flip i = .denied) : Followed pos i s := by
  rcases h with h | h <;> simp [Followed, h]

/-- A flip that was seen is reported, or found to be the ignition switched off without the key. -/
lemma follows_flipped (hseen : s.2.flip i = .seen) (hstate : s.1.state i = pos i) :
    Follows pos (compare k i (!pos i)) (fun _ => Followed pos i) s := by
  have hkeyOff : turningOffIgnition (switchTable.get valveArmingSwitchIdx)
      (!pos valveArmingSwitchIdx) = false := by cases pos valveArmingSwitchIdx <;> decide
  have hreport {y : Memory × Looks} (hy : y.2.flip i = .seen) :
      Follows pos (report k i (!pos i)) (fun _ => Followed pos i) y :=
    (follows_report hy).mono fun _ z hz => followed_done (.inl hz)
  refine Wp.op_bind trivial ?_
  rintro state _ ⟨rfl, rfl⟩
  -- the load of its own record does not deny the flip, as the key is not the ignition
  have hseen' : (watch pos (.loadState i) (s.1.state i) s.2).flip i = .seen := by
    cases s.1.state i with
    | true => exact hseen
    | false =>
      refine (if_neg ?_).trans hseen
      rintro ⟨-, rfl, hoff⟩
      exact absurd hoff (by rw [hkeyOff]; decide)
  have hmoved : (!pos i) ≠ s.1.state i := by rw [hstate]; cases pos i <;> decide
  rw [if_neg hmoved]
  split_ifs with hoff
  · refine Wp.op_bind trivial ?_
    rintro (_ | _) _ ⟨-, rfl⟩
    · exact followed_done (.inr (if_pos ⟨hseen', rfl, hoff⟩))
    · exact hreport hseen'
  · exact hreport hseen'

lemma follows_compare (haside : Aside pos i s) :
    Follows pos (compare k i (pos i)) (fun _ => Followed pos i) s := by
  refine Wp.op_bind trivial ?_
  rintro state _ ⟨rfl, rfl⟩
  rw [if_pos haside.2.symm]
  exact (aside_step (o := .loadState i) haside trivial).followed

lemma follows_visit (hi : Wired i) (haside : Aside pos i s) :
    Follows pos (visit k j) (fun _ => Followed pos i) s := by
  have hinj : ∀ i j : SwitchIdx, Wired i →
      gpioDev (switchTable.get j) = gpioDev (switchTable.get i) → j = i := by decide
  unfold visit
  rcases hdev : gpioDev (switchTable.get j) with _ | dev
  · exact haside.followed
  refine Wp.op_bind trivial ?_
  rintro fd _ ⟨-, rfl⟩
  have hopened : Aside pos i (s.1, { s.2 with pin := some dev }) := haside
  rcases fd with err | fd
  · exact hopened.followed
  by_cases hj : j = i
  · subst hj
    refine Wp.op_bind trivial ?_
    rintro (err | high) _ ⟨-, rfl⟩
    · refine Wp.op_bind trivial ?_
      rintro _ _ ⟨-, rfl⟩
      exact hopened.followed
    refine Wp.op_bind trivial ?_
    rintro _ _ ⟨-, rfl⟩
    by_cases hsame : (!high) = pos j
    · rw [hsame]
      refine follows_compare ⟨(if_neg fun h => h.2.2 hsame).trans haside.1, haside.2⟩
    · have hmoved : (!high) = !pos j := by
        revert hsame
        cases high <;> cases pos j <;> decide
      rw [hmoved]
      exact follows_flipped (if_pos ⟨haside.1, hdev.symm, hsame⟩) haside.2
  · have hkeep := keeps_elsewhere pos (j := j) fun h => hj (hinj i j hi h)
    refine (hkeep.wp ?_ ⟨hopened, hdev.symm⟩).mono fun _ y hy => hy.1.followed
    refine ⟨trivial, fun read => ?_⟩
    rcases read with err | high
    · exact ⟨trivial, fun _ => trivial⟩
    · exact ⟨trivial, fun _ => compare_performs k hj _⟩

lemma follows_controlBox (hi : Wired i) (l : Label Scan) (h : Followed pos i s) :
    Follows pos (controlBox l) (fun _ => Followed pos i) s := by
  obtain ⟨hseen, hstate⟩ := h
  by_cases hunseen : s.2.flip i = .unseen
  · have haside : Aside pos i s := ⟨hunseen, hstate hunseen⟩
    cases l with
    | reconnect =>
      exact (keeps_between fun o ho => by cases o <;> trivial).reconnect
        (fun y hy => ⟨hy.followed, hy.followed⟩) haside
    | connecting =>
      exact (keeps_between fun o ho => by cases o <;> trivial).connecting
        (fun y hy => ⟨hy.followed, hy.followed, hy.followed⟩) haside
    | loop l =>
      cases l with
      | waiting =>
        refine Wp.op_bind trivial ?_
        rintro (_ | err) _ ⟨-, rfl⟩
        · exact haside.followed
        · exact haside.followed
      | visiting k j => exact follows_visit hi haside
    | exited => exact haside.followed
  · have hdone : s.2.flip i = .reported ∨ s.2.flip i = .denied := by
      cases hflip : s.2.flip i with
      | unseen => exact absurd hflip hunseen
      | seen => exact absurd hflip hseen
      | reported => exact .inl rfl
      | denied => exact .inr rfl
    have hkeep := (keeps_done pos hdone i).wp (performs_true (controlBox l)) rfl
    exact hkeep.mono fun _ y hy => followed_done (hy ▸ hdone)

end Flips

/-- **The record follows the switches**: after any pass in which no switch moves and no look,
`send` or `recv` fails, every switch with a pin is recorded where it is, except that the ignition
may be left as it was if it and the key are both off. A switch that is recorded where it is has
its next flip detected, whatever fails from then on: once the flip is read its request is sent,
unless it is the ignition switched off while the key is recorded off. -/
theorem settled_of_pass {m : Memory} {k : SwitchIdx} {t : Trace Looks} {d : Box}
    (hrun : Run (client (watch pos)) (Goes controlBox) (passing m k) t d)
    (hcalm : ∀ m ∈ t, Calm pos m.op m.ans m.found.2) {l : Label Scan} (hend : d.prog () = .ret l)
    (hpass : ∀ i, l ≠ .loop (.visiting k i)) :
    (∀ i, Wired i → Settled pos m.state d.shared.1.state i) ∧
    ∀ i, Wired i → d.shared.1.state i = pos i → ∀ (u : Trace Looks) (e : Box) (l' : Label Scan),
      Run (client (watch pos)) (Goes controlBox) d u e → e.prog () = .ret l' →
        e.shared.2.flip i ≠ .seen := by
  obtain ⟨hunflipped, hall⟩ := allSettled_of_run hrun hcalm hend hpass
  refine ⟨hall, fun i hi hstate u e l' hlater hlabel => ?_⟩
  have hstart : Follows pos (d.prog ()) (fun _ => Followed pos i) d.shared := by
    rw [hend]
    exact Aside.followed ⟨hunflipped i hi, hstate⟩
  obtain ⟨-, hfollowed⟩ := wp_of_run (J := fun _ _ => True)
    (fun l p s hp hs => hp ▸ follows_controlBox hi l hs) (fun _ _ _ _ _ _ _ _ => trivial) hstart
    trivial hlater
  rw [hlabel] at hfollowed
  exact hfollowed.1

/-! ### Two histories -/

/-- The calls of a box whose looks find this position, with every request sent and answered. -/
def reading (on : Bool) : Calls :=
  ⟨.ok 3, .ok true, none, none, none, .ok [0, 0], none, fun _ => 0, .ok 4, .ok (!on), none, none⟩

lemma calm_reading (on : Bool) (n : ℕ) (x : Label Scan × Memory × Looks) :
    ∀ m ∈ trace (watch fun _ => on) controlBox x (List.replicate n (reading on)),
      Calm (fun _ => on) m.op m.ans m.found.2 := by
  refine fun m hm => trace_all (P := fun o r => ∀ looks, Calm (fun _ => on) o r looks) ?_ x m hm _
  intro calls hcalls o m looks
  rw [List.eq_of_mem_replicate hcalls]
  cases o
  case openDev dev => exact ⟨4, rfl⟩
  case gpiocRead fd => exact fun _ _ _ => rfl
  case sendmsg fd i req => rfl
  case recv fd n => exact ⟨[0, 0], rfl⟩
  all_goals trivial

def passed (on : Bool) (m : Memory) (k : SwitchIdx) : Label Scan × Memory × Looks :=
  rounds (watch fun _ => on) controlBox (.loop (.visiting k 0), m, unseen)
    (List.replicate numSwitches (reading on))

lemma run_passed (on : Bool) (m : Memory) (k : SwitchIdx) :
    ∃ t : Trace Looks, (∀ m ∈ t, Calm (fun _ => on) m.op m.ans m.found.2) ∧
      Run (client (watch fun _ => on)) (Goes controlBox) (passing m k) t
        ⟨(passed on m k).2, fun _ => .ret (passed on m k).1⟩ :=
  ⟨_, calm_reading on numSwitches _,
    run_rounds (x := (Label.loop (Scan.visiting k 0), m, unseen))
      (List.replicate numSwitches (reading on)) .refl⟩

/-- Every switch is turned on, and the ignition is recorded on, too. -/
theorem settled_of_pass_on : Settled (fun _ => true) memory.state
    (passed true memory 0).2.1.state ignitionSwitchIdx := by
  obtain ⟨t, hcalm, hrun⟩ := run_passed true memory 0
  have hpass : ∀ i, Label.loop (Scan.visiting 1 0) ≠ .loop (.visiting 0 i) := by
    rintro i ⟨⟩
  exact (settled_of_pass hrun hcalm rfl hpass).1 ignitionSwitchIdx (by decide)

/-- Without the key, the ignition is switched on during one pass, and is off in the next one. -/
theorem not_settled : ¬ ∀ (pos : SwitchIdx → Bool) (k : SwitchIdx) (past t : Trace Looks)
    (c d : Box) (l : Label Scan),
    Run (client (watch pos)) (Goes controlBox) (started unseen) past c →
      c.prog () = .ret (.loop (.visiting k 0)) →
      Run (client (watch pos)) (Goes controlBox) (passing c.shared.1 k) t d →
      (∀ m ∈ t, Calm pos m.op m.ans m.found.2) → d.prog () = .ret l →
      (∀ i, l ≠ .loop (.visiting k i)) → ∀ i, Wired i → d.shared.1.state i = pos i := by
  intro h
  have hpast := run_started (watch fun _ => false) controlBox unseen
    (List.replicate 20 (reading false) ++ reading true :: List.replicate 2 (reading false))
  obtain ⟨t, hcalm, hrun⟩ := run_passed false (rounds (watch fun _ => false) controlBox
    (.reconnect, memory, unseen)
    (List.replicate 20 (reading false) ++ reading true :: List.replicate 2 (reading false))).2.1 1
  have hpass : ∀ i, Label.loop (Scan.visiting 2 0) ≠ .loop (.visiting 1 i) := by
    rintro i ⟨⟩
  have hignition := h (fun _ => false) 1 _ t _ _ _ hpast rfl hrun hcalm rfl hpass
    ignitionSwitchIdx (by decide)
  exact absurd hignition (by decide)

end Hysim.Pass
