import Mathlib.Algebra.Group.Nat.Even
import Hysim.BoxRuns

/-!
The control client that reads its switches from the keyboard.

Every key press toggles the recorded state of its switch, and the arming switches send one level
when they turn on and the one below when they turn off.
-/

namespace Hysim.Keyboard

open Hysim.Lib.Program Hysim.Lib.Threads Hysim.Lib.Runs Hysim.Packets Hysim.Serve Hysim.Client
open Hysim.ControlBox Hysim.PadClient Hysim.BoxRuns

/-! ### The loop -/

structure Command where
  key : UInt8
  sw : SwitchIdx

def commands : List Command := [
  ⟨'q'.toUInt8, 0⟩, ⟨'w'.toUInt8, 1⟩, ⟨'e'.toUInt8, 2⟩, ⟨'r'.toUInt8, 3⟩, ⟨'t'.toUInt8, 4⟩,
  ⟨'y'.toUInt8, 5⟩, ⟨'u'.toUInt8, 6⟩, ⟨'i'.toUInt8, 7⟩, ⟨'p'.toUInt8, 8⟩, ⟨'a'.toUInt8, 9⟩,
  ⟨'s'.toUInt8, 10⟩, ⟨'d'.toUInt8, 11⟩, ⟨'f'.toUInt8, 12⟩, ⟨'g'.toUInt8, 13⟩,
  ⟨'h'.toUInt8, 14⟩, ⟨'z'.toUInt8, 15⟩, ⟨'x'.toUInt8, 16⟩, ⟨'c'.toUInt8, 17⟩,
  ⟨'v'.toUInt8, 18⟩, ⟨'b'.toUInt8, 19⟩]

def newline : UInt8 := '\n'.toUInt8

/-- What is left of the end of the file in a `char`. -/
def eofKey : UInt8 := 255

/-- What a matching key does. -/
def toggle (i : SwitchIdx) : BoxM Unit := do
  let state ← loadState i
  let _ ← switchCallback (switchTable.get i) i (!state)

/-- The loop over the commands. -/
def press (key : UInt8) : List Command → BoxM Unit
  | [] => return ()
  | command :: rest => do
    if command.key = key then toggle command.sw
    press key rest

/-- Where the program is: about to read a key, at the rest of its line, or about to look for
its command. -/
inductive Typing
  | prompt
  | skipping (key : UInt8)
  | pressed (key : UInt8)

/-- The loop of the desktop build. -/
def typeFrom : Typing → BoxM (Label Typing)
  | .prompt => do
    let c ← getc
    let key := c.getD eofKey
    if key ≠ newline then return .loop (.skipping key) else return .loop (.pressed key)
  | .skipping key => do
    let c ← getc
    if c ≠ some newline then return .loop (.skipping key) else return .loop (.pressed key)
  | .pressed key => do
    press key commands
    return .loop .prompt

def keyboard : Label Typing → BoxM (Label Typing) := mainFrom .prompt typeFrom

/-! ### Presses -/

/-- A key that was pressed, with the requests handed to `sendmsg` for it. -/
structure Press where
  key : UInt8
  sent : List Request

/-- The key of the line that is being typed, and the presses so far, the last one first. -/
structure Typed where
  line : Option UInt8
  presses : List Press

def Typed.getc (seen : Typed) (c : Option UInt8) : Typed :=
  match seen.line with
  | none =>
    let key := c.getD eofKey
    if key ≠ newline then { seen with line := some key } else ⟨none, ⟨key, []⟩ :: seen.presses⟩
  | some key => if c ≠ some newline then seen else ⟨none, ⟨key, []⟩ :: seen.presses⟩

def Typed.send (seen : Typed) (req : Request) : Typed :=
  match seen.presses with
  | [] => seen
  | p :: ps => { seen with presses := { p with sent := p.sent ++ [req] } :: ps }

def watch : Watch Typed
  | .getc, c, seen => seen.getc c
  | .sendmsg _ _ req, _, seen => seen.send req
  | _, _, seen => seen

abbrev Desktop := Client Typed Typing

def start : Desktop := started ⟨none, []⟩

/-! ### What is asked of the presses -/

def padKey : UInt8 := 'z'.toUInt8
def padSwitch : SwitchIdx := 15

def armedPad : UInt8 := ArmLvl.armedPad.val.toUInt8
def armedLaunch : UInt8 := ArmLvl.armedLaunch.val.toUInt8

def InRange : Request → Prop
  | .act _ => True
  | .arm req => armedPad ≤ req.level ∧ req.level ≤ armedLaunch

instance : (req : Request) → Decidable (InRange req)
  | .act _ => .isTrue trivial
  | .arm _ => @instDecidableAnd _ _ (UInt8.decLe _ _) (UInt8.decLe _ _)

/-- Every press of the key of `ARMED_PAD` asks for it, and nothing out of range is ever sent. -/
def Meaningful (presses : List Press) : Prop :=
  ∀ p ∈ presses, (∀ req ∈ p.sent, InRange req) ∧
    (p.key = padKey → .arm ⟨armedPad⟩ ∈ p.sent)

def padPresses (presses : List Press) : ℕ := presses.countP fun p => p.key = padKey

/-! ### Levels -/

/-- What a press of a key asks for, after these presses: the other switches stay in range, and
the one of `ARMED_PAD` turns on and off. -/
def Fits (ps : List Press) (key : UInt8) (req : Request) : Prop :=
  if key = padKey then
    req = .arm ⟨if Even (padPresses ps) then armedPad else armedPad - 1⟩
  else InRange req

/-- Everything sent so far fits what was pressed before. -/
def Sent : List Press → Prop
  | [] => True
  | p :: ps => (∀ req ∈ p.sent, Fits ps p.key req) ∧ Sent ps

/-- No press of the key of `ARMED_PAD` went without a request. -/
def Answered (presses : List Press) : Prop :=
  ∀ p ∈ presses, p.key = padKey → p.sent ≠ []

lemma padPresses_cons (p : Press) (ps : List Press) :
    padPresses (p :: ps) = padPresses ps + if p.key = padKey then 1 else 0 := by
  simp [padPresses, List.countP_cons]

lemma armedPad_inRange : InRange (.arm ⟨armedPad⟩) := by decide

lemma armedPad_sub_one_not_inRange : ¬ InRange (.arm ⟨armedPad - 1⟩) := by decide

lemma inRange_of_fits {ps : List Press} {key : UInt8} {req : Request} (h : Fits ps key req)
    (hkey : key = padKey → padPresses ps = 0) : InRange req := by
  unfold Fits at h
  split_ifs at h with hpad heven
  · rw [h]
    exact armedPad_inRange
  · rw [hkey hpad] at heven
    exact absurd Even.zero heven
  · exact h

lemma inRange_of_sent {presses : List Press} (h : Sent presses) (honce : padPresses presses ≤ 1) :
    ∀ p ∈ presses, ∀ req ∈ p.sent, InRange req := by
  induction presses with
  | nil => simp
  | cons p ps ih =>
    rw [padPresses_cons] at honce
    refine List.forall_mem_cons.mpr ⟨fun req hreq => ?_, ih h.2 (by omega)⟩
    refine inRange_of_fits (h.1 req hreq) fun hpad => ?_
    rw [if_pos hpad] at honce
    omega

lemma meaningful_press {ps : List Press} {p : Press} (hsent : ∀ req ∈ p.sent, Fits ps p.key req)
    (hanswered : p.key = padKey → p.sent ≠ []) :
    ((∀ req ∈ p.sent, InRange req) ∧ (p.key = padKey → .arm ⟨armedPad⟩ ∈ p.sent)) ↔
      (p.key = padKey → Even (padPresses ps)) := by
  by_cases hpad : p.key = padKey
  · obtain ⟨req, hreq⟩ := List.exists_mem_of_ne_nil _ (hanswered hpad)
    have hfits := hsent req hreq
    simp only [Fits, if_pos hpad] at hfits hsent
    constructor
    · rintro ⟨hrange, -⟩ -
      by_contra hodd
      rw [if_neg hodd] at hfits
      exact armedPad_sub_one_not_inRange (hfits ▸ hrange req hreq)
    · intro heven
      rw [if_pos (heven hpad)] at hfits
      refine ⟨fun req' hreq' => ?_, fun _ => hfits ▸ hreq⟩
      rw [hsent req' hreq', if_pos (heven hpad)]
      exact armedPad_inRange
  · simp only [Fits, if_neg hpad] at hsent
    exact ⟨fun _ h => absurd h hpad, fun _ => ⟨hsent, fun h => absurd h hpad⟩⟩

lemma meaningful_iff_once {presses : List Press} (hsent : Sent presses)
    (hanswered : Answered presses) : Meaningful presses ↔ padPresses presses ≤ 1 := by
  induction presses with
  | nil => simp [Meaningful, padPresses]
  | cons p ps ih =>
    obtain ⟨hp, hps⟩ := List.forall_mem_cons.mp hanswered
    have hcons := ih hsent.2 hps
    unfold Meaningful at hcons ⊢
    rw [List.forall_mem_cons, meaningful_press hsent.1 hp, hcons, padPresses_cons]
    split_ifs with hpad
    · constructor
      · rintro ⟨heven, honce⟩
        obtain ⟨n, hn⟩ := heven hpad
        omega
      · intro hnone
        have hzero : padPresses ps = 0 := by omega
        exact ⟨fun _ => hzero ▸ Even.zero, by omega⟩
    · exact ⟨And.right, fun h => ⟨fun hpad' => absurd hpad' hpad, h⟩⟩

/-! ### The functions of the client -/

/-- What the recorded state of the switch of `ARMED_PAD` and its presses say of each other. -/
def Ready (state : SwitchIdx → Bool) (presses : List Press) : Prop :=
  Answered presses ∧ (state padSwitch = true ↔ ¬ Even (padPresses presses))

def Rest : Label Typing → Memory × Typed → Prop
  | .reconnect, s | .connecting, s | .loop .prompt, s =>
    s.2.line = none ∧ Ready s.1.state s.2.presses
  | .loop (.skipping key), s => s.2.line = some key ∧ Ready s.1.state s.2.presses
  | .loop (.pressed key), s =>
    s.2.line = none ∧ ∃ ps, s.2.presses = ⟨key, []⟩ :: ps ∧ Ready s.1.state ps
  | .exited, _ => True

/-- A request is due for the key that was pressed last. -/
def Due (s : Memory × Typed) : BoxOp → Prop
  | .sendmsg _ _ req => ∃ p ps, s.2.presses = p :: ps ∧ Fits ps p.key req
  | _ => True

abbrev Ends {α : Type} (p : BoxM α) (post : α → Memory × Typed → Prop)
    (s : Memory × Typed) : Prop :=
  Wp (client watch ()) Due p post s

def Quiet : BoxOp → Prop
  | .getc | .sendmsg _ _ _ | .storeState _ _ => False
  | _ => True

lemma keeps {I : (SwitchIdx → Bool) × Typed → Prop} {Q : BoxOp → Prop}
    (hQ : ∀ o, Q o → Quiet o) :
    Keeps (client watch ()) Due (fun s => I (s.1.state, s.2)) Q := by
  constructor
  · intro s o ho _
    have hquiet := hQ o ho
    cases o <;> trivial
  · rintro o s r _ ho hs ⟨-, rfl⟩
    have hquiet := hQ o ho
    cases o <;> first | exact hs | exact hquiet.elim

def Idle (x : (SwitchIdx → Bool) × Typed) : Prop := x.2.line = none ∧ Ready x.1 x.2.presses

lemma switchRequest_pad (value : Bool) :
    switchRequest (switchTable.get padSwitch) value =
      some (.arm ⟨if value then armedPad else armedPad - 1⟩) := by
  cases value <;> decide

lemma switchRequest_inRange {i : SwitchIdx} (hi : i ≠ padSwitch) (value : Bool) :
    ∃ req, switchRequest (switchTable.get i) value = some req ∧ InRange req := by
  have hrange : ∀ (i : SwitchIdx) (value : Bool), i ≠ padSwitch →
      ∀ req ∈ switchRequest (switchTable.get i) value, InRange req := by decide
  obtain ⟨req, hreq⟩ := exists_switchRequest i value
  exact ⟨req, hreq, hrange i value hi req hreq⟩

lemma press_eq (key : UInt8) {cs : List Command} (hnodup : (cs.map Command.key).Nodup) :
    press key cs = match cs.find? fun command => command.key = key with
      | some command => toggle command.sw
      | none => return () := by
  induction cs with
  | nil => rfl
  | cons command cs ih =>
    obtain ⟨hnot, hcs⟩ := List.nodup_cons.mp hnodup
    rw [press, ih hcs]
    by_cases hkey : command.key = key
    · have hnone : cs.find? (fun command => command.key = key) = none := by
        refine List.find?_eq_none.mpr fun other hother hsame => hnot ?_
        rw [hkey, ← of_decide_eq_true hsame]
        exact List.mem_map_of_mem hother
      have hfind : (command :: cs).find? (fun command => command.key = key) = some command := by
        simp [hkey]
      rw [if_pos hkey, hnone, hfind]
      exact bind_pure _
    · rw [if_neg hkey, List.find?_cons_of_neg (by simpa using hkey)]

section Functions

variable {s : Memory × Typed} {key : UInt8} {ps : List Press} {i : SwitchIdx}

lemma toggled (hready : Ready s.1.state ps) (hi : i = padSwitch ↔ key = padKey) :
    ∃ req, switchRequest (switchTable.get i) (!s.1.state i) = some req ∧ Fits ps key req ∧
      Ready (Function.update s.1.state i (!s.1.state i)) (⟨key, [req]⟩ :: ps) := by
  have hanswered (req : Request) : Answered (⟨key, [req]⟩ :: ps) :=
    List.forall_mem_cons.mpr ⟨fun _ => List.cons_ne_nil _ _, hready.1⟩
  by_cases hpad : i = padSwitch
  · subst hpad
    have hkey : key = padKey := hi.mp rfl
    refine ⟨_, switchRequest_pad _, ?_, hanswered _, ?_⟩
    · rw [Fits, if_pos hkey]
      by_cases heven : Even (padPresses ps)
      · have hoff : s.1.state padSwitch = false := by simpa [heven] using hready.2
        simp [heven, hoff]
      · have hon : s.1.state padSwitch = true := hready.2.mpr heven
        simp [heven, hon]
    · rw [Function.update_self, padPresses_cons, if_pos hkey, Nat.even_add_one, not_not]
      cases hstate : s.1.state padSwitch with
      | true => simpa [hstate] using hready.2
      | false => simpa [hstate] using hready.2
  · have hkey : key ≠ padKey := fun h => hpad (hi.mpr h)
    obtain ⟨req, hreq, hrange⟩ := switchRequest_inRange hpad (!s.1.state i)
    refine ⟨req, hreq, by rwa [Fits, if_neg hkey], hanswered req, ?_⟩
    rw [Function.update_of_ne (Ne.symm hpad), padPresses_cons, if_neg hkey]
    exact hready.2

lemma ends_toggle (hline : s.2.line = none) (hpresses : s.2.presses = ⟨key, []⟩ :: ps)
    (hready : Ready s.1.state ps) (hi : i = padSwitch ↔ key = padKey) :
    Ends (toggle i) (fun _ y => Idle (y.1.state, y.2)) s := by
  obtain ⟨req, hreq, hfits, hafter⟩ := toggled hready hi
  refine Wp.op_bind trivial ?_
  rintro state _ ⟨rfl, rfl⟩
  refine Wp.bind (Wp.op_bind trivial ?_)
  rintro _ _ ⟨-, rfl⟩
  rw [hreq]
  refine Wp.bind (Wp.op_bind trivial ?_)
  rintro sock _ ⟨-, rfl⟩
  refine ⟨⟨_, ps, hpresses, hfits⟩, ?_⟩
  rintro r _ ⟨-, rfl⟩
  have hidle : Idle (Function.update s.1.state i (!s.1.state i), s.2.send req) := by
    rw [Typed.send, hpresses]
    exact ⟨hline, hafter⟩
  cases r with
  | none =>
    exact (keeps (I := Idle) fun o ho => by cases o <;> trivial).wp (checkReply_performs req) hidle
  | some err => exact hidle

lemma ends_press (hline : s.2.line = none) (hpresses : s.2.presses = ⟨key, []⟩ :: ps)
    (hready : Ready s.1.state ps) :
    Ends (press key commands) (fun _ y => Idle (y.1.state, y.2)) s := by
  have hnodup : (commands.map Command.key).Nodup := by decide
  have hpad : ∀ command ∈ commands, command.sw = padSwitch ↔ command.key = padKey := by decide
  rw [press_eq key hnodup]
  cases hfind : commands.find? fun command => command.key = key with
  | some command =>
    have hkey : command.key = key := by simpa using List.find?_some hfind
    exact ends_toggle hline hpresses hready (hkey ▸ hpad command (List.mem_of_find?_eq_some hfind))
  | none =>
    have hkey : key ≠ padKey := by
      rintro rfl
      exact absurd hfind (by decide)
    refine ⟨hline, ?_⟩
    change Ready s.1.state s.2.presses
    rw [hpresses]
    refine ⟨List.forall_mem_cons.mpr ⟨fun h => absurd h hkey, hready.1⟩, ?_⟩
    rw [padPresses_cons, if_neg hkey]
    exact hready.2

lemma ends_keyboard (l : Label Typing) (h : Rest l s) : Ends (keyboard l) Rest s := by
  cases l with
  | reconnect =>
    exact (keeps (I := Idle) fun o ho => by cases o <;> trivial).reconnect
      (fun y hy => ⟨trivial, hy⟩) h
  | connecting =>
    exact (keeps (I := Idle) fun o ho => by cases o <;> trivial).connecting
      (fun y hy => ⟨hy, trivial, hy⟩) h
  | loop l =>
    cases l with
    | prompt =>
      obtain ⟨hline, hready⟩ := h
      refine Wp.op_bind trivial ?_
      rintro c _ ⟨-, rfl⟩
      by_cases hkey : c.getD eofKey ≠ newline
      · simp only [if_pos hkey, watch, Typed.getc, hline]
        exact ⟨rfl, hready⟩
      · simp only [if_neg hkey, watch, Typed.getc, hline]
        exact ⟨rfl, s.2.presses, rfl, hready⟩
    | skipping key =>
      obtain ⟨hline, hready⟩ := h
      refine Wp.op_bind trivial ?_
      rintro c _ ⟨-, rfl⟩
      by_cases hend : c ≠ some newline
      · simp only [if_pos hend, watch, Typed.getc, hline]
        exact ⟨hline, hready⟩
      · simp only [if_neg hend, watch, Typed.getc, hline]
        exact ⟨rfl, s.2.presses, rfl, hready⟩
    | pressed key =>
      obtain ⟨hline, ps, hpresses, hready⟩ := h
      exact Wp.bind ((ends_press hline hpresses hready).mono fun _ _ hy => hy)
  | exited => trivial

end Functions

/-! ### Every run -/

lemma sent_step {o : BoxOp} {s : Memory × Typed} {r : o.Ans} (h : Sent s.2.presses)
    (hdue : Due s o) : Sent (watch o r s.2).presses := by
  cases o
  case getc =>
    change Sent (s.2.getc r).presses
    unfold Typed.getc
    split
    · dsimp only
      split_ifs with hkey
      · exact h
      · exact ⟨by simp, h⟩
    · split_ifs with hend
      · exact h
      · exact ⟨by simp, h⟩
  case sendmsg fd i req =>
    obtain ⟨p, ps, hpresses, hfits⟩ : ∃ p ps, s.2.presses = p :: ps ∧ Fits ps p.key req := hdue
    change Sent (s.2.send req).presses
    rw [hpresses] at h
    rw [Typed.send, hpresses]
    refine ⟨fun req' hreq' => ?_, h.2⟩
    rcases List.mem_append.mp hreq' with hold | hnew
    · exact h.1 req' hold
    · rw [List.mem_singleton.mp hnew]
      exact hfits
  all_goals exact h

/-- **What the keyboard client asks for**: as long as the key of `ARMED_PAD` was pressed once at
most, nothing out of range has been sent. Back at the prompt, every press of that key has asked
for `ARMED_PAD`, and nothing out of range was sent, exactly if it was pressed once at most. -/
theorem meaningful_iff {t : Trace Typed} {c : Desktop}
    (hrun : Run (client watch) (Goes keyboard) start t c) :
    (padPresses c.shared.2.presses ≤ 1 →
      ∀ p ∈ c.shared.2.presses, ∀ req ∈ p.sent, InRange req) ∧
    (c.prog () = .ret (.loop .prompt) →
      (Meaningful c.shared.2.presses ↔ padPresses c.shared.2.presses ≤ 1)) := by
  have hstart : Ends (start.prog ()) Rest start.shared :=
    ⟨rfl, List.forall_mem_nil _, by decide⟩
  have hnil : Sent start.shared.2.presses := trivial
  obtain ⟨hsent, hwp⟩ := wp_of_run (J := fun _ s => Sent s.2.presses)
    (fun l p s hp hs => hp ▸ ends_keyboard l hs)
    (fun t o s r s' h hdue ⟨_, hs'⟩ => hs' ▸ sent_step h hdue) hstart hnil hrun
  refine ⟨inRange_of_sent hsent, fun hprompt => ?_⟩
  rw [hprompt] at hwp
  exact meaningful_iff_once hsent hwp.2.1

/-- The calls of a client that connects and reads these keys, each on a line of its own; every
request is sent and acknowledged. The rounds that connect and those that toggle read nothing. -/
def typing (keys : List Char) : List Calls :=
  (['\n', '\n'] ++ keys.flatMap fun key => [key, '\n', '\n']).map fun c =>
    ⟨.ok 3, .ok true, none, none, none, .ok [0], none, fun _ => 0, .ok 4, .ok true, none,
      some c.toUInt8⟩

def typed (keys : List Char) : Label Typing × Memory × Typed :=
  rounds watch keyboard (.reconnect, start.shared) (typing keys)

theorem meaningful_iff_typed : Meaningful (typed ['x', 'z', 'x']).2.2.presses := by
  have hrun := run_started watch keyboard start.shared.2 (typing ['x', 'z', 'x'])
  exact ((meaningful_iff hrun).2 rfl).mpr (by decide)

/-- The key of `ARMED_PAD`, pressed twice, asks for the level below. -/
theorem not_meaningful : ¬ ∀ (t : Trace Typed) (c : Desktop),
    Run (client watch) (Goes keyboard) start t c → c.prog () = .ret (.loop .prompt) →
      Meaningful c.shared.2.presses := by
  intro h
  have hrun := run_started watch keyboard start.shared.2 (typing ['z', 'z'])
  have hsecond := h _ _ hrun rfl ⟨padKey, [.arm ⟨armedPad - 1⟩]⟩ (.head _)
  exact armedPad_sub_one_not_inRange (hsecond.1 _ (.head _))

end Hysim.Keyboard
