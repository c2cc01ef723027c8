import Hysim.Lib.Steps
import Hysim.Failure

/-!
The flags of the actuators against what was last written to their devices.

A driver makes several system calls and only one or two of them take effect. A GPIO driver
whose `close` fails reports that nothing was done, and a PWM driver that fails at any call
reports an `errno` that is taken for success.
-/

namespace Hysim.Hardware

open Hysim.Lib.Program Hysim.Lib.Steps Hysim.Packets Hysim.Actuators Hysim.State Hysim.Serve
  Hysim.Failure

variable {σ : Type} (D : Device DevOp DevOp.Ans σ)

/-! ### System calls -/

def errnoOf {α : Type} : Except Int α → Option Int
  | .error e => some e
  | .ok _ => none

def failure : σ × DevOp → Option Int
  | (s, .openDev path) => errnoOf (D.ans (.openDev path) s)
  | (s, .gpiocWrite fd value) => errnoOf (D.ans (.gpiocWrite fd value) s)
  | (s, .close fd) => errnoOf (D.ans (.close fd) s)
  | (s, .pwmGetCharacteristics fd) => errnoOf (D.ans (.pwmGetCharacteristics fd) s)
  | (s, .pwmSetCharacteristics fd config) => errnoOf (D.ans (.pwmSetCharacteristics fd config) s)
  | (s, .pwmStart fd) => errnoOf (D.ans (.pwmStart fd) s)

def isWrite : DevOp → Bool
  | .gpiocWrite _ _ => true
  | _ => false

def isSetCharacteristics : DevOp → Bool
  | .pwmSetCharacteristics _ _ => true
  | _ => false

def isStart : DevOp → Bool
  | .pwmStart _ => true
  | _ => false

def isClose : DevOp → Bool
  | .close _ => true
  | _ => false

def reached : Driver → List (σ × DevOp) → Bool
  | .gpio _, ms => ms.any fun m => isWrite m.2 && failure D m = none
  | .pwm _, ms => (ms.any fun m => isSetCharacteristics m.2 && failure D m = none) &&
      ms.any fun m => isStart m.2 && failure D m = none

/-- What goes unnoticed: `close` fails, which comes after the write, or a call for the PWM
device fails with another `errno` than `-1`. -/
def Slips : Driver → List (σ × DevOp) → Prop
  | .gpio _, ms => ∃ m ∈ ms, isClose m.2 ∧ failure D m ≠ none
  | .pwm _, ms => ∃ m ∈ ms, ∃ e, failure D m = some e ∧ e ≠ -1

/-- `act->on(act)` or `act->off(act)`. -/
def signal (drv : Driver) (on : Bool) : DevM Int := if on then drv.on else drv.off

lemma slips_gpio_iff (value : Bool) (dev : String) (s : σ) :
    Slips D (.gpio dev) (moments D (gpioActuatorWrite value dev) s) ↔
      ((run D (gpioActuatorWrite value dev) s).1 = -1 ↔
        reached D (.gpio dev) (moments D (gpioActuatorWrite value dev) s) = true) := by
  unfold gpioActuatorWrite
  rw [moments_bind, run_bind, moments_op, run_op]
  rcases hopen : D.ans (.openDev dev) s with e | fd
  · simp [Slips, reached, isClose, isWrite]
  dsimp only
  rw [moments_bind, run_bind, moments_op, run_op]
  rcases hwrite : D.ans (.gpiocWrite fd value) (D.eff (.openDev dev) s) with e | u
  · simp [Slips, reached, isClose, isWrite, failure, hwrite, errnoOf]
  dsimp only
  rw [moments_bind, run_bind, moments_op, run_op]
  rcases hclose : D.ans (.close fd) (D.eff (.gpiocWrite fd value) (D.eff (.openDev dev) s))
    with e | u
  · simp [Slips, reached, isClose, isWrite, failure, hwrite, hclose, errnoOf]
  · simp [Slips, reached, isClose, isWrite, failure, hwrite, hclose, errnoOf]

/-- A PWM driver that fails was not reached, but only an `errno` of `-1` is noticed. -/
lemma slips_pwm_iff (priv : PwmActinfo) (openAct : Bool) (s : σ) :
    Slips D (.pwm priv) (moments D (pwmSendSignal priv openAct) s) ↔
      ((run D (pwmSendSignal priv openAct) s).1 = -1 ↔
        reached D (.pwm priv) (moments D (pwmSendSignal priv openAct) s) = true) := by
  unfold pwmSendSignal
  rw [moments_bind, run_bind, moments_op, run_op]
  rcases hopen : D.ans (.openDev priv.dev) s with e | fd
  · simp [Slips, reached, isSetCharacteristics, failure, hopen, errnoOf]
  dsimp only
  rw [moments_bind, run_bind, moments_op, run_op]
  rcases hget : D.ans (.pwmGetCharacteristics fd) (D.eff (.openDev priv.dev) s) with e | config
  · simp [Slips, reached, isSetCharacteristics, failure, hopen, hget, errnoOf]
  dsimp only
  rw [moments_bind, run_bind, moments_op, run_op]
  rcases hset : D.ans (.pwmSetCharacteristics fd (pwmConfigure priv openAct config))
    (D.eff (.pwmGetCharacteristics fd) (D.eff (.openDev priv.dev) s)) with e | u
  · simp [Slips, reached, isSetCharacteristics, failure, hopen, hget, hset, errnoOf]
  dsimp only
  rw [moments_bind, run_bind, moments_op, run_op]
  rcases hstart : D.ans (.pwmStart fd) (D.eff (.pwmSetCharacteristics fd
    (pwmConfigure priv openAct config)) (D.eff (.pwmGetCharacteristics fd)
      (D.eff (.openDev priv.dev) s))) with e | u
  · simp [Slips, reached, isSetCharacteristics, isStart, failure, hopen, hget, hset, hstart,
      errnoOf]
  · simp [Slips, reached, isSetCharacteristics, isStart, failure, hopen, hget, hset, hstart,
      errnoOf]

/-- What a driver reports agrees with what reached the device, unless something slips. -/
lemma slips_iff (drv : Driver) (on : Bool) (s : σ) :
    Slips D drv (moments D (signal drv on) s) ↔
      ((run D (signal drv on) s).1 = -1 ↔
        reached D drv (moments D (signal drv on) s) = true) := by
  cases drv with
  | gpio dev =>
    cases on
    · exact slips_gpio_iff D false dev s
    · exact slips_gpio_iff D true dev s
  | pwm info =>
    cases on
    · exact slips_pwm_iff D info true s
    · exact slips_pwm_iff D info false s

/-! ### Runs of commands -/

/-- The pad state with its devices, and the commands that reached them. -/
structure Plant (σ : Type) where
  pad : PadState
  dev : σ
  written : List (ActIdx × Bool)

/-- The value last written to the device of an actuator, off if there was none. -/
def lastWritten (act : ActIdx) (written : List (ActIdx × Bool)) : Bool :=
  ((written.filter fun w => w.1 = act).getLast?.map Prod.snd).getD false

lemma lastWritten_concat (act : ActIdx) (written : List (ActIdx × Bool)) (w : ActIdx × Bool) :
    lastWritten act (written ++ [w]) = if w.1 = act then w.2 else lastWritten act written := by
  unfold lastWritten
  rw [List.filter_append]
  by_cases h : w.1 = act
  · simp [h]
  · simp [h]

def Plant.signal (x : Plant σ) (c : ActIdx × Bool) : DevM Int :=
  Hardware.signal (x.pad.actuators c.1).driver c.2

/-- A call of `actuator_set`, with the driver running on the devices. -/
def command (x : Plant σ) (c : ActIdx × Bool) : Plant σ where
  pad := (run solo (actuatorSet c.1 c.2) ⟨x.pad, [], (run D (x.signal c) x.dev).1⟩).2.pad
  dev := (run D (x.signal c) x.dev).2
  written :=
    if reached D (x.pad.actuators c.1).driver (moments D (x.signal c) x.dev) then x.written ++ [c]
    else x.written

def commands (x : Plant σ) (cs : List (ActIdx × Bool)) : Plant σ := cs.foldl (command D) x

def plant (state : PadState) (dev : σ) : Plant σ := ⟨padstateInit state, dev, []⟩

/-- Every flag is what was last written. -/
def Matches (x : Plant σ) : Prop :=
  ∀ act, (x.pad.actuators act).state = lastWritten act x.written

/-- A command in which nothing slips, or whose value was recorded already. -/
def Faithful (x : Plant σ) (c : ActIdx × Bool) : Prop :=
  ¬ Slips D (x.pad.actuators c.1).driver (moments D (x.signal c) x.dev) ∨
    (x.pad.actuators c.1).state = c.2

section Command

variable {D} {x : Plant σ} {c : ActIdx × Bool}

lemma command_reported (h : (run D (x.signal c) x.dev).1 = -1) : (command D x c).pad = x.pad := by
  change (run solo (actuatorSet c.1 c.2) ⟨x.pad, [], (run D (x.signal c) x.dev).1⟩).2.pad = _
  rw [actuatorSet_run, if_pos h]

lemma command_not_reported (h : (run D (x.signal c) x.dev).1 ≠ -1) :
    (command D x c).pad = x.pad.setAct c.1 c.2 := by
  change (run solo (actuatorSet c.1 c.2) ⟨x.pad, [], (run D (x.signal c) x.dev).1⟩).2.pad = _
  rw [actuatorSet_run, if_neg h]

lemma command_matches_iff (h : Matches x) : Matches (command D x c) ↔ Faithful D x c := by
  have hslips := slips_iff D (x.pad.actuators c.1).driver c.2 x.dev
  change _ ↔ ((run D (x.signal c) x.dev).1 = -1 ↔
    reached D (x.pad.actuators c.1).driver (moments D (x.signal c) x.dev) = true) at hslips
  unfold Matches Faithful
  by_cases hres : (run D (x.signal c) x.dev).1 = -1 <;>
    by_cases hreach : reached D (x.pad.actuators c.1).driver (moments D (x.signal c) x.dev) = true
  · -- written, but reported as not done
    have hwritten : (command D x c).written = x.written ++ [c] := if_pos hreach
    have hslip := hslips.mpr (iff_of_true hres hreach)
    rw [command_reported hres, hwritten]
    refine ⟨fun hm => .inr ?_, fun hf act => ?_⟩
    · rw [hm c.1, lastWritten_concat, if_pos rfl]
    · rw [lastWritten_concat]
      split_ifs with hact
      · rw [← hact]
        exact hf.resolve_left (not_not.mpr hslip)
      · exact h act
  · have hwritten : (command D x c).written = x.written := if_neg hreach
    rw [command_reported hres, hwritten]
    exact iff_of_true h (.inl fun hs => hreach ((hslips.mp hs).mp hres))
  · have hwritten : (command D x c).written = x.written ++ [c] := if_pos hreach
    rw [command_not_reported hres, hwritten]
    refine iff_of_true (fun act => ?_) (.inl fun hs => hres ((hslips.mp hs).mpr hreach))
    rw [PadState.setAct_state, lastWritten_concat]
    by_cases hact : act = c.1
    · rw [if_pos hact, if_pos hact.symm]
    · rw [if_neg hact, if_neg (Ne.symm hact)]
      exact h act
  · -- not written, but recorded
    have hwritten : (command D x c).written = x.written := if_neg hreach
    have hslip := hslips.mpr (iff_of_false hres hreach)
    rw [command_not_reported hres, hwritten]
    refine ⟨fun hm => .inr ?_, fun hf act => ?_⟩
    · rw [h c.1, ← hm c.1, PadState.setAct_state, if_pos rfl]
    · rw [PadState.setAct_state]
      split_ifs with hact
      · rw [hact, ← h c.1]
        exact (hf.resolve_left (not_not.mpr hslip)).symm
      · exact h act

end Command

lemma plant_matches (state : PadState) (dev : σ) : Matches (plant state dev) :=
  fun act => (padstateInit_actuator state act).2

lemma matches_after_iff {x : Plant σ} (h : Matches x) (cs : List (ActIdx × Bool)) :
    (∀ past, past <+: cs → Matches (commands D x past)) ↔
      ∀ past c, past ++ [c] <+: cs → Faithful D (commands D x past) c := by
  induction cs using List.reverseRecOn with
  | nil =>
    refine iff_of_true (fun past hpast => ?_) (forall_prefix_nil _)
    rw [List.prefix_nil.mp hpast]
    exact h
  | append_singleton cs d ih =>
    have hlast : commands D x (cs ++ [d]) = command D (commands D x cs) d := by
      simp [commands, List.foldl_append]
    rw [forall_prefix_concat, ← ih]
    simp only [List.prefix_concat_iff]
    constructor
    · intro hm
      refine ⟨fun past hpast => hm past (.inr hpast), ?_⟩
      refine (command_matches_iff (hm cs (.inr List.prefix_rfl))).mp ?_
      rw [← hlast]
      exact hm _ (.inl rfl)
    · rintro ⟨hpre, hd⟩ past (rfl | hpast)
      · rw [hlast]
        exact (command_matches_iff (hpre cs List.prefix_rfl)).mpr hd
      · exact hpre past hpast

/-- **When the flags match the hardware**: throughout a run exactly when each command either
runs without a slip or asks for what was recorded already. -/
theorem matches_iff (state : PadState) (dev : σ) (cs : List (ActIdx × Bool)) :
    (∀ past, past <+: cs → ∀ act,
      ((commands D (plant state dev) past).pad.actuators act).state =
        lastWritten act (commands D (plant state dev) past).written) ↔
      ∀ past c, past ++ [c] <+: cs → Faithful D (commands D (plant state dev) past) c :=
  matches_after_iff D (plant_matches state dev) cs

/-- Every call succeeds but `close`, which fails with `EIO`. -/
def closeFails : Device DevOp DevOp.Ans Unit where
  ans
    | .openDev _, _ => .ok 3
    | .close _, _ => .error 5
    | .gpiocWrite _ _, _ => .ok ()
    | .pwmGetCharacteristics _, _ => .ok ⟨0, fun _ => ⟨0, 0, 0, 0⟩⟩
    | .pwmSetCharacteristics _ _, _ => .ok ()
    | .pwmStart _, _ => .ok ()
  eff _ s := s

/-- A valve that was opened counts as closed, and a dump valve that was not touched counts
as switched on. -/
theorem not_matches :
    ¬ Matches (commands closeFails (plant zeroed ()) [((1 : ActIdx), true)]) ∧
      ¬ Matches (commands tableFull (plant zeroed ()) [(dumpValve, true)]) := by
  refine ⟨fun h => ?_, fun h => ?_⟩
  · have hflag : false = true := h (1 : ActIdx)
    exact Bool.false_ne_true hflag
  · have hflag : true = false := h dumpValve
    exact Bool.false_ne_true hflag.symm

end Hysim.Hardware
