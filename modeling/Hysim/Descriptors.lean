import Hysim.Hardware

/-!
The file descriptors of the drivers.

A GPIO driver whose write fails returns without closing its device, and a PWM driver never
closes it. What is left open adds up, until no device can be opened any more.
-/

namespace Hysim.Descriptors

open Hysim.Lib.Program Hysim.Packets Hysim.Actuators Hysim.State Hysim.Serve Hysim.Hardware

variable {σ : Type} (D : Device DevOp DevOp.Ans σ)

/-! ### One driver -/

/-- The descriptors open after a system call. A call of `close` releases its descriptor also
when it fails. -/
def opened (fds : List ℕ) : σ × DevOp → List ℕ
  | (s, .openDev path) =>
    match D.ans (.openDev path) s with
    | .ok fd => fd :: fds
    | .error _ => fds
  | (_, .close fd) => fds.erase fd
  | _ => fds

def openedAll (fds : List ℕ) (ms : List (σ × DevOp)) : List ℕ := ms.foldl (opened D) fds

def isOpen : DevOp → Bool
  | .openDev _ => true
  | _ => false

/-- The device of a PWM actuator is opened, or that of a GPIO actuator and cannot be written. -/
def Leaks : Driver → List (σ × DevOp) → Prop
  | .gpio _, ms => ∃ m ∈ ms, isWrite m.2 ∧ failure D m ≠ none
  | .pwm _, ms => ∃ m ∈ ms, isOpen m.2 ∧ failure D m = none

lemma openedAll_gpio (fds : List ℕ) (value : Bool) (dev : String) (s : σ) :
    (openedAll D fds (moments D (gpioActuatorWrite value dev) s)).length = fds.length ↔
      ¬ Leaks D (.gpio dev) (moments D (gpioActuatorWrite value dev) s) := by
  unfold gpioActuatorWrite
  rw [moments_bind, moments_op, run_op]
  rcases hopen : D.ans (.openDev dev) s with e | fd
  · simp [openedAll, opened, Leaks, isWrite, hopen]
  dsimp only
  rw [moments_bind, run_op, moments_op]
  rcases hwrite : D.ans (.gpiocWrite fd value) (D.eff (.openDev dev) s) with e | u
  · simp [openedAll, opened, Leaks, isWrite, Hardware.failure, hopen, hwrite, errnoOf]
  dsimp only
  rw [moments_bind, run_op, moments_op]
  -- `close` releases the descriptor whatever it returns
  rcases D.ans (.close fd) (D.eff (.gpiocWrite fd value) (D.eff (.openDev dev) s)) with e | u
  · simp [openedAll, opened, Leaks, isWrite, Hardware.failure, hopen, hwrite, errnoOf]
  · simp [openedAll, opened, Leaks, isWrite, Hardware.failure, hopen, hwrite, errnoOf]

lemma openedAll_pwm (fds : List ℕ) (priv : PwmActinfo) (openAct : Bool) (s : σ) :
    (openedAll D fds (moments D (pwmSendSignal priv openAct) s)).length = fds.length ↔
      ¬ Leaks D (.pwm priv) (moments D (pwmSendSignal priv openAct) s) := by
  unfold pwmSendSignal
  rw [moments_bind, moments_op, run_op]
  rcases hopen : D.ans (.openDev priv.dev) s with e | fd
  · simp [openedAll, opened, Leaks, isOpen, Hardware.failure, hopen, errnoOf]
  -- once the device is open, no exit closes it
  have hleaks : ∀ ms, Leaks D (.pwm priv) ((s, .openDev priv.dev) :: ms) := fun ms =>
    ⟨_, List.mem_cons_self, by simp [isOpen], by simp [Hardware.failure, hopen, errnoOf]⟩
  dsimp only
  rw [moments_bind, run_op, moments_op, List.singleton_append]
  refine iff_of_false ?_ (not_not.mpr (hleaks _))
  rcases D.ans (.pwmGetCharacteristics fd) (D.eff (.openDev priv.dev) s) with e | config
  · simp [openedAll, opened, hopen]
  dsimp only
  rw [moments_bind, run_op, moments_op]
  rcases D.ans (.pwmSetCharacteristics fd (pwmConfigure priv openAct config))
    (D.eff (.pwmGetCharacteristics fd) (D.eff (.openDev priv.dev) s)) with e | u
  · simp [openedAll, opened, hopen]
  dsimp only
  rw [moments_bind, run_op, moments_op]
  rcases D.ans (.pwmStart fd) (D.eff (.pwmSetCharacteristics fd
    (pwmConfigure priv openAct config)) (D.eff (.pwmGetCharacteristics fd)
      (D.eff (.openDev priv.dev) s))) with e | u
  · simp [openedAll, opened, hopen]
  · simp [openedAll, opened, hopen]

lemma openedAll_iff (fds : List ℕ) (drv : Driver) (on : Bool) (s : σ) :
    (openedAll D fds (moments D (signal drv on) s)).length = fds.length ↔
      ¬ Leaks D drv (moments D (signal drv on) s) := by
  cases drv with
  | gpio dev =>
    cases on
    · exact openedAll_gpio D fds false dev s
    · exact openedAll_gpio D fds true dev s
  | pwm info =>
    cases on
    · exact openedAll_pwm D fds info true s
    · exact openedAll_pwm D fds info false s

/-! ### Runs of commands -/

structure Bench (σ : Type) where
  plant : Plant σ
  fds : List ℕ

def Bench.command (b : Bench σ) (c : ActIdx × Bool) : Bench σ where
  plant := Hardware.command D b.plant c
  fds := openedAll D b.fds (moments D (b.plant.signal c) b.plant.dev)

def Bench.commands (b : Bench σ) (cs : List (ActIdx × Bool)) : Bench σ :=
  cs.foldl (Bench.command D) b

def bench (state : PadState) (dev : σ) (fds : List ℕ) : Bench σ := ⟨plant state dev, fds⟩

/-- **When the drivers keep their descriptors in balance**: throughout a run exactly when no
GPIO device fails to be written and no PWM device is opened. -/
theorem balanced_iff (state : PadState) (dev : σ) (fds : List ℕ) (cs : List (ActIdx × Bool)) :
    (∀ past c, past ++ [c] <+: cs → ((bench state dev fds).commands D (past ++ [c])).fds.length =
        ((bench state dev fds).commands D past).fds.length) ↔
      ∀ past c, past ++ [c] <+: cs →
        ¬ Leaks D (((bench state dev fds).commands D past).plant.pad.actuators c.1).driver
          (moments D (((bench state dev fds).commands D past).plant.signal c)
            ((bench state dev fds).commands D past).plant.dev) := by
  have hlast : ∀ past c, ((bench state dev fds).commands D (past ++ [c])).fds =
      openedAll D ((bench state dev fds).commands D past).fds
        (moments D (((bench state dev fds).commands D past).plant.signal c)
          ((bench state dev fds).commands D past).plant.dev) := fun past c => by
    rw [Bench.commands, List.foldl_append]
    rfl
  refine forall_congr' fun past => forall_congr' fun c => imp_congr_right fun _ => ?_
  rw [hlast]
  exact openedAll_iff D _ _ c.2 _

def working : Device DevOp DevOp.Ans Unit where
  ans
    | .openDev _, _ => .ok 3
    | .close _, _ => .ok ()
    | .gpiocWrite _ _, _ => .ok ()
    | .pwmGetCharacteristics _, _ => .ok ⟨0, fun _ => ⟨0, 0, 0, 0⟩⟩
    | .pwmSetCharacteristics _ _, _ => .ok ()
    | .pwmStart _, _ => .ok ()
  eff _ s := s

/-- Opening the dump valve leaves a descriptor open, although nothing fails. -/
theorem not_balanced :
    ¬ ((bench zeroed () []).command working (dumpValve, true)).fds.length =
      (bench zeroed () []).fds.length := by
  intro h
  have hfds : ((bench zeroed () []).command working (dumpValve, true)).fds = [3] := rfl
  rw [hfds] at h
  exact absurd h (by decide)

/-! ### A table of descriptors -/

/-- Nothing fails but `open`, with `EMFILE` when `limit` descriptors are open; the state is how
many are. -/
def limited (limit : ℕ) : Device DevOp DevOp.Ans ℕ where
  ans
    | .openDev _, n => if n < limit then .ok n else .error 24
    | .close _, _ => .ok ()
    | .gpiocWrite _ _, _ => .ok ()
    | .pwmGetCharacteristics _, _ => .ok ⟨0, fun _ => ⟨0, 0, 0, 0⟩⟩
    | .pwmSetCharacteristics _ _, _ => .ok ()
    | .pwmStart _, _ => .ok ()
  eff
    | .openDev _, n => if n < limit then n + 1 else n
    | .close _, n => n - 1
    | _, n => n

def isPwm : Driver → Bool
  | .gpio _ => false
  | .pwm _ => true

variable {D}

lemma command_driver (x : Plant σ) (c : ActIdx × Bool) (act : ActIdx) :
    ((Hardware.command D x c).pad.actuators act).driver = (x.pad.actuators act).driver := by
  by_cases h : (run D (x.signal c) x.dev).1 = -1
  · rw [command_reported h]
  · rw [command_not_reported h]
    simp only [PadState.setAct]
    by_cases hact : act = c.1
    · rw [hact, Function.update_self]
    · rw [Function.update_of_ne hact]

variable {limit : ℕ}

/-- A GPIO driver gives back what it took, and a PWM driver takes what there is. -/
lemma signal_limited (drv : Driver) (on : Bool) {n : ℕ} (h : n ≤ limit) :
    (run (limited limit) (signal drv on) n).2 = if isPwm drv then min (n + 1) limit else n := by
  rcases h.lt_or_eq with hlt | rfl
  · have hle : n + 1 ≤ limit := hlt
    cases drv <;> cases on <;>
      simp [signal, Driver.on, Driver.off, gpioActuatorOn, gpioActuatorOff, pwmActuatorOn,
        pwmActuatorOff, gpioActuatorWrite, pwmSendSignal, limited, isPwm, hlt, hle]
  · cases drv <;> cases on <;>
      simp [signal, Driver.on, Driver.off, gpioActuatorOn, gpioActuatorOff, pwmActuatorOn,
        pwmActuatorOff, gpioActuatorWrite, pwmSendSignal, limited, isPwm]

lemma reached_full (drv : Driver) (on : Bool) :
    reached (limited limit) drv (moments (limited limit) (signal drv on) limit) = false := by
  cases drv <;> cases on <;>
    simp [signal, Driver.on, Driver.off, gpioActuatorOn, gpioActuatorOff, pwmActuatorOn,
      pwmActuatorOff, gpioActuatorWrite, pwmSendSignal, limited, reached, isWrite,
      isSetCharacteristics]

def pwmCommands (pad : PadState) (cs : List (ActIdx × Bool)) : List (ActIdx × Bool) :=
  cs.filter fun c => isPwm (pad.actuators c.1).driver

lemma pwmCommands_concat (pad : PadState) (cs : List (ActIdx × Bool)) (c : ActIdx × Bool) :
    (pwmCommands pad (cs ++ [c])).length =
      (pwmCommands pad cs).length + if isPwm (pad.actuators c.1).driver then 1 else 0 := by
  rw [pwmCommands, pwmCommands, List.filter_append, List.length_append]
  by_cases h : isPwm (pad.actuators c.1).driver
  · simp [h]
  · simp [h]

lemma commands_limited (state : PadState) (cs : List (ActIdx × Bool)) :
    (Hardware.commands (limited limit) (plant state 0) cs).dev =
        min (pwmCommands (padstateInit state) cs).length limit ∧
      ∀ act, ((Hardware.commands (limited limit) (plant state 0) cs).pad.actuators act).driver =
        ((padstateInit state).actuators act).driver := by
  induction cs using List.reverseRecOn with
  | nil => exact ⟨(Nat.zero_min limit).symm, fun _ => rfl⟩
  | append_singleton cs c ih =>
    obtain ⟨hdev, hdriver⟩ := ih
    have hlast : Hardware.commands (limited limit) (plant state 0) (cs ++ [c]) =
        Hardware.command (limited limit)
          (Hardware.commands (limited limit) (plant state 0) cs) c := by
      simp [Hardware.commands, List.foldl_append]
    rw [hlast]
    refine ⟨?_, fun act => (command_driver _ c act).trans (hdriver act)⟩
    have hsignal := signal_limited
      ((Hardware.commands (limited limit) (plant state 0) cs).pad.actuators c.1).driver c.2
      (hdev ▸ Nat.min_le_right _ _)
    refine hsignal.trans ?_
    rw [hdriver, hdev, pwmCommands_concat]
    split_ifs with hpwm
    · omega
    · rw [Nat.add_zero]

/-- **What the leak comes to**: when as many PWM commands were given as there are descriptors,
no command reaches its device any more, not even one for the dump valve. -/
theorem exhausted (state : PadState) (cs : List (ActIdx × Bool))
    (h : limit ≤ (pwmCommands (padstateInit state) cs).length) (c : ActIdx × Bool) :
    reached (limited limit)
      ((Hardware.commands (limited limit) (plant state 0) cs).pad.actuators c.1).driver
      (moments (limited limit) ((Hardware.commands (limited limit) (plant state 0) cs).signal c)
        (Hardware.commands (limited limit) (plant state 0) cs).dev) = false := by
  rw [(commands_limited state cs).1, min_eq_right h]
  exact reached_full _ c.2

end Hysim.Descriptors
