import Hysim.Hardware

/-!
The two PWM actuators, which share a device.

A command reads the configuration of both channels, changes its own and writes both back. The
duty of a channel is the one chosen for the last command to its actuator that was written, at
whatever call the others failed.
-/

namespace Hysim.Pwm

open Hysim.Lib.Program Hysim.Actuators Hysim.State Hysim.Hardware

/-! ### The device -/

/-- A PWM device: it answers with the configuration last set, unless the call fails. Any call
may fail. -/
structure PwmDevice (σ : Type) where
  device : Device DevOp DevOp.Ans σ
  config : σ → PwmInfo
  get_ok : ∀ fd s c, device.ans (.pwmGetCharacteristics fd) s = .ok c → c = config s
  set_ok : ∀ fd c s, device.ans (.pwmSetCharacteristics fd c) s = .ok () →
    config (device.eff (.pwmSetCharacteristics fd c) s) = c
  set_error : ∀ fd c s e, device.ans (.pwmSetCharacteristics fd c) s = .error e →
    config (device.eff (.pwmSetCharacteristics fd c) s) = config s
  other : ∀ o s, isSetCharacteristics o = false → config (device.eff o s) = config s

/-- A device that counts the calls and fails those with an `errno` in `fails`. -/
def counting (fails : ℕ → Option Int) : PwmDevice (ℕ × PwmInfo) where
  device :=
    { ans := fun o s =>
        match o, fails s.1 with
        | .openDev _, some e | .gpiocWrite _ _, some e | .close _, some e
        | .pwmGetCharacteristics _, some e | .pwmSetCharacteristics _ _, some e
        | .pwmStart _, some e => .error e
        | .openDev _, none => .ok 3
        | .gpiocWrite _ _, none | .close _, none | .pwmSetCharacteristics _ _, none
        | .pwmStart _, none => .ok ()
        | .pwmGetCharacteristics _, none => .ok s.2
      eff := fun o s =>
        match o, fails s.1 with
        | .pwmSetCharacteristics _ c, none => (s.1 + 1, c)
        | _, _ => (s.1 + 1, s.2) }
  config := Prod.snd
  get_ok := by
    intro fd s c h
    dsimp only at h
    cases hfails : fails s.1 <;> simp_all
  set_ok := by
    intro fd c s h
    dsimp only at h ⊢
    cases hfails : fails s.1 <;> simp_all
  set_error := by
    intro fd c s e h
    dsimp only at h ⊢
    cases hfails : fails s.1 <;> simp_all
  other := by
    intro o s h
    cases o <;> first | rfl | simp [isSetCharacteristics] at h

variable {σ : Type} (P : PwmDevice σ)

def configured (calls : List (σ × DevOp)) : Bool :=
  calls.any fun call => isSetCharacteristics call.2 && Hardware.failure P.device call = none

lemma config_pwmSendSignal (priv : PwmActinfo) (openAct : Bool) (s : σ) :
    P.config (run P.device (pwmSendSignal priv openAct) s).2 =
      if configured P (moments P.device (pwmSendSignal priv openAct) s) then
        pwmConfigure priv openAct (P.config s)
      else P.config s := by
  have hopened : P.config (P.device.eff (.openDev priv.dev) s) = P.config s := P.other _ _ rfl
  unfold pwmSendSignal
  rw [run_bind, moments_bind, run_op, moments_op]
  rcases hopen : P.device.ans (.openDev priv.dev) s with e | fd
  · simpa [configured, isSetCharacteristics] using hopened
  dsimp only
  have hgot : P.config (P.device.eff (.pwmGetCharacteristics fd)
      (P.device.eff (.openDev priv.dev) s)) = P.config s := (P.other _ _ rfl).trans hopened
  rw [run_bind, moments_bind, run_op, moments_op]
  rcases hget : P.device.ans (.pwmGetCharacteristics fd) (P.device.eff (.openDev priv.dev) s)
    with e | config
  · simpa [configured, isSetCharacteristics] using hgot
  dsimp only
  have hconfig : config = P.config s := (P.get_ok fd _ config hget).trans hopened
  rw [run_bind, moments_bind, run_op, moments_op]
  rcases hset : P.device.ans (.pwmSetCharacteristics fd (pwmConfigure priv openAct config))
    (P.device.eff (.pwmGetCharacteristics fd) (P.device.eff (.openDev priv.dev) s)) with e | u
  · have hkept := (P.set_error _ _ _ e hset).trans hgot
    simpa [configured, isSetCharacteristics, Hardware.failure, hset, errnoOf] using hkept
  dsimp only
  have hnew := P.set_ok _ _ _ hset
  rw [run_bind, moments_bind, run_op, moments_op]
  -- whether the signal starts makes no difference to the configuration
  have hstarted := (P.other (.pwmStart fd) (P.device.eff (.pwmSetCharacteristics fd
    (pwmConfigure priv openAct config)) (P.device.eff (.pwmGetCharacteristics fd)
      (P.device.eff (.openDev priv.dev) s))) rfl).trans hnew
  rw [hconfig] at hset hstarted ⊢
  rcases P.device.ans (.pwmStart fd) (P.device.eff (.pwmSetCharacteristics fd
    (pwmConfigure priv openAct (P.config s))) (P.device.eff (.pwmGetCharacteristics fd)
      (P.device.eff (.openDev priv.dev) s))) with e | u
  · simpa [configured, isSetCharacteristics, Hardware.failure, hset, errnoOf] using hstarted
  · simpa [configured, isSetCharacteristics, Hardware.failure, hset, errnoOf] using hstarted

/-! ### Histories of commands -/

inductive Servo
  | dump | quickDisconnect
  deriving DecidableEq, Repr

def Servo.act : Servo → ActIdx
  | .dump => dumpValve
  | .quickDisconnect => Actuators.quickDisconnect

def Servo.info : Servo → PwmActinfo
  | .dump => dumpInfo
  | .quickDisconnect => quickDisconnectInfo

lemma padstateInit_driver (state : PadState) (servo : Servo) :
    ((padstateInit state).actuators servo.act).driver = .pwm servo.info := by
  cases servo <;> rfl

lemma channel_inj {servo other : Servo} :
    servo.info.channel = other.info.channel ↔ servo = other := by
  cases servo <;> cases other <;> decide

/-- The duty chosen for a command: `on` asks for the close pulse. -/
def Servo.duty (servo : Servo) (on : Bool) : UInt16 :=
  if on then servo.info.closeDuty else servo.info.openDuty

/-- The device, and the commands whose configuration was set. -/
structure Plant (σ : Type) where
  dev : σ
  set : List (Servo × Bool)

/-- `act->on(act)` or `act->off(act)` for a servo of the pad as it was initialised. -/
def drive (state : PadState) (c : Servo × Bool) : DevM Int :=
  signal ((padstateInit state).actuators c.1.act).driver c.2

def command (state : PadState) (x : Plant σ) (c : Servo × Bool) : Plant σ where
  dev := (run P.device (drive state c) x.dev).2
  set := if configured P (moments P.device (drive state c) x.dev) then x.set ++ [c] else x.set

def commands (state : PadState) (x : Plant σ) (cs : List (Servo × Bool)) : Plant σ :=
  cs.foldl (command P state) x

/-- The duty of the last of these commands that is for the servo. -/
def lastDuty (servo : Servo) (initial : UInt16) (cs : List (Servo × Bool)) : UInt16 :=
  ((cs.filter fun c => c.1 = servo).getLast?.map fun c => servo.duty c.2).getD initial

lemma lastDuty_concat (servo : Servo) (initial : UInt16) (cs : List (Servo × Bool))
    (c : Servo × Bool) : lastDuty servo initial (cs ++ [c]) =
      if c.1 = servo then servo.duty c.2 else lastDuty servo initial cs := by
  unfold lastDuty
  rw [List.filter_append]
  by_cases h : c.1 = servo
  · simp [h]
  · simp [h]

def Servo.configuredDuty (servo : Servo) (config : PwmInfo) : UInt16 :=
  (config.channels servo.info.channel).duty

variable {P}

lemma configuredDuty_command (state : PadState) (x : Plant σ) (c : Servo × Bool) (servo : Servo) :
    servo.configuredDuty (P.config (command P state x c).dev) =
      if configured P (moments P.device (drive state c) x.dev) ∧ c.1 = servo then servo.duty c.2
      else servo.configuredDuty (P.config x.dev) := by
  have hsend : drive state c = pwmSendSignal c.1.info (!c.2) := by
    unfold drive
    rw [padstateInit_driver]
    cases c.2 <;> rfl
  have hconfig := config_pwmSendSignal P c.1.info (!c.2) x.dev
  simp only [command, hsend]
  rw [hconfig]
  by_cases hset : configured P (moments P.device (pwmSendSignal c.1.info (!c.2)) x.dev) = true
  · rw [if_pos hset]
    by_cases hservo : c.1 = servo
    · rw [if_pos ⟨hset, hservo⟩]
      subst hservo
      simp only [Servo.configuredDuty, pwmConfigure, Function.update_self]
      cases c.2 <;> rfl
    · have hne : servo.info.channel ≠ c.1.info.channel := fun h =>
        hservo (channel_inj.mp h).symm
      rw [if_neg fun h => hservo h.2]
      simp only [Servo.configuredDuty, pwmConfigure, Function.update_of_ne hne]
  · rw [if_neg hset, if_neg fun h => hset h.1]

/-- **The servos do not disturb each other.** After any commands, with any of the calls failing,
the duty of each channel is that of the last command to its own servo that was set, and the
initial one if there was none. -/
theorem duty_eq_lastDuty (P : PwmDevice σ) (state : PadState) (dev : σ)
    (cs : List (Servo × Bool)) (servo : Servo) :
    servo.configuredDuty (P.config (commands P state ⟨dev, []⟩ cs).dev) =
      lastDuty servo (servo.configuredDuty (P.config dev)) (commands P state ⟨dev, []⟩ cs).set := by
  induction cs using List.reverseRecOn with
  | nil => rfl
  | append_singleton cs c ih =>
    have hlast : commands P state ⟨dev, []⟩ (cs ++ [c]) =
        command P state (commands P state ⟨dev, []⟩ cs) c := by
      simp [commands, List.foldl_append]
    rw [hlast, configuredDuty_command, ih]
    by_cases hset : configured P
      (moments P.device (drive state c) (commands P state ⟨dev, []⟩ cs).dev) = true
    · have hmore : (command P state (commands P state ⟨dev, []⟩ cs) c).set =
          (commands P state ⟨dev, []⟩ cs).set ++ [c] := if_pos hset
      rw [hmore, lastDuty_concat]
      simp only [hset, true_and]
    · have hsame : (command P state (commands P state ⟨dev, []⟩ cs) c).set =
          (commands P state ⟨dev, []⟩ cs).set := if_neg hset
      rw [hsame, if_neg fun h => hset h.1]

/-- The sixth call fails, with which the dump valve reads the configuration. -/
def dumpFails : PwmDevice (ℕ × PwmInfo) := counting fun n => if n = 5 then some 5 else none

def switched : Plant (ℕ × PwmInfo) :=
  commands dumpFails zeroed ⟨(0, ⟨250, fun _ => ⟨0, 0, 0, 0⟩⟩), []⟩
    [(.quickDisconnect, true), (.dump, true)]

theorem duty_eq_lastDuty_dumpFails : switched.set = [(.quickDisconnect, true)] ∧
    Servo.dump.configuredDuty (dumpFails.config switched.dev) = lastDuty .dump 0 switched.set :=
  ⟨rfl, duty_eq_lastDuty dumpFails zeroed _ _ .dump⟩

end Hysim.Pwm
