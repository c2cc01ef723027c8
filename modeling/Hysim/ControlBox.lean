import Hysim.Client

/-!
The control box: the loop of `control_client_main.c` over its switches, in the build that
reads them from GPIO pins.

A pass looks at one switch after another, and a switch whose position differs from its
recorded state sends a request and waits for the answer. What a pin reads may change from
one look to the next, and any call may fail.
-/

namespace Hysim.ControlBox

open Hysim.Packets Hysim.Actuators Hysim.Serve Hysim.Controller Hysim.Client

/-! ### The switches -/

/-- `array_len(switches)`. -/
def numSwitches : ℕ := 20

instance : NeZero numSwitches := ⟨Nat.succ_ne_zero 19⟩

abbrev SwitchIdx := Fin numSwitches

/-- `switches`, as they are initialised. -/
def switchTable : List Switch := [
  ⟨idXv1, .actReq, false⟩, ⟨idXv2, .actReq, false⟩, ⟨idXv3, .actReq, false⟩,
  ⟨idXv4, .actReq, false⟩, ⟨idFireValve, .actReq, false⟩, ⟨idXv6, .actReq, false⟩,
  ⟨idXv7, .actReq, false⟩, ⟨idXv8, .actReq, false⟩, ⟨idXv9, .actReq, false⟩,
  ⟨idXv10, .actReq, false⟩, ⟨idXv11, .actReq, false⟩, ⟨idXv12, .actReq, false⟩,
  ⟨idQuickDisconnect, .actReq, false⟩, ⟨idDump, .actReq, false⟩, ⟨idIgniter, .actReq, false⟩,
  ⟨ArmLvl.armedPad.val.toUInt8, .armReq, false⟩,
  ⟨ArmLvl.armedValves.val.toUInt8, .armReq, false⟩,
  ⟨ArmLvl.armedIgnition.val.toUInt8, .armReq, false⟩,
  ⟨ArmLvl.armedDisconnected.val.toUInt8, .armReq, false⟩,
  ⟨ArmLvl.armedLaunch.val.toUInt8, .armReq, false⟩]

def valveArmingSwitchIdx : SwitchIdx := ⟨16, by decide⟩

/-- `ACTUATOR_IN`, by the id of the actuator. -/
def actuatorIn : List String := [
  "/dev/gpio28", "/dev/gpio2", "/dev/gpio3", "/dev/gpio15", "/dev/gpio5", "/dev/gpio6",
  "/dev/gpio7", "/dev/gpio8", "/dev/gpio9", "/dev/gpio10", "/dev/gpio11", "/dev/gpio12",
  "/dev/gpio13", "/dev/gpio14", "/dev/gpio4"]

/-- `ARM_IN`, by arming level: only two levels have a switch. -/
def armIn : List (Option String) := [none, some "/dev/gpio27", some "/dev/gpio26", none, none]

/-- The pin of a switch. -/
def gpioDev (sw : Switch) : Option String :=
  if sw.kind = .actReq then actuatorIn[sw.actId.toNat]? else armIn[sw.actId.toNat]?.join

/-! ### The loop -/

/-- Where the box is: waiting for an interrupt, at a switch of a pass, waiting for the answer
to the request of a switch, or connecting. -/
inductive Place
  | waiting
  | visiting (k i : SwitchIdx)
  | answering (k i : SwitchIdx) (req : Request)
  | reconnect
  | exited

/-- The recorded states of the switches, of which nothing else ever changes. -/
structure Box where
  state : SwitchIdx → Bool
  place : Place

def Box.switch (b : Box) (i : SwitchIdx) : Switch :=
  { switchTable.get i with state := b.state i }

def Place.advance (k i : SwitchIdx) : Place :=
  if h : i.val + 1 < numSwitches then .visiting k ⟨i.val + 1, h⟩
  else if h : k.val + 1 < numSwitches then .visiting ⟨k.val + 1, h⟩ 0
  else .waiting

def enotconn : Int := 107
def econnaborted : Int := 103
def econnrefused : Int := 111

/-- The end of a visit, with what `switch_callback` returned. -/
def Box.finish (b : Box) (k i : SwitchIdx) (err : Int) : Box :=
  { b with place :=
      if err = enotconn ∨ err = econnaborted ∨ err = econnrefused then .reconnect
      else .advance k i }

/-- What a look at a pin gives; it reads high when the switch is open. -/
inductive Gpio
  | openFails (errno : Int)
  | readFails (errno : Int)
  | value (high : Bool)

def turningOffIgnition (sw : Switch) (value : Bool) : Bool :=
  sw.kind = .armReq && sw.actId = ArmLvl.armedIgnition.val.toUInt8 && !value

/-- The value read has to be reported: it differs from the recorded state, and is not the
ignition switched off without the key. -/
def Box.reports (b : Box) (i : SwitchIdx) (value : Bool) : Bool :=
  value != (b.switch i).state &&
    !(turningOffIgnition (b.switch i) value && !(b.switch valveArmingSwitchIdx).state)

/-- `switch_callback` up to its call of `pad_recv`: the state is recorded first, and the
request sent unless `pad_send` fails. -/
def Box.callback (b : Box) (k i : SwitchIdx) (value : Bool) (send : Option Int) :
    Box × Option Request :=
  let marked := { b with state := Function.update b.state i value }
  match switchRequest (b.switch i) value with
  | none => (marked.finish k i (-einval), none)
  | some req =>
    match send with
    | some errno => (marked.finish k i errno, none)
    | none => ({ marked with place := .answering k i req }, some req)

def Box.visit (b : Box) (k i : SwitchIdx) (gpio : Gpio) (send : Option Int) :
    Box × Option Request :=
  match gpioDev (b.switch i), gpio with
  | none, _ | _, .openFails _ | _, .readFails _ => ({ b with place := .advance k i }, none)
  | some _, .value high =>
    if b.reports i (!high) then b.callback k i (!high) send
    else ({ b with place := .advance k i }, none)

/-- What the box waits for: an interrupt of a switch, a look at a pin with the result of
`pad_send` should it be called, the result of `pad_recv`, and that of connecting. -/
inductive BoxEvent
  | interrupt
  | look (gpio : Gpio) (send : Option Int)
  | reply (stale : ℕ → UInt8) (r : Recv)
  | connect (err : Int)

/-- One step of the box, with the request it sends. An event it does not wait for leaves it
as it is. -/
def Box.step (b : Box) : BoxEvent → Box × Option Request
  | .interrupt =>
    match b.place with
    | .waiting => ({ b with place := .visiting 0 0 }, none)
    | _ => (b, none)
  | .look gpio send =>
    match b.place with
    | .visiting k i => b.visit k i gpio send
    | _ => (b, none)
  | .reply stale r =>
    match b.place with
    | .answering k i req => (b.finish k i (checkResponse req stale r), none)
    | _ => (b, none)
  | .connect err =>
    match b.place with
    | .reconnect => ({ b with place := if err = 0 then .waiting else .exited }, none)
    | _ => (b, none)

def box : Box := ⟨fun i => (switchTable.get i).state, .reconnect⟩

/-! ### What a step sends -/

/-- A request goes out for a switch: its position was to be reported and has been recorded. -/
def Sends (b : Box) (next : Box) (req : Request) : Prop :=
  ∃ i value, (gpioDev (b.switch i)).isSome = true ∧ b.reports i value = true ∧
    switchRequest (b.switch i) value = some req ∧ next.state = Function.update b.state i value

lemma callback_sent {b : Box} {k i : SwitchIdx} {value : Bool} {send : Option Int} {req : Request}
    (h : (b.callback k i value send).2 = some req) :
    switchRequest (b.switch i) value = some req ∧
      (b.callback k i value send).1.state = Function.update b.state i value := by
  unfold Box.callback at h ⊢
  cases hreq : switchRequest (b.switch i) value with
  | none => simp [hreq] at h
  | some req' =>
    cases send with
    | some errno => simp [hreq] at h
    | none => simpa [hreq] using h

lemma visit_sent {b : Box} {k i : SwitchIdx} {gpio : Gpio} {send : Option Int} {req : Request}
    (h : (b.visit k i gpio send).2 = some req) : Sends b (b.visit k i gpio send).1 req := by
  unfold Box.visit at h ⊢
  cases hdev : gpioDev (b.switch i) with
  | none => simp [hdev] at h
  | some dev =>
    cases gpio with
    | openFails errno => simp [hdev] at h
    | readFails errno => simp [hdev] at h
    | value high =>
      by_cases hrep : b.reports i (!high) = true
      · simp only [hdev, if_pos hrep] at h ⊢
        obtain ⟨hreq, hstate⟩ := callback_sent h
        exact ⟨i, !high, by simp [hdev], hrep, hreq, hstate⟩
      · simp [hdev, hrep] at h

lemma step_sent {b : Box} {e : BoxEvent} {req : Request} (h : (b.step e).2 = some req) :
    Sends b (b.step e).1 req := by
  cases e with
  | look gpio send =>
    cases hp : b.place with
    | visiting k i =>
      have hstep : b.step (.look gpio send) = b.visit k i gpio send := by simp [Box.step, hp]
      rw [hstep] at h ⊢
      exact visit_sent h
    | _ => simp [Box.step, hp] at h
  | _ => cases hp : b.place <;> simp [Box.step, hp] at h

end Hysim.ControlBox
