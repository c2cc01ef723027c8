import Hysim.Display
import Hysim.SensorStart

/-!
The sensors of the pad, from their start to the operator.

Every sensor is on its own: whether a cycle has a packet of it depends on the calls for it alone,
at the start and in the cycle. Of an ADC channel this is the read: a trigger that fails is only
logged, and what is read then is an earlier conversion. The packets come in a fixed order, and of
each datagram that arrives the telemetry client shows the first.
-/

namespace Hysim.Bench

open Hysim.Lib.Program Hysim.Packets Hysim.TelemClient Hysim.SensorTelemetry Hysim.Collect
open Hysim.Pairing Hysim.SensorStart Hysim.State Hysim.Publish Hysim.Display

/-! ### The sensors -/

inductive Sensor
  | adc (dev : Fin 3) (channel : AdcChannel)
  | mass
  | topic2
  | topic5
  deriving DecidableEq

/-- The order in which a cycle measures: the first channels of the ADC devices, then the second
ones, and so on. -/
def bench : List Sensor := [
  .adc 0 ⟨4, 0, .temp⟩, .adc 1 ⟨4, 0, .pressure⟩, .adc 2 ⟨4, 0, .thrust⟩,
  .adc 0 ⟨5, 1, .temp⟩, .adc 1 ⟨5, 1, .pressure⟩, .adc 2 ⟨7, 1, .cont⟩,
  .adc 0 ⟨6, 4, .pressure⟩, .adc 1 ⟨6, 5, .pressure⟩,
  .adc 0 ⟨7, 2, .pressure⟩, .adc 1 ⟨7, 3, .pressure⟩,
  .mass, .topic2, .topic5]

/-- What a packet says of the sensor it is from: the subtype and, unless it is the continuity, the
id. -/
abbrev Label := TelemSubtype × UInt8

def labelOf : Packet → Option Label
  | .temp p => some (.temp, p.id)
  | .pressure p => some (.pressure, p.id)
  | .mass p => some (.mass, p.id)
  | .thrust p => some (.thrust, p.id)
  | .cont _ => some (.cont, 0)
  | .actReq _ | .actAck _ | .armReq _ | .armAck _ | .arm _ | .act _ | .warn _ | .conn _ => none

def Sensor.label : Sensor → Label
  | .adc _ channel =>
    (channel.type, if channel.type = .cont then 0 else UInt8.ofInt channel.sensorId)
  | .mass => (.mass, 0)
  | .topic2 => (.temp, 2)
  | .topic5 => (.temp, 3)

lemma labels_nodup : (bench.map Sensor.label).Nodup := by decide

/-- Which calls of a cycle succeed. -/
structure Works where
  trigger : Int → Int → Bool
  adc : Int → Int → Bool
  check : Int → Except Int Bool
  copy : Int → Bool

def Works.topic (w : Works) (fd : Int) : Bool := w.check fd = .ok true && w.copy fd

/-- The calls for a sensor at the start succeeded. The calibration of the mass sensor is over when
there is a cycle, and then it has succeeded. -/
def starts (k : Kernel) : Sensor → Bool
  | .adc dev _ => !k.fails (.openDev (devpath dev))
  | .mass =>
    !k.fails (.orbGetMeta massTopic) && !k.fails (.orbSubscribe massTopic)
  | .topic2 =>
    !k.fails (.orbGetMeta tempTopic) && !k.fails (.orbSubscribeMulti tempTopic 2) &&
      !k.fails (.setThermo k.started.topic2.fd)
  | .topic5 =>
    !k.fails (.orbGetMeta tempTopic) && !k.fails (.orbSubscribeMulti tempTopic 5) &&
      !k.fails (.setThermo k.started.topic5.fd)

/-- The calls for a sensor in the cycle succeed, but for the trigger of an ADC channel, whose result
`sensor_telemetry` only logs. -/
def answers (k : Kernel) (w : Works) : Sensor → Bool
  | .adc dev channel => w.adc (k.started.adc dev) channel.channelNum
  | .mass => w.topic k.started.mass.fd
  | .topic2 => w.topic k.started.topic2.fd
  | .topic5 => w.topic k.started.topic5.fd

def up (k : Kernel) (w : Works) (x : Sensor) : Bool := starts k x && answers k w x

section Cycle

variable {S F σ : Type}

/-- The calls succeed as told, whatever they measure. -/
structure Obeys (D : Device SensorOp (SensorOp.Ans S F) σ) (w : Works) : Prop where
  trigger (fd channel : Int) (s : σ) :
    D.ans (.triggerConversion fd channel) s = .ok () ↔ w.trigger fd channel = true
  adc (fd channel : Int) (s : σ) :
    (∃ sample, D.ans (.readNoConversion fd channel) s = .ok sample) ↔ w.adc fd channel = true
  check (fd : Int) (s : σ) : D.ans (.orbCheck fd) s = w.check fd
  copy (fd : Int) (s : σ) : (∃ data, D.ans (.orbCopy fd) s = .ok data) ↔ w.copy fd = true

/-- `adc_sensor_val_conversion` never fails. -/
def Converts (conv : Conversions S F) : Prop :=
  ∀ channel sample, ∃ sensorVal, conv.adc channel sample = .ok sensorVal

variable {conv : Conversions S F} {D : Device SensorOp (SensorOp.Ans S F) σ} {w : Works}

def labels (conv : Conversions S F) (ms : List (Measurement S F)) : List (Option Label) :=
  (packets conv ms).map labelOf

lemma labels_append (ms ms' : List (Measurement S F)) :
    labels conv (ms ++ ms') = labels conv ms ++ labels conv ms' := by
  simp [labels, packets]

lemma labels_foldlM {ι : Type} {p : ι → SensorM S F (Option (Measurement S F))}
    {g : ι → List (Option Label)} (hp : ∀ x s, labels conv (run D (p x) s).1.toList = g x)
    (l : List ι) (ms : List (Measurement S F)) (s : σ) :
    labels conv (run D (l.foldlM (fun ms x => adding ms (p x)) ms) s).1 =
      labels conv ms ++ l.flatMap g := by
  induction l generalizing ms s with
  | nil => simp
  | cons x l ih =>
    rw [List.foldlM_cons, run_bind, ih, adding, run_bind, run_pure, labels_append, hp,
      List.flatMap_cons, List.append_assoc]

def channelLabels (channel : AdcChannel) : List (Option Label) :=
  match channel.type with
  | .temp | .pressure | .thrust => [some (channel.type, UInt8.ofInt channel.sensorId)]
  | .cont => [some (.cont, 0)]
  | .mass | .arm | .act | .warn | .conn => []

lemma labels_adc (fd : Int) (channel : AdcChannel) (timeMs : UInt32) (sample : S)
    (sensorVal : Int32) :
    labels conv [.adc fd channel timeMs sample sensorVal] = channelLabels channel := by
  unfold labels packets channelLabels
  rcases htype : channel.type with _ | _ | _ | _ | _ | _ | _ | _ | _
  all_goals simp [Measurement.packet, channelPacket, htype, labelOf]

def roundLabels (w : Works) (j : ℕ) (dev : AdcDevice) : List (Option Label) :=
  match dev.channelAt j with
  | none => []
  | some channel => if w.adc dev.fd channel.channelNum then channelLabels channel else []

lemma labels_measureChannel (hobeys : Obeys D w) (hconv : Converts conv) (j : ℕ) (dev : AdcDevice)
    (s : σ) :
    labels conv (run D (measureChannel conv j dev) s).1.toList = roundLabels w j dev := by
  unfold measureChannel roundLabels
  rcases dev.channelAt j with _ | channel
  · rfl
  dsimp only
  rw [run_bind, run_op]
  have hread := hobeys.adc dev.fd channel.channelNum s
  rcases hans : D.ans (.readNoConversion dev.fd channel.channelNum) s with err | sample
  · have hfails : ¬ w.adc dev.fd channel.channelNum = true := fun hworks => by
      obtain ⟨sample, hsample⟩ := hread.mpr hworks
      rw [hans] at hsample
      cases hsample
    rw [if_neg hfails]
    rfl
  · obtain ⟨sensorVal, hval⟩ := hconv channel sample
    rw [if_pos (hread.mp ⟨sample, hans⟩)]
    simp only [run_bind, hval, run_pure]
    exact labels_adc _ _ _ _ _

lemma labels_measureTopic (hobeys : Obeys D w) (available : Bool) (fd : Int)
    {measurement : Reading F → Measurement S F} {label : Label}
    (hlabel : ∀ data, labels conv [measurement data] = [some label]) (s : σ) :
    labels conv (run D (measureTopic available fd measurement) s).1.toList =
      if available && w.topic fd then [some label] else [] := by
  unfold measureTopic orbFetch Works.topic
  cases available with
  | false => rfl
  | true =>
    have hcheck := hobeys.check fd s
    have hcopy := hobeys.copy fd (D.eff (.orbCheck fd) s)
    simp only [if_true, run_bind, run_op, hcheck]
    rcases w.check fd with err | (_ | _)
    · rfl
    · rfl
    · simp only [if_true, run_op]
      rcases hans : D.ans (.orbCopy fd) (D.eff (.orbCheck fd) s) with err | data
      · have hfails : w.copy fd = false := by
          rw [Bool.eq_false_iff]
          intro hworks
          obtain ⟨data, hdata⟩ := hcopy.mpr hworks
          rw [hans] at hdata
          cases hdata
        simp [hfails, labels, packets]
      · simp [hcopy.mp ⟨data, hans⟩, hlabel data]

lemma labels_rounds (hobeys : Obeys D w) (hconv : Converts conv) (devs : List AdcDevice)
    (js : List ℕ) (ms : List (Measurement S F)) (s : σ) :
    labels conv (run D (js.foldlM (collectRound conv devs) ms) s).1 =
      labels conv ms ++ js.flatMap fun j => devs.flatMap (roundLabels w j) := by
  induction js generalizing ms s with
  | nil => simp
  | cons j js ih =>
    rw [List.foldlM_cons, run_bind, ih, collectRound, run_bind,
      labels_foldlM (labels_measureChannel hobeys hconv j), List.flatMap_cons, List.append_assoc]

lemma labels_collect (hobeys : Obeys D w) (hconv : Converts conv) (t : SensorTable) (s : σ) :
    labels conv (run D (collect conv t) s).1 =
      ((List.range 4).flatMap fun j => t.adcDevices.flatMap (roundLabels w j)) ++
        (t.sensorMass.toList.flatMap fun sensor =>
          if sensor.available && w.topic sensor.fd then [some (.mass, 0)] else []) ++
        t.sensorTemps.flatMap fun sensor =>
          if sensor.available && w.topic sensor.fd then
            [some (.temp, UInt8.ofInt sensor.sensorId)] else [] := by
  have hmass : ∀ (sensor : SensorMass) (s : σ),
      labels conv (run D (measureMass sensor) s).1.toList =
        if sensor.available && w.topic sensor.fd then [some (.mass, 0)] else [] :=
    fun _ => labels_measureTopic hobeys _ _ fun _ => rfl
  have htemp : ∀ (sensor : SensorTemp) (s : σ),
      labels conv (run D (measureTemp sensor) s).1.toList =
        if sensor.available && w.topic sensor.fd then
          [some (.temp, UInt8.ofInt sensor.sensorId)] else [] :=
    fun _ => labels_measureTopic hobeys _ _ fun _ => rfl
  unfold collect
  rw [run_bind, run_bind, labels_foldlM htemp, labels_foldlM hmass, labels_rounds hobeys hconv]
  rfl

/-! ### A cycle of the pad -/

variable (k : Kernel)

lemma filter_map_eq_flatMap {α β : Type} (p : α → Bool) (f : α → β) (l : List α) :
    (l.filter p).map f = l.flatMap fun x => if p x then [f x] else [] := by
  induction l with
  | nil => rfl
  | cons x l ih =>
    rw [List.filter_cons, List.flatMap_cons, ← ih]
    split_ifs <;> rfl

lemma roundLabels_started (i : Fin 3) (channels : List AdcChannel) (hle : channels.length ≤ 4)
    (j : ℕ) : roundLabels w j ⟨k.started.adc i, channels, hle⟩ =
      channels[j]?.toList.flatMap fun channel =>
        if up k w (.adc i channel) then channelLabels channel else [] := by
  have hopen := started_adc_nonneg_iff k i
  unfold roundLabels AdcDevice.channelAt up starts answers
  by_cases h : 0 ≤ k.started.adc i
  · simp only [if_neg (not_lt.mpr h), hopen.mp h]
    rcases channels[j]? with _ | channel
    · rfl
    · simp
  · have hfails : k.fails (.openDev (devpath i)) = true := by simpa using mt hopen.mpr h
    simp [if_pos (not_le.mp h), hfails]

lemma up_mass : up k w .mass = (k.started.mass.available && w.topic k.started.mass.fd) := by
  have havailable := started_mass_available k
  unfold up starts answers
  congr 1
  rw [Bool.eq_iff_iff, havailable]
  simp

lemma up_topic2 :
    up k w .topic2 = (k.started.topic2.available && w.topic k.started.topic2.fd) := by
  have havailable := started_topic2_available k
  unfold up starts answers
  congr 1
  rw [Bool.eq_iff_iff, havailable]
  simp [and_assoc]

lemma up_topic5 :
    up k w .topic5 = (k.started.topic5.available && w.topic k.started.topic5.fd) := by
  have havailable := started_topic5_available k
  unfold up starts answers
  congr 1
  rw [Bool.eq_iff_iff, havailable]
  simp [and_assoc]

/-- **A cycle of the pad**: it says a label for each sensor that is up, in the order of the
bench. -/
lemma labels_cycle (hobeys : Obeys D w) (hconv : Converts conv) (s : σ) :
    labels conv (run D (collect conv (sensorTable k.opened)) s).1 =
      (bench.filter (up k w)).map fun x => some x.label := by
  rw [labels_collect hobeys hconv, filter_map_eq_flatMap]
  have hrange : List.range 4 = [0, 1, 2, 3] := rfl
  simp only [hrange, sensorTable, adcDevices, Kernel.opened, List.flatMap_cons, List.flatMap_nil,
    roundLabels_started, bench, Option.toList_some, up_mass, up_topic2, up_topic5]
  have htwo : UInt8.ofInt 2 = 2 := rfl
  have hthree : UInt8.ofInt 3 = 3 := rfl
  simp [channelLabels, Sensor.label, htwo, hthree]

/-- **Every sensor is on its own.** Whichever calls fail at the start, once the mass sensor is
calibrated, and in a cycle, the cycle publishes a packet for exactly the sensors whose own calls
succeeded, triggers apart, in the order of the bench, and no label is there twice. -/
theorem isolated_of_start (hobeys : Obeys D w) (hconv : Converts conv) (v : Locals) (s : σ) :
    ∃ ps, published (moments D (sensorTelemetry conv (sensorTable k.opened) v) s) =
        (if ps = [] then [] else [encode ps]) ∧
      ps.map labelOf = (bench.filter (up k w)).map (fun x => some x.label) ∧
      (ps.map labelOf).Nodup ∧
      ∀ x ∈ bench, some x.label ∈ ps.map labelOf ↔ up k w x = true := by
  have hlabels := labels_cycle k hobeys hconv s
  have hnodup : (bench.map fun x => some x.label).Nodup := by
    have hsome := labels_nodup.map (Option.some_injective Label)
    rwa [List.map_map] at hsome
  refine ⟨_, published_sensorTelemetry D _ v s, hlabels, ?_, fun x hx => ?_⟩
  · change (labels conv _).Nodup
    rw [hlabels]
    exact hnodup.sublist (List.filter_sublist.map _)
  · change some x.label ∈ labels conv _ ↔ _
    rw [hlabels, List.mem_map]
    constructor
    · rintro ⟨y, hy, heq⟩
      obtain ⟨hmem, hup⟩ := List.mem_filter.mp hy
      rwa [← List.inj_on_of_nodup_map hnodup hmem hx heq]
    · intro hup
      exact ⟨x, List.mem_filter.mpr ⟨hx, hup⟩, rfl⟩

end Cycle

/-! ### What the operator is shown -/

section Operator

variable {S F σ : Type}

structure Cycle (S F σ : Type) where
  works : Works
  dev : Device SensorOp (SensorOp.Ans S F) σ
  obeys : Obeys dev works
  state : σ
  vars : Locals

variable (conv : Conversions S F) (k : Kernel)

def Cycle.packets (c : Cycle S F σ) : Datagram :=
  Collect.packets conv (run c.dev (collect conv (sensorTable k.opened)) c.state).1

def Cycle.sent (c : Cycle S F σ) : List (List UInt8) :=
  published (moments c.dev (sensorTelemetry conv (sensorTable k.opened) c.vars) c.state)

variable {conv}

lemma isSensor_of_mem {ms : List (Measurement S F)} {p : Packet}
    (hp : p ∈ Collect.packets conv ms) : Channel.IsSensor p := by
  obtain ⟨m, -, hm⟩ := List.mem_filterMap.mp hp
  cases m with
  | adc fd channel timeMs sample sensorVal =>
    simp only [Measurement.packet, channelPacket] at hm
    split at hm
    all_goals cases hm
    all_goals trivial
  | mass data =>
    obtain rfl := Option.some.inj hm
    trivial
  | temp sensorId data =>
    obtain rfl := Option.some.inj hm
    trivial

lemma measures_sent : Measures (Cycle.sent conv k) (Cycle.packets (σ := σ) conv k) := by
  intro c bytes hsent
  have hone : c.sent conv k =
      if c.packets conv k = [] then [] else [encode (c.packets conv k)] :=
    published_sensorTelemetry c.dev _ c.vars c.state
  rw [hone] at hsent
  split_ifs at hsent with hempty
  obtain ⟨p, ps, hp⟩ := List.exists_cons_of_ne_nil hempty
  refine ⟨(List.singleton_inj.mp hsent).symm, p, ps, hp, ?_⟩
  exact isSensor_of_mem (hp ▸ List.mem_cons_self)

lemma first_eq (hconv : Converts conv) (c : Cycle S F σ) :
    (c.packets conv k).head?.bind labelOf = (bench.find? (up k c.works)).map Sensor.label := by
  have hlabels : (c.packets conv k).map labelOf = _ := labels_cycle k c.obeys hconv c.state
  have hhead := congrArg List.head? hlabels
  rw [List.head?_map, List.head?_map, List.head?_filter] at hhead
  rcases hfind : bench.find? (up k c.works) with _ | x
  · rw [hfind, Option.map_none, Option.map_eq_none_iff] at hhead
    rw [hhead]
    rfl
  · rw [hfind, Option.map_some, Option.map_eq_some_iff] at hhead
    obtain ⟨p, hp, hlabel⟩ := hhead
    rw [hp]
    exact hlabel

/-- **The operator is shown the label of the first sensor of a cycle that is up.** Whatever
datagrams arrive, and however those with the pad state come in between: the measurements the client
has reported have, one for each cycle whose datagram it has read, the label of the first sensor of
the bench that is up in the cycle. -/
theorem shown_of_cycles (hconv : Converts conv) {entries : List (Entry (Cycle S F σ))}
    {queue : List (List UInt8)}
    (hqueue : List.Forall₂ (Entry.Bytes (Cycle.sent conv k)) entries queue)
    (client : Client) (hnone : client.reports = []) (n : ℕ) :
    (measured (iterations n { client with queue := queue, running := true }).reports).map labelOf =
      (fromSensors (entries.take n)).map fun c =>
        (bench.find? (up k c.works)).map Sensor.label := by
  have hreports := measured_reports (measures_sent k) hqueue hnone n
  have hlabels := congrArg (List.map (Option.bind · labelOf)) hreports
  rw [List.map_map, List.map_map] at hlabels
  refine hlabels.trans (List.map_congr_left fun c _ => ?_)
  exact first_eq k hconv c

end Operator

/-! ### Cycles without the first device -/

/-- The first channels cannot be triggered, and topic 5 has no new reading. -/
def mostWorks : Works :=
  ⟨fun _ channel => channel ≠ 4, fun _ _ => true, fun fd => .ok (fd ≠ 7), fun _ => true⟩

def obliging (w : Works) : Device SensorOp (SensorOp.Ans Int32 ℕ) ℕ where
  ans
    | .triggerConversion fd channel, _ => if w.trigger fd channel then .ok () else .error 16
    | .readNoConversion fd channel, _ => if w.adc fd channel then .ok 1 else .error 5
    | .clock, n => UInt32.ofNat n
    | .orbCheck fd, _ => w.check fd
    | .orbCopy fd, _ => if w.copy fd then .ok ⟨2000, 2⟩ else .error (-1)
    | .publish _, _ => ()
  eff _ n := n + 1

lemma obeys_obliging (w : Works) : Obeys (obliging w) w := by
  refine ⟨fun fd channel s => ?_, fun fd channel s => ?_, fun _ _ => rfl, fun fd s => ?_⟩
  · change (if w.trigger fd channel then Except.ok () else Except.error (16 : Int)) = .ok () ↔ _
    cases w.trigger fd channel <;> simp
  · change (∃ sample, (if w.adc fd channel then Except.ok 1 else Except.error 5) = .ok sample) ↔ _
    cases w.adc fd channel <;> simp
  · change (∃ data, (if w.copy fd then Except.ok (⟨2000, 2⟩ : Reading ℕ) else Except.error (-1)) =
      .ok data) ↔ _
    cases w.copy fd <;> simp

def plain : Conversions Int32 ℕ := ⟨fun _ sample => .ok sample, fun _ => 7, fun _ => 20⟩

lemma converts_plain : Converts plain := fun _ sample => ⟨sample, rfl⟩

def calibrated : Calibrated :=
  ⟨List.replicate 20 (.ok ⟨0, 0⟩), 0, by
    rw [Calibration.sensorMassCalibrate_returned 0 (by decide)]⟩

/-- The first ADC device cannot be opened. -/
def firstMissing : Kernel :=
  ⟨fun o => o = .openDev "/dev/adc0", calibrated, fun n => n, fun _ _ h => h⟩

def cycle : Cycle Int32 ℕ ℕ := ⟨mostWorks, obliging mostWorks, obeys_obliging _, 0, anything⟩

theorem isolated_of_start_missing : ∃ ps : List Packet,
    mostWorks.trigger (firstMissing.started.adc 1) 4 = false ∧
      (bench.filter (up firstMissing mostWorks)).length = 8 ∧
      published (moments (obliging mostWorks)
        (sensorTelemetry plain (sensorTable firstMissing.opened) anything) 0) =
          (if ps = [] then [] else [encode ps]) ∧
      ps.map labelOf =
        (bench.filter (up firstMissing mostWorks)).map (fun x => some x.label) ∧
      (ps.map labelOf).Nodup ∧
      ∀ x ∈ bench, some x.label ∈ ps.map labelOf ↔ up firstMissing mostWorks x = true := by
  obtain ⟨ps, h⟩ := isolated_of_start firstMissing (obeys_obliging mostWorks) converts_plain
    anything 0
  exact ⟨ps, by decide, by decide, h⟩

theorem shown_of_cycles_missing : ∃ (entries : List (Entry (Cycle Int32 ℕ ℕ)))
    (queue : List (List UInt8)), entries.length = 2 ∧
      List.Forall₂ (Entry.Bytes (Cycle.sent plain firstMissing)) entries queue ∧
      (bench.find? (up firstMissing cycle.works)).map Sensor.label = some (.pressure, 0) ∧
      (measured (iterations 2 { History.started with queue := queue, running := true }).reports).map
          labelOf =
        (fromSensors (entries.take 2)).map fun c =>
          (bench.find? (up firstMissing c.works)).map Sensor.label := by
  have hne : cycle.packets plain firstMissing ≠ [] := by decide
  have hsent : cycle.sent plain firstMissing = [encode (cycle.packets plain firstMissing)] :=
    (published_sensorTelemetry _ _ _ _).trans (if_neg hne)
  have hqueue : List.Forall₂ (Entry.Bytes (Cycle.sent plain firstMissing))
      [.padstate 0 (padstateInit zeroed), .sensors cycle]
      [encode (padDatagram 0 (padstateInit zeroed)), encode (cycle.packets plain firstMissing)] :=
    .cons rfl (.cons hsent .nil)
  exact ⟨_, _, rfl, hqueue, by decide,
    shown_of_cycles firstMissing converts_plain hqueue History.started rfl 2⟩

end Hysim.Bench
