import Hysim.Lib.Refine
import Hysim.SensorTelemetry

/-!
What a cycle of the sensor thread publishes.

Without the arrays a cycle is a list of measurements, of which each adds one packet to the
datagram. The cycle on arrays performs the same calls, and sends the bytes of these packets.
-/

namespace Hysim.Collect

open Hysim.Lib.Program Hysim.Lib.Gather Hysim.Lib.Refine Hysim.Packets Hysim.TelemClient
open Hysim.Decode Hysim.SensorTelemetry

variable {S F : Type}

/-! ### Measurements -/

/-- What a call that succeeded measured: for an ADC channel the device and the sample it is
converted from. -/
inductive Measurement (S F : Type)
  | adc (fd : Int) (channel : AdcChannel) (timeMs : UInt32) (sample : S) (sensorVal : Int32)
  | mass (data : Reading F)
  | temp (sensorId : Int) (data : Reading F)

variable (conv : Conversions S F)

/-- The packet of a value from an ADC channel. There is none for a channel of another type than
pressure, temperature, thrust and continuity. -/
def channelPacket (channel : AdcChannel) (timeMs : UInt32) (sensorVal : Int32) : Option Packet :=
  match channel.type with
  | .pressure => some (.pressure ⟨timeMs, sensorVal, UInt8.ofInt channel.sensorId⟩)
  | .temp => some (.temp ⟨timeMs, sensorVal, UInt8.ofInt channel.sensorId⟩)
  | .thrust => some (.thrust ⟨timeMs, sensorVal.toUInt32, UInt8.ofInt channel.sensorId⟩)
  | .cont => some (.cont ⟨timeMs, sensorVal.toUInt32.toUInt8⟩)
  | .mass | .arm | .act | .warn | .conn => none

def Measurement.packet : Measurement S F → Option Packet
  | .adc _ channel timeMs _ sensorVal => channelPacket channel timeMs sensorVal
  | .mass data => some (.mass ⟨data.timeMs, conv.mass data.value, 0⟩)
  | .temp sensorId data =>
    some (.temp ⟨data.timeMs, conv.temp data.value, UInt8.ofInt sensorId⟩)

def packets (ms : List (Measurement S F)) : List Packet := ms.filterMap (Measurement.packet conv)

def measureChannel (j : ℕ) (dev : AdcDevice) : SensorM S F (Option (Measurement S F)) :=
  match dev.channelAt j with
  | none => return none
  | some channel => do
    match ← readNoConversion dev.fd channel.channelNum with
    | .error _ => return none
    | .ok sample =>
      let timeMs ← clock
      match conv.adc channel sample with
      | .error _ => return none
      | .ok sensorVal => return some (.adc dev.fd channel timeMs sample sensorVal)

def measureTopic (available : Bool) (fd : Int) (measurement : Reading F → Measurement S F) :
    SensorM S F (Option (Measurement S F)) :=
  if available then do
    match ← orbFetch fd with
    | .error _ => return none
    | .ok data => return some (measurement data)
  else return none

def measureMass (sensor : SensorMass) : SensorM S F (Option (Measurement S F)) :=
  measureTopic sensor.available sensor.fd .mass

def measureTemp (sensor : SensorTemp) : SensorM S F (Option (Measurement S F)) :=
  measureTopic sensor.available sensor.fd (.temp sensor.sensorId)

/-- Measure, and go on with one more measurement or with none. -/
def adding (ms : List (Measurement S F)) (p : SensorM S F (Option (Measurement S F))) :
    SensorM S F (List (Measurement S F)) := do
  let m ← p
  return ms ++ m.toList

def collectRound (devs : List AdcDevice) (ms : List (Measurement S F)) (j : ℕ) :
    SensorM S F (List (Measurement S F)) := do
  forM devs (triggerChannel j)
  devs.foldlM (fun ms dev => adding ms (measureChannel conv j dev)) ms

/-- The measurements of a cycle, in the order they are made. -/
def collect (t : SensorTable) : SensorM S F (List (Measurement S F)) := do
  let ms ← (List.range 4).foldlM (collectRound conv t.adcDevices) []
  let ms ← t.sensorMass.toList.foldlM (fun ms sensor => adding ms (measureMass sensor)) ms
  t.sensorTemps.foldlM (fun ms sensor => adding ms (measureTemp sensor)) ms

def sendAll (ps : List Packet) : SensorM S F Unit :=
  if ps = [] then return () else publish (encode ps)

/-! ### One measurement in the arrays -/

def InUse (k : ℕ) : Loc → Prop
  | .headers i | .bodies i => i.1 < k

/-- A measurement stored at the count, whichever of the arrays is written first. -/
def stored (v : Locals) (h : v.sensorCount < maxMeasurements) (subtype : TelemSubtype)
    (body : List UInt8) (size : ℕ) : Locals where
  headers := Function.update v.headers ⟨v.sensorCount, h⟩ ⟨PacketType.telem.val, subtype.val⟩
  bodies := Function.update v.bodies ⟨v.sensorCount, h⟩ (fill (v.bodies ⟨v.sensorCount, h⟩) body)
  pkt := Function.update (Function.update v.pkt
    (headerEntry h) ⟨.headers ⟨v.sensorCount, h⟩, headerSize⟩)
    (bodyEntry h) ⟨.bodies ⟨v.sensorCount, h⟩, size⟩
  sensorCount := v.sensorCount + 1
  overrun := v.overrun

section Stored

variable {v : Locals} {subtype : TelemSubtype} {body : List UInt8} {size : ℕ}

lemma pointed_first (h : v.sensorCount < maxMeasurements) :
    ((((v.putHeader subtype).pointHeader).putBody body).pointBody size).next =
      stored v h subtype body size := by
  simp [Locals.putHeader, Locals.pointHeader, Locals.putBody, Locals.pointBody, Locals.next,
    stored, h]

lemma pointed_last (h : v.sensorCount < maxMeasurements) :
    ((((v.putHeader subtype).putBody body).pointHeader).pointBody size).next =
      stored v h subtype body size := by
  simp [Locals.putHeader, Locals.pointHeader, Locals.putBody, Locals.pointBody, Locals.next,
    stored, h]

lemma take_fill {n : ℕ} (buf : Fin n → UInt8) (h : body.length ≤ n) :
    (List.ofFn (fill buf body)).take body.length = body := by
  refine List.ext_getElem (by simpa using h) fun i hi hi' => ?_
  simp [fill, List.getElem?_eq_getElem hi']

lemma holds_stored {bytes : List UInt8} (h : v.sensorCount < maxMeasurements)
    (hv : Holds (InUse v.sensorCount) v.mem v.pkt (v.sensorCount * 2) bytes)
    (hbody : body.length = size) (hsize : size ≤ 9) :
    Holds (InUse (v.sensorCount + 1)) (stored v h subtype body size).mem
      (stored v h subtype body size).pkt ((v.sensorCount + 1) * 2)
      (bytes ++ ((⟨PacketType.telem.val, subtype.val⟩ : HeaderP).bytes ++ body)) := by
  have hkeep : ∀ l, InUse v.sensorCount l → (stored v h subtype body size).mem l = v.mem l := by
    intro l hl
    cases l with
    | headers i | bodies i =>
      have hne : i ≠ ⟨v.sensorCount, h⟩ := fun hi => absurd hl (by rw [hi]; exact lt_irrefl _)
      simp [Locals.mem, stored, hne]
  have hmore : ∀ l, InUse v.sensorCount l → InUse (v.sensorCount + 1) l := by
    intro l hl
    cases l with
    | headers i | bodies i => exact Nat.lt_succ_of_lt hl
  have htwo := hv.pushTwo (bodyEntry h).isLt hkeep hmore
    (v := ⟨.headers ⟨v.sensorCount, h⟩, headerSize⟩) (w := ⟨.bodies ⟨v.sensorCount, h⟩, size⟩)
    (Nat.lt_succ_self _) (Nat.lt_succ_self _)
  have hheader : (⟨.headers ⟨v.sensorCount, h⟩, headerSize⟩ : Iovec Loc).bytes
      (stored v h subtype body size).mem =
      (⟨PacketType.telem.val, subtype.val⟩ : HeaderP).bytes := by
    simp [Iovec.bytes, Locals.mem, stored, HeaderP.bytes, headerSize]
  have hbytes : (⟨.bodies ⟨v.sensorCount, h⟩, size⟩ : Iovec Loc).bytes
      (stored v h subtype body size).mem = body := by
    have htake := take_fill (v.bodies ⟨v.sensorCount, h⟩) (hbody ▸ hsize)
    rw [hbody] at htake
    simpa [Iovec.bytes, Locals.mem, stored] using htake
  have hcount : (v.sensorCount + 1) * 2 = v.sensorCount * 2 + 2 := by omega
  rw [hheader, hbytes] at htwo
  rw [hcount]
  exact htwo

end Stored

/-! ### The arrays against the measurements -/

/-- After at most `n` measurements the arrays hold the packets of those that succeeded. -/
structure Stores (n : ℕ) (v : Locals) (ms : List (Measurement S F)) : Prop where
  overrun : v.overrun = false
  count : v.sensorCount = (packets conv ms).length
  le : ms.length ≤ n
  holds : Holds (InUse v.sensorCount) v.mem v.pkt (v.sensorCount * 2) (encode (packets conv ms))

lemma Stores.mono {conv : Conversions S F} {n k : ℕ} {v : Locals} {ms : List (Measurement S F)}
    (h : Stores conv n v ms) (hk : n ≤ k) : Stores conv k v ms :=
  ⟨h.overrun, h.count, h.le.trans hk, h.holds⟩

def Agree (n : ℕ) (v : Locals) (ms : List (Measurement S F)) : Prop :=
  n ≤ maxMeasurements → Stores conv n v ms

variable {conv} {n : ℕ} {v : Locals} {ms : List (Measurement S F)}

lemma Stores.sensorCount_lt (h : Stores conv n v ms) (hn : n + 1 ≤ maxMeasurements) :
    v.sensorCount < maxMeasurements := by
  have hpackets : (packets conv ms).length ≤ ms.length := List.length_filterMap_le _ _
  have hcount := h.count
  have hle := h.le
  omega

lemma Agree.skip (h : Agree conv n v ms) (k : ℕ) : Agree conv (n + k) v (ms ++ []) := by
  intro hn
  obtain ⟨hover, hcount, hle, hholds⟩ := h (by omega)
  rw [List.append_nil]
  exact ⟨hover, hcount, by omega, hholds⟩

lemma Stores.add (h : Stores conv n v ms) (hn : n + 1 ≤ maxMeasurements) {m : Measurement S F}
    {p : Packet} (hm : m.packet conv = some p) {subtype : TelemSubtype}
    (hp : subtypeOf p = some subtype) :
    Stores conv (n + 1) (stored v (h.sensorCount_lt hn) subtype p.body (bodySize subtype))
      (ms ++ [m]) := by
  have hlt := h.sensorCount_lt hn
  obtain ⟨hover, hcount, hle, hholds⟩ := h
  have hpackets : packets conv (ms ++ [m]) = packets conv ms ++ [p] := by
    simp [packets, hm]
  have hsize : bodySize subtype ≤ 9 := by cases subtype <;> decide
  have hheader : (⟨PacketType.telem.val, subtype.val⟩ : HeaderP) = p.header := by
    cases p <;> first | (obtain rfl := Option.some.inj hp; rfl) | cases hp
  refine ⟨hover, ?_, ?_, ?_⟩
  · rw [hpackets, List.length_append, List.length_singleton, ← hcount]
    rfl
  · rw [List.length_append, List.length_singleton]
    omega
  · have hnext : Holds _ _ (stored v hlt subtype p.body (bodySize subtype)).pkt _ _ :=
      holds_stored hlt hholds (readBody_body hp).1 hsize
    rw [hheader] at hnext
    rw [hpackets, encode_append, encode_cons, encode_nil, List.append_nil]
    exact hnext

lemma Stores.halfFilled (h : Stores conv n v ms) (hn : n + 1 ≤ maxMeasurements)
    {m : Measurement S F} (hm : m.packet conv = none) (subtype : TelemSubtype) :
    Stores conv (n + 1) ((v.putHeader subtype).pointHeader) (ms ++ [m]) := by
  have hlt := h.sensorCount_lt hn
  obtain ⟨hover, hcount, hle, hholds⟩ := h
  have hpackets : packets conv (ms ++ [m]) = packets conv ms := by
    simp [packets, hm]
  have heq : (v.putHeader subtype).pointHeader =
      { v with
        headers := Function.update v.headers ⟨v.sensorCount, hlt⟩
          ⟨PacketType.telem.val, subtype.val⟩
        pkt := Function.update v.pkt (headerEntry hlt)
          ⟨.headers ⟨v.sensorCount, hlt⟩, headerSize⟩ } := by
    simp [Locals.putHeader, Locals.pointHeader, hlt]
  rw [heq]
  refine ⟨hover, hpackets ▸ hcount, ?_, ?_⟩
  · rw [List.length_append, List.length_singleton]
    omega
  · rw [hpackets]
    refine hholds.frame (fun l hl => ?_) fun i hi => ?_
    · cases l with
      | headers i =>
        have hne : i ≠ ⟨v.sensorCount, hlt⟩ := fun hi =>
          absurd hl (by rw [hi]; exact lt_irrefl v.sensorCount)
        simp [Locals.mem, hne]
      | bodies i => rfl
    · exact Function.update_of_ne
        (fun heq => absurd hi (by rw [heq]; exact lt_irrefl (v.sensorCount * 2))) _ _

lemma Agree.putMeasurement (h : Agree conv n v ms) (fd : Int) (channel : AdcChannel)
    (timeMs : UInt32) (sample : S) (sensorVal : Int32) :
    Agree conv (n + 1) (v.putMeasurement channel timeMs sensorVal)
      (ms ++ [.adc fd channel timeMs sample sensorVal]) := by
  intro hn
  have hv := h (by omega)
  have hlt := hv.sensorCount_lt hn
  unfold Locals.putMeasurement
  rcases htype : channel.type with _ | _ | _ | _ | _ | _ | _ | _ | _
  all_goals dsimp only
  case temp | pressure | thrust | cont =>
    rw [pointed_first hlt]
    exact hv.add hn (by simp [Measurement.packet, channelPacket, htype]) rfl
  case mass | arm | act | warn | conn =>
    exact hv.halfFilled hn (by simp [Measurement.packet, channelPacket, htype]) _

lemma Agree.putMass (h : Agree conv n v ms) (data : Reading F) :
    Agree conv (n + 1) (v.putMass ⟨data.timeMs, conv.mass data.value, 0⟩) (ms ++ [.mass data]) := by
  intro hn
  have hv := h (by omega)
  rw [Locals.putMass, pointed_last (hv.sensorCount_lt hn)]
  exact hv.add hn rfl rfl

lemma Agree.putTemp (h : Agree conv n v ms) (sensorId : Int) (data : Reading F) :
    Agree conv (n + 1)
      (v.putTemp ⟨data.timeMs, conv.temp data.value, UInt8.ofInt sensorId⟩)
      (ms ++ [.temp sensorId data]) := by
  intro hn
  have hv := h (by omega)
  rw [Locals.putTemp, pointed_last (hv.sensorCount_lt hn)]
  exact hv.add hn rfl rfl

/-! ### The loops -/

def hasChannel (j : ℕ) (dev : AdcDevice) : ℕ := if j < dev.channels.length then 1 else 0

lemma hasChannel_of_channelAt {j : ℕ} {dev : AdcDevice} {channel : AdcChannel}
    (h : dev.channelAt j = some channel) : hasChannel j dev = 1 := by
  unfold AdcDevice.channelAt at h
  split_ifs at h
  exact if_pos (List.getElem?_eq_some_iff.mp h).1

lemma readChannel_refines (j : ℕ) (dev : AdcDevice) (h : Agree conv n v ms) :
    Refines (Agree conv (n + hasChannel j dev)) (readChannel conv j v dev)
      (adding ms (measureChannel conv j dev)) := by
  unfold readChannel measureChannel adding
  rcases hchannel : dev.channelAt j with _ | channel
  · exact .pure (h.skip _)
  dsimp only
  rw [bind_assoc]
  refine Refines.after _ fun answer => ?_
  cases answer with
  | error err => exact .pure (h.skip _)
  | ok sample =>
    dsimp only
    rw [bind_assoc]
    refine Refines.after _ fun timeMs => ?_
    rcases conv.adc channel sample with err | sensorVal
    · exact .pure (h.skip _)
    · rw [hasChannel_of_channelAt hchannel]
      exact .pure (h.putMeasurement dev.fd channel timeMs sample sensorVal)

lemma massStep_refines (sensor : SensorMass) (h : Agree conv n v ms) :
    Refines (Agree conv (n + 1)) (massStep conv v sensor) (adding ms (measureMass sensor)) := by
  unfold massStep measureMass measureTopic adding
  split_ifs with havailable
  · rw [bind_assoc]
    refine Refines.after _ fun answer => ?_
    cases answer with
    | error err => exact .pure (h.skip 1)
    | ok data => exact .pure (h.putMass data)
  · exact .pure (h.skip 1)

lemma tempStep_refines (sensor : SensorTemp) (h : Agree conv n v ms) :
    Refines (Agree conv (n + 1)) (tempStep conv v sensor) (adding ms (measureTemp sensor)) := by
  unfold tempStep measureTemp measureTopic adding
  split_ifs with havailable
  · rw [bind_assoc]
    refine Refines.after _ fun answer => ?_
    cases answer with
    | error err => exact .pure (h.skip 1)
    | ok data => exact .pure (h.putTemp sensor.sensorId data)
  · exact .pure (h.skip 1)

lemma adcRound_refines (devs : List AdcDevice) (j : ℕ) (h : Agree conv n v ms) :
    Refines (Agree conv (n + weight (hasChannel j) devs)) (adcRound conv devs v j)
      (collectRound conv devs ms j) :=
  Refines.after _ fun _ => Refines.foldlM (hasChannel j)
    (fun _ _ _ dev hv => readChannel_refines j dev hv) devs h

lemma weight_hasChannel (devs : List AdcDevice) :
    weight (fun j => weight (hasChannel j) devs) (List.range 4) =
      (devs.flatMap AdcDevice.channels).length := by
  induction devs with
  | nil => rfl
  | cons dev devs ih =>
    have hone : weight (fun j => hasChannel j dev) (List.range 4) = dev.channels.length := by
      have hle := dev.length_le
      have hrange : List.range 4 = [0, 1, 2, 3] := rfl
      simp only [hrange, weight, hasChannel]
      split_ifs <;> omega
    have hadd := weight_add (fun j => hasChannel j dev) (fun j => weight (hasChannel j) devs)
      (List.range 4)
    rw [List.flatMap_cons, List.length_append, ← ih, ← hone]
    exact hadd

def fillArrays (conv : Conversions S F) (t : SensorTable) (v : Locals) : SensorM S F Locals := do
  let v ← (List.range 4).foldlM (adcRound conv t.adcDevices) v.start
  let v ← t.sensorMass.toList.foldlM (massStep conv) v
  t.sensorTemps.foldlM (tempStep conv) v

lemma fillArrays_refines (t : SensorTable) (v : Locals) :
    Refines (Stores conv maxMeasurements) (fillArrays conv t v) (collect conv t) := by
  have hstart : Agree conv 0 v.start [] := fun _ => ⟨rfl, rfl, le_rfl, holds_zero⟩
  refine (Refines.foldlM (fun j => weight (hasChannel j) t.adcDevices)
    (fun _ _ _ j hv => adcRound_refines t.adcDevices j hv) (List.range 4) hstart).bind ?_
  intro v ms hv
  refine (Refines.foldlM (fun _ => 1) (fun _ _ _ sensor hv => massStep_refines sensor hv)
    t.sensorMass.toList hv).bind ?_
  intro v ms hv
  have htemps := Refines.foldlM (fun _ => 1) (fun _ _ _ sensor hv => tempStep_refines sensor hv)
    t.sensorTemps hv
  rw [weight_hasChannel, weight_one, weight_one, Nat.zero_add] at htemps
  exact htemps.mono fun v ms hv => (hv t.count_le).mono t.count_le

/-- **The cycle on arrays is the cycle on measurements.** It performs the same calls, never
writes past the end of an array, and sends the bytes of the packets. -/
lemma sensorTelemetry_eq (t : SensorTable) (v : Locals) :
    sensorTelemetry conv t v = collect conv t >>= fun ms =>
      sendAll (packets conv ms) >>= fun _ => pure false := by
  have hfill : sensorTelemetry conv t v = fillArrays conv t v >>= fun v =>
      if v.sensorCount > 0 then do
        publish (gather v.mem v.pkt (v.sensorCount * 2))
        return v.overrun
      else return v.overrun := by
    simp only [sensorTelemetry, fillArrays, bind_assoc]
  rw [hfill]
  refine (fillArrays_refines t v).bind_eq fun v ms hv => ?_
  rw [hv.overrun, hv.count]
  unfold sendAll
  by_cases hnone : packets conv ms = []
  · simp [hnone]
  · have hpos : (packets conv ms).length > 0 := List.length_pos_iff.mpr hnone
    have hsends := hv.holds.sends
    rw [hv.count] at hsends
    rw [if_pos hpos, if_neg hnone, hsends]

/-! ### What is published -/

def IsPublish : SensorOp → Prop
  | .publish _ => True
  | _ => False

def published {σ : Type} (calls : List (σ × SensorOp)) : List (List UInt8) :=
  calls.filterMap fun call =>
    match call.2 with
    | .publish msg => some msg
    | _ => none

lemma published_append {σ : Type} (calls calls' : List (σ × SensorOp)) :
    published (calls ++ calls') = published calls ++ published calls' :=
  List.filterMap_append

def Silent {α : Type} (p : SensorM S F α) : Prop := Performs (fun o => ¬ IsPublish o) p

lemma silent_triggerChannel (j : ℕ) (dev : AdcDevice) :
    Silent (triggerChannel j dev : SensorM S F Unit) := by
  unfold triggerChannel
  cases dev.channelAt j with
  | none => trivial
  | some channel => exact Performs.bind (.op id) fun _ => trivial

lemma silent_measureChannel (j : ℕ) (dev : AdcDevice) : Silent (measureChannel conv j dev) := by
  unfold measureChannel
  cases dev.channelAt j with
  | none => trivial
  | some channel =>
    refine Performs.bind (.op id) fun answer => ?_
    cases answer with
    | error err => trivial
    | ok sample =>
      refine Performs.bind (.op id) fun timeMs => ?_
      cases conv.adc channel sample with
      | error err => trivial
      | ok sensorVal => trivial

lemma silent_orbFetch (fd : Int) : Silent (orbFetch fd : SensorM S F (Except Int (Reading F))) := by
  refine Performs.bind (.op id) fun answer => ?_
  cases answer with
  | error err => trivial
  | ok update =>
    cases update
    · trivial
    · exact .op id

lemma silent_measureTopic (available : Bool) (fd : Int)
    (measurement : Reading F → Measurement S F) :
    Silent (measureTopic available fd measurement) := by
  unfold measureTopic
  split_ifs
  · refine Performs.bind (silent_orbFetch fd) fun answer => ?_
    cases answer <;> trivial
  · trivial

lemma silent_adding (ms : List (Measurement S F)) {p : SensorM S F (Option (Measurement S F))}
    (hp : Silent p) : Silent (adding ms p) :=
  Performs.bind hp fun _ => trivial

lemma silent_collect (t : SensorTable) : Silent (collect conv t) := by
  unfold collect
  refine Performs.bind (.foldlM (fun ms j => ?_) _ _) fun ms => ?_
  · exact Performs.bind (.forM (silent_triggerChannel j) _) fun _ =>
      .foldlM (fun ms dev => silent_adding ms (silent_measureChannel j dev)) _ _
  · refine Performs.bind (.foldlM (fun ms sensor => ?_) _ _) fun ms => ?_
    · exact silent_adding ms (silent_measureTopic _ _ _)
    · exact .foldlM (fun ms sensor => silent_adding ms (silent_measureTopic _ _ _)) _ _

lemma published_eq_nil {σ α : Type} {D : Device SensorOp (SensorOp.Ans S F) σ}
    {p : SensorM S F α} (h : Silent p) (s : σ) :
    published (moments D p s) = [] := by
  refine List.filterMap_eq_nil_iff.mpr fun call hcall => ?_
  have hno := Performs.along (D := D) h s call hcall
  rcases call with ⟨s', o⟩
  cases o <;> first | rfl | exact absurd trivial hno

lemma published_sensorTelemetry {σ : Type} (D : Device SensorOp (SensorOp.Ans S F) σ)
    (t : SensorTable) (v : Locals) (s : σ) :
    published (moments D (sensorTelemetry conv t v) s) =
      if packets conv (run D (collect conv t) s).1 = [] then []
      else [encode (packets conv (run D (collect conv t) s).1)] := by
  rw [sensorTelemetry_eq, moments_bind, published_append, published_eq_nil (silent_collect t),
    List.nil_append, moments_bind, moments_pure, List.append_nil]
  unfold sendAll
  split_ifs
  · rfl
  · rfl

end Hysim.Collect
