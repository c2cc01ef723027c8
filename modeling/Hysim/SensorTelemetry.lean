import Hysim.Lib.Gather
import Hysim.Lib.Program
import Hysim.Decode

/-!
The thread that reads the sensors and publishes what they measure, from `telemetry.c` and
`sensors.c`.

A cycle triggers and reads the channels of the ADC devices, then fetches the mass and the
temperatures. Each measurement takes a header, a body and two entries of the message, all at
the same count, and the count moves on only when all four are set.
-/

namespace Hysim.SensorTelemetry

open Hysim.Lib.Program Hysim.Lib.Gather Hysim.Packets Hysim.TelemClient Hysim.Decode

/-! ### The sensors -/

structure AdcChannel where
  channelNum : Int
  sensorId : Int
  type : TelemSubtype
  deriving DecidableEq

/-- `adc_device_t`: what `open` returned for it, and its channels. -/
structure AdcDevice where
  fd : Int
  channels : List AdcChannel
  length_le : channels.length ≤ 4

/-- `sensor_mass_t`, as far as a cycle looks at it. -/
structure SensorMass where
  fd : Int
  available : Bool

structure SensorTemp where
  fd : Int
  sensorId : Int
  available : Bool

/-- `headers` and `bodies` have this many elements, and `pkt` twice as many. -/
def maxMeasurements : ℕ := 32

/-- The sensors a build is configured for. There is room for all of their measurements. -/
structure SensorTable where
  adcDevices : List AdcDevice
  sensorMass : Option SensorMass
  sensorTemps : List SensorTemp
  count_le : (adcDevices.flatMap AdcDevice.channels).length +
    sensorMass.toList.length + sensorTemps.length ≤ maxMeasurements

/-- `struct sensor_force` and `struct sensor_temp`: a time stamp in microseconds with a
floating-point value. -/
structure Reading (F : Type) where
  timestamp : UInt64
  value : F

/-! ### The system calls -/

inductive SensorOp
  | triggerConversion (fd channel : Int)
  | readNoConversion (fd channel : Int)
  | clock
  | orbCheck (fd : Int)
  | orbCopy (fd : Int)
  | publish (msg : List UInt8)
  deriving DecidableEq

/-- The ADC answers with a sample, a topic with a reading. -/
@[reducible] def SensorOp.Ans (S F : Type) : SensorOp → Type
  | .triggerConversion _ _ => Except Int Unit
  | .readNoConversion _ _ => Except Int S
  | .clock => UInt32
  | .orbCheck _ => Except Int Bool
  | .orbCopy _ => Except Int (Reading F)
  | .publish _ => Unit

abbrev SensorM (S F : Type) := Prog SensorOp (SensorOp.Ans S F)

variable {S F : Type}

abbrev triggerConversion (fd channel : Int) : SensorM S F (Except Int Unit) :=
  .op (SensorOp.triggerConversion fd channel)
abbrev readNoConversion (fd channel : Int) : SensorM S F (Except Int S) :=
  .op (SensorOp.readNoConversion fd channel)
abbrev clock : SensorM S F UInt32 := .op SensorOp.clock
abbrev orbCheck (fd : Int) : SensorM S F (Except Int Bool) := .op (SensorOp.orbCheck fd)
abbrev orbCopy (fd : Int) : SensorM S F (Except Int (Reading F)) := .op (SensorOp.orbCopy fd)
abbrev publish (msg : List UInt8) : SensorM S F Unit := .op (SensorOp.publish msg)

/-- `sensor_mass_fetch` and `sensor_temp_fetch`, which differ in the topic. -/
def orbFetch (fd : Int) : SensorM S F (Except Int (Reading F)) := do
  match ← orbCheck fd with
  | .error err => return .error err
  | .ok update => if update then orbCopy fd else return .error (-1)

def sensorMassFetch (sensor : SensorMass) : SensorM S F (Except Int (Reading F)) :=
  orbFetch sensor.fd

def sensorTempFetch (sensor : SensorTemp) : SensorM S F (Except Int (Reading F)) :=
  orbFetch sensor.fd

/-- The conversions from what was read to what is sent: `adc_sensor_val_conversion`, the slope
of the mass sensor and the factor of the temperature. -/
structure Conversions (S F : Type) where
  adc : AdcChannel → S → Except Int Int32
  mass : F → Int32
  temp : F → Int32

def Reading.timeMs (r : Reading F) : UInt32 := (r.timestamp / 1000).toUInt32

/-! ### The message -/

inductive Loc
  | headers (i : Fin maxMeasurements)
  | bodies (i : Fin maxMeasurements)

/-- The variables of a cycle; `bodies` is an array of unions as large as their largest
member. At a write past the end of an array the rest of the run means nothing. -/
structure Locals where
  headers : Fin maxMeasurements → HeaderP
  bodies : Fin maxMeasurements → Fin 9 → UInt8
  pkt : Fin (maxMeasurements * 2) → Iovec Loc
  sensorCount : ℕ
  overrun : Bool

def Locals.mem (v : Locals) : Loc → List UInt8
  | .headers i => (v.headers i).bytes
  | .bodies i => List.ofFn (v.bodies i)

def Locals.start (v : Locals) : Locals := { v with sensorCount := 0, overrun := false }

def headerEntry {count : ℕ} (h : count < maxMeasurements) : Fin (maxMeasurements * 2) :=
  ⟨count * 2, by omega⟩

def bodyEntry {count : ℕ} (h : count < maxMeasurements) : Fin (maxMeasurements * 2) :=
  ⟨count * 2 + 1, by omega⟩

def Locals.putHeader (v : Locals) (subtype : TelemSubtype) : Locals :=
  if h : v.sensorCount < maxMeasurements then
    { v with
      headers := Function.update v.headers ⟨v.sensorCount, h⟩
        ⟨PacketType.telem.val, subtype.val⟩ }
  else { v with overrun := true }

def Locals.putBody (v : Locals) (body : List UInt8) : Locals :=
  if h : v.sensorCount < maxMeasurements then
    { v with
      bodies := Function.update v.bodies ⟨v.sensorCount, h⟩
        (fill (v.bodies ⟨v.sensorCount, h⟩) body) }
  else { v with overrun := true }

def Locals.pointHeader (v : Locals) : Locals :=
  if h : v.sensorCount < maxMeasurements then
    { v with
      pkt := Function.update v.pkt (headerEntry h)
        ⟨.headers ⟨v.sensorCount, h⟩, headerSize⟩ }
  else { v with overrun := true }

def Locals.pointBody (v : Locals) (size : ℕ) : Locals :=
  if h : v.sensorCount < maxMeasurements then
    { v with
      pkt := Function.update v.pkt (bodyEntry h)
        ⟨.bodies ⟨v.sensorCount, h⟩, size⟩ }
  else { v with overrun := true }

def Locals.next (v : Locals) : Locals := { v with sensorCount := v.sensorCount + 1 }

/-- The `switch` over the type of a channel, each case with the struct it has for the body. For
a type without a case the header stays, and the next measurement takes its place. -/
def Locals.putMeasurement (v : Locals) (channel : AdcChannel) (timeMs : UInt32)
    (sensorVal : Int32) : Locals :=
  let v := (v.putHeader channel.type).pointHeader
  let id := UInt8.ofInt channel.sensorId
  match channel.type with
  | .pressure =>
    ((v.putBody (Packet.pressure ⟨timeMs, sensorVal, id⟩).body).pointBody (bodySize .pressure)).next
  | .temp =>
    ((v.putBody (Packet.temp ⟨timeMs, sensorVal, id⟩).body).pointBody (bodySize .temp)).next
  | .thrust =>
    ((v.putBody (Packet.thrust ⟨timeMs, sensorVal.toUInt32, id⟩).body).pointBody
      (bodySize .thrust)).next
  | .cont =>
    ((v.putBody (Packet.cont ⟨timeMs, sensorVal.toUInt32.toUInt8⟩).body).pointBody
      (bodySize .cont)).next
  | .mass | .arm | .act | .warn | .conn => v

/-- A reading of the mass: the body is written before either entry is set. -/
def Locals.putMass (v : Locals) (body : MassP) : Locals :=
  ((((v.putHeader .mass).putBody (Packet.mass body).body).pointHeader).pointBody
    (bodySize .mass)).next

def Locals.putTemp (v : Locals) (body : TempP) : Locals :=
  ((((v.putHeader .temp).putBody (Packet.temp body).body).pointHeader).pointBody
    (bodySize .temp)).next

/-! ### A cycle -/

/-- The checks before a channel is triggered and before it is read: the device is open and has
a `j`th channel. -/
def AdcDevice.channelAt (dev : AdcDevice) (j : ℕ) : Option AdcChannel :=
  if dev.fd < 0 then none else dev.channels[j]?

/-- Trigger a conversion on the `j`th channel. A failure is only logged. -/
def triggerChannel (j : ℕ) (dev : AdcDevice) : SensorM S F Unit :=
  match dev.channelAt j with
  | none => return ()
  | some channel => do
    let _ ← triggerConversion dev.fd channel.channelNum
    return ()

variable (conv : Conversions S F)

/-- Read the `j`th channel and put its value in the message. -/
def readChannel (j : ℕ) (v : Locals) (dev : AdcDevice) : SensorM S F Locals :=
  match dev.channelAt j with
  | none => return v
  | some channel => do
    match ← readNoConversion dev.fd channel.channelNum with
    | .error _ => return v
    | .ok sample =>
      let timeMs ← clock
      match conv.adc channel sample with
      | .error _ => return v
      | .ok sensorVal => return v.putMeasurement channel timeMs sensorVal

/-- The `j`th channels: first they are all triggered, then they are all read. -/
def adcRound (devs : List AdcDevice) (v : Locals) (j : ℕ) : SensorM S F Locals := do
  forM devs (triggerChannel j)
  devs.foldlM (readChannel conv j) v

def massStep (v : Locals) (sensor : SensorMass) : SensorM S F Locals :=
  if sensor.available then do
    match ← sensorMassFetch sensor with
    | .error _ => return v
    | .ok data => return v.putMass ⟨data.timeMs, conv.mass data.value, 0⟩
  else return v

def tempStep (v : Locals) (sensor : SensorTemp) : SensorM S F Locals :=
  if sensor.available then do
    match ← sensorTempFetch sensor with
    | .error _ => return v
    | .ok data =>
      return v.putTemp ⟨data.timeMs, conv.temp data.value, UInt8.ofInt sensor.sensorId⟩
  else return v

/-- One cycle of `sensor_telemetry`, and whether it wrote past the end of an array. -/
def sensorTelemetry (t : SensorTable) (v : Locals) : SensorM S F Bool := do
  let v ← (List.range 4).foldlM (adcRound conv t.adcDevices) v.start
  let v ← t.sensorMass.toList.foldlM (massStep conv) v
  let v ← t.sensorTemps.foldlM (tempStep conv) v
  if v.sensorCount > 0 then
    publish (gather v.mem v.pkt (v.sensorCount * 2))
    return v.overrun
  else return v.overrun

end Hysim.SensorTelemetry
