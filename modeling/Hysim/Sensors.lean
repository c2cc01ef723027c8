import Hysim.Lib.Truncate
import Hysim.SensorTelemetry

/-!
From the voltage of an ADC channel to the value that is sent, as `sensors.c` converts it.

The conversion is in floating point; here it is in the arithmetic of an ordered field, with
the logarithm as a parameter. A value too large for an `int32_t` is undefined.
-/

namespace Hysim.Sensors

open Hysim.Packets Hysim.SensorTelemetry Hysim.Lib.Truncate

variable {K : Type} [Field K] [LinearOrder K] [FloorRing K]

/-- `map_value`. -/
def mapValue (value inMin inMax outMin outMax : K) : K :=
  let slope := (outMax - outMin) / (inMax - inMin)
  if slope = 0 then 0 else outMin + slope * (value - inMin)

/-- The voltage of a reading; 6.144 is the range of the ADC. -/
def sensorVoltage (adcVal : Int32) : K := (adcVal.toInt : K) * (6144 / 1000) / 32768

def pressureVal (voltage : K) : Option Int32 :=
  if voltage < 1 then some 0 else castInt32 (1000 * mapValue voltage 1 5 0 1000)

def thrustVal (voltage : K) : Option Int32 :=
  if voltage < 0 then some 0 else castInt32 (mapValue voltage 0 (5053 / 1000) 0 (111205 / 10))

/-- The threshold to switch the state is two volts. -/
def continuityVal (voltage : K) : Int32 := if voltage ≤ 2 then 1 else 0

structure Thermistor (K : Type) where
  a : K
  b : K
  c : K

def thermistor (sensorId : Int) : Thermistor K :=
  if sensorId = 0 then ⟨1403 / 1000000, 2373 / 10000000, 9827 / 100000000000⟩
  else ⟨1468 / 1000000, 2383 / 10000000, 1007 / 10000000000⟩

/-- `T`, in Kelvin, when the voltage is that of a thermistor. No reading is exactly 4.945 V, at
which `R` would be infinite. -/
def kelvin (log : K → K) (coefficients : Thermistor K) (voltage : K) : Option K :=
  if voltage > 0 then
    let r := 2948 / ((4945 / 1000) / voltage - 1)
    if r > 0 then
      some (1 / (coefficients.a + coefficients.b * log r + coefficients.c * log r ^ 3))
    else none
  else none

def ofCelsius (t : K) : K := t + 27315 / 100

/-- `(T - 273.15) * 100`, as it is put in the packet. -/
def thermistorVal (t : K) : Option Int32 := castInt32 ((t - 27315 / 100) * 100)

/-- `adc_sensor_val_conversion`: the value, unless it is undefined. It never fails. -/
def adcSensorValConversion (log : K → K) (channel : AdcChannel) (adcVal : Int32) : Option Int32 :=
  let voltage : K := sensorVoltage adcVal
  match channel.type with
  | .pressure => pressureVal voltage
  | .thrust => thrustVal voltage
  | .cont => some (continuityVal voltage)
  | .temp =>
    match kelvin log (thermistor channel.sensorId) voltage with
    | some t => thermistorVal t
    | none => some 0
  -- no case, so the zero of the caller stays
  | .mass | .arm | .act | .warn | .conn => some 0

def tenth (force : K) : K := force / 10

/-- The value of an MCP9600, as `sensor_telemetry` puts it in the packet. -/
def mcp9600Val (temperature : K) : Option Int32 := castInt32 (temperature * 1000)

def millidegrees (t : K) : ℤ := trunc (1000 * t)

end Hysim.Sensors
