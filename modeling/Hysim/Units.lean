import Mathlib.Data.Rat.Floor
import Mathlib.Tactic.Ring
import Hysim.Collect
import Hysim.Sensors

/-!
What a value means where it is made and where it is shown.

The continuity of the igniter is a bit, of which `packet.h` says what it means; the server sets
it from the voltage and the client prints it. A temperature is in millidegrees, whichever
sensor measured it.
-/

namespace Hysim.Units

open Hysim.Packets Hysim.SensorTelemetry Hysim.Collect Hysim.Decode Hysim.Sensors
open Hysim.Lib.Truncate

/-! ### Continuity -/

/-- `continuity_state_e`: low when the circuit is open. -/
def continuityLow : UInt8 := 0
def continuityHigh : UInt8 := 1

/-- What the server logs for a value. -/
def continuityLog (outputVal : Int32) : String :=
  if outputVal ≠ 0 then "open circuit" else "continuous"

def continuityStr (state : UInt8) : String := if state ≠ 0 then "closed" else "open"

/-- The state that the client finds in the packet of a reading is low exactly when the server
found the circuit open, and the client says so. -/
def MeansTheSame (log : ℚ → ℚ) (channelNum sensorId : Int) (timeMs : UInt32)
    (buffer : Fin 50 → UInt8) (adcVal : Int32) : Prop :=
  ∃ val state, adcSensorValConversion log ⟨channelNum, sensorId, .cont⟩ adcVal = some val ∧
    (channelPacket ⟨channelNum, sensorId, .cont⟩ timeMs val).bind (reported buffer) =
      some (.cont ⟨timeMs, state⟩) ∧
    state = (if continuityLog val = "open circuit" then continuityLow else continuityHigh) ∧
    (continuityStr state = "open" ↔ continuityLog val = "open circuit")

lemma continuityLog_val (voltage : ℚ) :
    continuityLog (continuityVal voltage) = "open circuit" ↔ voltage ≤ 2 := by
  by_cases h : voltage ≤ 2
  · have hval : continuityVal voltage = 1 := if_pos h
    rw [hval]
    exact iff_of_true rfl h
  · have hval : continuityVal voltage = 0 := if_neg h
    rw [hval]
    exact iff_of_false (by decide) h

lemma state_of_meansTheSame {log : ℚ → ℚ} {channelNum sensorId : Int} {timeMs : UInt32}
    {buffer : Fin 50 → UInt8} {adcVal : Int32}
    (h : MeansTheSame log channelNum sensorId timeMs buffer adcVal) :
    (continuityVal (sensorVoltage adcVal : ℚ)).toUInt32.toUInt8 =
      if continuityLog (continuityVal (sensorVoltage adcVal : ℚ)) = "open circuit" then
        continuityLow else continuityHigh := by
  obtain ⟨val, state, hval, hpacket, hstate, -⟩ := h
  obtain rfl : continuityVal (sensorVoltage adcVal : ℚ) = val := Option.some.inj hval
  have hreported := reported_eq buffer (p := .cont ⟨timeMs,
    (continuityVal (sensorVoltage adcVal : ℚ)).toUInt32.toUInt8⟩) rfl (by simp)
  rw [channelPacket, Option.bind_some, hreported] at hpacket
  rw [← hstate]
  exact (ContinuityStateP.mk.inj (Packet.cont.inj (Option.some.inj hpacket))).2

/-- **The continuity is inverted**: for no reading does it mean the same at both ends. -/
theorem not_meansTheSame (log : ℚ → ℚ) (channelNum sensorId : Int) (timeMs : UInt32)
    (buffer : Fin 50 → UInt8) (adcVal : Int32) :
    ¬ MeansTheSame log channelNum sensorId timeMs buffer adcVal := by
  intro h
  have hstate := state_of_meansTheSame h
  by_cases hopen : (sensorVoltage adcVal : ℚ) ≤ 2
  · -- an open circuit is sent as `CONTINUITY_HIGH`
    have hval : continuityVal (sensorVoltage adcVal : ℚ) = 1 := if_pos hopen
    rw [if_pos ((continuityLog_val _).mpr hopen), hval] at hstate
    exact absurd hstate (by decide)
  · have hval : continuityVal (sensorVoltage adcVal : ℚ) = 0 := if_neg hopen
    rw [if_neg fun hlog => hopen ((continuityLog_val _).mp hlog), hval] at hstate
    exact absurd hstate (by decide)

/-- No voltage at all is sent as a closed circuit. -/
theorem not_meansTheSame_zero :
    ¬ ∀ (log : ℚ → ℚ) (channelNum sensorId : Int) (timeMs : UInt32) (buffer : Fin 50 → UInt8)
      (adcVal : Int32), MeansTheSame log channelNum sensorId timeMs buffer adcVal := by
  intro h
  have hstate := state_of_meansTheSame (h id 7 1 0 (fun _ => 0) 0)
  have hvoltage : (sensorVoltage 0 : ℚ) = 0 := by simp [sensorVoltage]
  have hval : continuityVal (sensorVoltage 0 : ℚ) = 1 := if_pos (by rw [hvoltage]; norm_num)
  rw [hval] at hstate
  exact absurd hstate (by decide)

/-! ### Temperature -/

section Temperature

variable {K : Type} [Field K] [LinearOrder K] [FloorRing K]

def shownDegrees (temperature : Int32) : Int32 := temperature / 1000

/-- Both sensors put the millidegrees of the temperature in the packet, and the client shows the
degrees. -/
def SameUnit (t : K) : Prop :=
  ∃ n, thermistorVal (ofCelsius t) = some n ∧ mcp9600Val t = some n ∧
    n.toInt = millidegrees t ∧ (shownDegrees n).toInt = trunc t

lemma thermistorVal_eq (t : K) : thermistorVal (ofCelsius t) = castInt32 (100 * t) := by
  unfold thermistorVal ofCelsius
  rw [add_sub_cancel_right, mul_comm]

variable [IsStrictOrderedRing K]

lemma abs_lt_of_sameUnit {t : K} (h : SameUnit t) : |1000 * t| < 1 := by
  obtain ⟨n, hthermistor, -, hn, -⟩ := h
  rw [thermistorVal_eq] at hthermistor
  have hsame : trunc (100 * t) = trunc (10 * (100 * t)) := by
    rw [← castInt32_eq_some hthermistor, hn, millidegrees]
    congr 1
    ring
  have hsmall := (trunc_eq_trunc_mul_iff (by norm_num)).mp hsame
  have hten : 10 * (100 * t) = 1000 * t := by ring
  rwa [hten] at hsmall

/-- **When the temperatures have one unit**: for less than a millidegree only, when both are
sent as zero. -/
theorem sameUnit_iff (t : K) : SameUnit t ↔ |t| < 1 / 1000 := by
  have habs : |1000 * t| = 1000 * |t| := by
    rw [abs_mul, abs_of_pos (by norm_num)]
  have hscale : |1000 * t| < 1 ↔ |t| < 1 / 1000 := by
    rw [habs, lt_div_iff₀ (by norm_num), mul_comm]
  rw [← hscale]
  refine ⟨abs_lt_of_sameUnit, fun h => ?_⟩
  have hzero : ∀ x : K, |x| ≤ |1000 * t| → trunc x = 0 := fun x hx =>
    trunc_eq_zero_iff.mpr (hx.trans_lt h)
  have ht0 : 0 ≤ |t| := abs_nonneg t
  have hthermistor : trunc (100 * t) = 0 := hzero _ (by
    rw [habs, abs_mul, abs_of_pos (by norm_num)]
    linarith)
  have hmcp : trunc (t * 1000) = 0 := hzero _ (by rw [mul_comm])
  have hdegrees : trunc t = 0 := hzero _ (by
    rw [habs]
    linarith)
  refine ⟨0, ?_, ?_, ?_, ?_⟩
  · rw [thermistorVal_eq]
    simp [castInt32, hthermistor]
  · simp [mcp9600Val, castInt32, hmcp]
  · rw [millidegrees, hzero _ le_rfl]
    rfl
  · rw [hdegrees]
    rfl

end Temperature

theorem sameUnit_iff_zero : SameUnit (0 : ℚ) ↔ |(0 : ℚ)| < 1 / 1000 := sameUnit_iff 0

/-- Twenty-five degrees are 2500 from a thermistor and 25000 from an MCP9600. -/
theorem not_sameUnit : ¬ ∀ t : ℚ, SameUnit t := by
  intro h
  have hsmall := abs_lt_of_sameUnit (h 25)
  norm_num at hsmall

end Hysim.Units
