import Mathlib.Data.Rat.Floor
import Mathlib.Tactic.NormNum
import Hysim.Sensors

/-!
What the readings of the pressure and thrust sensors come to, from the ADC to the operator.

Both are straight lines from some voltage on, and zero below it. So a higher reading is never sent
as a lower value, and the value falls short of the line by less than one. It is undefined only for
pressures that no ADC of 16 bits gives.
-/

namespace Hysim.Readings

open Hysim.Packets Hysim.SensorTelemetry Hysim.Sensors Hysim.Lib.Truncate

variable {K : Type} [Field K] [LinearOrder K]

/-- A straight line that starts at a voltage. -/
def ramp (low factor voltage : K) : K := factor * max (voltage - low) 0

/-- 11120.5 N at 5.053 V. -/
def newtonsPerVolt : K := ((11120500 : ℕ) : K) / (5053 : ℕ)

/-- What a reading stands for: mPSI, or Newtons. -/
def trueVal (type : TelemSubtype) (adcVal : Int32) : K :=
  match type with
  | .pressure => ramp 1 250000 (sensorVoltage adcVal)
  | .thrust => ramp 0 newtonsPerVolt (sensorVoltage adcVal)
  | .temp | .mass | .cont | .arm | .act | .warn | .conn => 0

variable [IsStrictOrderedRing K]

lemma newtonsPerVolt_pos : 0 < (newtonsPerVolt : K) :=
  div_pos (by norm_num) (by norm_num)

lemma ramp_nonneg {low factor voltage : K} (hfactor : 0 ≤ factor) :
    0 ≤ ramp low factor voltage :=
  mul_nonneg hfactor (le_max_right _ _)

lemma ramp_mono {low factor v w : K} (hfactor : 0 ≤ factor) (h : v ≤ w) :
    ramp low factor v ≤ ramp low factor w :=
  mul_le_mul_of_nonneg_left (max_le_max_right 0 (sub_le_sub_right h low)) hfactor

lemma ramp_of_lt {low factor voltage : K} (h : voltage < low) : ramp low factor voltage = 0 := by
  rw [ramp, max_eq_right (by linarith), mul_zero]

lemma ramp_of_le {low factor voltage : K} (h : low ≤ voltage) :
    ramp low factor voltage = factor * (voltage - low) := by
  rw [ramp, max_eq_left (by linarith)]

lemma ramp_lt_iff {low factor voltage bound : K} (hfactor : 0 ≤ factor) (hbound : 0 < bound) :
    ramp low factor voltage < bound ↔ factor * (voltage - low) < bound := by
  rw [ramp, mul_max_of_nonneg _ _ hfactor, mul_zero, max_lt_iff]
  exact and_iff_left hbound

lemma sensorVoltage_mono {v w : Int32} (h : v.toInt ≤ w.toInt) :
    (sensorVoltage v : K) ≤ sensorVoltage w := by
  have hcast : (v.toInt : K) ≤ w.toInt := Int.cast_le.mpr h
  unfold sensorVoltage
  linarith

lemma trueVal_nonneg (type : TelemSubtype) (v : Int32) : (0 : K) ≤ trueVal type v := by
  cases type
  case pressure => exact ramp_nonneg (by norm_num)
  case thrust => exact ramp_nonneg newtonsPerVolt_pos.le
  all_goals exact le_refl _

lemma trueVal_mono (type : TelemSubtype) {v w : Int32} (h : v.toInt ≤ w.toInt) :
    (trueVal type v : K) ≤ trueVal type w := by
  cases type
  case pressure => exact ramp_mono (by norm_num) (sensorVoltage_mono h)
  case thrust => exact ramp_mono newtonsPerVolt_pos.le (sensorVoltage_mono h)
  all_goals exact le_refl _

lemma pressure_lt_iff (v : Int32) :
    (trueVal .pressure v : K) < 2 ^ 31 ↔ v.toInt ≤ 45818317 := by
  have hcast : (250000 : K) * (sensorVoltage v - 1) < 2 ^ 31 ↔
      ((375 * v.toInt : ℤ) : K) < (17181869184 : ℤ) := by
    unfold sensorVoltage
    push_cast
    constructor
    · intro h
      linarith
    · intro h
      linarith
  rw [trueVal, ramp_lt_iff (by norm_num) (by norm_num), hcast, Int.cast_lt]
  omega

lemma thrust_lt (v : Int32) : (trueVal .thrust v : K) < 2 ^ 31 := by
  have hcast : (v.toInt : K) < 2 ^ 31 := by exact_mod_cast v.toInt_lt
  rw [trueVal, ramp_lt_iff newtonsPerVolt_pos.le (by norm_num)]
  unfold sensorVoltage newtonsPerVolt
  push_cast
  linarith

variable [FloorRing K]

lemma castInt32_zero : castInt32 (0 : K) = some 0 := by
  simp [castInt32]

lemma pressureVal_eq (voltage : K) : pressureVal voltage = castInt32 (ramp 1 250000 voltage) := by
  unfold pressureVal
  split_ifs with hlow
  · rw [ramp_of_lt hlow, castInt32_zero]
  · rw [ramp_of_le (not_lt.mp hlow), mapValue]
    norm_num
    ring_nf

lemma thrustVal_eq (voltage : K) :
    thrustVal voltage = castInt32 (ramp 0 newtonsPerVolt voltage) := by
  unfold thrustVal
  split_ifs with hlow
  · rw [ramp_of_lt hlow, castInt32_zero]
  · rw [ramp_of_le (not_lt.mp hlow), mapValue]
    norm_num [newtonsPerVolt]

lemma thousands {p : Int32} (hp : 0 ≤ p.toInt) :
    ((p / 1000).toUInt32.toNat : ℤ) = p.toInt / 1000 := by
  have hne : p ≠ Int32.minValue := by
    rintro rfl
    exact absurd hp (by decide)
  have hdiv : (p / 1000).toInt = p.toInt / 1000 :=
    (Int32.toInt_div_of_ne_left p 1000 hne).trans (Int.tdiv_eq_ediv_of_nonneg hp)
  have hnonneg : 0 ≤ (p / 1000).toInt := hdiv ▸ Int.ediv_nonneg hp (by decide)
  rw [Int32.toNat_toUInt32_of_le (Int32.le_iff_toInt_le.mpr hnonneg), ← hdiv]
  exact Int.toNat_of_nonneg hnonneg

section Channel

variable {channel : AdcChannel}

lemma conversion_eq (log : K → K) (hkind : channel.type = .pressure ∨ channel.type = .thrust)
    (v : Int32) :
    adcSensorValConversion log channel v = castInt32 (trueVal channel.type v : K) := by
  unfold adcSensorValConversion
  rcases hkind with htype | htype
  · rw [htype]
    exact pressureVal_eq _
  · rw [htype]
    exact thrustVal_eq _

/-- **Readings are sent in their order**, in exact arithmetic. A pressure or a thrust is defined for
every reading, but for a pressure on top of 45818317. What is sent is not negative, falls short of
what the reading stands for by less than one, and is the higher the higher the reading is; and of a
pressure the operator is shown the whole PSI. -/
theorem sent_in_order (log : K → K) (hkind : channel.type = .pressure ∨ channel.type = .thrust) :
    (∀ v, (adcSensorValConversion log channel v).isSome ↔
        (channel.type = .pressure → v.toInt ≤ 45818317)) ∧
      ∀ v p, adcSensorValConversion log channel v = some p →
        (0 ≤ p.toInt ∧ (p.toInt : K) ≤ trueVal channel.type v ∧
            (trueVal channel.type v : K) < p.toInt + 1) ∧
          ((p / 1000).toUInt32.toNat : ℤ) = ⌊(trueVal channel.type v : K) / 1000⌋ ∧
          ∀ w q, adcSensorValConversion log channel w = some q → v.toInt ≤ w.toInt →
            p.toInt ≤ q.toInt := by
  have hvalue (v p : Int32) (h : adcSensorValConversion log channel v = some p) :
      p.toInt = ⌊(trueVal channel.type v : K)⌋ := by
    rw [conversion_eq log hkind] at h
    rw [castInt32_eq_some h, trunc_of_nonneg (trueVal_nonneg _ v)]
  have hnonneg (v p : Int32) (h : adcSensorValConversion log channel v = some p) : 0 ≤ p.toInt := by
    rw [hvalue v p h]
    exact Int.floor_nonneg.mpr (trueVal_nonneg _ v)
  refine ⟨fun v => ?_, fun v p hp => ⟨⟨hnonneg v p hp, ?_, ?_⟩, ?_, fun w q hq hvw => ?_⟩⟩
  · have hvalue := trueVal_nonneg (K := K) channel.type v
    rw [conversion_eq log hkind, castInt32_isSome_iff, and_iff_right (by linarith)]
    rcases hkind with htype | htype
    · rw [htype, pressure_lt_iff]
      simp
    · rw [htype]
      simp [thrust_lt]
  · rw [hvalue v p hp]
    exact Int.floor_le _
  · rw [hvalue v p hp]
    exact Int.lt_floor_add_one _
  · rw [thousands (hnonneg v p hp), hvalue v p hp]
    exact (Int.floor_div_natCast _ 1000).symm
  · rw [hvalue v p hp, hvalue w q hq]
    exact Int.floor_le_floor (trueVal_mono _ hvw)

end Channel

theorem sent_in_order_pressure : ∃ p q : Int32,
    adcSensorValConversion (id : ℚ → ℚ) ⟨6, 4, .pressure⟩ 20000 = some p ∧
      adcSensorValConversion (id : ℚ → ℚ) ⟨6, 4, .pressure⟩ 24000 = some q ∧
      0 ≤ p.toInt ∧ p.toInt ≤ q.toInt := by
  have hkind : (⟨6, 4, .pressure⟩ : AdcChannel).type = .pressure ∨
      (⟨6, 4, .pressure⟩ : AdcChannel).type = .thrust := .inl rfl
  obtain ⟨hdefined, hsent⟩ := sent_in_order (id : ℚ → ℚ) hkind
  obtain ⟨p, hp⟩ := Option.isSome_iff_exists.mp ((hdefined 20000).mpr fun _ => by decide)
  obtain ⟨q, hq⟩ := Option.isSome_iff_exists.mp ((hdefined 24000).mpr fun _ => by decide)
  obtain ⟨⟨hnonneg, -⟩, -, horder⟩ := hsent 20000 p hp
  exact ⟨p, q, hp, hq, hnonneg, horder 24000 q hq (by decide)⟩

end Hysim.Readings
