import Mathlib.Data.Rat.Floor
import Mathlib.Tactic.NormNum
import Hysim.Calibration
import Hysim.Lib.Rounding

/-!
The mass that is published, as `sensor_telemetry` computes it from the calibration and a reading.

A `float` operation rounds its result. Where the result is infinite or no number, or an integer does
not fit into the type it is cast to, there is no value: whatever is computed from it is undefined.
-/

namespace Hysim.Mass

open Hysim.Calibration Hysim.SensorTelemetry Hysim.Lib.Rounding Hysim.Lib.Truncate

/-! ### The types of C -/

/-- A `float` that is a finite number. -/
abbrev Single := {x : ℚ // IsFloat binary32 x}

/-- The width of a `long`. -/
structure LongWidth where
  bits : ℕ
  ge : 32 ≤ bits
  le : bits ≤ 64

def LongWidth.Fits (w : LongWidth) (n : ℤ) : Prop := -2 ^ (w.bits - 1) ≤ n ∧ n < 2 ^ (w.bits - 1)

instance (w : LongWidth) (n : ℤ) : Decidable (w.Fits n) := inferInstanceAs (Decidable (_ ∧ _))

abbrev Long (w : LongWidth) := {n : ℤ // w.Fits n}

/-- The result of a `float` operation, or of a cast to `float`. -/
abbrev single (x : ℚ) : Option ℚ := toFloat binary32 x

variable (w : LongWidth)

def toLong (x : ℚ) : Option ℤ := if w.Fits (trunc x) then some (trunc x) else none

/-! ### The computation -/

/-- `zero_point += data.force / 10`. -/
def addForce (zeroPoint : ℤ) (force : Single) : Option ℤ := do
  let tenth ← single (force / 10)
  let total ← single zeroPoint
  let sum ← single (total + tenth)
  toLong w sum

def addTo (zeroPoint : Option ℤ) (force : Single) : Option ℤ := zeroPoint.bind (addForce w · force)

/-- `sensor_mass_calibrate` after these fetches. -/
def sensorMassCalibrate (zeroPoint : Option ℤ) (outcomes : List (Outcome Single)) :
    Calibrate (Option ℤ) :=
  calibrate (some 0) (addTo w) zeroPoint outcomes

/-- The difference of two `long`s, unless it overflows. -/
def longSub (a b : ℤ) : Option ℤ := if w.Fits (a - b) then some (a - b) else none

/-- `(float)known_mass_grams / (float)(known_mass_point - zero_point)`. -/
def slope (knownMassGrams knownMassPoint zeroPoint : ℤ) : Option ℚ := do
  let grams ← single knownMassGrams
  let difference ← longSub w knownMassPoint zeroPoint
  let denominator ← single difference
  if denominator = 0 then none else single (grams / denominator)

/-- `(int32_t)((data.force - zero_point) * slope)`. -/
def massVal (knownMassGrams knownMassPoint zeroPoint : ℤ) (force : Single) : Option Int32 := do
  let slope ← slope w knownMassGrams knownMassPoint zeroPoint
  let zero ← single zeroPoint
  let difference ← single (force - zero)
  let mass ← single (difference * slope)
  castInt32 mass

/-- The denominator is not zero, and every reading has a mass, which is zero at the zero point and
the known mass at the known point. -/
def Measures (knownMassGrams knownMassPoint : Long w) (zeroPoint : Option ℤ) : Prop :=
  ∃ zero, zeroPoint = some zero ∧ (knownMassPoint : ℤ) - zero ≠ 0 ∧
    ∀ force : Single, ∃ mass, massVal w knownMassGrams knownMassPoint zero force = some mass ∧
      ((force : ℚ) = zero → mass = 0) ∧ ((force : ℚ) = (knownMassPoint : ℤ) →
        mass.toInt = knownMassGrams)

/-! ### The readings -/

/-- What is lost of the tenths of the readings when they are added, rounded and truncated, to a
whole number. -/
def lost : ℤ → List Single → Option ℚ
  | _, [] => some 0
  | total, force :: forces => do
    let next ← addForce w total force
    let rest ← lost next forces
    return (force / 10 - (next - total)) + rest

variable {w}

lemma LongWidth.Fits.abs_cast_le {n : ℤ} (h : w.Fits n) : |(n : ℚ)| ≤ 2 ^ (63 : ℤ) := by
  have hpow : (2 : ℤ) ^ (w.bits - 1) ≤ 2 ^ 63 :=
    pow_le_pow_right₀ one_le_two (by have := w.le; omega)
  have habs : |n| ≤ 2 ^ 63 := abs_le.mpr ⟨(neg_le_neg hpow).trans h.1, h.2.le.trans hpow⟩
  have hcast : ((|n| : ℤ) : ℚ) ≤ (2 ^ 63 : ℤ) := Int.cast_le.mpr habs
  rwa [Int.cast_abs, Int.cast_pow, Int.cast_ofNat] at hcast

lemma LongWidth.Fits.abs_round_le {n : ℤ} (h : w.Fits n) :
    |round binary32 (n : ℚ)| ≤ 2 ^ (63 : ℤ) :=
  abs_round_le_zpow (by decide) h.abs_cast_le

lemma LongWidth.Fits.single_eq {n : ℤ} (h : w.Fits n) :
    single (n : ℚ) = some (round binary32 (n : ℚ)) :=
  toFloat_of_zpow (by decide) (by decide) h.abs_cast_le

lemma one_le_abs_round {n : ℤ} (h : n ≠ 0) : 1 ≤ |round binary32 (n : ℚ)| := by
  have habs : (1 : ℚ) ≤ |(n : ℚ)| := by
    rw [← Int.cast_abs]
    exact_mod_cast Int.one_le_abs h
  have hpow := zpow_le_abs_round (f := binary32) (x := (n : ℚ)) (k := 0) (by decide)
  rw [zpow_zero] at hpow
  exact hpow habs

lemma round_ne_zero {n : ℤ} (h : n ≠ 0) : round binary32 (n : ℚ) ≠ 0 :=
  abs_pos.mp (one_pos.trans_le (one_le_abs_round h))

section Mass

variable {grams point : Long w} {zero : ℤ}

/-- Where the denominator is not zero, the mass at the zero point is zero. -/
theorem massVal_zeroPoint (hne : (point : ℤ) - zero ≠ 0)
    (hfits : w.Fits (point - zero)) {force : Single} (hforce : (force : ℚ) = zero) :
    massVal w grams point zero force = some 0 := by
  have hquotient : |round binary32 ((grams : ℤ) : ℚ) / round binary32 ((point - zero : ℤ) : ℚ)| ≤
      2 ^ (63 : ℤ) := by
    rw [abs_div]
    exact (div_le_self (abs_nonneg _) (one_le_abs_round hne)).trans grams.2.abs_round_le
  have hslope := toFloat_of_zpow (f := binary32) (by decide) (by decide) hquotient
  have hexact : single (zero : ℚ) = some (zero : ℚ) := hforce ▸ force.2.toFloat_eq
  simp only [massVal, slope, longSub, if_pos hfits, grams.2.single_eq, hfits.single_eq, hexact,
    Option.bind_eq_bind, Option.bind_some, if_neg (round_ne_zero hne), hslope, hforce, sub_self,
    toFloat_zero, zero_mul]
  simp [castInt32]

lemma abs_quotient_le {a b : ℕ} (hgrams : |(grams : ℤ)| ≤ 2 ^ a)
    (hdifference : 2 ^ b ≤ |(point : ℤ) - zero|) (hab : a ≤ b + 5) :
    |round binary32 ((grams : ℤ) : ℚ) / round binary32 ((point - zero : ℤ) : ℚ)| ≤
      2 ^ (5 : ℤ) := by
  have hgrams' : |round binary32 ((grams : ℤ) : ℚ)| ≤ 2 ^ (a : ℤ) :=
    abs_round_le_zpow (by simp only [binary32]; omega) (by exact_mod_cast hgrams)
  have hdifference' : 2 ^ (b : ℤ) ≤ |round binary32 ((point - zero : ℤ) : ℚ)| :=
    zpow_le_abs_round (by simp only [binary32]; omega) (by exact_mod_cast hdifference)
  have hpos : (0 : ℚ) < 2 ^ (b : ℤ) := zpow_pos two_pos _
  rw [abs_div, div_le_iff₀ (hpos.trans_le hdifference')]
  calc |round binary32 ((grams : ℤ) : ℚ)| ≤ 2 ^ (a : ℤ) := hgrams'
    _ ≤ 2 ^ (5 + b : ℤ) := zpow_le_zpow_right₀ one_le_two (by omega)
    _ = 2 ^ (5 : ℤ) * 2 ^ (b : ℤ) := zpow_add₀ two_ne_zero _ _
    _ ≤ _ := mul_le_mul_of_nonneg_left hdifference' (zpow_pos two_pos _).le

/-- **Moderate readings have a mass**, where the known point is not too near to the zero point for
the known mass. -/
theorem massVal_of_moderate {a b : ℕ} (hgrams : |(grams : ℤ)| ≤ 2 ^ a)
    (hdifference : 2 ^ b ≤ |(point : ℤ) - zero|) (hab : a ≤ b + 5) (hfits : w.Fits (point - zero))
    (hzero : |zero| ≤ 2 ^ 24) {force : Single} (hforce : |(force : ℚ)| ≤ 2 ^ 24) :
    ∃ mass, massVal w grams point zero force = some mass := by
  have hquotient := abs_quotient_le hgrams hdifference hab
  have hne : (point : ℤ) - zero ≠ 0 := abs_pos.mp ((pow_pos two_pos b).trans_le hdifference)
  have hzero' : |(zero : ℚ)| ≤ 2 ^ (24 : ℤ) := by exact_mod_cast hzero
  have hround := abs_round_le_zpow (f := binary32) (by decide) hzero'
  have hfar : |(force : ℚ) - round binary32 (zero : ℚ)| ≤ 2 ^ (25 : ℤ) := by
    have habs := abs_sub (force : ℚ) (round binary32 (zero : ℚ))
    norm_num at hround hforce ⊢
    linarith
  have hproduct : |round binary32 ((force : ℚ) - round binary32 (zero : ℚ)) *
      round binary32 (round binary32 ((grams : ℤ) : ℚ) /
        round binary32 ((point - zero : ℤ) : ℚ))| ≤ 2 ^ (30 : ℤ) := by
    rw [abs_mul]
    calc _ ≤ (2 : ℚ) ^ (25 : ℤ) * 2 ^ (5 : ℤ) :=
          mul_le_mul (abs_round_le_zpow (by decide) hfar) (abs_round_le_zpow (by decide) hquotient)
            (abs_nonneg _) (zpow_pos two_pos _).le
      _ = 2 ^ (30 : ℤ) := by norm_num
  have hmass := abs_round_le_zpow (f := binary32) (by decide) hproduct
  simp only [massVal, slope, longSub, if_pos hfits, grams.2.single_eq, hfits.single_eq,
    Option.bind_eq_bind, Option.bind_some, if_neg (round_ne_zero hne),
    toFloat_of_zpow (f := binary32) (by decide) (by decide) hquotient,
    toFloat_of_zpow (f := binary32) (by decide) (by decide) hzero',
    toFloat_of_zpow (f := binary32) (by decide) (by decide) hfar,
    toFloat_of_zpow (f := binary32) (by decide) (by decide) hproduct]
  obtain ⟨hlow, hhigh⟩ := abs_le.mp hmass
  exact Option.isSome_iff_exists.mp (castInt32_isSome_iff.mpr
    ⟨lt_of_lt_of_le (by norm_num) hlow, hhigh.trans_lt (by norm_num)⟩)

end Mass

end Hysim.Mass
