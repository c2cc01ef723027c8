import Mathlib.Algebra.Order.Field.Power
import Mathlib.Algebra.Order.Floor.Ring
import Mathlib.Data.Int.Log
import Mathlib.Tactic.Linarith
import Mathlib.Tactic.Positivity
import Mathlib.Tactic.Ring

/-!
Rounding to a binary floating-point format, to nearest with ties to even.

A number is rounded to a multiple of the unit in its last place, which depends on its binade and
is no smaller than the least subnormal. Infinities and NaNs are the lack of a value.
-/

namespace Hysim.Lib.Rounding

/-- The bits of the significand, the exponent of the least subnormal, and that of the first power
of two that is too large. -/
structure Format where
  bits : ℕ
  low : ℤ
  high : ℤ
  bits_pos : 0 < bits
  low_add_bits_le : low + bits ≤ high

/-- A `float` of C. -/
def binary32 : Format := ⟨24, -149, 128, by decide, by decide⟩

variable {K : Type} [Field K] [LinearOrder K] [FloorRing K]

def roundEven (x : K) : ℤ :=
  if x - ⌊x⌋ < ⌊x⌋ + 1 - x then ⌊x⌋
  else if ⌊x⌋ + 1 - x < x - ⌊x⌋ then ⌊x⌋ + 1
  else if Even ⌊x⌋ then ⌊x⌋ else ⌊x⌋ + 1

lemma floor_le_roundEven (x : K) : ⌊x⌋ ≤ roundEven x := by
  unfold roundEven
  split_ifs <;> omega

lemma roundEven_le (x : K) : roundEven x ≤ ⌊x⌋ + 1 := by
  unfold roundEven
  split_ifs <;> omega

variable [IsStrictOrderedRing K] (f : Format)

/-- The exponent of the unit in the last place. -/
def exponent (x : K) : ℤ := max (Int.log 2 |x| + 1 - f.bits) f.low

def ulp (x : K) : K := (2 : ℕ) ^ exponent f x

/-- Rounded as if there were no largest number. -/
def round (x : K) : K := roundEven (x / ulp f x) * ulp f x

def toFloat (x : K) : Option K :=
  if |round f x| < (2 : ℕ) ^ f.high then some (round f x) else none

/-- A number the format has. -/
structure IsFloat (x : K) : Prop where
  round_eq : round f x = x
  abs_lt : |x| < 2 ^ f.high

variable {f} {x y : K}

/-! ### To an integer -/

lemma roundEven_mono (h : x ≤ y) : roundEven x ≤ roundEven y := by
  rcases (Int.floor_le_floor h).lt_or_eq with hlt | heq
  · have hx := roundEven_le x
    have hy := floor_le_roundEven y
    omega
  · unfold roundEven
    rw [heq]
    split_ifs <;> first | omega | linarith

@[simp] lemma roundEven_intCast (n : ℤ) : roundEven (n : K) = n := by
  simp [roundEven]

@[simp] lemma roundEven_zero : roundEven (0 : K) = 0 := by
  have hcast := roundEven_intCast (K := K) 0
  rwa [Int.cast_zero] at hcast

lemma le_roundEven {n : ℤ} (h : (n : K) ≤ x) : n ≤ roundEven x := by
  have hmono := roundEven_mono h
  rwa [roundEven_intCast] at hmono

lemma roundEven_le_of_le {n : ℤ} (h : x ≤ n) : roundEven x ≤ n := by
  have hmono := roundEven_mono h
  rwa [roundEven_intCast] at hmono

omit [IsStrictOrderedRing K] in
lemma ulp_eq (x : K) : ulp f x = 2 ^ exponent f x := by
  rw [ulp, Nat.cast_ofNat]

lemma ulp_pos (x : K) : 0 < ulp f x := by
  rw [ulp_eq]
  exact zpow_pos two_pos _

lemma mul_ulp_le_round {n : ℤ} (h : (n : K) * ulp f x ≤ x) : n * ulp f x ≤ round f x := by
  have hdiv : (n : K) ≤ x / ulp f x := (le_div_iff₀ (ulp_pos x)).mpr h
  exact mul_le_mul_of_nonneg_right (Int.cast_le.mpr (le_roundEven hdiv)) (ulp_pos x).le

lemma round_le_mul_ulp {n : ℤ} (h : x ≤ n * ulp f x) : round f x ≤ n * ulp f x := by
  have hdiv : x / ulp f x ≤ n := (div_le_iff₀ (ulp_pos x)).mpr h
  exact mul_le_mul_of_nonneg_right (Int.cast_le.mpr (roundEven_le_of_le hdiv)) (ulp_pos x).le

omit [IsStrictOrderedRing K] in
lemma exists_mul_ulp (m : ℤ) {k : ℤ} (h : exponent f x ≤ k) :
    ∃ n : ℤ, (m : K) * 2 ^ k = n * ulp f x := by
  obtain ⟨d, hd⟩ := Int.le.dest h
  refine ⟨m * 2 ^ d, ?_⟩
  rw [ulp_eq, ← hd, zpow_add₀ two_ne_zero, zpow_natCast]
  push_cast
  ring

lemma le_round_of_mul {m k : ℤ} (hk : exponent f x ≤ k) (h : (m : K) * 2 ^ k ≤ x) :
    (m : K) * 2 ^ k ≤ round f x := by
  obtain ⟨n, hn⟩ := exists_mul_ulp (K := K) (f := f) (x := x) m hk
  rw [hn] at h ⊢
  exact mul_ulp_le_round h

lemma round_le_of_mul {m k : ℤ} (hk : exponent f x ≤ k) (h : x ≤ m * 2 ^ k) :
    round f x ≤ m * 2 ^ k := by
  obtain ⟨n, hn⟩ := exists_mul_ulp (K := K) (f := f) (x := x) m hk
  rw [hn] at h ⊢
  exact round_le_mul_ulp h

lemma exponent_le {k : ℤ} (hx : x ≠ 0) (h : |x| < 2 ^ k) (hk : f.low + f.bits ≤ k) :
    exponent f x ≤ k - f.bits := by
  have hlog : Int.log 2 |x| < k :=
    (Int.lt_zpow_iff_log_lt one_lt_two (abs_pos.mpr hx)).mp (by exact_mod_cast h)
  exact max_le (by omega) (by omega)

/-- An integer with few enough bits times a power of two is not rounded. -/
lemma round_mul_zpow {m k : ℤ} (hm : |m| < 2 ^ f.bits) (hk : f.low ≤ k) :
    round f ((m : K) * 2 ^ k) = m * 2 ^ k := by
  rcases eq_or_ne m 0 with rfl | hne
  · simp [round]
  have hx : (m : K) * 2 ^ k ≠ 0 :=
    mul_ne_zero (Int.cast_ne_zero.mpr hne) (zpow_ne_zero _ two_ne_zero)
  have habs : |(m : K) * 2 ^ k| < 2 ^ (k + f.bits) := by
    have hcast : |(m : K)| < 2 ^ f.bits := by exact_mod_cast hm
    have hpos : (0 : K) < 2 ^ k := zpow_pos two_pos k
    rw [abs_mul, abs_of_pos hpos, add_comm, zpow_add₀ two_ne_zero, zpow_natCast]
    exact mul_lt_mul_of_pos_right hcast hpos
  have hexp : exponent f ((m : K) * 2 ^ k) ≤ k := by
    have := exponent_le (f := f) hx habs (by omega)
    omega
  exact le_antisymm (round_le_of_mul hexp le_rfl) (le_round_of_mul hexp le_rfl)

@[simp] lemma round_zero : round f (0 : K) = 0 := by
  simp [round]

lemma round_zpow {k : ℤ} (hk : f.low ≤ k) : round f ((2 : K) ^ k) = 2 ^ k := by
  have hone : |(1 : ℤ)| < 2 ^ f.bits := by
    rw [abs_one]
    exact one_lt_pow₀ one_lt_two f.bits_pos.ne'
  have h := round_mul_zpow (K := K) hone hk
  rwa [Int.cast_one, one_mul] at h

lemma round_neg_zpow {k : ℤ} (hk : f.low ≤ k) : round f (-(2 : K) ^ k) = -2 ^ k := by
  have hone : |(-1 : ℤ)| < 2 ^ f.bits := by
    rw [abs_neg, abs_one]
    exact one_lt_pow₀ one_lt_two f.bits_pos.ne'
  have h := round_mul_zpow (K := K) hone hk
  rwa [Int.cast_neg, Int.cast_one, neg_one_mul] at h

/-! ### Order -/

lemma round_le_round_of_mul {m k : ℤ} (hx : exponent f x ≤ k) (hy : exponent f y ≤ k)
    (hxm : x ≤ m * 2 ^ k) (hmy : (m : K) * 2 ^ k ≤ y) : round f x ≤ round f y :=
  (round_le_of_mul hx hxm).trans (le_round_of_mul hy hmy)

lemma exists_zpow_between (hx : x ≠ 0) (hy : y ≠ 0) (h : exponent f x < exponent f y) :
    ∃ k, |x| < 2 ^ k ∧ 2 ^ k ≤ |y| ∧ exponent f y ≤ k := by
  have hbits := f.bits_pos
  have hlow : f.low ≤ exponent f x := le_max_right _ _
  have hlogx : Int.log 2 |x| + 1 - f.bits ≤ exponent f x := le_max_left _ _
  have hlogy : exponent f y = Int.log 2 |y| + 1 - f.bits := by
    rcases max_choice (Int.log 2 |y| + 1 - f.bits) f.low with hmax | hmax
    · exact hmax
    · have heq : exponent f y = f.low := hmax
      omega
  refine ⟨Int.log 2 |y|, ?_, ?_, by omega⟩
  · have hlt : Int.log 2 |x| < Int.log 2 |y| := by omega
    exact_mod_cast (Int.lt_zpow_iff_log_lt one_lt_two (abs_pos.mpr hx)).mpr hlt
  · exact_mod_cast Int.zpow_log_le_self one_lt_two (abs_pos.mpr hy)

lemma exponent_mono (hx : x ≠ 0) (h : |x| ≤ |y|) : exponent f x ≤ exponent f y := by
  have hlog := Int.log_mono_right (b := 2) (abs_pos.mpr hx) h
  exact max_le_max_right _ (by omega)

lemma round_nonneg (h : 0 ≤ x) : 0 ≤ round f x := by
  have hzero := mul_ulp_le_round (f := f) (x := x) (n := 0)
  simp only [Int.cast_zero, zero_mul] at hzero
  exact hzero h

lemma round_nonpos (h : x ≤ 0) : round f x ≤ 0 := by
  have hzero := round_le_mul_ulp (f := f) (x := x) (n := 0)
  simp only [Int.cast_zero, zero_mul] at hzero
  exact hzero h

lemma round_mono_of_exponent_eq (heq : exponent f x = exponent f y) (h : x ≤ y) :
    round f x ≤ round f y := by
  have hulp : ulp f x = ulp f y := by rw [ulp, ulp, heq]
  have hdiv : x / ulp f y ≤ y / ulp f y := div_le_div_of_nonneg_right h (ulp_pos y).le
  rw [round, round, hulp]
  exact mul_le_mul_of_nonneg_right (Int.cast_le.mpr (roundEven_mono hdiv)) (ulp_pos y).le

/-- **Rounding keeps the order.** -/
theorem round_mono (h : x ≤ y) : round f x ≤ round f y := by
  rcases le_or_gt x 0 with hx | hx
  · rcases le_or_gt 0 y with hy | hy
    · exact (round_nonpos hx).trans (round_nonneg hy)
    have hxneg : x < 0 := h.trans_lt hy
    have habs : |y| ≤ |x| := by
      rw [abs_of_neg hy, abs_of_neg hxneg]
      exact neg_le_neg h
    rcases (exponent_mono (f := f) hy.ne habs).lt_or_eq with hlt | heq
    · obtain ⟨k, hyk, hxk, hk⟩ := exists_zpow_between hy.ne hxneg.ne hlt
      rw [abs_of_neg hy] at hyk
      rw [abs_of_neg hxneg] at hxk
      refine round_le_round_of_mul (m := -1) hk (hlt.le.trans hk) ?_ ?_ <;>
        · push_cast
          linarith
    · exact round_mono_of_exponent_eq heq.symm h
  · have hy : 0 < y := hx.trans_le h
    have habs : |x| ≤ |y| := by rwa [abs_of_pos hx, abs_of_pos hy]
    rcases (exponent_mono (f := f) hx.ne' habs).lt_or_eq with hlt | heq
    · obtain ⟨k, hxk, hyk, hk⟩ := exists_zpow_between hx.ne' hy.ne' hlt
      rw [abs_of_pos hx] at hxk
      rw [abs_of_pos hy] at hyk
      refine round_le_round_of_mul (m := 1) (hlt.le.trans hk) hk ?_ ?_ <;>
        · push_cast
          linarith
    · exact round_mono_of_exponent_eq heq h

lemma abs_round_le_zpow {k : ℤ} (hk : f.low ≤ k) (h : |x| ≤ 2 ^ k) : |round f x| ≤ 2 ^ k := by
  obtain ⟨hlow, hhigh⟩ := abs_le.mp h
  have hmlow := round_mono (f := f) hlow
  have hmhigh := round_mono (f := f) hhigh
  rw [round_neg_zpow hk] at hmlow
  rw [round_zpow hk] at hmhigh
  exact abs_le.mpr ⟨hmlow, hmhigh⟩

lemma zpow_le_abs_round {k : ℤ} (hk : f.low ≤ k) (h : 2 ^ k ≤ |x|) : 2 ^ k ≤ |round f x| := by
  rcases le_abs.mp h with hpos | hneg
  · have hmono := round_mono (f := f) hpos
    rw [round_zpow hk] at hmono
    exact hmono.trans (le_abs_self _)
  · have hmono := round_mono (f := f) (le_neg.mp hneg)
    rw [round_neg_zpow hk] at hmono
    exact (le_neg.mp hmono).trans (neg_le_abs _)

/-! ### The largest numbers -/

lemma IsFloat.abs_le (h : IsFloat f x) :
    |x| ≤ 2 ^ f.high - 2 ^ (f.high - f.bits) := by
  have hbits := f.bits_pos
  have hdouble : (2 : K) ^ f.high = 2 ^ (f.high - 1) + 2 ^ (f.high - 1) := by
    rw [← two_mul, ← zpow_one_add₀ two_ne_zero, add_sub_cancel]
  rcases lt_or_ge |x| (2 ^ (f.high - 1)) with hsmall | hlarge
  · have hle : (2 : K) ^ (f.high - f.bits) ≤ 2 ^ (f.high - 1) :=
      zpow_le_zpow_right₀ one_le_two (by omega)
    linarith
  · have hx : x ≠ 0 := abs_pos.mp ((zpow_pos two_pos _).trans_le hlarge)
    have hlog : f.high - 1 ≤ Int.log 2 |x| :=
      (Int.zpow_le_iff_le_log one_lt_two (abs_pos.mpr hx)).mp (by exact_mod_cast hlarge)
    have hexp : f.high - f.bits ≤ exponent f x := le_max_of_le_left (by omega)
    -- so it is a multiple of that unit
    obtain ⟨d, hd⟩ := Int.le.dest hexp
    have hmul : x = ((roundEven (x / ulp f x) * 2 ^ d : ℤ) : K) * 2 ^ (f.high - f.bits) := by
      conv_lhs => rw [← h.round_eq]
      rw [round]
      nth_rewrite 2 [ulp_eq]
      rw [← hd, zpow_add₀ two_ne_zero, zpow_natCast]
      push_cast
      ring
    generalize roundEven (x / ulp f x) * 2 ^ d = n at hmul
    have hpos : (0 : K) < 2 ^ (f.high - f.bits) := zpow_pos two_pos _
    have hhigh : (2 : K) ^ f.high = (2 ^ f.bits : ℤ) * 2 ^ (f.high - f.bits) := by
      push_cast
      rw [← zpow_natCast, ← zpow_add₀ two_ne_zero, add_sub_cancel]
    have hlt := h.abs_lt
    rw [hmul, hhigh, abs_mul, abs_of_pos hpos, ← Int.cast_abs] at hlt
    have hn : |n| < 2 ^ f.bits := Int.cast_lt.mp (lt_of_mul_lt_mul_right hlt hpos.le)
    have hn' : ((|n| : ℤ) : K) ≤ (2 ^ f.bits - 1 : ℤ) := Int.cast_le.mpr (Int.le_sub_one_of_lt hn)
    have hmono := mul_le_mul_of_nonneg_right hn' hpos.le
    rw [hmul, hhigh, abs_mul, abs_of_pos hpos, ← Int.cast_abs]
    push_cast at hmono ⊢
    linarith

omit [IsStrictOrderedRing K] in
lemma toFloat_of_lt (h : |round f x| < 2 ^ f.high) : toFloat f x = some (round f x) := by
  rw [toFloat, Nat.cast_ofNat, if_pos h]

omit [IsStrictOrderedRing K] in
lemma IsFloat.toFloat_eq (h : IsFloat f x) : toFloat f x = some x := by
  rw [toFloat_of_lt, h.round_eq]
  rw [h.round_eq]
  exact h.abs_lt

lemma isFloat_zero : IsFloat f (0 : K) := ⟨round_zero, by
  rw [abs_zero]
  exact zpow_pos two_pos _⟩

lemma toFloat_zero : toFloat f (0 : K) = some 0 := isFloat_zero.toFloat_eq

lemma toFloat_of_zpow {k : ℤ} (hlow : f.low ≤ k) (hhigh : k < f.high) (h : |x| ≤ 2 ^ k) :
    toFloat f x = some (round f x) := by
  have hlt : (2 : K) ^ k < 2 ^ f.high := zpow_lt_zpow_right₀ one_lt_two hhigh
  exact toFloat_of_lt ((abs_round_le_zpow hlow h).trans_lt hlt)

end Hysim.Lib.Rounding
