import Mathlib.Algebra.BigOperators.Group.List.Basic
import Mathlib.Algebra.Order.Floor.Ring
import Mathlib.Algebra.Order.Ring.Abs
import Mathlib.Tactic.Linarith
import Mathlib.Tactic.Ring

/-!
Truncation toward zero, as a cast to an integer type does it.

The fraction of a number is cut off whatever its sign, so what is cut off has the sign of the
number. A cast is undefined when the integer does not fit. A sum that is kept as an integer is
truncated at every term, and what is cut off of the terms is what it lacks.
-/

namespace Hysim.Lib.Truncate

variable {K : Type} [Field K] [LinearOrder K] [FloorRing K]

/-- The integer next to `x` in the direction of zero. -/
def trunc (x : K) : ℤ := if 0 ≤ x then ⌊x⌋ else ⌈x⌉

/-- The cast to a 32-bit integer. -/
def castInt32 (x : K) : Option Int32 :=
  if -2 ^ 31 ≤ trunc x ∧ trunc x < 2 ^ 31 then some (Int32.ofInt (trunc x)) else none

/-- A sum in an integer: each term is added to what is there, and the result truncated. -/
def truncSum (n : ℤ) (xs : List K) : ℤ := xs.foldl (fun n x => trunc ((n : K) + x)) n

/-- What the next term adds to a sum in an integer. -/
def wholePart (n : ℤ) (x : K) : ℤ := if 0 ≤ n + ⌊x⌋ then ⌊x⌋ else ⌈x⌉

def wholeTotal : ℤ → List K → ℤ
  | n, [] => n
  | n, x :: xs => wholeTotal (n + wholePart n x) xs

/-- What is cut off of the terms of a sum in an integer. -/
def cutOff : ℤ → List K → K
  | _, [] => 0
  | n, x :: xs => (x - wholePart n x) + cutOff (n + wholePart n x) xs

variable {x y : K} {n : ℤ}

lemma trunc_of_nonneg (h : 0 ≤ x) : trunc x = ⌊x⌋ := if_pos h

lemma trunc_of_neg (h : x < 0) : trunc x = ⌈x⌉ := if_neg (not_le.mpr h)

lemma castInt32_eq_some {v : Int32} (h : castInt32 x = some v) : v.toInt = trunc x := by
  unfold castInt32 at h
  split_ifs at h with hrange
  obtain rfl := Option.some.inj h
  exact Int32.toInt_ofInt_of_le hrange.1 hrange.2

variable [IsStrictOrderedRing K]

lemma castInt32_isSome_iff : (castInt32 x).isSome ↔ -2 ^ 31 - 1 < x ∧ x < 2 ^ 31 := by
  have hrange : (castInt32 x).isSome ↔ -2 ^ 31 ≤ trunc x ∧ trunc x < 2 ^ 31 := by
    unfold castInt32
    split_ifs with h
    · exact ⟨fun _ => h, fun _ => rfl⟩
    · exact ⟨nofun, fun hsome => absurd hsome h⟩
  rw [hrange]
  rcases le_or_gt 0 x with hx | hx
  · have hfloor := Int.floor_nonneg.mpr hx
    have hhigh : ⌊x⌋ < 2 ^ 31 ↔ x < 2 ^ 31 := by
      rw [Int.floor_lt, Int.cast_pow, Int.cast_ofNat]
    rw [trunc_of_nonneg hx, hhigh]
    exact and_congr_left fun _ => ⟨fun _ => by linarith, fun _ => by omega⟩
  · have hceil : ⌈x⌉ ≤ 0 := Int.ceil_le.mpr (hx.le.trans_eq Int.cast_zero.symm)
    have hlow : -2 ^ 31 ≤ ⌈x⌉ ↔ -2 ^ 31 - 1 < x := by
      rw [← Int.sub_one_lt_iff, Int.lt_ceil, Int.cast_sub, Int.cast_neg, Int.cast_pow,
        Int.cast_ofNat, Int.cast_one]
    rw [trunc_of_neg hx, hlow]
    exact and_congr_right fun _ => ⟨fun _ => by linarith, fun _ => by omega⟩

@[simp] lemma trunc_intCast (n : ℤ) : trunc (n : K) = n := by
  unfold trunc
  split_ifs
  · exact Int.floor_intCast n
  · exact Int.ceil_intCast n

@[simp] lemma trunc_zero : trunc (0 : K) = 0 := by
  have hcast := trunc_intCast (K := K) 0
  rwa [Int.cast_zero] at hcast

lemma trunc_neg (x : K) : trunc (-x) = -trunc x := by
  rcases lt_trichotomy x 0 with hx | rfl | hx
  · rw [trunc_of_neg hx, trunc_of_nonneg (by linarith), Int.floor_neg]
  · simp
  · rw [trunc_of_nonneg hx.le, trunc_of_neg (by linarith), Int.ceil_neg]

lemma trunc_eq_zero_iff : trunc x = 0 ↔ |x| < 1 := by
  rcases le_or_gt 0 x with hx | hx
  · rw [trunc_of_nonneg hx, abs_of_nonneg hx, Int.floor_eq_zero_iff, Set.mem_Ico]
    exact and_iff_right hx
  · rw [trunc_of_neg hx, abs_of_neg hx, Int.ceil_eq_zero_iff, Set.mem_Ioc]
    constructor
    · intro h
      linarith [h.1]
    · intro h
      exact ⟨by linarith, hx.le⟩

/-! ### Sums in an integer -/

/-- To truncate the sum with an integer rounds the other summand, down where the sum is not
negative and up where it is. -/
lemma trunc_intCast_add (n : ℤ) (x : K) : trunc ((n : K) + x) = n + wholePart n x := by
  have hsign : 0 ≤ (n : K) + x ↔ 0 ≤ n + ⌊x⌋ := by
    rw [← Int.floor_intCast_add, Int.floor_nonneg]
  unfold trunc wholePart
  by_cases h : 0 ≤ (n : K) + x
  · rw [if_pos h, if_pos (hsign.mp h), Int.floor_intCast_add]
  · rw [if_neg h, if_neg fun hn => h (hsign.mpr hn), Int.ceil_intCast_add]

lemma truncSum_eq (n : ℤ) (xs : List K) : truncSum n xs = wholeTotal n xs := by
  induction xs generalizing n with
  | nil => rfl
  | cons x xs ih =>
    have hstep : truncSum n (x :: xs) = truncSum (n + wholePart n x) xs := by
      rw [← trunc_intCast_add]
      rfl
    rw [hstep, ih]
    rfl

omit [IsStrictOrderedRing K] in
lemma wholeTotal_add_cutOff (n : ℤ) (xs : List K) :
    (wholeTotal n xs : K) + cutOff n xs = n + xs.sum := by
  induction xs generalizing n with
  | nil => simp [wholeTotal, cutOff]
  | cons x xs ih =>
    have hrest := ih (n + wholePart n x)
    push_cast at hrest
    calc (wholeTotal n (x :: xs) : K) + cutOff n (x :: xs)
        = (x - wholePart n x) + (wholeTotal (n + wholePart n x) xs +
            cutOff (n + wholePart n x) xs) := by
          simp only [wholeTotal, cutOff]
          ring
      _ = n + (x :: xs).sum := by
          rw [hrest, List.sum_cons]
          ring

lemma abs_sub_wholePart_lt (n : ℤ) (x : K) : |x - wholePart n x| < 1 := by
  have hfloor := Int.floor_le x
  have hfloor' := Int.lt_floor_add_one x
  have hceil := Int.le_ceil x
  have hceil' := Int.ceil_lt_add_one x
  unfold wholePart
  split_ifs
  · rw [abs_lt]
    exact ⟨by linarith, by linarith⟩
  · rw [abs_lt]
    exact ⟨by linarith, by linarith⟩

lemma abs_cutOff_le (n : ℤ) (xs : List K) : |cutOff n xs| ≤ xs.length := by
  induction xs generalizing n with
  | nil => simp [cutOff]
  | cons x xs ih =>
    calc |cutOff n (x :: xs)|
        ≤ |x - wholePart n x| + |cutOff (n + wholePart n x) xs| := abs_add_le _ _
      _ ≤ 1 + xs.length := add_le_add (abs_sub_wholePart_lt n x).le (ih _)
      _ = ((x :: xs).length : K) := by
          rw [List.length_cons]
          push_cast
          ring

omit [IsStrictOrderedRing K] in
lemma cutOff_of_nonneg {n : ℤ} (hn : 0 ≤ n) {xs : List K} (h : ∀ x ∈ xs, 0 ≤ x) :
    cutOff n xs = (xs.map Int.fract).sum := by
  induction xs generalizing n with
  | nil => rfl
  | cons x xs ih =>
    have hx : 0 ≤ ⌊x⌋ := Int.floor_nonneg.mpr (h x (List.mem_cons_self ..))
    have hwhole : wholePart n x = ⌊x⌋ := if_pos (by omega)
    rw [cutOff, hwhole, ih (by omega) fun y hy => h y (List.mem_cons_of_mem _ hy), List.map_cons,
      List.sum_cons, Int.self_sub_floor]

omit [IsStrictOrderedRing K] in
lemma wholeTotal_of_nonneg {n : ℤ} (hn : 0 ≤ n) {xs : List K} (h : ∀ x ∈ xs, 0 ≤ x) :
    wholeTotal n xs = n + (xs.map Int.floor).sum := by
  induction xs generalizing n with
  | nil => simp [wholeTotal]
  | cons x xs ih =>
    have hx : 0 ≤ ⌊x⌋ := Int.floor_nonneg.mpr (h x (List.mem_cons_self ..))
    have hwhole : wholePart n x = ⌊x⌋ := if_pos (by omega)
    rw [wholeTotal, hwhole, ih (by omega) fun y hy => h y (List.mem_cons_of_mem _ hy),
      List.map_cons, List.sum_cons, add_assoc]

/-! ### Multiples -/

lemma trunc_eq_trunc_mul_iff {k : K} (hk : 2 ≤ k) : trunc x = trunc (k * x) ↔ |k * x| < 1 := by
  have hpos : ∀ y : K, 0 ≤ y → trunc y = trunc (k * y) → trunc y = 0 := by
    intro y hy heq
    have hky : 0 ≤ k * y := mul_nonneg (by linarith) hy
    rw [trunc_of_nonneg hy, trunc_of_nonneg hky] at heq
    rw [trunc_of_nonneg hy]
    -- twice the whole part is still below the multiple
    have hlow : (⌊y⌋ : K) ≤ y := Int.floor_le y
    have hnonneg : (0 : ℤ) ≤ ⌊y⌋ := Int.floor_nonneg.mpr hy
    have htwice : ((2 * ⌊y⌋ : ℤ) : K) ≤ k * y := by
      have hmul : 2 * y ≤ k * y := mul_le_mul_of_nonneg_right hk hy
      push_cast
      linarith
    have hfloor : 2 * ⌊y⌋ ≤ ⌊k * y⌋ := Int.le_floor.mpr htwice
    omega
  have hzero : trunc x = trunc (k * x) → trunc x = 0 := by
    intro heq
    rcases le_or_gt 0 x with hx | hx
    · exact hpos x hx heq
    · have hneg := hpos (-x) (by linarith) (by rw [mul_neg, trunc_neg, trunc_neg, heq])
      rw [trunc_neg] at hneg
      omega
  constructor
  · intro heq
    rw [← trunc_eq_zero_iff, ← heq]
    exact hzero heq
  · intro hsmall
    have hk0 : 0 < k := by linarith
    have hx : |x| < 1 := by
      have habs : |k * x| = k * |x| := by rw [abs_mul, abs_of_pos hk0]
      have hle : |x| ≤ k * |x| := le_mul_of_one_le_left (abs_nonneg x) (by linarith)
      linarith
    rw [trunc_eq_zero_iff.mpr hsmall, trunc_eq_zero_iff.mpr hx]

end Hysim.Lib.Truncate
