import Mathlib.Algebra.BigOperators.Ring.List
import Mathlib.Algebra.Order.BigOperators.Group.List
import Mathlib.Data.List.Induction
import Mathlib.Data.Rat.Floor
import Hysim.Sensors

/-!
The calibration of the mass sensor, `sensor_mass_calibrate`.

Ten readings are thrown away and ten more are averaged. A fetch that fails steps the counter
of its loop back, so a loop ends with its tenth success, however many fetches that takes.

The average is that of exact arithmetic, where a `long` is an integer of any size. `Hysim.Mass` has
the calibration with a `long` of a given width and a `float` that is rounded.
-/

namespace Hysim.Calibration

open Hysim.SensorTelemetry Hysim.Sensors Hysim.Lib.Truncate

/-! ### The two loops -/

/-- In one of the loops, with its counter, or returned. -/
inductive Stage
  | flush (i : Int)
  | zero (i : Int)
  | returned (err : Int)
  deriving DecidableEq

/-- `Z` is what the zero point is kept in. -/
structure Calibrate (Z : Type) where
  stage : Stage
  zeroPoint : Z
  deriving DecidableEq

abbrev Outcome (F : Type) := Except Int (Reading F)

section Loops

variable {F Z : Type} (zero : Z) (add : Z → F → Z)

/-- The counter after a round: `i--` if the fetch failed, and then `i++`. -/
def nextIndex (outcome : Outcome F) (i : Int) : Int :=
  (match outcome with
    | .error _ => i - 1
    | .ok _ => i) + 1

/-- One fetch, with what its loop does about it. The zero point is set to `zero`, and `add` adds a
reading to it. -/
def Calibrate.fetch (s : Calibrate Z) (outcome : Outcome F) : Calibrate Z :=
  match s.stage with
  | .flush i =>
    if nextIndex outcome i < 10 then { s with stage := .flush (nextIndex outcome i) }
    else ⟨.zero 0, zero⟩
  | .zero i =>
    let zeroPoint :=
      match outcome with
      | .error _ => s.zeroPoint
      | .ok data => add s.zeroPoint data.value
    if nextIndex outcome i < 10 then ⟨.zero (nextIndex outcome i), zeroPoint⟩
    else ⟨.returned 0, zeroPoint⟩
  | .returned _ => s

/-- `sensor_mass_calibrate` after these fetches; before, the zero point is `zeroPoint`. -/
def calibrate (zeroPoint : Z) (outcomes : List (Outcome F)) : Calibrate Z :=
  outcomes.foldl (Calibrate.fetch zero add) ⟨.flush 0, zeroPoint⟩

end Loops

variable {K : Type} [Field K] [LinearOrder K] [FloorRing K]

/-- `zero_point += data.force / 10`, where the sum is truncated. -/
def store (zeroPoint : ℤ) (force : K) : ℤ := trunc ((zeroPoint : K) + tenth force)

/-- `sensor_mass_calibrate` in exact arithmetic. -/
def sensorMassCalibrate (zeroPoint : ℤ) (outcomes : List (Outcome K)) : Calibrate ℤ :=
  calibrate 0 store zeroPoint outcomes

/-! ### Only the readings matter -/

section Readings

variable {F Z : Type}

def forceOf : Outcome F → Option F
  | .error _ => none
  | .ok data => some data.value

/-- The readings of the fetches that succeeded. -/
def forces (outcomes : List (Outcome F)) : List F := outcomes.filterMap forceOf

/-- The readings that are averaged: ten, behind the first ten. -/
def averaged (outcomes : List (Outcome F)) : List F := ((forces outcomes).drop 10).take 10

variable (zero : Z) (add : Z → F → Z) (zeroPoint : Z) {fs : List F}

def after (fs : List F) : Calibrate Z :=
  if fs.length < 10 then ⟨.flush fs.length, zeroPoint⟩
  else if fs.length < 20 then ⟨.zero (fs.length - 10), (fs.drop 10).foldl add zero⟩
  else ⟨.returned 0, ((fs.drop 10).take 10).foldl add zero⟩

lemma after_flush (h : fs.length < 10) :
    after zero add zeroPoint fs = ⟨.flush fs.length, zeroPoint⟩ := if_pos h

lemma after_zero (h10 : 10 ≤ fs.length) (h20 : fs.length < 20) :
    after zero add zeroPoint fs = ⟨.zero (fs.length - 10), (fs.drop 10).foldl add zero⟩ := by
  rw [after, if_neg (by omega), if_pos h20]

lemma after_returned (h : 20 ≤ fs.length) :
    after zero add zeroPoint fs = ⟨.returned 0, ((fs.drop 10).take 10).foldl add zero⟩ := by
  rw [after, if_neg (by omega), if_neg (by omega)]

lemma fetch_error (fs : List F) (err : Int) :
    (after zero add zeroPoint fs).fetch zero add (.error err) = after zero add zeroPoint fs := by
  have hsame : ∀ i : Int, nextIndex (.error err : Outcome F) i = i := by
    intro i
    simp [nextIndex]
  unfold after
  split_ifs with h10 h20
  · have hnext : (fs.length : Int) < 10 := by omega
    simp only [Calibrate.fetch, hsame, if_pos hnext]
  · have hnext : (fs.length : Int) - 10 < 10 := by omega
    simp only [Calibrate.fetch, hsame, if_pos hnext]
  · rfl

lemma fetch_ok (fs : List F) (data : Reading F) :
    (after zero add zeroPoint fs).fetch zero add (.ok data) =
      after zero add zeroPoint (fs ++ [data.value]) := by
  have hlength : (fs ++ [data.value]).length = fs.length + 1 := by simp
  have hnext : ∀ i : Int, nextIndex (.ok data) i = i + 1 := fun _ => rfl
  rcases lt_or_ge fs.length 10 with h10 | h10
  · rw [after_flush zero add zeroPoint h10]
    simp only [Calibrate.fetch, hnext]
    rcases lt_or_ge (fs.length + 1) 10 with hflush | hflush
    · rw [after_flush zero add zeroPoint (by omega), if_pos (by omega), hlength]
      rfl
    · -- the tenth reading, after which the other loop begins
      have hdrop : (fs ++ [data.value]).drop 10 = [] := List.drop_of_length_le (by omega)
      have hindex : ((fs ++ [data.value]).length : Int) - 10 = 0 := by omega
      rw [after_zero zero add zeroPoint (by omega) (by omega), if_neg (by omega), hdrop, hindex]
      rfl
  · have hdrop : (fs ++ [data.value]).drop 10 = fs.drop 10 ++ [data.value] :=
      List.drop_append_of_le_length h10
    rcases lt_or_ge fs.length 20 with h20 | h20
    · have hstore : add ((fs.drop 10).foldl add zero) data.value =
          ((fs ++ [data.value]).drop 10).foldl add zero := by
        rw [hdrop, List.foldl_append]
        rfl
      rw [after_zero zero add zeroPoint h10 h20]
      simp only [Calibrate.fetch, hnext, hstore]
      rcases lt_or_ge (fs.length + 1) 20 with hzero | hzero
      · have hindex : (fs.length : Int) - 10 + 1 = (fs ++ [data.value]).length - 10 := by omega
        rw [after_zero zero add zeroPoint (by omega) (by omega), if_pos (by omega), hindex]
      · have hall : ((fs ++ [data.value]).drop 10).take 10 = (fs ++ [data.value]).drop 10 :=
          List.take_of_length_le (by rw [List.length_drop]; omega)
        rw [after_returned zero add zeroPoint (by omega), if_neg (by omega), hall]
    · have htake : ((fs ++ [data.value]).drop 10).take 10 = (fs.drop 10).take 10 := by
        rw [hdrop]
        exact List.take_append_of_le_length (by rw [List.length_drop]; omega)
      rw [after_returned zero add zeroPoint h20, after_returned zero add zeroPoint (by omega),
        htake]
      rfl

/-- A fetch that fails changes nothing. -/
lemma calibrate_eq (outcomes : List (Outcome F)) :
    calibrate zero add zeroPoint outcomes = after zero add zeroPoint (forces outcomes) := by
  induction outcomes using List.reverseRecOn with
  | nil => rfl
  | append_singleton outcomes outcome ih =>
    have hlast : calibrate zero add zeroPoint (outcomes ++ [outcome]) =
        (calibrate zero add zeroPoint outcomes).fetch zero add outcome := by
      simp [calibrate, List.foldl_append]
    rw [hlast, ih]
    cases outcome with
    | error err =>
      have hsame : forces (outcomes ++ [.error err]) = forces outcomes := by
        simp [forces, forceOf]
      rw [hsame, fetch_error]
    | ok data =>
      have hmore : forces (outcomes ++ [.ok data]) = forces outcomes ++ [data.value] := by
        simp [forces, forceOf]
      rw [hmore, fetch_ok]

lemma length_averaged {outcomes : List (Outcome F)} (h : 20 ≤ (forces outcomes).length) :
    (averaged outcomes).length = 10 := by
  rw [averaged, List.length_take, List.length_drop]
  omega

variable {zero add zeroPoint}

lemma stage_returned {outcomes : List (Outcome F)} {err : Int}
    (h : (calibrate zero add zeroPoint outcomes).stage = .returned err) :
    20 ≤ (forces outcomes).length := by
  rw [calibrate_eq] at h
  by_contra hfew
  rcases lt_or_ge (forces outcomes).length 10 with h10 | h10
  · rw [after_flush _ _ _ h10] at h
    cases h
  · rw [after_zero _ _ _ h10 (by omega)] at h
    cases h

lemma calibrate_returned {outcomes : List (Outcome F)} (h : 20 ≤ (forces outcomes).length) :
    calibrate zero add zeroPoint outcomes =
      ⟨.returned 0, (averaged outcomes).foldl add zero⟩ := by
  rw [calibrate_eq, after_returned _ _ _ h]
  rfl

end Readings

/-! ### The average -/

def tenths (outcomes : List (Outcome K)) : List K := (averaged outcomes).map tenth

def mean (fs : List K) : K := fs.sum / fs.length

/-- The calibration succeeds, with a zero point within one of the mean of the readings. -/
def Averages (zeroPoint : ℤ) (outcomes : List (Outcome K)) : Prop :=
  (sensorMassCalibrate zeroPoint outcomes).stage = .returned 0 ∧
    |((sensorMassCalibrate zeroPoint outcomes).zeroPoint : K) - mean (averaged outcomes)| ≤ 1

lemma foldl_store (n : ℤ) (fs : List K) : fs.foldl store n = truncSum n (fs.map tenth) := by
  rw [truncSum, List.foldl_map]
  rfl

section Ordered

variable [IsStrictOrderedRing K]

lemma sensorMassCalibrate_returned (zeroPoint : ℤ) {outcomes : List (Outcome K)}
    (h : 20 ≤ (forces outcomes).length) :
    sensorMassCalibrate zeroPoint outcomes = ⟨.returned 0, wholeTotal 0 (tenths outcomes)⟩ := by
  rw [sensorMassCalibrate, calibrate_returned h, foldl_store, truncSum_eq]
  rfl

omit [IsStrictOrderedRing K] in
lemma mean_averaged {outcomes : List (Outcome K)} (h : 20 ≤ (forces outcomes).length) :
    mean (averaged outcomes) =
      (wholeTotal 0 (tenths outcomes) : K) + cutOff 0 (tenths outcomes) := by
  have hsum : ∀ fs : List K, (fs.map tenth).sum = fs.sum / 10 := by
    intro fs
    induction fs with
    | nil => simp
    | cons force fs ih => rw [List.map_cons, List.sum_cons, ih, List.sum_cons, tenth, add_div]
  rw [wholeTotal_add_cutOff, Int.cast_zero, zero_add, tenths, hsum, mean, length_averaged h,
    Nat.cast_ofNat]

lemma abs_sub_mean (zeroPoint : ℤ) {outcomes : List (Outcome K)}
    (h : 20 ≤ (forces outcomes).length) :
    |((sensorMassCalibrate zeroPoint outcomes).zeroPoint : K) - mean (averaged outcomes)| =
      |cutOff 0 (tenths outcomes)| := by
  rw [sensorMassCalibrate_returned zeroPoint h, mean_averaged h, sub_add_cancel_left, abs_neg]

/-- **When the calibration is an average**: exactly when the fractions that are cut off from the
tenths of the readings add up to no more than one. -/
theorem averages_iff (zeroPoint : ℤ) (outcomes : List (Outcome K))
    (h : 20 ≤ (forces outcomes).length) :
    Averages zeroPoint outcomes ↔ |cutOff 0 (tenths outcomes)| ≤ 1 := by
  have hstage : (sensorMassCalibrate zeroPoint outcomes).stage = .returned 0 := by
    rw [sensorMassCalibrate_returned zeroPoint h]
  rw [Averages, abs_sub_mean zeroPoint h]
  exact and_iff_right hstage

/-- Twenty readings of ten, which are averaged to ten. -/
theorem averages_iff_ten :
    Averages 0 (List.replicate 20 (.ok ⟨0, 10⟩ : Outcome ℚ)) ↔
      |cutOff 0 (tenths (List.replicate 20 (.ok ⟨0, 10⟩ : Outcome ℚ)))| ≤ 1 :=
  averages_iff 0 (List.replicate 20 (.ok ⟨0, 10⟩)) (by decide)

/-- The zero point is within ten of the mean, whatever the readings. -/
theorem abs_sub_mean_le (zeroPoint : ℤ) {outcomes : List (Outcome K)}
    (h : 20 ≤ (forces outcomes).length) :
    |((sensorMassCalibrate zeroPoint outcomes).zeroPoint : K) - mean (averaged outcomes)| ≤
      10 := by
  have hlength : (tenths outcomes).length = 10 := by
    rw [tenths, List.length_map, length_averaged h]
  have hle := abs_cutOff_le 0 (tenths outcomes)
  rw [hlength, Nat.cast_ofNat] at hle
  rwa [abs_sub_mean zeroPoint h]

omit [FloorRing K] in
lemma tenths_nonneg {outcomes : List (Outcome K)}
    (h : ∀ force ∈ averaged outcomes, 0 ≤ force) : ∀ x ∈ tenths outcomes, 0 ≤ x := by
  intro x hx
  obtain ⟨force, hforce, rfl⟩ := List.mem_map.mp hx
  exact div_nonneg (h force hforce) (by norm_num)

/-- Of readings that are not negative the whole tenths are added up. -/
theorem zeroPoint_of_nonneg (zeroPoint : ℤ) {outcomes : List (Outcome K)}
    (h : 20 ≤ (forces outcomes).length) (hnonneg : ∀ force ∈ averaged outcomes, 0 ≤ force) :
    (sensorMassCalibrate zeroPoint outcomes).zeroPoint =
      ((tenths outcomes).map Int.floor).sum := by
  rw [sensorMassCalibrate_returned zeroPoint h]
  exact (wholeTotal_of_nonneg le_rfl (tenths_nonneg hnonneg)).trans (zero_add _)

/-- Of readings that are not negative the fractions of all tenths are lost. -/
theorem abs_sub_mean_of_nonneg (zeroPoint : ℤ) {outcomes : List (Outcome K)}
    (h : 20 ≤ (forces outcomes).length) (hnonneg : ∀ force ∈ averaged outcomes, 0 ≤ force) :
    |((sensorMassCalibrate zeroPoint outcomes).zeroPoint : K) - mean (averaged outcomes)| =
      ((tenths outcomes).map Int.fract).sum := by
  have hfract : 0 ≤ ((tenths outcomes).map Int.fract).sum := by
    refine List.sum_nonneg fun x hx => ?_
    obtain ⟨y, -, rfl⟩ := List.mem_map.mp hx
    exact Int.fract_nonneg y
  rw [abs_sub_mean zeroPoint h, cutOff_of_nonneg le_rfl (tenths_nonneg hnonneg),
    abs_of_nonneg hfract]

end Ordered

/-- Twenty readings of nine are averaged to zero. -/
theorem not_averages :
    ¬ ∀ (zeroPoint : ℤ) (outcomes : List (Outcome ℚ)), 20 ≤ (forces outcomes).length →
      Averages zeroPoint outcomes := by
  intro h
  have hnine : averaged (List.replicate 20 (.ok ⟨0, 9⟩ : Outcome ℚ)) = List.replicate 10 9 := rfl
  have hnonneg : ∀ force ∈ averaged (List.replicate 20 (.ok ⟨0, 9⟩ : Outcome ℚ)), 0 ≤ force := by
    intro force hforce
    rw [hnine] at hforce
    rw [List.eq_of_mem_replicate hforce]
    norm_num
  have hbound := (h 0 (List.replicate 20 (.ok ⟨0, 9⟩)) (by decide)).2
  rw [abs_sub_mean_of_nonneg 0 (by decide) hnonneg] at hbound
  have hfract : Int.fract (tenth 9 : ℚ) = 9 / 10 :=
    Int.fract_eq_self.mpr ⟨by norm_num [tenth], by norm_num [tenth]⟩
  rw [tenths, hnine, List.map_replicate, List.map_replicate, hfract, List.sum_replicate] at hbound
  norm_num at hbound

/-! ### The end -/

def firsts (outcomes : ℕ → Outcome K) (n : ℕ) : List (Outcome K) := (List.range n).map outcomes

/-- What `sensor_telemetry` makes of the result. -/
def massAvailable (err : Int) : Bool := !decide (err < 0)

/-- The calibration returns at some fetch, and if it has not its readings then with an error. -/
def Returns (zeroPoint : ℤ) (outcomes : ℕ → Outcome K) : Prop :=
  ∃ n err, (sensorMassCalibrate zeroPoint (firsts outcomes n)).stage = .returned err ∧
    ((forces (firsts outcomes n)).length < 20 → err < 0 ∧ massAvailable err = false)

/-- **When the calibration returns**: exactly when twenty fetches succeed, and never with an
error. -/
theorem returns_iff (zeroPoint : ℤ) (outcomes : ℕ → Outcome K) :
    Returns zeroPoint outcomes ↔ ∃ n, 20 ≤ (forces (firsts outcomes n)).length := by
  constructor
  · rintro ⟨n, err, hreturned, -⟩
    exact ⟨n, stage_returned hreturned⟩
  · rintro ⟨n, h⟩
    refine ⟨n, 0, ?_, fun hfew => absurd hfew (by omega)⟩
    rw [sensorMassCalibrate, calibrate_returned h]

/-- A sensor that never delivers anything. -/
theorem not_returns :
    ¬ ∀ (zeroPoint : ℤ) (outcomes : ℕ → Outcome ℚ), Returns zeroPoint outcomes := by
  intro h
  obtain ⟨n, err, hreturned, -⟩ := h 0 fun _ => .error (-1)
  have hnone : forces (firsts (fun _ => .error (-1) : ℕ → Outcome ℚ) n) = [] := by
    simp [forces, firsts, forceOf]
  have hlength := stage_returned hreturned
  rw [hnone] at hlength
  simp at hlength

end Hysim.Calibration
