import Mathlib.Algebra.Order.Field.Power
import Mathlib.Data.Nat.Digits.Defs
import ReplicatedSpace.Proofs.Doubles
import ReplicatedSpace.Span

/-!
Literals as their nearest doubles. Rounding to units gives the nearest double, and so do the
shortcuts for numbers that are far too large or far too small. A double of seconds is a span if it
is zero or between zero and 2^64, and then its nanoseconds are those nearest to its exact value.
-/
namespace ReplicatedSpace.Decimal

namespace Binary64

variable {numerator denominator : ℕ} {double : Double}

theorem roundUnits_rounds (numerator : ℕ) (positive : 0 < denominator) :
    ∃ shift integer, Grid (numerator / denominator) shift ∧
      RoundsTo (numerator / denominator / 2 ^ shift) integer ∧
      roundUnits numerator denominator = integer * 2 ^ shift := by
  let shift := (numerator / denominator).log2 - 52
  have scaled : 0 < denominator * 2 ^ shift := Nat.mul_pos positive (Nat.two_pow_pos _)
  refine ⟨shift, _, .of_quotient numerator positive, ?_, rfl⟩
  have rounds := roundsTo_roundHalfEven numerator scaled
  rw [Nat.cast_mul, Nat.cast_pow, Nat.cast_ofNat, ← div_div] at rounds
  exact rounds

theorem units_nearest (positive : 0 < denominator)
    (nearest : Nearest ((numerator : ℚ) / denominator) double) :
    double.units = roundUnits (numerator * unitsPerOne) denominator := by
  obtain ⟨shift, integer, grid, rounds, same⟩ :=
    roundUnits_rounds (numerator * unitsPerOne) positive
  rw [Nat.cast_mul, mul_div_right_comm] at grid rounds
  rw [nearest.units_eq grid rounds, same]
  push_cast
  rfl

end Binary64

section Bounds

variable {value : ℚ} {double : Double} {significand : ℕ} {exponent : ℤ}

theorem overflow_eq : Binary64.overflow = 2 ^ 1024 * Binary64.unitsPerOne := by
  unfold Binary64.overflow
  generalize 1024 = places
  rw [Nat.pow_eq]

theorem overflow_pos : 0 < Binary64.overflow := by
  have units : 0 < Binary64.unitsPerOne := by exact_mod_cast unitsPerOne_pos
  rw [overflow_eq]
  generalize 1024 = places
  exact Nat.mul_pos (Nat.two_pow_pos places) units

/-- The first double that stands for an infinity. -/
def Double.beyond : Double := ⟨2 ^ 52, 2046, by norm_num, .inr (by norm_num)⟩

theorem Double.units_beyond : beyond.units = Binary64.overflow := by
  have places : 52 + 2046 = 1024 + 1074 := rfl
  rw [overflow_eq, unitsPerOne_eq, ← pow_add, ← places, Nat.cast_pow, Nat.cast_ofNat, pow_add]
  rfl

def Double.zero : Double := ⟨0, 0, by norm_num, .inl rfl⟩

theorem Double.value_zero : zero.value = 0 := by
  have none : zero.units = 0 := zero_mul _
  rw [value, none, Int.cast_zero, zero_div]

theorem Nearest.overflow_le (nearest : Nearest value double) (large : 2 ^ 1024 ≤ value) :
    (Binary64.overflow : ℤ) ≤ double.units := by
  have limit : Double.beyond.value ≤ value := by
    rw [Double.value, Double.units_beyond, overflow_eq, Int.cast_natCast, Nat.cast_mul,
      mul_div_cancel_right₀ _ unitsPerOne_pos.ne', Nat.cast_pow, Nat.cast_ofNat]
    exact large
  rw [← Double.units_beyond, ← Double.value_le_iff]
  exact (nearest_value _).le nearest limit

theorem Nearest.units_eq_zero (nearest : Nearest value double) (positive : 0 ≤ value)
    (small : value * Binary64.unitsPerOne < 1 / 2) : double.units = 0 := by
  have magnitude := mul_nonneg positive unitsPerOne_pos.le
  have grid : Grid (value * Binary64.unitsPerOne) 0 := by
    refine ⟨lt_of_lt_of_le small ?_, .inl rfl⟩
    norm_num
  have rounds : RoundsTo (value * Binary64.unitsPerOne / 2 ^ 0) 0 := by
    apply RoundsTo.of_lt_half
    rw [pow_zero, div_one, Nat.cast_zero, sub_zero, abs_of_nonneg magnitude]
    exact small
  rw [nearest.units_eq grid rounds, Nat.cast_zero, zero_mul]

theorem Nearest.nonneg (nearest : Nearest value double) (positive : 0 ≤ value) :
    0 ≤ double.value :=
  Double.value_zero ▸ (nearest_value .zero).le nearest (Double.value_zero ▸ positive)

theorem decimalLength_bounds (some : significand ≠ 0) :
    0 < Binary64.decimalLength significand ∧
      10 ^ (Binary64.decimalLength significand - 1) ≤ significand ∧
      significand < 10 ^ Binary64.decimalLength significand := by
  rw [Binary64.decimalLength, if_neg some]
  have positive : 0 < (Nat.toDigits 10 significand).length := Nat.length_toDigits_pos
  refine ⟨positive, ?_, (Nat.length_toDigits_le_iff (by decide) positive).mp (Nat.le_refl _)⟩
  rcases Nat.lt_or_ge 1 (Nat.toDigits 10 significand).length with more | one
  · apply Nat.le_of_not_lt
    intro less
    have shorter := (Nat.length_toDigits_le_iff (by decide) (by omega)).mpr less
    omega
  · rw [Nat.sub_eq_zero_of_le one, pow_zero]
    exact Nat.one_le_iff_ne_zero.mpr some

theorem le_of_decimalLength (some : significand ≠ 0) {places : ℕ}
    (long : places < Binary64.decimalLength significand + exponent) :
    (10 : ℚ) ^ places ≤ significand * 10 ^ exponent := by
  obtain ⟨positive, least, _⟩ := decimalLength_bounds some
  generalize Binary64.decimalLength significand = digits at *
  calc (10 : ℚ) ^ places
      = 10 ^ (places : ℤ) := (zpow_natCast _ _).symm
    _ ≤ 10 ^ (((digits - 1 : ℕ) : ℤ) + exponent) :=
      zpow_le_zpow_right₀ (by norm_num) (by omega)
    _ = 10 ^ (digits - 1) * 10 ^ exponent := by
      rw [zpow_add₀ (by norm_num), zpow_natCast]
    _ ≤ significand * 10 ^ exponent := by
      apply mul_le_mul_of_nonneg_right _ (by positivity)
      exact_mod_cast least

theorem lt_of_decimalLength (some : significand ≠ 0) {places : ℕ}
    (short : Binary64.decimalLength significand + exponent ≤ -places) :
    significand * 10 ^ exponent * (10 : ℚ) ^ places < 1 := by
  obtain ⟨_, _, most⟩ := decimalLength_bounds some
  generalize Binary64.decimalLength significand = digits at *
  calc (significand : ℚ) * 10 ^ exponent * 10 ^ places
      < 10 ^ digits * 10 ^ exponent * 10 ^ places := by
        apply mul_lt_mul_of_pos_right _ (by positivity)
        apply mul_lt_mul_of_pos_right _ (by positivity)
        exact_mod_cast most
    _ = 10 ^ (digits + exponent + places : ℤ) := by
      rw [zpow_add₀ (by norm_num), zpow_add₀ (by norm_num), zpow_natCast, zpow_natCast]
    _ ≤ 1 := zpow_le_one_of_nonpos₀ (by norm_num) (by omega)

end Bounds

section Literals

variable {significand : ℕ} {exponent : ℤ} {double : Double} {negative : Bool}

theorem quotient_eq (significand : ℕ) (exponent : ℤ) :
    ((significand * Nat.pow 10 exponent.toNat : ℕ) : ℚ) / (Nat.pow 10 (-exponent).toNat : ℕ) =
      significand * 10 ^ exponent := by
  rw [Nat.pow_eq, Nat.pow_eq]
  push_cast
  rcases le_total 0 exponent with up | down
  · obtain ⟨places, rfl⟩ := Int.eq_ofNat_of_zero_le up
    rw [Int.toNat_natCast, Int.toNat_of_nonpos (by omega), pow_zero, div_one, zpow_natCast]
  · obtain ⟨places, same⟩ := Int.eq_ofNat_of_zero_le (Int.neg_nonneg_of_nonpos down)
    rw [Int.toNat_of_nonpos down, same, Int.toNat_natCast, pow_zero, mul_one,
      ← Int.neg_neg exponent, same, zpow_neg, zpow_natCast, div_eq_mul_inv]

/-- A literal is read as the double nearest to its magnitude, with its sign. -/
theorem ofLiteral_eq (nearest : Nearest (significand * 10 ^ exponent) double) :
    Binary64.ofLiteral (.finite negative significand exponent) =
      if double.units.toNat < Binary64.overflow then .finite negative double.units.toNat
      else .infinite negative := by
  have positive : (0 : ℚ) ≤ significand * 10 ^ exponent := by positivity
  rw [Binary64.ofLiteral]
  by_cases none : significand = 0
  · have nothing : double.units = 0 := by
      apply nearest.units_eq_zero positive
      rw [none, Nat.cast_zero, zero_mul, zero_mul]
      exact one_half_pos
    rw [if_pos none, nothing, Int.toNat_zero, if_pos overflow_pos]
  rw [if_neg none]
  by_cases large : 310 < Binary64.decimalLength significand + exponent
  · have beyond : 2 ^ 1024 ≤ (significand : ℚ) * 10 ^ exponent := by
      have limit : (2 : ℕ) ^ 1024 ≤ 10 ^ 310 := by decide +kernel
      exact le_trans (by exact_mod_cast limit) (le_of_decimalLength none large)
    have overflows := nearest.overflow_le beyond
    rw [if_pos large, if_neg (by omega)]
  rw [if_neg large]
  by_cases small : Binary64.decimalLength significand + exponent < -330
  · have nothing : double.units = 0 := by
      apply nearest.units_eq_zero positive
      have tiny : (significand : ℚ) * 10 ^ exponent * 10 ^ 331 < 1 :=
        lt_of_decimalLength none (by omega)
      have limit : Binary64.unitsPerOne * 2 ≤ 10 ^ 331 := by decide +kernel
      have less : (Binary64.unitsPerOne : ℚ) * 2 ≤ 10 ^ 331 := by exact_mod_cast limit
      generalize (10 : ℚ) ^ 331 = bound at tiny less
      linarith [mul_le_mul_of_nonneg_left less positive]
    rw [if_pos small, nothing, Int.toNat_zero, if_pos overflow_pos]
  · rw [if_neg small, Binary64.nearest]
    have some : 0 < Nat.pow 10 (-exponent).toNat := Nat.pow_pos (by decide)
    rw [← quotient_eq] at nearest
    rw [Binary64.units_nearest some nearest, Int.toNat_natCast]

end Literals

theorem Double.units_le_of_lt {double : Double} {place : ℕ}
    (less : double.units < 2 ^ 53 * 2 ^ place) : double.units ≤ (2 ^ 53 - 1) * 2 ^ place := by
  rcases Nat.lt_or_ge double.shift place with fine | coarse
  · have most : double.significand ≤ 2 ^ 53 - 1 := Int.le_sub_one_of_lt (abs_lt.mp double.fits).2
    calc double.units
        ≤ (2 ^ 53 - 1) * 2 ^ double.shift := mul_le_mul_of_nonneg_right most (by positivity)
      _ ≤ (2 ^ 53 - 1) * 2 ^ place :=
        mul_le_mul_of_nonneg_left (pow_le_pow_right₀ one_le_two fine.le) (by norm_num)
  · have same : double.units = double.significand * 2 ^ (double.shift - place) * 2 ^ place := by
      rw [units, mul_assoc, ← pow_add, Nat.sub_add_cancel coarse]
    rw [same] at less ⊢
    have whole := lt_of_mul_lt_mul_right less (by positivity)
    exact mul_le_mul_of_nonneg_right (Int.le_sub_one_of_lt whole) (by positivity)

theorem Double.value_le_of_lt {double : Double} (less : double.value < 2 ^ 64) :
    double.value ≤ 2 ^ 64 - 2 ^ 11 := by
  have unit : (Binary64.unitsPerOne : ℤ) * 2 ^ 11 = 2 ^ 1085 := by
    rw [unitsPerOne_eq, Nat.cast_pow, Nat.cast_ofNat, ← pow_add]
  have below : double.units < 2 ^ 53 * 2 ^ 1085 := by
    rw [value, div_lt_iff₀ unitsPerOne_pos] at less
    have whole : double.units < 2 ^ 64 * (Binary64.unitsPerOne : ℤ) := by exact_mod_cast less
    rw [← unit]
    linarith
  have most := units_le_of_lt below
  rw [← unit] at most
  have most' : (double.units : ℚ) ≤ (2 ^ 53 - 1) * (Binary64.unitsPerOne * 2 ^ 11) := by
    exact_mod_cast most
  rw [value, div_le_iff₀ unitsPerOne_pos]
  linarith

theorem Double.units_lt_overflow {double : Double} (less : double.value < 2 ^ 64) :
    double.units < Binary64.overflow := by
  rw [value, div_lt_iff₀ unitsPerOne_pos] at less
  have whole : double.units < (2 ^ 64 * Binary64.unitsPerOne : ℕ) := by exact_mod_cast less
  have more : 2 ^ 64 * Binary64.unitsPerOne ≤ Binary64.overflow := by
    have larger : 64 ≤ 1024 := by decide
    rw [overflow_eq]
    generalize 1024 = places at larger ⊢
    exact Nat.mul_le_mul_right _ (Nat.pow_le_pow_right (by decide) larger)
  omega

/-- The value of a literal in digits. -/
def decimalValue (negative : Bool) (significand : ℕ) (exponent : ℤ) : ℚ :=
  (if negative then -1 else 1) * (significand * 10 ^ exponent)

theorem Nearest.exists_magnitude {negative : Bool} {significand : ℕ} {exponent : ℤ}
    {double : Double} (nearest : Nearest (decimalValue negative significand exponent) double) :
    ∃ (magnitude : Double) (units : ℕ), Nearest (significand * 10 ^ exponent) magnitude ∧
      magnitude.units = units ∧ double.units = if negative then -(units : ℤ) else units := by
  obtain ⟨magnitude, nearest', signed⟩ : ∃ magnitude : Double,
      Nearest (significand * 10 ^ exponent) magnitude ∧
        double.units = if negative then -magnitude.units else magnitude.units := by
    cases negative with
    | false => exact ⟨double, by simpa [decimalValue] using nearest, rfl⟩
    | true =>
      refine ⟨double.neg, ?_, by simp⟩
      have mirrored := nearest.neg
      simpa [decimalValue] using mirrored
  have positive : 0 ≤ magnitude.units :=
    Double.value_nonneg_iff.mp (nearest'.nonneg (by positivity))
  obtain ⟨units, same⟩ := Int.eq_ofNat_of_zero_le positive
  exact ⟨magnitude, units, nearest', same, same ▸ signed⟩

end ReplicatedSpace.Decimal

namespace ReplicatedSpace.Span

open Decimal

variable {double : Double} {span : Span} {negative : Bool} {units : ℕ}

theorem perSecond_pos : (0 : ℚ) < perSecond := by norm_num [perSecond]

theorem ofNanos?_eq_some_iff {nanos : ℕ} : ofNanos? nanos = some span ↔ span.nanos = nanos := by
  unfold ofNanos?
  constructor
  · intro found
    split at found <;> cases found
    rfl
  · rintro rfl
    rw [dif_pos span.inRange]

/-- Nanoseconds that are rounded from a double are those of a span if the double is below 2^64; the
doubles below it leave room for what is carried. -/
theorem le_limit_iff {nanos : ℕ} (rounds : RoundsTo (double.value * perSecond) nanos) :
    nanos ≤ limit ↔ double.value < 2 ^ 64 := by
  constructor
  · intro fits
    by_contra large
    have least : ((2 ^ 64 * perSecond : ℕ) : ℚ) ≤ double.value * perSecond := by
      push_cast
      exact mul_le_mul_of_nonneg_right (le_of_not_gt large) perSecond_pos.le
    have beyond : limit < 2 ^ 64 * perSecond := by decide
    exact Nat.not_lt_of_le (Nat.le_trans (rounds.ge_of_natCast_le least) fits) beyond
  · intro less
    have most : double.value * perSecond ≤ ((2 ^ 64 - 2 ^ 11) * perSecond : ℕ) := by
      have below : (2 : ℚ) ^ 64 - 2 ^ 11 = (2 ^ 64 - 2 ^ 11 : ℕ) := by norm_num
      rw [Nat.cast_mul, ← below]
      exact mul_le_mul_of_nonneg_right (Double.value_le_of_lt less) perSecond_pos.le
    have inside : (2 ^ 64 - 2 ^ 11) * perSecond ≤ limit := by decide
    exact Nat.le_trans (rounds.le_of_le_natCast most) inside

theorem ofUnits_iff (same : double.units = units) :
    ofNanos? (roundHalfEven (units * perSecond) Binary64.unitsPerOne) = some span ↔
      double.value < 2 ^ 64 ∧ RoundsTo (double.value * perSecond) span.nanos := by
  have some : 0 < Binary64.unitsPerOne := by exact_mod_cast unitsPerOne_pos
  have rounds := roundsTo_roundHalfEven (units * perSecond) some
  have exact : ((units * perSecond : ℕ) : ℚ) / Binary64.unitsPerOne =
      double.value * perSecond := by
    rw [Double.value, same, Int.cast_natCast, Nat.cast_mul, mul_div_right_comm]
  rw [exact] at rounds
  rw [ofNanos?_eq_some_iff]
  constructor
  · intro own
    rw [← own] at rounds
    exact ⟨(le_limit_iff rounds).mp span.inRange, rounds⟩
  · rintro ⟨_, own⟩
    exact own.unique rounds

theorem ofDouble?_finite_iff (same : double.units = if negative then -(units : ℤ) else units) :
    ofDouble? (.finite negative units) = some span ↔
      0 ≤ double.value ∧ double.value < 2 ^ 64 ∧
        RoundsTo (double.value * perSecond) span.nanos := by
  rw [ofDouble?, Double.value_nonneg_iff]
  cases negative with
  | false =>
    have positive : 0 ≤ double.units := by
      rw [same]
      exact Int.natCast_nonneg units
    simp only [Bool.false_and, Bool.false_eq_true, if_false, positive, true_and]
    exact ofUnits_iff same
  | true =>
    simp only [Bool.true_and, bne_iff_ne, ne_eq]
    rw [if_pos rfl] at same
    by_cases none : units = 0
    · have positive : 0 ≤ double.units := by omega
      rw [if_neg (not_not_intro none)]
      simp only [positive, true_and]
      exact ofUnits_iff (by omega)
    · rw [if_pos none]
      have below : ¬ 0 ≤ double.units := by omega
      simp [below]

theorem ofDouble?_ofLiteral_iff {significand : ℕ} {exponent : ℤ}
    (nearest : Nearest (decimalValue negative significand exponent) double) :
    ofDouble? (.ofLiteral (.finite negative significand exponent)) = some span ↔
      0 ≤ double.value ∧ double.value < 2 ^ 64 ∧
        RoundsTo (double.value * perSecond) span.nanos := by
  -- The magnitude is read, and takes the sign of the literal.
  obtain ⟨magnitude, units, nearest', same, signed⟩ := nearest.exists_magnitude
  rw [ofLiteral_eq nearest', same, Int.toNat_natCast]
  by_cases inside : units < Binary64.overflow
  · rw [if_pos inside]
    exact ofDouble?_finite_iff signed
  · rw [if_neg inside]
    constructor
    · nofun
    · rintro ⟨least, less, _⟩
      have below := Double.units_lt_overflow less
      have positive := Double.value_nonneg_iff.mp least
      have some := overflow_pos
      rw [signed] at below positive
      cases negative with
      | false =>
        simp only [Bool.false_eq_true, if_false] at below
        omega
      | true =>
        simp only [if_true] at positive
        omega

end ReplicatedSpace.Span
