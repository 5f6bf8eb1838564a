import Mathlib.Algebra.Order.Ring.Abs
import Mathlib.Data.Int.Order.Basic
import Mathlib.Data.Nat.Cast.Order.Field
import Mathlib.Tactic.NormNum
import Mathlib.Tactic.Positivity
import ReplicatedSpace.Decimal.Binary64
import ReplicatedSpace.Proofs.Rounding

/-!
Doubles and what they are nearest to, by exact values. A double keeps 53 binary digits, the last of
which is worth 2^-1074 or more. The doubles around a value are neighbouring multiples of one power
of two, so there is a nearest one, with an even significand if there are two, and a greater value
has no lesser nearest double.
-/
namespace ReplicatedSpace.Decimal

/-- A double: a significand of 53 binary digits, all of which are in use unless the last one is a
unit of 2^-1074. There is no greatest one; those from 2^1024 on stand for the infinities. -/
structure Double where
  significand : ℤ
  shift : ℕ
  fits : |significand| < 2 ^ 53
  normal : shift = 0 ∨ 2 ^ 52 ≤ |significand|

theorem unitsPerOne_eq : Binary64.unitsPerOne = 2 ^ 1074 := by
  unfold Binary64.unitsPerOne
  generalize 1074 = places
  exact Nat.pow_eq

theorem unitsPerOne_pos : (0 : ℚ) < Binary64.unitsPerOne := by
  rw [unitsPerOne_eq]
  generalize 1074 = places
  exact_mod_cast Nat.two_pow_pos places

namespace Double

variable {double other : Double}

/-- The units of 2^-1074 in a double. -/
def units (double : Double) : ℤ := double.significand * 2 ^ double.shift

def value (double : Double) : ℚ := double.units / Binary64.unitsPerOne

def neg (double : Double) : Double where
  significand := -double.significand
  shift := double.shift
  fits := (abs_neg double.significand).symm ▸ double.fits
  normal := (abs_neg double.significand).symm ▸ double.normal

@[simp] theorem units_neg (double : Double) : double.neg.units = -double.units := neg_mul ..

@[simp] theorem value_neg (double : Double) : double.neg.value = -double.value := by
  rw [value, units_neg, Int.cast_neg, neg_div, value]

theorem neg_neg (double : Double) : double.neg.neg = double := by
  simp only [neg, Int.neg_neg]

theorem value_mul (double : Double) : double.value * Binary64.unitsPerOne = double.units :=
  div_mul_cancel₀ _ unitsPerOne_pos.ne'

theorem value_le_iff : double.value ≤ other.value ↔ double.units ≤ other.units := by
  rw [value, value, div_le_div_iff_of_pos_right unitsPerOne_pos, Int.cast_le]

theorem value_inj : double.value = other.value ↔ double.units = other.units := by
  rw [value, value, div_left_inj' unitsPerOne_pos.ne', Int.cast_inj]

theorem value_nonneg_iff : 0 ≤ double.value ↔ 0 ≤ double.units := by
  rw [value, le_div_iff₀ unitsPerOne_pos, zero_mul, Int.cast_nonneg_iff]

theorem cast_units {integer shift : ℕ} (multiple : double.units = integer * 2 ^ shift) :
    (double.units : ℚ) = integer * 2 ^ shift := by
  rw [multiple]
  push_cast
  rfl

theorem abs_sub_value (double : Double) (value : ℚ) :
    |value - double.value| * Binary64.unitsPerOne =
      |value * Binary64.unitsPerOne - double.units| := by
  rw [← double.value_mul, ← sub_mul, abs_mul, abs_of_pos unitsPerOne_pos]

end Double

/-- No double is nearer to the value, and the significand is even if another one is as near. -/
structure Nearest (value : ℚ) (double : Double) : Prop where
  least : ∀ other : Double, |value - double.value| ≤ |value - other.value|
  even : ∀ other : Double, other.value ≠ double.value →
    |value - other.value| = |value - double.value| → Even double.significand

namespace Nearest

variable {value value' : ℚ} {double double' : Double}

theorem neg (nearest : Nearest value double) : Nearest (-value) double.neg := by
  have mirror (other : Double) : |-value - other.value| = |value - other.neg.value| := by
    rw [Double.value_neg, ← abs_neg]
    congr 1
    ring
  constructor
  · intro other
    rw [mirror, mirror, Double.neg_neg]
    exact nearest.least other.neg
  · intro other different same
    rw [mirror, mirror, Double.neg_neg] at same
    have different' : other.neg.value ≠ double.value := by
      intro equal
      rw [Double.value_neg] at equal different
      exact different (neg_eq_iff_eq_neg.mp equal)
    exact (nearest.even other.neg different' same).neg

end Nearest

/-- How far multiples of `2 ^ shift` have to be shifted around a magnitude of so many units. -/
structure Grid (magnitude : ℚ) (shift : ℕ) : Prop where
  below : magnitude < 2 ^ (shift + 53)
  above : shift = 0 ∨ 2 ^ (shift + 52) ≤ magnitude

namespace Grid

variable {magnitude : ℚ} {shift integer : ℕ}

theorem scaled_lt (grid : Grid magnitude shift) : magnitude / 2 ^ shift < 2 ^ 53 := by
  rw [div_lt_iff₀ (by positivity), ← pow_add, Nat.add_comm 53]
  exact grid.below

theorem of_quotient (numerator : ℕ) {denominator : ℕ} (positive : 0 < denominator) :
    Grid (numerator / denominator) ((numerator / denominator).log2 - 52) := by
  have divisor : (0 : ℚ) < denominator := by exact_mod_cast positive
  have whole : ((numerator / denominator : ℕ) : ℚ) ≤ numerator / denominator := Nat.cast_div_le
  have next : (numerator : ℚ) / denominator < (numerator / denominator + 1 : ℕ) := by
    rw [div_lt_iff₀ divisor, mul_comm]
    exact_mod_cast Nat.lt_mul_div_succ numerator positive
  generalize numerator / denominator = quotient at *
  constructor
  · have most : quotient + 1 ≤ 2 ^ (quotient.log2 - 52 + 53) := by
      have digits : quotient < 2 ^ (quotient.log2 + 1) := Nat.lt_log2_self
      have more : quotient.log2 + 1 ≤ quotient.log2 - 52 + 53 := by omega
      exact Nat.lt_of_lt_of_le digits (Nat.pow_le_pow_right (by decide) more)
    refine lt_of_lt_of_le next ?_
    exact_mod_cast most
  · by_cases few : quotient.log2 ≤ 52
    · exact .inl (Nat.sub_eq_zero_of_le few)
    · right
      have some : quotient ≠ 0 := by
        rintro rfl
        exact few (Nat.zero_le _)
      have digits : 2 ^ (quotient.log2 - 52 + 52) ≤ quotient := by
        rw [Nat.sub_add_cancel (by omega)]
        exact Nat.log2_self_le some
      refine le_trans ?_ whole
      exact_mod_cast digits

theorem exists_grid (positive : 0 ≤ magnitude) : ∃ shift, Grid magnitude shift := by
  obtain ⟨numerator, denominator, some, same⟩ := exists_quotient positive
  exact ⟨_, same ▸ of_quotient numerator some⟩

theorem shift_le (grid : Grid magnitude shift) {most : ℕ} (small : magnitude < 2 ^ (most + 53)) :
    shift ≤ most := by
  rcases grid.above with fine | above
  · exact fine ▸ Nat.zero_le _
  · have less := (pow_lt_pow_iff_right₀ (one_lt_two : (1 : ℚ) < 2)).mp (lt_of_le_of_lt above small)
    omega

theorem exists_double (grid : Grid magnitude shift)
    (rounds : RoundsTo (magnitude / 2 ^ shift) integer) :
    ∃ double : Double, double.units = integer * 2 ^ shift ∧
      (Even integer → Even double.significand) := by
  have most : integer ≤ 2 ^ 53 := by
    apply rounds.le_of_le_natCast
    exact_mod_cast grid.scaled_lt.le
  have normal : shift = 0 ∨ 2 ^ 52 ≤ integer := by
    refine grid.above.imp_right fun above => ?_
    apply rounds.ge_of_natCast_le
    rw [le_div_iff₀ (by positivity), Nat.cast_pow, Nat.cast_ofNat, ← pow_add, Nat.add_comm]
    exact above
  rcases Nat.lt_or_eq_of_le most with fits | full
  · refine ⟨⟨integer, shift, ?_, normal.imp_right fun many => ?_⟩, rfl, fun even => ?_⟩
    · rw [Nat.abs_cast]
      exact_mod_cast fits
    · rw [Nat.abs_cast]
      exact_mod_cast many
    · exact (Int.even_coe_nat integer).mpr even
  · -- The integer has one digit too many, and a zero at its end.
    refine ⟨⟨2 ^ 52, shift + 1, by norm_num, .inr (by norm_num)⟩, ?_, fun _ => ⟨2 ^ 51, rfl⟩⟩
    rw [Double.units, full, Nat.cast_pow, pow_succ 2 shift]
    ring

theorem abs_sub_multiple (magnitude : ℚ) (shift : ℕ) (integer : ℚ) :
    |magnitude - integer * 2 ^ shift| = |magnitude / 2 ^ shift - integer| * 2 ^ shift := by
  have step : (0 : ℚ) < 2 ^ shift := by positivity
  rw [← abs_of_pos step, ← abs_mul, abs_of_pos step, sub_mul, div_mul_cancel₀ _ step.ne']

theorem rounded_le (rounds : RoundsTo (magnitude / 2 ^ shift) integer) (far : ℤ) :
    |magnitude - integer * 2 ^ shift| ≤ |magnitude - far * 2 ^ shift| := by
  rw [abs_sub_multiple, abs_sub_multiple]
  exact mul_le_mul_of_nonneg_right (rounds.near_le far) (by positivity)

theorem even_of_rounded (rounds : RoundsTo (magnitude / 2 ^ shift) integer) {far : ℤ}
    (different : far ≠ integer)
    (same : |magnitude - far * 2 ^ shift| = |magnitude - integer * 2 ^ shift|) :
    Even integer ∧ (far = integer + 1 ∨ far = integer - 1) := by
  rw [abs_sub_multiple, abs_sub_multiple] at same
  exact rounds.even_of_near different (mul_right_cancel₀ (by positivity) same)

theorem multiple_or_farther (grid : Grid magnitude shift)
    (rounds : RoundsTo (magnitude / 2 ^ shift) integer) (other : Double) :
    (∃ far : ℤ, other.units = far * 2 ^ shift ∧ (Even other.significand → Even far)) ∨
      |magnitude - integer * 2 ^ shift| < |magnitude - other.units| := by
  by_cases coarse : shift ≤ other.shift
  · refine .inl ⟨other.significand * 2 ^ (other.shift - shift), ?_, fun even => even.mul_right _⟩
    rw [Double.units, mul_assoc, ← pow_add, Nat.sub_add_cancel coarse]
  · right
    have least : (2 : ℚ) ^ (shift + 52) ≤ magnitude :=
      grid.above.resolve_left (Nat.ne_of_gt (Nat.lt_of_le_of_lt (Nat.zero_le _)
        (Nat.lt_of_not_le coarse)))
    -- A finer double lies below the least multiple that the grid is for.
    have finer : (other.units : ℚ) < 2 ^ (shift + 52) := by
      have small : other.units < 2 ^ 53 * 2 ^ other.shift :=
        mul_lt_mul_of_pos_right (abs_lt.mp other.fits).2 (by positivity)
      have more : (2 : ℤ) ^ 53 * 2 ^ other.shift ≤ 2 ^ (shift + 52) := by
        rw [← pow_add]
        exact pow_le_pow_right₀ one_le_two (by omega)
      exact_mod_cast lt_of_lt_of_le small more
    calc |magnitude - integer * 2 ^ shift|
        ≤ |magnitude - ((2 ^ 52 : ℤ) : ℚ) * 2 ^ shift| := rounded_le rounds _
      _ = magnitude - 2 ^ (shift + 52) := by
        rw [Int.cast_pow, Int.cast_ofNat, ← pow_add, Nat.add_comm, abs_of_nonneg (by linarith)]
      _ < magnitude - other.units := by linarith
      _ ≤ |magnitude - other.units| := le_abs_self _

end Grid

section Existence

variable {value value' : ℚ} {double double' : Double} {shift integer : ℕ}

theorem Grid.nearest (grid : Grid (value * Binary64.unitsPerOne) shift)
    (rounds : RoundsTo (value * Binary64.unitsPerOne / 2 ^ shift) integer)
    (units : (double.units : ℚ) = integer * 2 ^ shift)
    (even : Even integer → Even double.significand) : Nearest value double := by
  constructor
  · intro other
    rw [← mul_le_mul_iff_of_pos_right unitsPerOne_pos, Double.abs_sub_value,
      Double.abs_sub_value, units]
    rcases grid.multiple_or_farther rounds other with ⟨far, multiple, _⟩ | farther
    · rw [multiple]
      exact_mod_cast Grid.rounded_le rounds far
    · exact farther.le
  · intro other different same
    rw [← mul_left_inj' unitsPerOne_pos.ne', Double.abs_sub_value, Double.abs_sub_value,
      units] at same
    rcases grid.multiple_or_farther rounds other with ⟨far, multiple, _⟩ | farther
    · have elsewhere : far ≠ integer := by
        rintro rfl
        apply different
        rw [Double.value_inj, ← @Int.cast_inj ℚ, units, multiple]
        push_cast
        rfl
      rw [multiple, Int.cast_mul, Int.cast_pow, Int.cast_ofNat] at same
      exact even (Grid.even_of_rounded rounds elsewhere same).1
    · exact absurd same farther.ne'

/-- What is nearest is rounded on the grid. -/
theorem Nearest.units_eq (nearest : Nearest value double)
    (grid : Grid (value * Binary64.unitsPerOne) shift)
    (rounds : RoundsTo (value * Binary64.unitsPerOne / 2 ^ shift) integer) :
    double.units = integer * 2 ^ shift := by
  obtain ⟨rounded, units, even⟩ := grid.exists_double rounds
  have own := Double.cast_units units
  have other : Nearest value rounded := grid.nearest rounds own even
  have same : |value - rounded.value| = |value - double.value| :=
    le_antisymm (other.least double) (nearest.least rounded)
  by_contra different
  -- Both significands would have to be even, but they are those of neighbours.
  have apart : rounded.value ≠ double.value := by
    intro equal
    rw [Double.value_inj, units] at equal
    exact different equal.symm
  have double_even := nearest.even rounded apart same
  rw [← mul_left_inj' unitsPerOne_pos.ne', Double.abs_sub_value, Double.abs_sub_value,
    own] at same
  rcases grid.multiple_or_farther rounds double with ⟨far, multiple, keeps⟩ | farther
  · have elsewhere : far ≠ integer := by
      rintro rfl
      exact different multiple
    rw [multiple, Int.cast_mul, Int.cast_pow, Int.cast_ofNat] at same
    obtain ⟨rounded_even, neighbours⟩ := Grid.even_of_rounded rounds elsewhere same.symm
    have far_even := Int.even_iff.mp (keeps double_even)
    have integer_even := Nat.even_iff.mp rounded_even
    omega
  · exact absurd same farther.ne

theorem exists_rounded (positive : 0 ≤ value) :
    ∃ shift integer, Grid (value * Binary64.unitsPerOne) shift ∧
      RoundsTo (value * Binary64.unitsPerOne / 2 ^ shift) integer := by
  have magnitude := mul_nonneg positive unitsPerOne_pos.le
  obtain ⟨shift, grid⟩ := Grid.exists_grid magnitude
  have step : (0 : ℚ) ≤ 2 ^ shift := by positivity
  obtain ⟨integer, rounds⟩ := exists_roundsTo (div_nonneg magnitude step)
  exact ⟨shift, integer, grid, rounds⟩

theorem exists_nearest (value : ℚ) : ∃ double, Nearest value double := by
  have magnitude {value : ℚ} (positive : 0 ≤ value) : ∃ double, Nearest value double := by
    obtain ⟨shift, integer, grid, rounds⟩ := exists_rounded positive
    obtain ⟨double, units, even⟩ := grid.exists_double rounds
    exact ⟨double, grid.nearest rounds (Double.cast_units units) even⟩
  rcases le_total 0 value with positive | negative
  · exact magnitude positive
  · obtain ⟨double, nearest⟩ := magnitude (neg_nonneg.mpr negative)
    exact ⟨double.neg, neg_neg value ▸ nearest.neg⟩

theorem Nearest.value_eq (nearest : Nearest value double) (nearest' : Nearest value double') :
    double.value = double'.value := by
  have magnitude {value : ℚ} {double double' : Double} (positive : 0 ≤ value)
      (nearest : Nearest value double) (nearest' : Nearest value double') :
      double.value = double'.value := by
    obtain ⟨shift, integer, grid, rounds⟩ := exists_rounded positive
    rw [Double.value_inj, nearest.units_eq grid rounds, nearest'.units_eq grid rounds]
  rcases le_total 0 value with positive | negative
  · exact magnitude positive nearest nearest'
  · have mirrored := magnitude (neg_nonneg.mpr negative) nearest.neg nearest'.neg
    rw [Double.value_neg, Double.value_neg] at mirrored
    exact neg_injective mirrored

private theorem middle {low high : ℚ} (apart : low < high) (value : ℚ) :
    (|value - high| ≤ |value - low| → low + high ≤ 2 * value) ∧
      (|value - low| ≤ |value - high| → 2 * value ≤ low + high) := by
  rcases abs_cases (value - low) with ⟨below, _⟩ | ⟨below, _⟩ <;>
    rcases abs_cases (value - high) with ⟨above, _⟩ | ⟨above, _⟩ <;>
    rw [below, above] <;> constructor <;> intro near <;> linarith

theorem Nearest.le (nearest : Nearest value double) (nearest' : Nearest value' double')
    (inOrder : value ≤ value') : double.value ≤ double'.value := by
  by_contra above
  have apart : double'.value < double.value := lt_of_not_ge above
  have upper := (middle apart value).1 (nearest.least double')
  have lower := (middle apart value').2 (nearest'.least double)
  have same : value = value' := by linarith
  subst same
  exact apart.ne (nearest'.value_eq nearest)

theorem nearest_value (double : Double) : Nearest double.value double := by
  constructor
  · intro other
    rw [sub_self, abs_zero]
    exact abs_nonneg _
  · intro other different same
    rw [sub_self, abs_zero, abs_eq_zero, sub_eq_zero] at same
    exact absurd same.symm different

theorem Nearest.near (nearest : Nearest value double) (positive : 0 ≤ value) {shift : ℕ}
    (small : value * Binary64.unitsPerOne < 2 ^ (shift + 53)) :
    |value - double.value| * Binary64.unitsPerOne ≤ 2 ^ shift / 2 := by
  obtain ⟨fine, integer, grid, rounds⟩ := exists_rounded positive
  have units := Double.cast_units (nearest.units_eq grid rounds)
  rw [Double.abs_sub_value, units, Grid.abs_sub_multiple]
  calc |value * Binary64.unitsPerOne / 2 ^ fine - integer| * 2 ^ fine
      ≤ 1 / 2 * 2 ^ fine := mul_le_mul_of_nonneg_right rounds.near (by positivity)
    _ ≤ 1 / 2 * 2 ^ shift :=
      mul_le_mul_of_nonneg_left (pow_le_pow_right₀ one_le_two (grid.shift_le small)) one_half_pos.le
    _ = 2 ^ shift / 2 := by ring

end Existence

end ReplicatedSpace.Decimal
