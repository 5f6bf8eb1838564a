import Mathlib.Algebra.Group.Nat.Even
import Mathlib.Algebra.Order.Field.Basic
import Mathlib.Data.Rat.Cast.Order
import Mathlib.Tactic.FieldSimp
import Mathlib.Tactic.Linarith
import Mathlib.Tactic.Ring
import ReplicatedSpace.Decimal.Binary64

/-!
Rounding by exact values. An integer that a value is rounded to is no farther away than a half, and
even if it is as far as that. There is one such integer for every value that is not negative, and a
greater value is not rounded to a lesser one.
-/
namespace ReplicatedSpace.Decimal

/-- An integer nearest to a value, the even one of two. -/
structure RoundsTo (value : ℚ) (integer : ℕ) : Prop where
  near : |value - integer| ≤ 1 / 2
  even : |value - integer| = 1 / 2 → Even integer

namespace RoundsTo

variable {value other : ℚ} {integer integer' : ℕ}

theorem le_add_half (rounds : RoundsTo value integer) : value ≤ integer + 1 / 2 := by
  linarith [(abs_le.mp rounds.near).2]

theorem sub_half_le (rounds : RoundsTo value integer) : (integer : ℚ) - 1 / 2 ≤ value := by
  linarith [(abs_le.mp rounds.near).1]

theorem of_lt_half (near : |value - integer| < 1 / 2) : RoundsTo value integer :=
  ⟨near.le, fun half => absurd half near.ne⟩

theorem natCast (integer : ℕ) : RoundsTo integer integer := by
  apply of_lt_half
  rw [sub_self, abs_zero]
  exact one_half_pos

theorem le (rounds : RoundsTo value integer) (rounds' : RoundsTo other integer')
    (inOrder : value ≤ other) : integer ≤ integer' := by
  by_contra less
  have next : integer' + 1 ≤ integer := Nat.lt_of_not_le less
  have gap : (integer' : ℚ) + 1 ≤ integer := by exact_mod_cast next
  -- Both values are the half between the two integers, which would have to be even.
  have below := rounds.sub_half_le
  have above := rounds'.le_add_half
  have same : (integer' : ℚ) + 1 = integer := by linarith
  have even : Even integer := by
    apply rounds.even
    rw [abs_of_nonpos (by linarith)]
    linarith
  have even' : Even integer' := by
    apply rounds'.even
    rw [abs_of_nonneg (by linarith)]
    linarith
  have neighbours : integer' + 1 = integer := by exact_mod_cast same
  rw [← neighbours] at even
  exact Nat.not_even_iff_odd.mpr even'.add_one even

theorem unique (rounds : RoundsTo value integer) (rounds' : RoundsTo value integer') :
    integer = integer' :=
  Nat.le_antisymm (rounds.le rounds' le_rfl) (rounds'.le rounds le_rfl)

theorem add_even (rounds : RoundsTo value integer) {more : ℕ} (even : Even more) :
    RoundsTo (value + more) (integer + more) := by
  have same : value + more - ((integer + more : ℕ) : ℚ) = value - integer := by
    push_cast
    ring
  exact ⟨same ▸ rounds.near, fun half => (rounds.even (same ▸ half)).add even⟩

theorem le_of_le_natCast (rounds : RoundsTo value integer) (below : value ≤ integer') :
    integer ≤ integer' :=
  rounds.le (natCast integer') below

theorem ge_of_natCast_le (rounds : RoundsTo value integer) (above : (integer' : ℚ) ≤ value) :
    integer' ≤ integer :=
  (natCast integer').le rounds above

private theorem one_le_around {far : ℤ} (value : ℚ) (different : far ≠ integer) :
    1 ≤ |(far : ℚ) - integer| ∧ |(far : ℚ) - integer| ≤ |value - far| + |value - integer| := by
  constructor
  · have whole : 1 ≤ |far - (integer : ℤ)| := Int.one_le_abs (sub_ne_zero.mpr different)
    exact_mod_cast whole
  · rw [abs_sub_comm value far]
    exact abs_sub_le _ value _

theorem near_le (rounds : RoundsTo value integer) (far : ℤ) :
    |value - integer| ≤ |value - far| := by
  by_cases same : far = integer
  · rw [same, Int.cast_natCast]
  · obtain ⟨apart, around⟩ := one_le_around value same
    linarith [rounds.near]

theorem even_of_near (rounds : RoundsTo value integer) {far : ℤ} (different : far ≠ integer)
    (same : |value - far| = |value - integer|) :
    Even integer ∧ (far = integer + 1 ∨ far = integer - 1) := by
  obtain ⟨apart, around⟩ := one_le_around value different
  have near := rounds.near
  refine ⟨rounds.even (by linarith), ?_⟩
  have one : |far - (integer : ℤ)| = 1 := by
    have exact : |(far : ℚ) - integer| = 1 := by linarith
    exact_mod_cast exact
  rcases (abs_eq zero_le_one).mp one with up | down
  · exact .inl (by linarith)
  · exact .inr (by linarith)

end RoundsTo

/-- A quotient is rounded by its rest. -/
theorem roundsTo_roundHalfEven (numerator : ℕ) {denominator : ℕ} (positive : 0 < denominator) :
    RoundsTo (numerator / denominator) (roundHalfEven numerator denominator) := by
  have divisor : (0 : ℚ) < denominator := by exact_mod_cast positive
  -- The quotient is its whole part and the share that the rest has of the denominator.
  have split : (numerator : ℚ) / denominator =
      (numerator / denominator : ℕ) + (numerator % denominator : ℕ) / denominator := by
    have exact : (denominator : ℚ) * (numerator / denominator : ℕ) +
        (numerator % denominator : ℕ) = numerator := by
      exact_mod_cast Nat.div_add_mod numerator denominator
    rw [← exact]
    field_simp
  have less : numerator % denominator < denominator := Nat.mod_lt _ positive
  rw [split, roundHalfEven]
  generalize numerator / denominator = quotient
  generalize numerator % denominator = rest at less ⊢
  have share : (0 : ℚ) ≤ rest / denominator := by positivity
  split_ifs with lower upper
  · have small : (rest : ℚ) / denominator < 1 / 2 := by
      rw [div_lt_iff₀ divisor]
      have : (2 * rest : ℚ) < denominator := by exact_mod_cast lower
      linarith
    apply RoundsTo.of_lt_half
    rw [add_sub_cancel_left, abs_of_nonneg share]
    exact small
  · have large : 1 / 2 < (rest : ℚ) / denominator := by
      rw [lt_div_iff₀ divisor]
      have : (denominator : ℚ) < 2 * rest := by exact_mod_cast upper
      linarith
    have most : (rest : ℚ) / denominator < 1 := by
      rw [div_lt_one divisor]
      exact_mod_cast less
    apply RoundsTo.of_lt_half
    rw [Nat.cast_add, Nat.cast_one, abs_lt]
    constructor <;> linarith
  · have same : 2 * rest = denominator := by omega
    have half : (rest : ℚ) / denominator = 1 / 2 := by
      rw [div_eq_iff divisor.ne']
      have : (2 * rest : ℚ) = denominator := by exact_mod_cast same
      linarith
    rw [half]
    constructor
    · rcases Nat.mod_two_eq_zero_or_one quotient with even | odd
      · rw [even, Nat.add_zero, add_sub_cancel_left, abs_of_pos one_half_pos]
      · rw [odd, Nat.cast_add, Nat.cast_one, abs_le]
        constructor <;> linarith
    · intro _
      rw [Nat.even_iff]
      omega

theorem exists_quotient {value : ℚ} (positive : 0 ≤ value) :
    ∃ numerator denominator : ℕ, 0 < denominator ∧ (numerator : ℚ) / denominator = value := by
  have whole : ((value.num.toNat : ℤ) : ℚ) = value.num :=
    congrArg _ (Int.toNat_of_nonneg (Rat.num_nonneg.mpr positive))
  refine ⟨value.num.toNat, value.den, value.den_pos, ?_⟩
  rw [← Int.cast_natCast, whole, Rat.num_div_den]

theorem exists_roundsTo {value : ℚ} (positive : 0 ≤ value) : ∃ integer, RoundsTo value integer := by
  obtain ⟨numerator, denominator, some, same⟩ := exists_quotient positive
  exact ⟨_, same ▸ roundsTo_roundHalfEven numerator some⟩

end ReplicatedSpace.Decimal
