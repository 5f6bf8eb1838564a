import Mathlib.Data.Rat.Floor
import ReplicatedSpace.Proofs.Lines
import ReplicatedSpace.Proofs.Numerals

/-!
Delays as they are typed. A numeral is taken as its nearest double and that double as its nearest
nanoseconds, so a greater number never gives a shorter delay, and what is out of range for a span is
refused. Decimals of up to nine places are exact below 2^23 seconds, where doubles lie so close that
the second rounding makes good for the first.
-/
namespace ReplicatedSpace.Command

open Decimal

variable {numeral numeral' : Numeral} {text text' : String} {double double' : Double}
  {span span' : Span}

theorem readSpan_numeral_iff (reads : Text.trim text.toList = numeral.text)
    (nearest : Nearest numeral.value double) :
    readSpan text = .ok span ↔ 0 ≤ double.value ∧ double.value < 2 ^ 64 ∧
      RoundsTo (double.value * Span.perSecond) span.nanos := by
  rw [numeral.value_eq] at nearest
  rw [readSpan_eq_ok_iff, Span.ofSeconds?, reads, numeral.read?_text]
  exact Span.ofDouble?_ofLiteral_iff nearest

theorem exists_readSpan_iff (reads : Text.trim text.toList = numeral.text)
    (nearest : Nearest numeral.value double) :
    (∃ span, readSpan text = .ok span) ↔ 0 ≤ double.value ∧ double.value < 2 ^ 64 := by
  constructor
  · rintro ⟨span, found⟩
    obtain ⟨least, less, _⟩ := (readSpan_numeral_iff reads nearest).mp found
    exact ⟨least, less⟩
  · rintro ⟨least, less⟩
    obtain ⟨nanos, rounds⟩ := exists_roundsTo (mul_nonneg least Span.perSecond_pos.le)
    have inRange := (Span.le_limit_iff rounds).mpr less
    exact ⟨⟨nanos, inRange⟩, (readSpan_numeral_iff reads nearest).mpr ⟨least, less, rounds⟩⟩

theorem readSpan_of_not_ok (none : ¬ ∃ span, readSpan text = .ok span) :
    readSpan text = .error (.invalidArgument (.badSeconds text)) := by
  apply readSpan_of_none
  by_contra some
  obtain ⟨span, found⟩ := Option.ne_none_iff_exists'.mp some
  exact none ⟨span, readSpan_eq_ok_iff.mpr found⟩

theorem exists_numeral_of_readSpan (found : readSpan text = .ok span) :
    ∃ numeral : Numeral, Text.trim text.toList = numeral.text := by
  rw [readSpan_eq_ok_iff, Span.ofSeconds?] at found
  obtain ⟨literal, read, double⟩ := Option.bind_eq_some_iff.mp found
  cases literal with
  | finite negative significand exponent =>
    obtain ⟨numeral, same⟩ := exists_numeral read
    exact ⟨numeral, same.symm⟩
  | infinite | notANumber => cases double

theorem not_numeral_of_isNumberWord {letters : List Char}
    (word : isNumberWord (takeSign letters).2 = true) (numeral : Numeral) :
    letters ≠ numeral.text := by
  rintro rfl
  obtain ⟨first, rest, same, digit⟩ := numeral.exists_first
  have unsigned : Unsigned (numeral.digits ++ numeral.tail) := same ▸ .of_isDigit digit
  rw [Numeral.text, takeSign_text numeral.sign unsigned, same,
    Numeral.not_isNumberWord digit rest] at word
  cases word

theorem parts_of_nanos {whole part : ℕ} (same : span.nanos = part + whole * Span.perSecond)
    (less : part < Span.perSecond) : span.seconds = whole ∧ span.subsecond = part := by
  constructor
  · rw [Span.seconds, same, Nat.add_mul_div_right _ _ (by decide), Nat.div_eq_of_lt less,
      Nat.zero_add]
  · rw [Span.subsecond, same, Nat.add_mul_mod_self_right, Nat.mod_eq_of_lt less]

/-- A span in two parts: the whole seconds of a number, and what is left of it, rounded to
nanoseconds. If these make a second, it is carried, and there is room for it. -/
structure Carried (seconds : ℚ) (span : Span) (whole part : ℕ) : Prop where
  whole_le : (whole : ℚ) ≤ seconds
  lt_next : seconds < whole + 1
  rounds : RoundsTo ((seconds - whole) * Span.perSecond) part
  part_le : part ≤ Span.perSecond
  room : whole + 1 < UInt64.size
  seconds_eq : span.seconds = if part = Span.perSecond then whole + 1 else whole
  subsecond_eq : span.subsecond = if part = Span.perSecond then 0 else part

/-- Rounding the nanoseconds of a double on their own and all together makes no difference. -/
theorem exists_carried (least : 0 ≤ double.value) (less : double.value < 2 ^ 64)
    (rounds : RoundsTo (double.value * Span.perSecond) span.nanos) :
    ∃ whole part, Carried double.value span whole part := by
  obtain ⟨whole, whole_le, lt_next⟩ :
      ∃ whole : ℕ, (whole : ℚ) ≤ double.value ∧ double.value < whole + 1 :=
    ⟨_, Nat.floor_le least, Nat.lt_floor_add_one _⟩
  have share : 0 ≤ double.value - whole ∧ double.value - whole ≤ 1 :=
    ⟨by linarith, by linarith⟩
  obtain ⟨part, rest⟩ := exists_roundsTo (mul_nonneg share.1 Span.perSecond_pos.le)
  have part_le : part ≤ Span.perSecond :=
    rest.le_of_le_natCast (mul_le_of_le_one_left Span.perSecond_pos.le share.2)
  have nanos : span.nanos = part + whole * Span.perSecond := by
    have even : Even (whole * Span.perSecond) := Nat.even_mul.mpr (.inr (by decide))
    have all : (double.value - whole) * Span.perSecond + (whole * Span.perSecond : ℕ) =
        double.value * Span.perSecond := by
      push_cast
      ring
    exact rounds.unique (all ▸ rest.add_even even)
  have room : whole + 1 < UInt64.size := by
    have most : (whole : ℚ) ≤ ((2 ^ 64 - 2 ^ 11 : ℕ) : ℚ) := by
      have last := Double.value_le_of_lt less
      push_cast
      linarith
    have inside : whole ≤ 2 ^ 64 - 2 ^ 11 := by exact_mod_cast most
    exact Nat.lt_of_le_of_lt (Nat.succ_le_succ inside) (by decide)
  by_cases carried : part = Span.perSecond
  · have next : span.nanos = 0 + (whole + 1) * Span.perSecond := by
      rw [nanos, carried]
      ring
    obtain ⟨seconds, subsecond⟩ := parts_of_nanos next (by decide)
    exact ⟨whole, part, whole_le, lt_next, rest, part_le, room, by rw [if_pos carried, seconds],
      by rw [if_pos carried, subsecond]⟩
  · obtain ⟨seconds, subsecond⟩ := parts_of_nanos nanos (Nat.lt_of_le_of_ne part_le carried)
    exact ⟨whole, part, whole_le, lt_next, rest, part_le, room, by rw [if_neg carried, seconds],
      by rw [if_neg carried, subsecond]⟩

theorem readSpan_le (reads : Text.trim text.toList = numeral.text)
    (reads' : Text.trim text'.toList = numeral'.text) (inOrder : numeral.value ≤ numeral'.value)
    (found : readSpan text = .ok span) (found' : readSpan text' = .ok span') : span ≤ span' := by
  obtain ⟨double, nearest⟩ := exists_nearest numeral.value
  obtain ⟨double', nearest'⟩ := exists_nearest numeral'.value
  have rounds := ((readSpan_numeral_iff reads nearest).mp found).2.2
  have rounds' := ((readSpan_numeral_iff reads' nearest').mp found').2.2
  apply rounds.le rounds'
  exact mul_le_mul_of_nonneg_right (nearest.le nearest' inOrder) Span.perSecond_pos.le

/-- Delays as they are typed, at their limits and in order. A numeral has one nearest double, and a
delay if that is zero or between zero and 2^64; its nanoseconds are the nearest to the double, and
what they carry into the seconds has room. No other text has a delay, neither a word for an infinity
nor one for no number, and the refusal names the text. Greater numbers have no shorter delays. -/
theorem delays_in_order_within_limits :
    (∀ (numeral : Numeral) (text : String), Text.trim text.toList = numeral.text →
      ∃ double : Double, Nearest numeral.value double ∧
        (∀ other, Nearest numeral.value other → other.value = double.value) ∧
        ((∃ span, readSpan text = .ok span) ↔
          double.value = 0 ∨ 0 < double.value ∧ double.value < 2 ^ 64) ∧
        ∀ span, readSpan text = .ok span →
          RoundsTo (double.value * Span.perSecond) span.nanos ∧
            ∃ whole part, Carried double.value span whole part) ∧
    (∀ text : String, (¬ ∃ span, readSpan text = .ok span) →
      readSpan text = .error (.invalidArgument (.badSeconds text))) ∧
    (∀ text : String, (¬ ∃ numeral : Numeral, Text.trim text.toList = numeral.text) →
      readSpan text = .error (.invalidArgument (.badSeconds text))) ∧
    (∀ text : String, isNumberWord (takeSign (Text.trim text.toList)).2 = true →
      readSpan text = .error (.invalidArgument (.badSeconds text))) ∧
    ∀ (numeral numeral' : Numeral) (text text' : String) (span span' : Span),
      Text.trim text.toList = numeral.text → Text.trim text'.toList = numeral'.text →
      numeral.value ≤ numeral'.value → readSpan text = .ok span → readSpan text' = .ok span' →
      span ≤ span' := by
  have refused {text : String}
      (none : ¬ ∃ numeral : Numeral, Text.trim text.toList = numeral.text) :
      readSpan text = .error (.invalidArgument (.badSeconds text)) := by
    apply readSpan_of_not_ok
    rintro ⟨span, found⟩
    exact none (exists_numeral_of_readSpan found)
  refine ⟨?_, fun text none => readSpan_of_not_ok none, fun text none => refused none, ?_, ?_⟩
  · intro numeral text reads
    obtain ⟨double, nearest⟩ := exists_nearest numeral.value
    refine ⟨double, nearest, fun other nearest' => nearest'.value_eq nearest, ?_, ?_⟩
    · rw [exists_readSpan_iff reads nearest, le_iff_eq_or_lt]
      constructor
      · rintro ⟨zero | positive, less⟩
        · exact .inl zero.symm
        · exact .inr ⟨positive, less⟩
      · rintro (zero | ⟨positive, less⟩)
        · exact ⟨.inl zero.symm, by rw [zero]; positivity⟩
        · exact ⟨.inr positive, less⟩
    · intro span found
      obtain ⟨least, less, rounds⟩ := (readSpan_numeral_iff reads nearest).mp found
      exact ⟨rounds, exists_carried least less rounds⟩
  · intro text word
    apply refused
    rintro ⟨numeral, reads⟩
    exact not_numeral_of_isNumberWord word numeral reads
  · intro numeral numeral' text text' span span' reads reads' inOrder found found'
    exact readSpan_le reads reads' inOrder found found'

/-- What is rounded up to a second is no longer than a second, and infinity is no delay. -/
theorem nines_within_second : ∃ span span', readSpan "0.9999999996" = .ok span ∧
    readSpan "1e0" = .ok span' ∧ span.seconds = 1 ∧ span ≤ span' ∧
    readSpan " -INF" = .error (.invalidArgument (.badSeconds " -INF")) := by
  let nines : Numeral := ⟨.absent, ['0'], true, "9999999996".toList, none,
    List.all_eq_true.mp rfl, by decide, fun _ => rfl⟩
  let unscaled : Scale := ⟨'e', .inl rfl, .absent, ['0'], List.all_eq_true.mp rfl, by decide⟩
  let one : Numeral := ⟨.absent, ['1'], false, [], some unscaled,
    List.all_eq_true.mp rfl, by decide, nofun⟩
  have inOrder : nines.value ≤ one.value := by
    have fraction : readDigits 0 nines.fraction = 9999999996 := by decide
    have value : nines.value = 9999999996 / 10 ^ 10 := by
      rw [Numeral.value, fraction]
      simp [nines, Sign.negates, Numeral.exponent, readDigits, digitValue]
    have value' : one.value = 1 := by
      simp [one, unscaled, Numeral.value, Sign.negates, Numeral.exponent, Scale.value, readDigits,
        digitValue]
    rw [value, value']
    norm_num
  have found : readSpan "0.9999999996" = .ok ⟨1000000000, by decide⟩ :=
    readSpan_eq_ok_iff.mpr (by decide +kernel)
  have found' : readSpan "1e0" = .ok ⟨1000000000, by decide⟩ :=
    readSpan_eq_ok_iff.mpr (by decide +kernel)
  obtain ⟨_, _, _, words, order⟩ := delays_in_order_within_limits
  exact ⟨_, _, found, found', rfl, order nines one _ _ _ _ (by decide) (by decide) inOrder found
    found', words " -INF" (by decide)⟩

theorem near_of_small {value : ℚ} (nearest : Nearest value double) (positive : 0 ≤ value)
    (small : value < 2 ^ 23) : |double.value - value| * Span.perSecond < 1 / 2 := by
  have units : (Binary64.unitsPerOne : ℚ) = 2 ^ 30 * 2 ^ 1044 := by
    rw [unitsPerOne_eq, Nat.cast_pow, Nat.cast_ofNat, ← pow_add]
  have below : value * Binary64.unitsPerOne < 2 ^ (1044 + 53) := by
    have places : 1044 + 53 = 23 + 1074 := rfl
    rw [places, pow_add, unitsPerOne_eq, Nat.cast_pow, Nat.cast_ofNat]
    generalize 1074 = places
    exact mul_lt_mul_of_pos_right small (by positivity)
  have near := nearest.near positive below
  rw [units] at near
  have step : (0 : ℚ) < 2 ^ 1044 := by
    generalize 1044 = places
    positivity
  generalize (2 : ℚ) ^ 1044 = step at *
  have close : |value - double.value| * 2 ^ 30 ≤ 1 / 2 := by
    apply le_of_mul_le_mul_right _ step
    linarith
  rw [abs_sub_comm]
  norm_num [Span.perSecond] at close ⊢
  linarith

/-- The nanoseconds of a decimal of at most nine places. -/
def decimalNanos (numeral : Numeral) : ℕ :=
  readDigits 0 numeral.whole * Span.perSecond +
    readDigits 0 numeral.fraction * 10 ^ (9 - numeral.fraction.length)

theorem value_mul_perSecond (unsigned : numeral.sign ≠ .minus) (plain : numeral.scale = none)
    (places : numeral.fraction.length ≤ 9) :
    numeral.value * Span.perSecond = decimalNanos numeral := by
  have positive : numeral.sign.negates = false := by
    cases sign : numeral.sign with
    | absent | plus => rfl
    | minus => exact absurd sign unsigned
  have ones : numeral.exponent = 0 := by rw [Numeral.exponent, plain, Option.elim_none]
  have second : (Span.perSecond : ℚ) =
      10 ^ (9 - numeral.fraction.length) * 10 ^ numeral.fraction.length := by
    rw [← pow_add, Nat.sub_add_cancel places]
    norm_num [Span.perSecond]
  rw [Numeral.value, positive, ones, decimalNanos]
  push_cast
  rw [second]
  field_simp

theorem fraction_lt_second (places : numeral.fraction.length ≤ 9) :
    readDigits 0 numeral.fraction * 10 ^ (9 - numeral.fraction.length) < Span.perSecond := by
  have few := readDigits_lt fun digit found => numeral.numbers digit (List.mem_append_right _ found)
  have second : Span.perSecond =
      10 ^ numeral.fraction.length * 10 ^ (9 - numeral.fraction.length) := by
    rw [← pow_add, Nat.add_sub_cancel' places]
    rfl
  rw [second]
  exact Nat.mul_lt_mul_of_pos_right few (Nat.pow_pos (by decide))

/-- Decimals without an exponent and with at most nine places below 2^23 seconds are read exactly:
the whole seconds are the number in front of the point, and the nanoseconds are that behind it. That
is so although the number becomes its nearest double and that its nearest nanoseconds. -/
theorem decimal_delays_exact (reads : Text.trim text.toList = numeral.text)
    (unsigned : numeral.sign ≠ .minus) (plain : numeral.scale = none)
    (places : numeral.fraction.length ≤ 9) (small : numeral.value < 2 ^ 23) :
    ∃ span, readSpan text = .ok span ∧
      (span.nanos : ℚ) = numeral.value * Span.perSecond ∧
      span.seconds = readDigits 0 numeral.whole ∧
      span.subsecond = readDigits 0 numeral.fraction * 10 ^ (9 - numeral.fraction.length) ∧
      ∃ double, Nearest numeral.value double ∧
        RoundsTo (double.value * Span.perSecond) span.nanos := by
  have nanos := value_mul_perSecond unsigned plain places
  have positive : 0 ≤ numeral.value := by
    apply nonneg_of_mul_nonneg_left _ Span.perSecond_pos
    rw [nanos]
    exact Nat.cast_nonneg _
  obtain ⟨double, nearest⟩ := exists_nearest numeral.value
  have near := near_of_small nearest positive small
  have rounds : RoundsTo (double.value * Span.perSecond) (decimalNanos numeral) := by
    apply RoundsTo.of_lt_half
    rw [← nanos, ← sub_mul, abs_mul, abs_of_pos Span.perSecond_pos]
    exact near
  have less : double.value < 2 ^ 64 := by
    have above := le_abs_self (double.value - numeral.value)
    norm_num [Span.perSecond] at near
    linarith
  let span : Span := ⟨decimalNanos numeral, (Span.le_limit_iff rounds).mpr less⟩
  have split : span.nanos =
      readDigits 0 numeral.fraction * 10 ^ (9 - numeral.fraction.length) +
        readDigits 0 numeral.whole * Span.perSecond := Nat.add_comm ..
  obtain ⟨seconds, subsecond⟩ := parts_of_nanos split (fraction_lt_second places)
  refine ⟨span, ?_, nanos.symm, seconds, subsecond, double, nearest, rounds⟩
  exact (readSpan_numeral_iff reads nearest).mpr ⟨nearest.nonneg positive, less, rounds⟩

/-- The last decimal of nine places below the limit. -/
theorem last_exact_decimal : ∃ span, readSpan " +8388607.999999999 " = .ok span ∧
    span.seconds = 8388607 ∧ span.subsecond = 999999999 := by
  let numeral : Numeral := ⟨.plus, "8388607".toList, true, "999999999".toList, none,
    List.all_eq_true.mp rfl, by decide, fun _ => rfl⟩
  have whole : readDigits 0 numeral.whole = 8388607 := by decide
  have fraction : readDigits 0 numeral.fraction = 999999999 := by decide
  have small : numeral.value < 2 ^ 23 := by
    have value : numeral.value = 8388607 + 999999999 / 10 ^ 9 := by
      rw [Numeral.value, whole, fraction]
      simp [numeral, Sign.negates, Numeral.exponent]
    rw [value]
    norm_num
  obtain ⟨span, found, _, seconds, subsecond, _⟩ :=
    @decimal_delays_exact numeral " +8388607.999999999 " (by decide) (by decide) rfl (by decide)
      small
  refine ⟨span, found, seconds.trans whole, ?_⟩
  rw [subsecond, fraction]
  rfl

end ReplicatedSpace.Command
