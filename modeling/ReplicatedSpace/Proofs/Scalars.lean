import Mathlib.Data.List.TakeWhile
import ReplicatedSpace.Json.Codec

/-!
Texts and numbers in JSON are read back from their written forms. A text ends at its closing quote,
whatever characters it has; a number ends where nothing follows that a number could go on with.
-/
namespace ReplicatedSpace.Json

theorem readQuoted_of_escape {rest behind : List Char} {character : Char}
    (escaped : readEscape rest = .ok (character, behind)) :
    readQuoted ('\\' :: rest) =
      (readQuoted behind).map fun (text, after) => (character :: text, after) := by
  rw [readQuoted]
  split
  · rename_i fault same
    rw [escaped] at same
    cases same
  · rename_i found left same
    rw [escaped] at same
    cases same
    cases readQuoted behind <;> rfl

theorem readQuoted_of_unescape {mark character : Char} (stands : unescape? mark = some character)
    (noHex : mark ≠ 'u') (tail : List Char) :
    readQuoted ('\\' :: mark :: tail) =
      (readQuoted tail).map fun (text, after) => (character :: text, after) := by
  apply readQuoted_of_escape
  rw [readEscape, if_neg noHex, stands]

theorem readQuoted_of_plain {rest : List Char} {character : Char} (noQuote : character ≠ '\x22')
    (noEscape : character ≠ '\\') (noControl : ¬ character.toNat < 0x20) :
    readQuoted (character :: rest) =
      (readQuoted rest).map fun (text, after) => (character :: text, after) := by
  rw [readQuoted.eq_def]
  split
  · rename_i empty
    cases empty
  · rename_i same
    cases same
    exact absurd rfl noQuote
  · rename_i same
    cases same
    exact absurd rfl noEscape
  · rename_i same
    cases same
    rw [if_neg noControl]
    cases readQuoted rest <;> rfl

theorem digitValue?_hexDigit {value : Nat} (small : value < 16) :
    Text.Hex.digitValue? (hexDigit value) = some value := by
  have all : ∀ value < 16, Text.Hex.digitValue? (hexDigit value) = some value := by decide
  exact all value small

theorem readEscape_hex {character : Char} (control : character.toNat < 0x20) (tail : List Char) :
    readEscape ('u' :: '0' :: '0' :: hexDigit (character.toNat / 16) ::
      hexDigit (character.toNat % 16) :: tail) = .ok (character, tail) := by
  have zero : Text.Hex.digitValue? '0' = some 0 := by decide
  have high : Text.Hex.digitValue? (hexDigit (character.toNat / 16)) =
      some (character.toNat / 16) := digitValue?_hexDigit (by omega)
  have low : Text.Hex.digitValue? (hexDigit (character.toNat % 16)) =
      some (character.toNat % 16) := digitValue?_hexDigit (by omega)
  have hex : readHex ('0' :: '0' :: hexDigit (character.toNat / 16) ::
      hexDigit (character.toNat % 16) :: tail) = .ok (character.toNat, tail) := by
    have value : character.toNat / 16 * 16 + character.toNat % 16 = character.toNat := by omega
    simp [readHex, List.mapM_cons, zero, high, low, value]
  have noLow : isLowSurrogate character.toNat = false := by
    simp only [isLowSurrogate, Bool.and_eq_false_imp, decide_eq_true_eq, decide_eq_false_iff_not]
    omega
  have noHigh : isHighSurrogate character.toNat = false := by
    simp only [isHighSurrogate, Bool.and_eq_false_imp, decide_eq_true_eq, decide_eq_false_iff_not]
    omega
  simp [readEscape, hex, noLow, noHigh]

/-- Whatever the character is, its written form is read as that character. -/
theorem readQuoted_escape (character : Char) (tail : List Char) :
    readQuoted (escape character ++ tail) =
      (readQuoted tail).map fun (text, after) => (character :: text, after) := by
  unfold escape
  split
  · subst character
    exact readQuoted_of_unescape rfl (by decide) tail
  split
  · subst character
    exact readQuoted_of_unescape rfl (by decide) tail
  split
  · subst character
    exact readQuoted_of_unescape rfl (by decide) tail
  split
  · subst character
    exact readQuoted_of_unescape rfl (by decide) tail
  split
  · subst character
    exact readQuoted_of_unescape rfl (by decide) tail
  split
  · subst character
    exact readQuoted_of_unescape rfl (by decide) tail
  split
  · subst character
    exact readQuoted_of_unescape rfl (by decide) tail
  split
  · exact readQuoted_of_escape (readEscape_hex ‹_› tail)
  · exact readQuoted_of_plain ‹_› ‹_› ‹_›

theorem readQuoted_quoted (text rest : List Char) :
    readQuoted (text.flatMap escape ++ '\x22' :: rest) = .ok (text, rest) := by
  induction text with
  | nil =>
    rw [List.flatMap_nil, List.nil_append, readQuoted]
  | cons character text ih =>
    rw [List.flatMap_cons, List.append_assoc, readQuoted_escape, ih]
    rfl

/-- Nothing stands here that goes on with a number. -/
def Ends (rest : List Char) : Prop :=
  ∀ mark ∈ rest.head?, mark.isDigit = false ∧ mark ≠ '.' ∧ mark ≠ 'e' ∧ mark ≠ 'E'

theorem Ends.nil : Ends [] := by
  intro mark found
  cases found

theorem Ends.takeWhile {rest : List Char} (ends : Ends rest) :
    rest.takeWhile Char.isDigit = [] := by
  cases rest with
  | nil => rfl
  | cons mark rest => simp [(ends mark rfl).1]

theorem Ends.dropWhile {rest : List Char} (ends : Ends rest) :
    rest.dropWhile Char.isDigit = rest := by
  cases rest with
  | nil => rfl
  | cons mark rest => simp [(ends mark rfl).1]

theorem Ends.head? {rest : List Char} (ends : Ends rest) :
    rest.head?.any Char.isDigit = false ∧ rest.head? ≠ some '.' ∧
      ¬ (rest.head? = some 'e' ∨ rest.head? = some 'E') := by
  cases rest with
  | nil => simp
  | cons mark rest => simp [ends mark rfl]

/-- The digits of a number begin with a zero for zero only. -/
theorem toDigits_cons (number : Nat) :
    ∃ digit rest, Nat.toDigits 10 number = digit :: rest ∧ digit.isDigit = true ∧
      (∀ other ∈ rest, other.isDigit = true) ∧ (digit = '0' → rest = []) := by
  induction number using Nat.strong_induction_on with
  | _ number ih =>
    by_cases small : number < 10
    · refine ⟨_, [], Nat.toDigits_of_lt_base small, ?_, ?_, fun _ => rfl⟩
      · simpa [Nat.isDigit_digitChar] using small
      · intro other found
        cases found
    · have large : 10 ≤ number := Nat.le_of_not_lt small
      obtain ⟨digit, rest, digits, first, others, zero⟩ := ih (number / 10) (by omega)
      refine ⟨digit, rest ++ [(number % 10).digitChar], ?_, first, ?_, ?_⟩
      · rw [Nat.toDigits_of_base_le (by omega) large, digits, List.cons_append]
      · intro other found
        rcases List.mem_append.mp found with found | found
        · exact others other found
        · rw [List.mem_singleton.mp found, Nat.isDigit_digitChar, decide_eq_true_eq]
          omega
      · -- a zero in front of others would make the number behind them zero
        intro isZero
        have alone := zero isZero
        subst isZero alone
        have value : Nat.ofDigitChars 10 (Nat.toDigits 10 (number / 10)) 0 = number / 10 :=
          Nat.ofDigitChars_toDigits (by omega) (by omega)
        rw [digits] at value
        have : number / 10 = 0 := value.symm.trans (by decide)
        omega

theorem readDigits_toDigits (number : Nat) :
    Decimal.readDigits 0 (Nat.toDigits 10 number) = number :=
  Nat.ofDigitChars_toDigits (by omega) (by omega)

namespace Number

/-- The number of a sequence of digits. -/
def plain (digits : List Char) : Number := ⟨false, digits, [], 0, true⟩

theorem read_toDigits (cut : Fault) (number : Nat) {rest : List Char} (ends : Ends rest) :
    read cut false (Nat.toDigits 10 number ++ rest) =
      .ok (plain (Nat.toDigits 10 number), rest) := by
  obtain ⟨digit, others, digits, isDigit, allDigits, zero⟩ := toDigits_cons number
  obtain ⟨noDigit, noPoint, noExponent⟩ := ends.head?
  have whole : readWhole cut (digit :: (others ++ rest)) = .ok (digit :: others, rest) := by
    by_cases isZero : digit = '0'
    · have alone := zero isZero
      subst isZero alone
      simp [readWhole, noDigit]
    · have taken : (others ++ rest).takeWhile Char.isDigit = others := by
        rw [List.takeWhile_append_of_pos allDigits, ends.takeWhile, List.append_nil]
      have left : (others ++ rest).dropWhile Char.isDigit = rest := by
        rw [List.dropWhile_append_of_pos allDigits, ends.dropWhile]
      simp [readWhole, isZero, isDigit, taken, left]
  have fraction : readFraction cut rest = .ok ([], rest) := by
    rw [readFraction, if_neg noPoint]
  have exponent : readExponent cut rest = .ok (none, rest) := by
    rw [readExponent, if_neg noExponent]
  rw [digits, List.cons_append]
  simp [read, whole, fraction, exponent, plain]

theorem le_readDigits (before : Nat) (digits : List Char) :
    before ≤ Decimal.readDigits before digits := by
  induction digits generalizing before with
  | nil => exact Nat.le_refl before
  | cons digit digits ih =>
    have grown := ih (10 * before + Decimal.digitValue digit)
    have same : Decimal.readDigits before (digit :: digits) =
        Decimal.readDigits (10 * before + Decimal.digitValue digit) digits := rfl
    omega

theorem foldl_takeWhole {before : Nat} {digits : List Char}
    (fits : Decimal.readDigits before digits ≤ wordLimit) :
    digits.foldl takeWhole (before, 0, false) = (Decimal.readDigits before digits, 0, false) := by
  induction digits generalizing before with
  | nil => rfl
  | cons digit digits ih =>
    have same : Decimal.readDigits before (digit :: digits) =
        Decimal.readDigits (10 * before + Decimal.digitValue digit) digits := rfl
    rw [same] at fits ⊢
    have next : 10 * before + Decimal.digitValue digit ≤ wordLimit :=
      Nat.le_trans (le_readDigits _ digits) fits
    have step : takeWhole (before, 0, false) digit =
        (10 * before + Decimal.digitValue digit, 0, false) := by
      simp [takeWhole, Nat.not_lt.mpr next]
    rw [List.foldl_cons, step, ih fits]

theorem roundUnits_le (number : Nat) : Decimal.Binary64.roundUnits number 1 ≤ 2 * number := by
  simp only [Decimal.Binary64.roundUnits, Decimal.Binary64.gap, Nat.div_one, Nat.one_mul]
  by_cases isZero : number = 0
  · subst isZero
    decide
  · have step : Nat.pow 2 (number.log2 - 52) ≤ number :=
      Nat.le_trans (Nat.pow_le_pow_right (by omega) (Nat.sub_le ..)) (Nat.log2_self_le isZero)
    have bound := (Decimal.roundHalfEven_bounds number (Nat.pow 2 (number.log2 - 52))).2
    calc Decimal.roundHalfEven number (Nat.pow 2 (number.log2 - 52)) *
          Nat.pow 2 (number.log2 - 52)
        ≤ (number / Nat.pow 2 (number.log2 - 52) + 1) * Nat.pow 2 (number.log2 - 52) :=
          Nat.mul_le_mul_right _ bound
      _ = number / Nat.pow 2 (number.log2 - 52) * Nat.pow 2 (number.log2 - 52) +
          Nat.pow 2 (number.log2 - 52) := by rw [Nat.add_mul, Nat.one_mul]
      _ ≤ number + number := Nat.add_le_add (Nat.div_mul_le_self ..) step
      _ = 2 * number := (Nat.two_mul number).symm

theorem isOutOfRange_plain {digits : List Char}
    (fits : Decimal.readDigits 0 digits ≤ wordLimit) : (plain digits).isOutOfRange = false := by
  have scaled : (plain digits).scaled = (Decimal.readDigits 0 digits, 0) := by
    simp [scaled, plain, foldl_takeWhole fits]
  have one : Decimal.Binary64.roundUnits (Nat.pow 10 (0 : Int).toNat) 1 = 1 := by decide
  have limit : 2 * wordLimit < rangeLimit := by decide +kernel
  have small := roundUnits_le (Decimal.readDigits 0 digits)
  simp only [isOutOfRange, scaled, one, Nat.mul_one]
  split
  · rfl
  · have inside : ¬ rangeLimit ≤ Decimal.Binary64.roundUnits (Decimal.readDigits 0 digits) 1 := by
      omega
    simp [inside]

end Number

theorem isBlank_of_isDigit {mark : Char} (isDigit : mark.isDigit = true) :
    isBlank mark = false := by
  simp only [isBlank, Bool.or_eq_false_iff, decide_eq_false_iff_not]
  refine ⟨⟨⟨?_, ?_⟩, ?_⟩, ?_⟩ <;> (rintro rfl; cases isDigit)

theorem readNatural_repr {limit value : Nat} (word : limit ≤ Number.wordLimit)
    (fits : value ≤ limit) {rest : List Char} (ends : Ends rest) :
    readNatural limit ((Nat.repr value).toList ++ rest) = .ok (value, rest) := by
  obtain ⟨digit, others, digits, isDigit, -, -⟩ := toDigits_cons value
  have noMinus : digit ≠ '-' := by
    rintro rfl
    cases isDigit
  have value' : Decimal.readDigits 0 (Nat.toDigits 10 value) = value := readDigits_toDigits value
  have number : readNumber false (Nat.toDigits 10 value ++ rest) =
      .ok (.plain (Nat.toDigits 10 value), rest) := by
    have inRange : (Number.plain (Nat.toDigits 10 value)).isOutOfRange = false :=
      Number.isOutOfRange_plain (by omega)
    simp [readNumber, Number.read_toDigits .truncated value ends, inRange]
  have natural : (Number.plain (Nat.toDigits 10 value)).natural? = some value := by
    simp [Number.natural?, Number.plain, value']
  have start : dropBlanks (Nat.toDigits 10 value ++ rest) = digit :: (others ++ rest) := by
    rw [digits, List.cons_append, dropBlanks, List.dropWhile_cons_of_neg
      (by simp [isBlank_of_isDigit isDigit])]
  rw [digits, List.cons_append] at number
  rw [← digits] at number
  rw [Nat.toList_repr, readNatural, start]
  simp [isDigit, noMinus, number, natural, fits]

end ReplicatedSpace.Json
