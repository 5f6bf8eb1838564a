import ReplicatedSpace.Proofs.NearestDouble
import ReplicatedSpace.Proofs.Printing

/-!
Numerals: the texts that are read as finite literals. A numeral has digits with at most one point
before, between or behind them, perhaps a sign in front, and perhaps an exponent. Each is read as
the literal of its value, and what is read as a finite literal is a numeral.
-/
namespace ReplicatedSpace.Decimal

/-- A sign, or none. -/
inductive Sign
  | absent
  | plus
  | minus
deriving DecidableEq

namespace Sign

def text : Sign → List Char
  | absent => []
  | plus => ['+']
  | minus => ['-']

/-- Whether it makes what follows negative. -/
def negates : Sign → Bool
  | absent | plus => false
  | minus => true

end Sign

/-- A text that does not begin with a sign. -/
def Unsigned (text : List Char) : Prop := text.head? ≠ some '-' ∧ text.head? ≠ some '+'

theorem Unsigned.of_isDigit {first : Char} {rest : List Char}
    (digit : first.isDigit = true ∨ first = '.') : Unsigned (first :: rest) := by
  constructor <;> intro sign <;> cases sign <;> revert digit <;> decide

theorem takeSign_text (sign : Sign) {rest : List Char} (unsigned : Unsigned rest) :
    takeSign (sign.text ++ rest) = (sign.negates, rest) := by
  cases sign with
  | absent =>
    rcases takeSign_cases rest with ⟨_, minus, _⟩ | ⟨_, plus, _⟩ | ⟨_, _, taken⟩
    · exact absurd (by rw [minus]; rfl) unsigned.1
    · exact absurd (by rw [plus]; rfl) unsigned.2
    · exact taken
  | plus | minus => rfl

theorem exists_sign (text : List Char) :
    ∃ sign : Sign, text = sign.text ++ (takeSign text).2 ∧ (takeSign text).1 = sign.negates := by
  rcases takeSign_cases text with ⟨rest, same, taken⟩ | ⟨rest, same, taken⟩ | ⟨_, _, taken⟩
  · exact ⟨.minus, by rw [taken, same]; rfl, by rw [taken]; rfl⟩
  · exact ⟨.plus, by rw [taken, same]; rfl, by rw [taken]; rfl⟩
  · exact ⟨.absent, by rw [taken]; rfl, by rw [taken]; rfl⟩

/-- An exponent as it is written. -/
structure Scale where
  mark : Char
  isMark : mark = 'e' ∨ mark = 'E'
  sign : Sign
  digits : List Char
  numbers : ∀ digit ∈ digits, digit.isDigit = true
  present : digits ≠ []

namespace Scale

def text (scale : Scale) : List Char := scale.mark :: (scale.sign.text ++ scale.digits)

def value (scale : Scale) : ℤ :=
  if scale.sign.negates then -(readDigits 0 scale.digits : ℤ) else readDigits 0 scale.digits

end Scale

/-- A number in digits as it is written. -/
structure Numeral where
  sign : Sign
  whole : List Char
  point : Bool
  fraction : List Char
  scale : Option Scale
  numbers : ∀ digit ∈ whole ++ fraction, digit.isDigit = true
  present : whole ++ fraction ≠ []
  pointed : fraction ≠ [] → point = true

theorem readDigits_eq (before : ℕ) (digits : List Char) :
    readDigits before digits = before * 10 ^ digits.length + readDigits 0 digits := by
  induction digits generalizing before with
  | nil => simp [readDigits]
  | cons digit rest ih =>
    have first : readDigits before (digit :: rest) =
        readDigits (10 * before + digitValue digit) rest := rfl
    have alone : readDigits 0 (digit :: rest) = readDigits (digitValue digit) rest := by
      rw [readDigits, List.foldl_cons, Nat.mul_zero, Nat.zero_add]
      rfl
    rw [first, ih, alone, ih (digitValue digit), List.length_cons, pow_succ]
    ring

theorem readDigits_join (front back : List Char) :
    readDigits 0 (front ++ back) = readDigits 0 front * 10 ^ back.length + readDigits 0 back := by
  rw [← readDigits_eq, readDigits, List.foldl_append]
  rfl

theorem readDigits_lt {digits : List Char} (numbers : ∀ digit ∈ digits, digit.isDigit = true) :
    readDigits 0 digits < 10 ^ digits.length := by
  induction digits using List.reverseRecOn with
  | nil => exact Nat.one_pos
  | append_singleton front last ih =>
    have before := ih fun digit found => numbers digit (List.mem_append_left _ found)
    have small := (digitChar_digitValue (numbers last (by simp))).1
    rw [readDigits_append, List.length_append, List.length_singleton, pow_succ]
    omega

namespace Numeral

variable (numeral : Numeral)

/-- The digits, with the point among them. -/
def digits : List Char :=
  numeral.whole ++ if numeral.point then '.' :: numeral.fraction else []

/-- What stands behind the digits. -/
def tail : List Char := numeral.scale.elim [] Scale.text

def text : List Char := numeral.sign.text ++ (numeral.digits ++ numeral.tail)

def exponent : ℤ := numeral.scale.elim 0 Scale.value

/-- What is written behind the point counts by its places. -/
def value : ℚ :=
  (if numeral.sign.negates then -1 else 1) *
    ((readDigits 0 numeral.whole +
      readDigits 0 numeral.fraction / 10 ^ numeral.fraction.length) * 10 ^ numeral.exponent)

/-- All digits in one number, and how far its last one is from the ones. -/
def literal : Literal :=
  .finite numeral.sign.negates (readDigits 0 (numeral.whole ++ numeral.fraction))
    (numeral.exponent - numeral.fraction.length)

theorem value_eq : numeral.value = decimalValue numeral.sign.negates
    (readDigits 0 (numeral.whole ++ numeral.fraction))
    (numeral.exponent - numeral.fraction.length) := by
  rw [value, decimalValue, readDigits_join, zpow_sub₀ (by norm_num), zpow_natCast]
  push_cast
  field_simp

theorem exists_first : ∃ first rest, numeral.digits ++ numeral.tail = first :: rest ∧
    (first.isDigit = true ∨ first = '.') := by
  obtain ⟨sign, whole, point, fraction, scale, numbers, present, pointed⟩ := numeral
  cases whole with
  | cons digit whole => exact ⟨digit, _, rfl, .inl (numbers digit (by simp))⟩
  | nil =>
    have point : point = true := pointed present
    subst point
    exact ⟨'.', _, rfl, .inr rfl⟩

theorem readExponent?_tail : Literal.readExponent? numeral.tail = some numeral.exponent := by
  unfold tail exponent
  cases numeral.scale with
  | none => rfl
  | some scale =>
    obtain ⟨mark, isMark, sign, digits, numbers, present⟩ := scale
    have unsigned : Unsigned digits := by
      cases digits with
      | nil => exact absurd rfl present
      | cons digit rest => exact .of_isDigit (.inl (numbers digit List.mem_cons_self))
    simp only [Option.elim_some, Scale.text, Scale.value, Literal.readExponent?, if_pos isMark,
      takeSign_text sign unsigned]
    rw [if_pos ⟨present, List.all_eq_true.mpr numbers⟩]

theorem head?_tail :
    numeral.tail.head?.any Char.isDigit = false ∧ numeral.tail.head? ≠ some '.' := by
  unfold tail
  cases numeral.scale with
  | none => simp
  | some scale =>
    obtain ⟨mark, isMark, _⟩ := scale
    rcases isMark with rfl | rfl <;> simp [Scale.text]

theorem readFinite?_text (negative : Bool) :
    Literal.readFinite? negative (numeral.digits ++ numeral.tail) =
      some (.finite negative (readDigits 0 (numeral.whole ++ numeral.fraction))
        (numeral.exponent - numeral.fraction.length)) := by
  have exponent := numeral.readExponent?_tail
  obtain ⟨stop, noPoint⟩ := numeral.head?_tail
  have present : ¬ (numeral.whole = [] ∧ numeral.fraction = []) := by
    rintro ⟨noWhole, noFraction⟩
    exact numeral.present (by rw [noWhole, noFraction]; rfl)
  have whole (digit : Char) (found : digit ∈ numeral.whole) : digit.isDigit = true :=
    numeral.numbers digit (List.mem_append_left _ found)
  have fraction (digit : Char) (found : digit ∈ numeral.fraction) : digit.isDigit = true :=
    numeral.numbers digit (List.mem_append_right _ found)
  unfold digits Literal.readFinite?
  cases point : numeral.point with
  | true =>
    obtain ⟨taken, left⟩ := take_digits whole
      (by rfl : ('.' :: (numeral.fraction ++ numeral.tail)).head?.any Char.isDigit = false)
    obtain ⟨taken', left'⟩ := take_digits fraction stop
    simp only [if_true, List.append_assoc, List.cons_append, taken, left, List.head?_cons,
      List.drop_succ_cons, List.drop_zero, taken', left', if_neg present, exponent,
      Option.map_some]
  | false =>
    have none : numeral.fraction = [] := by
      by_contra some
      rw [numeral.pointed some] at point
      cases point
    obtain ⟨taken, left⟩ := take_digits whole stop
    simp only [Bool.false_eq_true, if_false, List.append_nil, taken, left, if_neg noPoint,
      none, and_true] at present ⊢
    simp only [if_neg present, exponent, Option.map_some]

theorem not_isNumberWord {first : Char} (digit : first.isDigit = true ∨ first = '.')
    (rest : List Char) : isNumberWord (first :: rest) = false := by
  have own : first.toLower = first ∧ first ≠ 'i' ∧ first ≠ 'n' := by
    rcases digit with digit | rfl
    · have bounds : 48 ≤ first.toNat ∧ first.toNat ≤ 57 := by
        simpa [Char.isDigit, UInt32.le_iff_toNat_le] using digit
      refine ⟨dif_neg fun capital => ?_, ?_, ?_⟩
      · have above : 65 ≤ first.toNat := UInt32.le_iff_toNat_le.mp capital.1
        omega
      · rintro rfl
        cases digit
      · rintro rfl
        cases digit
    · decide
  simp [isNumberWord, own]

theorem read?_text : Literal.read? numeral.text = some numeral.literal := by
  obtain ⟨first, rest, same, digit⟩ := numeral.exists_first
  have noWord := not_isNumberWord digit rest
  have finite := numeral.readFinite?_text numeral.sign.negates
  have unsigned : Unsigned (numeral.digits ++ numeral.tail) := same ▸ .of_isDigit digit
  rw [text, Literal.read?, takeSign_text numeral.sign unsigned]
  rw [same] at finite ⊢
  simp only [isNumberWord, List.contains_eq_mem, List.mem_cons, List.not_mem_nil, or_false,
    decide_eq_false_iff_not, not_or] at noWord
  simp only [noWord, or_self, if_false, finite, literal]

end Numeral

variable {text : List Char}

theorem exists_scale {exponent : ℤ} (read : Literal.readExponent? text = some exponent) :
    ∃ scale : Option Scale, text = scale.elim [] Scale.text ∧
      scale.elim 0 Scale.value = exponent := by
  cases text with
  | nil =>
    cases read
    exact ⟨none, rfl, rfl⟩
  | cons mark rest =>
    simp only [Literal.readExponent?] at read
    obtain ⟨sign, same, negates⟩ := exists_sign rest
    split at read
    · rename_i isMark
      split at read
      · rename_i digits
        cases read
        refine ⟨some ⟨mark, isMark, sign, (takeSign rest).2, List.all_eq_true.mp digits.2,
          digits.1⟩, ?_, ?_⟩
        · exact congrArg (mark :: ·) same
        · simp only [Option.elim_some, Scale.value, negates]
      · cases read
    · cases read

/-- The digits and what stands behind them are those of a numeral, whatever its sign. -/
theorem exists_digits {negative : Bool} {literal : Literal}
    (read : Literal.readFinite? negative text = some literal) (sign : Sign) :
    ∃ numeral : Numeral, numeral.sign = sign ∧ text = numeral.digits ++ numeral.tail := by
  have parts : text = text.takeWhile Char.isDigit ++ text.dropWhile Char.isDigit :=
    List.takeWhile_append_dropWhile.symm
  simp only [Literal.readFinite?] at read
  by_cases pointed : (text.dropWhile Char.isDigit).head? = some '.'
  · obtain ⟨behind, point⟩ := List.head?_eq_some_iff.mp pointed
    simp only [point, List.head?_cons, ↓reduceIte, List.drop_succ_cons, List.drop_zero] at read
    split at read
    · cases read
    · rename_i present
      obtain ⟨exponent, read, -⟩ := Option.map_eq_some_iff.mp read
      obtain ⟨scale, tail, -⟩ := exists_scale read
      refine ⟨⟨sign, text.takeWhile Char.isDigit, true, behind.takeWhile Char.isDigit, scale, ?_,
        fun none => present (List.append_eq_nil_iff.mp none), fun _ => rfl⟩, rfl, ?_⟩
      · intro digit found
        rcases List.mem_append.mp found with found | found <;> exact List.mem_takeWhile_imp found
      · have split : behind = behind.takeWhile Char.isDigit ++ behind.dropWhile Char.isDigit :=
          List.takeWhile_append_dropWhile.symm
        simp only [Numeral.digits, Numeral.tail, if_true, ← tail, List.append_assoc,
          List.cons_append, ← split, ← point, ← parts]
  · simp only [if_neg pointed] at read
    split at read
    · cases read
    · rename_i present
      obtain ⟨exponent, read, -⟩ := Option.map_eq_some_iff.mp read
      obtain ⟨scale, tail, -⟩ := exists_scale read
      refine ⟨⟨sign, text.takeWhile Char.isDigit, false, [], scale, ?_,
        fun none => present ⟨(List.append_eq_nil_iff.mp none).1, trivial⟩,
        fun some => absurd rfl some⟩, rfl, ?_⟩
      · intro digit found
        rw [List.append_nil] at found
        exact List.mem_takeWhile_imp found
      · simp only [Numeral.digits, Numeral.tail, Bool.false_eq_true, if_false, List.append_nil,
          ← tail, ← parts]

theorem exists_numeral {negative : Bool} {significand : ℕ} {exponent : ℤ}
    (read : Literal.read? text = some (.finite negative significand exponent)) :
    ∃ numeral : Numeral, numeral.text = text := by
  obtain ⟨sign, same, -⟩ := exists_sign text
  simp only [Literal.read?] at read
  split at read
  · cases read
  split at read
  · cases read
  obtain ⟨numeral, own, body⟩ := exists_digits read sign
  exact ⟨numeral, by rw [Numeral.text, own, ← body, ← same]⟩

end ReplicatedSpace.Decimal
