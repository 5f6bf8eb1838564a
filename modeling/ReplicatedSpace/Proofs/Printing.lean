import Mathlib.Data.List.Induction
import ReplicatedSpace.Decimal.Shortest
import ReplicatedSpace.Proofs.Literals
import ReplicatedSpace.Proofs.Scalars

/-!
How numbers are printed. Digits come back as they were if no zero stands in front of others, and the
text of a double has a point and a minus sign at most besides its digits, unless it is the word for
an infinity or for no number.
-/
namespace ReplicatedSpace.Decimal

theorem readDigits_append (digits : List Char) (last : Char) :
    readDigits 0 (digits ++ [last]) = 10 * readDigits 0 digits + digitValue last := by
  rw [readDigits, List.foldl_append]
  rfl

theorem digitChar_digitValue {digit : Char} (isDigit : digit.isDigit = true) :
    digitValue digit < 10 ∧ Nat.digitChar (digitValue digit) = digit := by
  have bounds : 48 ≤ digit.toNat ∧ digit.toNat ≤ 57 := by
    simpa [Char.isDigit, UInt32.le_iff_toNat_le] using isDigit
  have small : digitValue digit < 10 := by
    have : '0'.toNat = 48 := rfl
    unfold digitValue
    omega
  have code : digit.toNat = 48 + digitValue digit := by
    have : '0'.toNat = 48 := rfl
    unfold digitValue
    omega
  have each : (List.range 10).all (fun value => Nat.digitChar value == Char.ofNat (48 + value)) =
      true := by decide
  have own := List.all_eq_true.mp each _ (List.mem_range.mpr small)
  rw [beq_iff_eq, ← code, Char.ofNat_toNat] at own
  exact ⟨small, own⟩

theorem readDigits_eq_zero {digits : List Char} (zero : readDigits 0 digits = 0)
    (numbers : ∀ digit ∈ digits, digit.isDigit = true) : ∀ digit ∈ digits, digit = '0' := by
  induction digits using List.reverseRecOn with
  | nil => simp
  | append_singleton front last ih =>
    rw [readDigits_append] at zero
    intro digit found
    rcases List.mem_append.mp found with found | found
    · exact ih (by omega) (fun digit found => numbers digit (List.mem_append_left _ found)) digit
        found
    · obtain rfl := List.mem_singleton.mp found
      have same := (digitChar_digitValue (numbers digit (List.mem_append_right _ found))).2
      rw [show digitValue digit = 0 by omega] at same
      exact same.symm

/-- Digits come back from the number that they spell if no zero stands in front of others. -/
theorem toDigits_readDigits_iff {digits : List Char} (some : digits ≠ [])
    (numbers : ∀ digit ∈ digits, digit.isDigit = true) :
    Nat.toDigits 10 (readDigits 0 digits) = digits ↔
      (digits.head? = Option.some '0' → digits = ['0']) := by
  constructor
  · intro same
    obtain ⟨digit, rest, printed, _, _, zero⟩ := Json.toDigits_cons (readDigits 0 digits)
    rw [← same, printed]
    intro first
    obtain rfl := Option.some.inj first
    rw [zero rfl]
  · intro first
    induction digits using List.reverseRecOn with
    | nil => exact (some rfl).elim
    | append_singleton front last ih =>
      obtain ⟨small, same⟩ := digitChar_digitValue (numbers last (by simp))
      rw [readDigits_append]
      have front' (digit : Char) (found : digit ∈ front) : digit.isDigit = true :=
        numbers digit (List.mem_append_left _ found)
      cases front with
      | nil =>
        have alone : readDigits 0 [] = 0 := rfl
        rw [alone, Nat.mul_zero, Nat.zero_add, Nat.toDigits_of_lt_base small, same]
        rfl
      | cons digit others =>
        have notZero : digit ≠ '0' := by
          rintro rfl
          cases others <;> cases first rfl
        have positive : readDigits 0 (digit :: others) ≠ 0 := fun zero =>
          notZero (readDigits_eq_zero zero front' digit List.mem_cons_self)
        have before := ih (List.cons_ne_nil _ _) front' fun isZero =>
          (notZero (Option.some.inj isZero)).elim
        have quotient : (10 * readDigits 0 (digit :: others) + digitValue last) / 10 =
            readDigits 0 (digit :: others) := by omega
        have rest : (10 * readDigits 0 (digit :: others) + digitValue last) % 10 =
            digitValue last := by omega
        rw [Nat.toDigits_of_base_le (by omega) (by omega), quotient, rest, before, same]

namespace Binary64

theorem splitPoint_digits (significand places : Nat) :
    (splitPoint significand places).1 ≠ [] ∧
      (∀ letter ∈ (splitPoint significand places).1, letter.isDigit = true) ∧
      ∀ letter ∈ (splitPoint significand places).2, letter.isDigit = true := by
  obtain ⟨first, rest, digits, isDigit, areDigits, _⟩ := Json.toDigits_cons significand
  have all : ∀ letter ∈ List.replicate (places + 1 - (Nat.toDigits 10 significand).length) '0' ++
      Nat.toDigits 10 significand, letter.isDigit = true := by
    intro letter found
    rcases List.mem_append.mp found with found | found
    · rw [List.eq_of_mem_replicate found]
      rfl
    · rw [digits] at found
      rcases List.mem_cons.mp found with rfl | found
      · exact isDigit
      · exact areDigits letter found
  refine ⟨?_, fun letter found => all letter (List.mem_of_mem_take found), fun letter found => ?_⟩
  · rw [splitPoint, ne_eq, List.take_eq_nil_iff]
    rintro (none | none)
    · simp only [List.length_append, List.length_replicate] at none
      omega
    · simp [digits] at none
  · have kept := (List.dropWhile_sublist _).subset (List.mem_reverse.mp found)
    exact all letter (List.mem_of_mem_drop (List.mem_reverse.mp kept))

theorem layOut_letters (significand : Nat) (exponent : Int) :
    layOut significand exponent ≠ [] ∧
      ∀ letter ∈ layOut significand exponent, letter.isDigit = true ∨ letter = '.' := by
  obtain ⟨some, whole, fraction⟩ :=
    splitPoint_digits (significand * Nat.pow 10 exponent.toNat) (-exponent).toNat
  unfold layOut
  dsimp only
  split
  · exact ⟨some, fun letter found => .inl (whole letter found)⟩
  · refine ⟨fun none => some (List.append_eq_nil_iff.mp none).1, fun letter found => ?_⟩
    rcases List.mem_append.mp found with found | found
    · exact .inl (whole letter found)
    · rcases List.mem_cons.mp found with point | found
      · exact .inr point
      · exact .inl (fraction letter found)

theorem render_letters (value : Binary64) :
    value.render ∈ ["NaN", "-inf", "inf"] ∨
      value.render.toList ≠ [] ∧
        ∀ letter ∈ value.render.toList, letter.isDigit = true ∨ letter = '.' ∨ letter = '-' := by
  cases value with
  | notANumber => exact .inl (by simp [render])
  | infinite negative => exact .inl (by cases negative <;> simp [render])
  | finite negative units =>
    have magnitude : ∃ letters : List Char,
        (finite negative units).render = .ofList (if negative then '-' :: letters else letters) ∧
        letters ≠ [] ∧ ∀ letter ∈ letters, letter.isDigit = true ∨ letter = '.' := by
      refine ⟨_, rfl, ?_⟩
      split
      · exact ⟨by simp, by simp⟩
      · cases shortest units with
        | mk significand exponent => exact layOut_letters significand exponent
    obtain ⟨letters, same, some, plain⟩ := magnitude
    right
    rw [same, String.toList_ofList]
    cases negative with
    | true =>
      refine ⟨by simp, fun letter found => ?_⟩
      rcases List.mem_cons.mp found with minus | found
      · exact .inr (.inr minus)
      · exact (plain letter found).imp_right .inl
    | false => exact ⟨some, fun letter found => (plain letter found).imp_right .inl⟩

end Binary64
end ReplicatedSpace.Decimal
