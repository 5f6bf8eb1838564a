import Mathlib.Data.List.TakeWhile
import ReplicatedSpace.Decimal.Literal
import ReplicatedSpace.Proofs.Words

/-!
The letters of number literals. A literal is one of three words, perhaps with a sign, or it has no
other letters than digits, signs, a point and the mark of an exponent; so it is a single word.
-/
namespace ReplicatedSpace.Decimal

/-- A letter of the numbers that are written in digits. -/
def isNumeric (letter : Char) : Bool :=
  letter.isDigit || ['+', '-', '.', 'e', 'E'].contains letter

theorem isNumeric_of_isDigit {letter : Char} (digit : letter.isDigit = true) :
    isNumeric letter = true := by
  rw [isNumeric, digit, Bool.true_or]

theorem take_digits {digits : List Char} (numbers : ∀ digit ∈ digits, digit.isDigit = true)
    {rest : List Char} (stop : rest.head?.any Char.isDigit = false) :
    (digits ++ rest).takeWhile Char.isDigit = digits ∧
      (digits ++ rest).dropWhile Char.isDigit = rest := by
  rw [List.takeWhile_append_of_pos numbers, List.dropWhile_append_of_pos numbers]
  cases rest with
  | nil => simp
  | cons mark rest => simp_all

/-- A text that is an infinity or no number, by the word for it. -/
def isNumberWord (text : List Char) : Bool :=
  ["inf".toList, "infinity".toList, "nan".toList].contains (text.map Char.toLower)

theorem isBlank_of_isNumeric {letter : Char} (numeric : isNumeric letter = true) :
    Text.isBlank letter = false := by
  rw [isNumeric, Bool.or_eq_true] at numeric
  rcases numeric with digit | mark
  · have bounds : 48 ≤ letter.toNat ∧ letter.toNat ≤ 57 := by
      simpa [Char.isDigit, UInt32.le_iff_toNat_le] using digit
    simp only [Text.isBlank, Bool.or_eq_false_iff, Bool.and_eq_false_imp, decide_eq_true_eq,
      decide_eq_false_iff_not, beq_eq_false_iff_ne]
    omega
  · have visible : ['+', '-', '.', 'e', 'E'].all (!Text.isBlank ·) = true := by decide
    simpa using List.all_eq_true.mp visible letter (List.contains_iff_mem.mp mark)

theorem isBlank_of_toLower {letter : Char} (visible : Text.isBlank letter.toLower = false) :
    Text.isBlank letter = false := by
  by_cases capital : letter.val ≥ 'A'.val ∧ letter.val ≤ 'Z'.val
  · have bounds : 65 ≤ letter.toNat ∧ letter.toNat ≤ 90 := by
      simpa [UInt32.le_iff_toNat_le] using capital
    simp only [Text.isBlank, Bool.or_eq_false_iff, Bool.and_eq_false_imp, decide_eq_true_eq,
      decide_eq_false_iff_not, beq_eq_false_iff_ne]
    omega
  · have same : letter.toLower = letter := dif_neg capital
    rwa [same] at visible

theorem isBlank_of_isNumberWord {text : List Char} (word : isNumberWord text = true) :
    ∀ letter ∈ text, Text.isBlank letter = false := by
  intro letter found
  have lowered : letter.toLower ∈ text.map Char.toLower := List.mem_map_of_mem found
  refine isBlank_of_toLower ?_
  have listed : text.map Char.toLower ∈ ["inf".toList, "infinity".toList, "nan".toList] :=
    List.contains_iff_mem.mp word
  have visible : ["inf".toList, "infinity".toList, "nan".toList].all
      (fun known => known.all (!Text.isBlank ·)) = true := by decide
  simpa using List.all_eq_true.mp (List.all_eq_true.mp visible _ listed) _ lowered

theorem takeSign_cases (text : List Char) :
    (∃ rest, text = '-' :: rest ∧ takeSign text = (true, rest)) ∨
      (∃ rest, text = '+' :: rest ∧ takeSign text = (false, rest)) ∨
      text.head? ≠ some '-' ∧ text.head? ≠ some '+' ∧ takeSign text = (false, text) := by
  unfold takeSign
  split
  · exact .inl ⟨_, rfl, rfl⟩
  · exact .inr (.inl ⟨_, rfl, rfl⟩)
  · rename_i noMinus noPlus
    refine .inr (.inr ⟨fun minus => ?_, fun plus => ?_, rfl⟩)
    · obtain ⟨rest, same⟩ := List.head?_eq_some_iff.mp minus
      exact noMinus rest same
    · obtain ⟨rest, same⟩ := List.head?_eq_some_iff.mp plus
      exact noPlus rest same

theorem takeSign_of_isDigit {digit : Char} (isDigit : digit.isDigit = true) (rest : List Char) :
    takeSign (digit :: rest) = (false, digit :: rest) := by
  rcases takeSign_cases (digit :: rest) with ⟨_, same, _⟩ | ⟨_, same, _⟩ | ⟨_, _, taken⟩
  · cases (List.cons.inj same).1
    cases isDigit
  · cases (List.cons.inj same).1
    cases isDigit
  · exact taken

theorem mem_of_takeSign {text : List Char} {letter : Char} (found : letter ∈ text) :
    letter ∈ (takeSign text).2 ∨ letter = '-' ∨ letter = '+' := by
  rcases takeSign_cases text with ⟨rest, same, taken⟩ | ⟨rest, same, taken⟩ | ⟨_, _, taken⟩
  · rw [taken]
    rcases List.mem_cons.mp (same ▸ found) with minus | found
    · exact .inr (.inl minus)
    · exact .inl found
  · rw [taken]
    rcases List.mem_cons.mp (same ▸ found) with plus | found
    · exact .inr (.inr plus)
    · exact .inl found
  · rw [taken]
    exact .inl found

namespace Literal

theorem isNumeric_of_readExponent? {text : List Char} {exponent : Int}
    (read : readExponent? text = some exponent) : ∀ letter ∈ text, isNumeric letter = true := by
  cases text with
  | nil => simp
  | cons mark text =>
    simp only [readExponent?] at read
    split at read
    · rename_i isMark
      split at read
      · rename_i digits
        intro letter found
        rcases List.mem_cons.mp found with rfl | found
        · rcases isMark with rfl | rfl <;> rfl
        · rcases mem_of_takeSign found with found | rfl | rfl
          · exact isNumeric_of_isDigit (List.all_eq_true.mp digits.2 letter found)
          · rfl
          · rfl
      · cases read
    · cases read

theorem isNumeric_of_readFinite? {negative : Bool} {text : List Char} {literal : Literal}
    (read : readFinite? negative text = some literal) :
    text ≠ [] ∧ ∀ letter ∈ text, isNumeric letter = true := by
  have parts : text.takeWhile Char.isDigit ++ text.dropWhile Char.isDigit = text :=
    List.takeWhile_append_dropWhile
  have whole : ∀ letter ∈ text.takeWhile Char.isDigit, isNumeric letter = true :=
    fun letter found => isNumeric_of_isDigit (List.mem_takeWhile_imp found)
  constructor
  · rintro rfl
    cases read
  intro letter found
  rw [← parts] at found
  rcases List.mem_append.mp found with found | found
  · exact whole letter found
  simp only [readFinite?] at read
  by_cases pointed : (text.dropWhile Char.isDigit).head? = some '.'
  · obtain ⟨behind, same⟩ := List.head?_eq_some_iff.mp pointed
    simp only [same, List.head?_cons, ↓reduceIte, List.drop_succ_cons, List.drop_zero] at read
    split at read
    · cases read
    obtain ⟨exponent, read, -⟩ := Option.map_eq_some_iff.mp read
    have fraction : behind.takeWhile Char.isDigit ++ behind.dropWhile Char.isDigit = behind :=
      List.takeWhile_append_dropWhile
    rw [same] at found
    rcases List.mem_cons.mp found with rfl | found
    · rfl
    rw [← fraction] at found
    rcases List.mem_append.mp found with found | found
    · exact isNumeric_of_isDigit (List.mem_takeWhile_imp found)
    · exact isNumeric_of_readExponent? read letter found
  · simp only [if_neg pointed] at read
    split at read
    · cases read
    obtain ⟨exponent, read, -⟩ := Option.map_eq_some_iff.mp read
    exact isNumeric_of_readExponent? read letter found

theorem letters_of_read? {text : List Char} {literal : Literal} (read : read? text = some literal) :
    isNumberWord (takeSign text).2 = true ∨
      text ≠ [] ∧ ∀ letter ∈ text, isNumeric letter = true := by
  simp only [read?] at read
  split at read
  · rename_i word
    left
    rcases word with word | word <;> simp [isNumberWord, word]
  split at read
  · rename_i word
    left
    simp [isNumberWord, word]
  · obtain ⟨some, numeric⟩ := isNumeric_of_readFinite? read
    right
    constructor
    · rintro rfl
      exact some rfl
    · intro letter found
      rcases mem_of_takeSign found with found | rfl | rfl
      · exact numeric letter found
      · rfl
      · rfl

theorem isWord_of_read? {text : List Char} {literal : Literal} (read : read? text = some literal) :
    Text.IsWord text := by
  rcases letters_of_read? read with word | ⟨some, numeric⟩
  · constructor
    · rintro rfl
      cases word
    · intro letter found
      rcases mem_of_takeSign found with found | rfl | rfl
      · exact isBlank_of_isNumberWord word letter found
      · rfl
      · rfl
  · exact ⟨some, fun letter found => isBlank_of_isNumeric (numeric letter found)⟩

end Literal
end ReplicatedSpace.Decimal
