/-!
Characters by what they are good for. Blank characters are the members of Unicode's White_Space
property; a line is read through three views of it: trimmed, cut after its first word, and split
into words. Digits in base sixteen may be in any case.
-/
namespace ReplicatedSpace.Text

def isBlank (character : Char) : Bool :=
  let code := character.toNat
  (0x09 ≤ code && code ≤ 0x0D) || code == 0x20 || code == 0x85 || code == 0xA0 || code == 0x1680 ||
    (0x2000 ≤ code && code ≤ 0x200A) || code == 0x2028 || code == 0x2029 || code == 0x202F ||
    code == 0x205F || code == 0x3000

def trimStart (text : List Char) : List Char := text.dropWhile isBlank

def trimEnd (text : List Char) : List Char := (text.reverse.dropWhile isBlank).reverse

def trim (text : List Char) : List Char := trimEnd (trimStart text)

def cutAtBlank (text : List Char) : List Char × List Char :=
  (text.takeWhile (!isBlank ·), (text.dropWhile (!isBlank ·)).drop 1)

/-- The maximal runs of characters that are not blank, in order. -/
def words : List Char → List (List Char)
  | [] => []
  | character :: rest =>
    if isBlank character then words rest
    else match rest.head?, words rest with
      | some next, first :: others =>
        if isBlank next then [character] :: first :: others
        else (character :: first) :: others
      | _, found => [character] :: found

def isAllBlank (text : String) : Bool := text.toList.all isBlank

theorem trim_eq_nil_iff (text : List Char) : trim text = [] ↔ text.all isBlank = true := by
  have clear : ∀ part : List Char, part.dropWhile isBlank = [] ↔ part.all isBlank = true := by
    intro part
    induction part with
    | nil => simp
    | cons first rest ih => by_cases blank : isBlank first = true <;> simp [blank, ih]
  rw [trim, trimEnd, List.reverse_eq_nil_iff, clear, List.all_reverse, trimStart]
  constructor
  · intro rest
    induction text with
    | nil => rfl
    | cons first others ih =>
      by_cases blank : isBlank first = true
      · simp only [List.dropWhile_cons, blank, ↓reduceIte] at rest
        simp [blank, ih rest]
      · simp [blank] at rest
  · intro blank
    simp [(clear text).mpr blank]

namespace Hex

def digitValue? (digit : Char) : Option Nat :=
  if digit.isDigit then some (digit.toNat - '0'.toNat)
  else if 'a' ≤ digit ∧ digit ≤ 'f' then some (digit.toNat - 'a'.toNat + 10)
  else if 'A' ≤ digit ∧ digit ≤ 'F' then some (digit.toNat - 'A'.toNat + 10)
  else none

def read? (digits : List Char) : Option Nat :=
  (digits.mapM digitValue?).map fun values =>
    values.foldl (fun number value => 16 * number + value) 0

def readChar? (digits : List Char) : Option Char :=
  (read? digits).bind fun code => if code.isValidChar then some (.ofNat code) else none

end Hex
end ReplicatedSpace.Text
