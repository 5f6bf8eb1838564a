import ReplicatedSpace.Decimal.Binary64
import ReplicatedSpace.Json.Token

/-!
Numbers in JSON texts. The digits are kept as they are written. A number is out of range when its
leading digits, as many as fill a word of 64 bits, times the power of ten that remains, exceed the
doubles.
-/
namespace ReplicatedSpace.Json

/-- A number as written. -/
structure Number where
  negative : Bool
  whole : List Char
  fraction : List Char
  exponent : Int
  isInteger : Bool

namespace Number

/-- The digits before the point: a zero alone, or digits without a leading zero. A text that ends
here has the fault `cut`. -/
def readWhole (cut : Fault) : List Char → Parsed (List Char)
  | [] => .error cut
  | digit :: rest =>
    if digit = '0' then
      if rest.head?.any Char.isDigit then .error .malformed else .ok (['0'], rest)
    else if digit.isDigit then
      .ok (digit :: rest.takeWhile Char.isDigit, rest.dropWhile Char.isDigit)
    else .error .malformed

/-- At least one digit, where one has to stand. -/
def readDigits (cut : Fault) (text : List Char) : Parsed (List Char) :=
  match text with
  | [] => .error cut
  | digit :: _ =>
    if digit.isDigit then .ok (text.takeWhile Char.isDigit, text.dropWhile Char.isDigit)
    else .error .malformed

def readFraction (cut : Fault) (text : List Char) : Parsed (List Char) :=
  if text.head? = some '.' then readDigits cut (text.drop 1) else .ok ([], text)

/-- The power of ten, if there is an exponent mark. -/
def readExponent (cut : Fault) (text : List Char) : Parsed (Option Int) :=
  if text.head? = some 'e' ∨ text.head? = some 'E' then
    let (negative, digits) := Decimal.takeSign (text.drop 1)
    match readDigits cut digits with
    | .error fault => .error fault
    | .ok (found, rest) =>
      let size : Int := Decimal.readDigits 0 found
      .ok (some (if negative then -size else size), rest)
  else .ok (none, text)

/-- A number from behind its sign. -/
def read (cut : Fault) (negative : Bool) (text : List Char) : Parsed Number :=
  match readWhole cut text with
  | .error fault => .error fault
  | .ok (whole, behindWhole) =>
    match readFraction cut behindWhole with
    | .error fault => .error fault
    | .ok (fraction, behindFraction) =>
      match readExponent cut behindFraction with
      | .error fault => .error fault
      | .ok (exponent, rest) =>
        let isInteger := fraction.isEmpty && exponent.isNone
        .ok (⟨negative, whole, fraction, exponent.getD 0, isInteger⟩, rest)

def wordLimit : Nat := UInt64.size - 1

/-- Takes a digit before the point into the significand while it fits, and counts it otherwise. -/
def takeWhole : Nat × Int × Bool → Char → Nat × Int × Bool
  | (significand, dropped, full), digit =>
    let next := 10 * significand + Decimal.digitValue digit
    if full || wordLimit < next then (significand, dropped + 1, true) else (next, dropped, false)

def takeFraction : Nat × Int × Bool → Char → Nat × Int × Bool
  | (significand, scale, full), digit =>
    let next := 10 * significand + Decimal.digitValue digit
    if full || wordLimit < next then (significand, scale, true) else (next, scale - 1, false)

def scaled (number : Number) : Nat × Int :=
  let (significand, dropped, _) := number.whole.foldl takeWhole (0, 0, false)
  let (significand, scale, _) := number.fraction.foldl takeFraction (significand, dropped, false)
  (significand, scale + number.exponent)

def rangeLimit : Nat := Nat.pow 2 1024 - Nat.pow 2 970

def isOutOfRange (number : Number) : Bool :=
  let (significand, scale) := number.scaled
  if significand = 0 then false
  else if 308 < scale then true
  else if scale < 0 then false
  else decide (rangeLimit ≤
    Decimal.Binary64.roundUnits significand 1 *
      Decimal.Binary64.roundUnits (Nat.pow 10 scale.toNat) 1)

def natural? (number : Number) : Option Nat :=
  if number.isInteger && !number.negative then some (Decimal.readDigits 0 number.whole) else none

theorem length_readWhole_lt {cut : Fault} {text digits rest : List Char}
    (found : readWhole cut text = .ok (digits, rest)) : rest.length < text.length := by
  unfold readWhole at found
  split at found
  · simp at found
  · rename_i digit tail
    split at found
    · split at found
      · simp at found
      · cases found; simp
    · split at found
      · simp only [Except.ok.injEq, Prod.mk.injEq] at found
        obtain ⟨_, rfl⟩ := found
        have := (List.dropWhile_sublist (l := tail) Char.isDigit).length_le
        simp only [List.length_cons]; omega
      · simp at found

theorem length_readDigits_le {cut : Fault} {text digits rest : List Char}
    (found : readDigits cut text = .ok (digits, rest)) : rest.length ≤ text.length := by
  unfold readDigits at found
  split at found
  · simp at found
  · split at found
    · simp only [Except.ok.injEq, Prod.mk.injEq] at found
      obtain ⟨_, rfl⟩ := found
      exact (List.dropWhile_sublist _).length_le
    · simp at found

theorem length_readFraction_le {cut : Fault} {text digits rest : List Char}
    (found : readFraction cut text = .ok (digits, rest)) : rest.length ≤ text.length := by
  unfold readFraction at found
  split at found
  · have := length_readDigits_le found
    simp only [List.length_drop] at this
    omega
  · simp only [Except.ok.injEq, Prod.mk.injEq] at found
    obtain ⟨_, rfl⟩ := found
    exact Nat.le_refl _

theorem length_takeSign_le (text : List Char) : (Decimal.takeSign text).2.length ≤ text.length := by
  unfold Decimal.takeSign
  split <;> simp

theorem length_readExponent_le {cut : Fault} {text rest : List Char} {exponent : Option Int}
    (found : readExponent cut text = .ok (exponent, rest)) : rest.length ≤ text.length := by
  simp only [readExponent] at found
  split at found
  · split at found
    · simp at found
    · rename_i digits behind read
      have shorter := length_readDigits_le read
      have signed := length_takeSign_le (text.drop 1)
      simp only [List.length_drop] at signed
      simp only [Except.ok.injEq, Prod.mk.injEq] at found
      obtain ⟨_, rfl⟩ := found
      omega
  · simp only [Except.ok.injEq, Prod.mk.injEq] at found
    obtain ⟨_, rfl⟩ := found
    exact Nat.le_refl _

theorem length_read_lt {cut : Fault} {negative : Bool} {text rest : List Char} {number : Number}
    (found : read cut negative text = .ok (number, rest)) : rest.length < text.length := by
  unfold read at found
  split at found
  · simp at found
  · rename_i whole
    have first := length_readWhole_lt whole
    split at found
    · simp at found
    · rename_i fraction
      have second := length_readFraction_le fraction
      split at found
      · simp at found
      · rename_i exponent
        have third := length_readExponent_le exponent
        simp only [Except.ok.injEq, Prod.mk.injEq] at found
        obtain ⟨_, rfl⟩ := found
        omega

end Number

def readNumber (negative : Bool) (text : List Char) : Parsed Number :=
  match Number.read .truncated negative text with
  | .error fault => .error fault
  | .ok (number, rest) =>
    if number.isOutOfRange then .error .malformed else .ok (number, rest)

theorem length_readNumber_lt {negative : Bool} {text rest : List Char} {number : Number}
    (found : readNumber negative text = .ok (number, rest)) : rest.length < text.length := by
  unfold readNumber at found
  split at found
  · simp at found
  · rename_i read
    have shorter := Number.length_read_lt read
    split at found
    · simp at found
    · simp only [Except.ok.injEq, Prod.mk.injEq] at found
      obtain ⟨_, rfl⟩ := found
      exact shorter

end ReplicatedSpace.Json
