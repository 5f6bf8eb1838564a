import ReplicatedSpace.Proofs.Literals
import ReplicatedSpace.Proofs.Records

/-!
What texts spell. A value has many texts: blanks may stand between its parts, a number may have a
fraction and an exponent, and a character of a text may be escaped, by its code in digits of any
case or by a pair of surrogates. What such a text has in it is a tree, in which a member may stand
more than once.
-/
namespace ReplicatedSpace.Json

/-- Blanks between the parts of a text, or nothing. -/
def IsGap (gap : List Char) : Prop := ∀ letter ∈ gap, isBlank letter = true

instance (gap : List Char) : Decidable (IsGap gap) :=
  decidable_of_iff (gap.all isBlank = true) List.all_eq_true

theorem IsGap.nil : IsGap [] := by
  intro letter found
  cases found

theorem IsGap.dropBlanks {gap : List Char} (blank : IsGap gap) (rest : List Char) :
    Json.dropBlanks (gap ++ rest) = Json.dropBlanks rest :=
  List.dropWhile_append_of_pos blank

theorem IsGap.dropBlanks_cons {gap : List Char} (blank : IsGap gap) {mark : Char}
    (visible : isBlank mark = false) (rest : List Char) :
    Json.dropBlanks (gap ++ mark :: rest) = mark :: rest := by
  rw [blank.dropBlanks, Json.dropBlanks_cons visible]

theorem IsGap.ends {gap : List Char} (blank : IsGap gap) {rest : List Char} (ends : Ends rest) :
    Ends (gap ++ rest) := by
  cases gap with
  | nil => exact ends
  | cons letter gap =>
    have isBlank : isBlank letter = true := blank letter List.mem_cons_self
    refine Ends.cons ?_ _
    simp only [Json.isBlank, Bool.or_eq_true, decide_eq_true_eq] at isBlank
    rcases isBlank with ((rfl | rfl) | rfl) | rfl <;> decide

/-- Four hexadecimal digits, and the code that they spell. -/
inductive IsHex : List Char → Nat → Prop
  | four {a b c d : Char} {first second third fourth : Nat}
      (isFirst : Text.Hex.digitValue? a = some first)
      (isSecond : Text.Hex.digitValue? b = some second)
      (isThird : Text.Hex.digitValue? c = some third)
      (isFourth : Text.Hex.digitValue? d = some fourth) :
      IsHex [a, b, c, d] (((first * 16 + second) * 16 + third) * 16 + fourth)

/-- What stands between quotes, and the characters that it stands for. -/
inductive Quoted : List Char → List Char → Prop
  | nil : Quoted [] []
  | plain {letter : Char} {spelled meant : List Char} (noQuote : letter ≠ '\x22')
      (noEscape : letter ≠ '\\') (noControl : ¬ letter.toNat < 0x20)
      (rest : Quoted spelled meant) : Quoted (letter :: spelled) (letter :: meant)
  | escape {mark letter : Char} {spelled meant : List Char} (stands : unescape? mark = some letter)
      (rest : Quoted spelled meant) : Quoted ('\\' :: mark :: spelled) (letter :: meant)
  | code {digits spelled meant : List Char} {code : Nat} (hex : IsHex digits code)
      (noHigh : isHighSurrogate code = false) (noLow : isLowSurrogate code = false)
      (rest : Quoted spelled meant) :
      Quoted ('\\' :: 'u' :: (digits ++ spelled)) (.ofNat code :: meant)
  | pair {first second spelled meant : List Char} {high low : Nat} (hex : IsHex first high)
      (isHigh : isHighSurrogate high = true) (hex' : IsHex second low)
      (isLow : isLowSurrogate low = true) (rest : Quoted spelled meant) :
      Quoted ('\\' :: 'u' :: (first ++ '\\' :: 'u' :: (second ++ spelled)))
        (joinSurrogates high low :: meant)

theorem readHex_of_isHex {digits : List Char} {code : Nat} (hex : IsHex digits code)
    (rest : List Char) : readHex (digits ++ rest) = .ok (code, rest) := by
  cases hex with
  | four isFirst isSecond isThird isFourth =>
    simp [readHex, List.mapM_cons, isFirst, isSecond, isThird, isFourth]

theorem ne_of_unescape? {mark letter : Char} (stands : unescape? mark = some letter) :
    mark ≠ 'u' := by
  rintro rfl
  cases stands

/-- A text is read to its closing quote, however it is spelled. -/
theorem Quoted.read {spelled meant : List Char} (quoted : Quoted spelled meant)
    (rest : List Char) : readQuoted (spelled ++ '\x22' :: rest) = .ok (meant, rest) := by
  induction quoted with
  | nil => rw [List.nil_append, readQuoted]
  | plain noQuote noEscape noControl _ ih =>
    rw [List.cons_append, readQuoted_of_plain noQuote noEscape noControl, ih]
    rfl
  | escape stands _ ih =>
    rw [List.cons_append, List.cons_append,
      readQuoted_of_unescape stands (ne_of_unescape? stands), ih]
    rfl
  | @code digits spelled meant code hex noHigh noLow _ ih =>
    have escaped : readEscape ('u' :: (digits ++ (spelled ++ '\x22' :: rest))) =
        .ok (.ofNat code, spelled ++ '\x22' :: rest) := by
      simp [readEscape, readHex_of_isHex hex, noHigh, noLow]
    rw [List.cons_append, List.cons_append, List.append_assoc, readQuoted_of_escape escaped, ih]
    rfl
  | @pair first second spelled meant high low hex isHigh hex' isLow _ ih =>
    have noLow : isLowSurrogate high = false := by
      simp only [isHighSurrogate, isLowSurrogate, Bool.and_eq_true, decide_eq_true_eq,
        Bool.and_eq_false_imp, decide_eq_false_iff_not] at isHigh ⊢
      omega
    have escaped : readEscape
        ('u' :: (first ++ '\\' :: 'u' :: (second ++ (spelled ++ '\x22' :: rest)))) =
          .ok (joinSurrogates high low, spelled ++ '\x22' :: rest) := by
      simp [readEscape, readLow, readHex_of_isHex hex, readHex_of_isHex hex', isHigh, noLow, isLow]
    have shift : '\\' :: 'u' :: (first ++ '\\' :: 'u' :: (second ++ spelled)) ++ '\x22' :: rest =
        '\\' :: 'u' :: (first ++ '\\' :: 'u' :: (second ++ (spelled ++ '\x22' :: rest))) := by
      simp
    rw [shift, readQuoted_of_escape escaped, ih]
    rfl

namespace Number

/-- Digits before the point: a zero alone, or digits without a zero in front. -/
def IsWhole (digits : List Char) : Prop :=
  digits ≠ [] ∧ (∀ digit ∈ digits, digit.isDigit = true) ∧
    (digits.head? = some '0' → digits = ['0'])

/-- The digits behind a point, and how they are spelled. -/
inductive Fraction : List Char → List Char → Prop
  | none : Fraction [] []
  | digits {digits : List Char} (present : digits ≠ [])
      (numbers : ∀ digit ∈ digits, digit.isDigit = true) : Fraction digits ('.' :: digits)

/-- A power of ten, and how it is spelled. -/
inductive Power : Option Int → List Char → Prop
  | none : Power none []
  | plain {mark : Char} {digits : List Char} (isMark : mark = 'e' ∨ mark = 'E')
      (present : digits ≠ []) (numbers : ∀ digit ∈ digits, digit.isDigit = true) :
      Power (some (Decimal.readDigits 0 digits)) (mark :: digits)
  | signed {mark : Char} {digits : List Char} (isMark : mark = 'e' ∨ mark = 'E') (negative : Bool)
      (present : digits ≠ []) (numbers : ∀ digit ∈ digits, digit.isDigit = true) :
      Power (some (if negative then -(Decimal.readDigits 0 digits : Int)
        else Decimal.readDigits 0 digits))
        (mark :: (if negative then '-' else '+') :: digits)

/-- How a number is spelled behind its sign. -/
inductive Unsigned : Number → List Char → Prop
  | mk {negative : Bool} {whole fraction point power : List Char} {exponent : Option Int}
      (isWhole : IsWhole whole) (isFraction : Fraction fraction point)
      (isPower : Power exponent power) :
      Unsigned ⟨negative, whole, fraction, exponent.getD 0, fraction.isEmpty && exponent.isNone⟩
        (whole ++ (point ++ power))

/-- How a number is spelled. -/
inductive Spelled : Number → List Char → Prop
  | positive {number : Number} {text : List Char} (noSign : number.negative = false)
      (unsigned : Unsigned number text) : Spelled number text
  | negative {number : Number} {text : List Char} (sign : number.negative = true)
      (unsigned : Unsigned number text) : Spelled number ('-' :: text)

theorem readWhole_of_isWhole (cut : Fault) {digits : List Char} (isWhole : IsWhole digits)
    {rest : List Char} (stop : rest.head?.any Char.isDigit = false) :
    readWhole cut (digits ++ rest) = .ok (digits, rest) := by
  obtain ⟨present, numbers, zero⟩ := isWhole
  cases digits with
  | nil => exact (present rfl).elim
  | cons digit others =>
    by_cases isZero : digit = '0'
    · subst isZero
      obtain ⟨-, rfl⟩ := List.cons.inj (zero rfl)
      simp [readWhole, stop]
    · have isDigit := numbers digit List.mem_cons_self
      obtain ⟨taken, left⟩ :=
        Decimal.take_digits (fun other found => numbers other (List.mem_cons_of_mem _ found)) stop
      simp [readWhole, isZero, isDigit, taken, left]

theorem readDigits_of_digits (cut : Fault) {digits : List Char} (present : digits ≠ [])
    (numbers : ∀ digit ∈ digits, digit.isDigit = true) {rest : List Char}
    (stop : rest.head?.any Char.isDigit = false) :
    readDigits cut (digits ++ rest) = .ok (digits, rest) := by
  obtain ⟨taken, left⟩ := Decimal.take_digits numbers stop
  obtain ⟨digit, others, rfl⟩ := List.exists_cons_of_ne_nil present
  have isDigit := numbers digit List.mem_cons_self
  rw [List.cons_append] at taken left ⊢
  simp [readDigits, isDigit, taken, left]

theorem Fraction.read (cut : Fault) {digits point : List Char} (isFraction : Fraction digits point)
    {rest : List Char} (stop : rest.head?.any Char.isDigit = false)
    (noPoint : rest.head? ≠ Option.some '.') :
    readFraction cut (point ++ rest) = .ok (digits, rest) := by
  cases isFraction with
  | none => rw [List.nil_append, readFraction, if_neg noPoint]
  | digits present numbers =>
    simp [readFraction, readDigits_of_digits cut present numbers stop]

theorem Power.read (cut : Fault) {exponent : Option Int} {power : List Char}
    (isPower : Power exponent power) {rest : List Char} (ends : Ends rest) :
    readExponent cut (power ++ rest) = .ok (exponent, rest) := by
  obtain ⟨stop, -, noMark⟩ := ends.head?
  cases isPower with
  | none => rw [List.nil_append, readExponent, if_neg noMark]
  | @plain mark digits isMark present numbers =>
    have unsigned : Decimal.takeSign (digits ++ rest) = (false, digits ++ rest) := by
      obtain ⟨digit, others, rfl⟩ := List.exists_cons_of_ne_nil present
      exact Decimal.takeSign_of_isDigit (numbers digit List.mem_cons_self) _
    simp [readExponent, isMark, unsigned, readDigits_of_digits cut present numbers stop]
  | @signed mark digits isMark negative present numbers =>
    have signed : Decimal.takeSign ((if negative then '-' else '+') :: (digits ++ rest)) =
        (negative, digits ++ rest) := by
      cases negative <;> rfl
    simp [readExponent, isMark, signed, readDigits_of_digits cut present numbers stop]

theorem Power.stops {exponent : Option Int} {power : List Char} (isPower : Power exponent power)
    {rest : List Char} (ends : Ends rest) :
    (power ++ rest).head?.any Char.isDigit = false ∧ (power ++ rest).head? ≠ some '.' := by
  cases isPower with
  | none => exact ⟨ends.head?.1, ends.head?.2.1⟩
  | plain isMark => rcases isMark with rfl | rfl <;> simp
  | signed isMark => rcases isMark with rfl | rfl <;> simp

theorem Unsigned.read (cut : Fault) {number : Number} {text : List Char}
    (unsigned : Unsigned number text) {rest : List Char} (ends : Ends rest) :
    Number.read cut number.negative (text ++ rest) = .ok (number, rest) := by
  cases unsigned with
  | @mk negative whole fraction point power exponent isWhole isFraction isPower =>
    obtain ⟨stop, noPoint⟩ := isPower.stops ends
    have stop' : (point ++ (power ++ rest)).head?.any Char.isDigit = false := by
      cases isFraction with
      | none => exact stop
      | digits => rfl
    rw [List.append_assoc, List.append_assoc]
    simp [Number.read, readWhole_of_isWhole cut isWhole stop', isFraction.read cut stop noPoint,
      isPower.read cut ends]

end Number

/-- What a text has in it: a value with all its parts in their order. -/
inductive Tree
  | null
  | boolean (value : Bool)
  | number (value : Number)
  | text (content : String)
  | array (items : List Tree)
  | object (members : List (String × Tree))

/-- A part of a tree: a value, or what is left of an array or an object. -/
inductive Part
  | value (tree : Tree)
  | items (first : Bool) (items : List Tree)
  | members (first : Bool) (members : List (String × Tree))

/-- What stands in front of a part: blanks, and a comma unless it is the first. -/
inductive Leads : Bool → List Char → Prop
  | first {gap : List Char} (blank : IsGap gap) : Leads true gap
  | further {gap gap' : List Char} (blank : IsGap gap) (blank' : IsGap gap') :
      Leads false (gap ++ ',' :: gap')

/-- The grammar of texts. What is left of an array or an object has its closing bracket. -/
inductive Spelled : Part → List Char → Prop
  | null : Spelled (.value .null) "null".toList
  | boolean (value : Bool) :
      Spelled (.value (.boolean value)) (if value then "true" else "false").toList
  | number {number : Number} {text : List Char} (spelled : number.Spelled text) :
      Spelled (.value (.number number)) text
  | text {content : String} {spelled : List Char} (quoted : Quoted spelled content.toList) :
      Spelled (.value (.text content)) ('\x22' :: (spelled ++ ['\x22']))
  | array {items : List Tree} {text : List Char} (inside : Spelled (.items true items) text) :
      Spelled (.value (.array items)) ('[' :: text)
  | object {members : List (String × Tree)} {text : List Char}
      (inside : Spelled (.members true members) text) :
      Spelled (.value (.object members)) ('\x7b' :: text)
  | endItems {first : Bool} {gap : List Char} (blank : IsGap gap) :
      Spelled (.items first []) (gap ++ [']'])
  | item {first : Bool} {lead text rest : List Char} {tree : Tree} {items : List Tree}
      (leads : Leads first lead) (value : Spelled (.value tree) text)
      (further : Spelled (.items false items) rest) :
      Spelled (.items first (tree :: items)) (lead ++ (text ++ rest))
  | endMembers {first : Bool} {gap : List Char} (blank : IsGap gap) :
      Spelled (.members first []) (gap ++ ['\x7d'])
  | member {first : Bool} {lead spelled gap gap' text rest : List Char} {name : String}
      {tree : Tree} {members : List (String × Tree)} (leads : Leads first lead)
      (quoted : Quoted spelled name.toList) (blank : IsGap gap) (blank' : IsGap gap')
      (value : Spelled (.value tree) text) (further : Spelled (.members false members) rest) :
      Spelled (.members first ((name, tree) :: members))
        (lead ++ '\x22' :: (spelled ++ '\x22' :: (gap ++ ':' :: (gap' ++ (text ++ rest)))))

theorem member_append (lead spelled gap gap' text further rest : List Char) :
    lead ++ '\x22' :: (spelled ++ '\x22' :: (gap ++ ':' :: (gap' ++ (text ++ further)))) ++ rest =
      lead ++ '\x22' :: (spelled ++ '\x22' :: (gap ++ ':' ::
        (gap' ++ (text ++ (further ++ rest))))) := by
  simp

section Tokens

variable {gap lead text rest : List Char} {mark : Char} {first : Bool}

theorem takeMark_of_gap (blank : IsGap gap) (visible : isBlank mark = false) :
    takeMark mark (gap ++ mark :: rest) = .ok rest := by
  rw [takeMark, blank.dropBlanks_cons visible]
  exact if_pos rfl

theorem behindBracket_of_gap (blank : IsGap gap) (visible : isBlank mark = false) :
    behindBracket (gap ++ mark :: rest) = rest := by
  rw [behindBracket, blank.dropBlanks_cons visible]
  rfl

theorem nextItem_of_end (blank : IsGap gap) : nextItem first (gap ++ ']' :: rest) = .ok none := by
  rw [nextItem, blank.dropBlanks_cons (by decide)]
  rfl

theorem nextName_of_end (blank : IsGap gap) :
    nextName first (gap ++ '\x7d' :: rest) = .ok none := by
  rw [nextName, blank.dropBlanks_cons (by decide)]
  rfl

theorem Leads.nextName (leads : Leads first lead) :
    Json.nextName first (lead ++ '\x22' :: rest) = .ok (some rest) := by
  have quote : isBlank '\x22' = false := by decide
  cases leads with
  | first blank => simp [Json.nextName, blank.dropBlanks_cons quote]
  | @further gap gap' blank blank' =>
    have comma : isBlank ',' = false := by decide
    rw [List.append_assoc, List.cons_append]
    simp [Json.nextName, blank.dropBlanks_cons comma, blank'.dropBlanks_cons quote]

end Tokens

/-- The characters that the texts of a tree begin with. -/
def Tree.Begins : Tree → Char → Prop
  | null, mark => mark = 'n'
  | boolean value, mark => mark = if value then 't' else 'f'
  | number value, mark => if value.negative then mark = '-' else mark.isDigit = true
  | text _, mark => mark = '\x22'
  | array _, mark => mark = '['
  | object _, mark => mark = '\x7b'

theorem Tree.Begins.visible {tree : Tree} {mark : Char} (begins : tree.Begins mark) :
    isBlank mark = false ∧ mark ≠ ']' := by
  cases tree with
  | number number =>
    simp only [Begins] at begins
    split at begins
    · subst begins
      decide
    · refine ⟨isBlank_of_isDigit begins, ?_⟩
      rintro rfl
      cases begins
  | boolean value =>
    cases value with
    | true => exact (show mark = 't' from begins) ▸ by decide
    | false => exact (show mark = 'f' from begins) ▸ by decide
  | null => exact (show mark = 'n' from begins) ▸ by decide
  | text => exact (show mark = '\x22' from begins) ▸ by decide
  | array => exact (show mark = '[' from begins) ▸ by decide
  | object => exact (show mark = '\x7b' from begins) ▸ by decide

theorem Tree.Begins.ne_of_number {value : Number} {mark other : Char}
    (begins : (number value).Begins mark) (noMinus : other ≠ '-')
    (noDigit : other.isDigit = false) : mark ≠ other := by
  rintro rfl
  simp only [Begins] at begins
  split at begins
  · exact noMinus begins
  · cases noDigit.symm.trans begins

theorem Spelled.begins {tree : Tree} {text : List Char} (spelled : Spelled (.value tree) text) :
    ∃ mark rest, text = mark :: rest ∧ tree.Begins mark := by
  cases spelled with
  | null => exact ⟨_, _, rfl, rfl⟩
  | boolean value => cases value <;> exact ⟨_, _, rfl, rfl⟩
  | number spelled =>
    cases spelled with
    | positive noSign unsigned =>
      cases unsigned with
      | mk isWhole =>
        obtain ⟨present, numbers, -⟩ := isWhole
        obtain ⟨digit, others, rfl⟩ := List.exists_cons_of_ne_nil present
        have isDigit := numbers digit List.mem_cons_self
        dsimp only at noSign
        exact ⟨digit, _, rfl, by simpa [Tree.Begins, noSign] using isDigit⟩
    | negative sign => exact ⟨'-', _, rfl, by simp [Tree.Begins, sign]⟩
  | text => exact ⟨_, _, rfl, rfl⟩
  | array => exact ⟨_, _, rfl, rfl⟩
  | object => exact ⟨_, _, rfl, rfl⟩

theorem Spelled.start {tree : Tree} {text gap : List Char} (spelled : Spelled (.value tree) text)
    (blank : IsGap gap) (rest : List Char) :
    ∃ mark more, text = mark :: more ∧ tree.Begins mark ∧
      Json.dropBlanks (gap ++ (text ++ rest)) = mark :: (more ++ rest) := by
  obtain ⟨mark, more, rfl, begins⟩ := spelled.begins
  exact ⟨mark, more, rfl, begins, blank.dropBlanks_cons begins.visible.1 _⟩

theorem Leads.nextItem {first : Bool} {lead text : List Char} {tree : Tree}
    (leads : Leads first lead) (spelled : Spelled (.value tree) text) (rest : List Char) :
    Json.nextItem first (lead ++ (text ++ rest)) = .ok (some (text ++ rest)) := by
  obtain ⟨mark, more, rfl, begins⟩ := spelled.begins
  obtain ⟨visible, noEnd⟩ := begins.visible
  cases leads with
  | first blank => simp [Json.nextItem, blank.dropBlanks_cons visible, noEnd]
  | @further gap gap' blank blank' =>
    have comma : isBlank ',' = false := by decide
    rw [List.append_assoc, List.cons_append]
    simp [Json.nextItem, blank.dropBlanks_cons comma, blank'.dropBlanks_cons visible, noEnd]

theorem Leads.takeMark {first : Bool} {lead text : List Char} {tree : Tree}
    (leads : Leads first lead) (spelled : Spelled (.value tree) text) (rest : List Char) :
    Json.takeMark ']' (lead ++ (text ++ rest)) = .error .malformed := by
  obtain ⟨mark, more, rfl, begins⟩ := spelled.begins
  obtain ⟨visible, noEnd⟩ := begins.visible
  cases leads with
  | first blank => simp [Json.takeMark, blank.dropBlanks_cons visible, noEnd]
  | @further gap gap' blank blank' =>
    have comma : isBlank ',' = false := by decide
    rw [List.append_assoc, List.cons_append]
    simp [Json.takeMark, blank.dropBlanks_cons comma]

theorem Spelled.ends_items {items : List Tree} {text : List Char}
    (spelled : Spelled (.items false items) text) (rest : List Char) : Ends (text ++ rest) := by
  cases spelled with
  | endItems blank =>
    rw [List.append_assoc]
    exact blank.ends (Ends.cons (by decide) _)
  | item leads =>
    cases leads with
    | further blank =>
      rw [List.append_assoc, List.append_assoc]
      exact blank.ends (Ends.cons (by decide) _)

theorem Spelled.ends_members {members : List (String × Tree)} {text : List Char}
    (spelled : Spelled (.members false members) text) (rest : List Char) : Ends (text ++ rest) := by
  cases spelled with
  | endMembers blank =>
    rw [List.append_assoc]
    exact blank.ends (Ends.cons (by decide) _)
  | member leads =>
    cases leads with
    | further blank =>
      rw [List.append_assoc, List.append_assoc]
      exact blank.ends (Ends.cons (by decide) _)

/-- Whether a value of that tree is over where the rest begins: a number might go on. -/
def Tree.Stops : Tree → List Char → Prop
  | number _, rest => Ends rest
  | null, _ | boolean _, _ | text _, _ | array _, _ | object _, _ => True

theorem Ends.stops {rest : List Char} (ends : Ends rest) (tree : Tree) : tree.Stops rest := by
  cases tree with
  | number => exact ends
  | _ => trivial

end ReplicatedSpace.Json
