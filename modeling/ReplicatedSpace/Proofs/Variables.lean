import ReplicatedSpace.Proofs.FieldLayers
import ReplicatedSpace.Proofs.Lookups
import ReplicatedSpace.Proofs.Printing

/-!
Fields that hold texts, and the variables that set them. A variable's text is read as a truth value,
an integer or a fraction where it spells one, and the field has what is printed for that; every
other text is in the field as it is. What the field has is what the name server is asked for.
-/
namespace ReplicatedSpace.Settings

open Decimal

/-- A text that spells a truth value, in any case. -/
def IsTruth (text : String) : Prop := lowered text = "true" ∨ lowered text = "false"

instance : DecidablePred IsTruth := fun text =>
  inferInstanceAs (Decidable (lowered text = "true" ∨ lowered text = "false"))

/-- What is printed for the scalar that a text spells, or the text itself. -/
def printed (text : String) : String :=
  if IsTruth text then lowered text
  else match readInteger? text.toList, Literal.read? text.toList with
    | some value, _ => toString value
    | none, some literal => (Binary64.ofLiteral literal).render
    | none, none => text

theorem asText?_integer (value : Int) : asText? (.integer value) = some (toString value) := by
  rw [Int.toString_eq_repr, Int.repr_eq_if, asText?]
  by_cases negative : value < 0
  · have size : (-value).toNat = value.natAbs := by omega
    simp [negative, size, Int.not_le.mpr negative]
  · have size : value.toNat = value.natAbs := by omega
    simp [negative, size]

theorem asText?_ofVariable (text : String) : asText? (ofVariable text) = some (printed text) := by
  by_cases yes : lowered text = "true"
  · simp [ofVariable, printed, IsTruth, asText?, yes]
  by_cases no : lowered text = "false"
  · simp [ofVariable, printed, IsTruth, asText?, no]
  rw [ofVariable, if_neg yes, if_neg no, printed, if_neg (by simp [IsTruth, yes, no])]
  cases readInteger? text.toList with
  | some value => exact asText?_integer value
  | none => cases Literal.read? text.toList <;> rfl

theorem digits_of_readInteger? {text : List Char} {value : Int}
    (read : readInteger? text = some value) :
    (takeSign text).2 ≠ [] ∧ (∀ digit ∈ (takeSign text).2, digit.isDigit = true) ∧
      value = if (takeSign text).1 then -(readDigits 0 (takeSign text).2 : Int)
        else readDigits 0 (takeSign text).2 := by
  simp only [readInteger?] at read
  split at read
  · cases read
  · rename_i digits
    rw [Option.ite_none_right_eq_some] at read
    simp only [Bool.or_eq_true, List.isEmpty_iff, Bool.not_eq_true', not_or, Bool.not_eq_false,
      List.all_eq_true] at digits
    exact ⟨digits.1, digits.2, (Option.some.inj read.2).symm⟩

theorem isNumeric_of_readInteger? {text : List Char} {value : Int}
    (read : readInteger? text = some value) : ∀ letter ∈ text, isNumeric letter = true := by
  obtain ⟨_, digits, _⟩ := digits_of_readInteger? read
  intro letter found
  rcases mem_of_takeSign found with found | rfl | rfl
  · exact isNumeric_of_isDigit (digits letter found)
  · rfl
  · rfl

/-- A truth value begins with a letter that no number has in it. -/
theorem IsTruth.first {text : String} (truth : IsTruth text) :
    ∃ first rest, text.toList = first :: rest ∧ isNumeric first = false := by
  have strange {letter : Char} (lower : letter.toLower = 't' ∨ letter.toLower = 'f') :
      isNumeric letter = false := by
    rw [Bool.eq_false_iff]
    intro numeric
    rcases Bool.or_eq_true .. ▸ numeric with digit | mark
    · have bounds : 48 ≤ letter.toNat ∧ letter.toNat ≤ 57 := by
        simpa [Char.isDigit, UInt32.le_iff_toNat_le] using digit
      have same : letter.toLower = letter := by
        refine dif_neg fun between => ?_
        have : 65 ≤ letter.toNat := by
          simpa [UInt32.le_iff_toNat_le] using between.1
        omega
      rw [same] at lower
      rcases lower with rfl | rfl <;> cases digit
    · have others : ['+', '-', '.', 'e', 'E'].all
          (fun mark => mark.toLower != 't' && mark.toLower != 'f') = true := by decide
      have other := List.all_eq_true.mp others letter (List.contains_iff_mem.mp mark)
      rcases lower with lower | lower <;> simp [lower] at other
  have letters : text.toList.map Char.toLower = "true".toList ∨
      text.toList.map Char.toLower = "false".toList := by
    rcases truth with same | same
    · exact .inl (by rw [← same, lowered, String.toList_ofList])
    · exact .inr (by rw [← same, lowered, String.toList_ofList])
  cases spelled : text.toList with
  | nil =>
    rw [spelled] at letters
    rcases letters with none | none <;> cases none
  | cons first rest =>
    rw [spelled] at letters
    refine ⟨first, rest, rfl, strange ?_⟩
    rcases letters with same | same
    · exact .inl (List.cons.inj same).1
    · exact .inr (List.cons.inj same).1

theorem IsTruth.unread {text : String} (truth : IsTruth text) :
    readInteger? text.toList = none ∧ Literal.read? text.toList = none := by
  obtain ⟨first, rest, spelled, strange⟩ := truth.first
  have present : first ∈ text.toList := spelled ▸ List.mem_cons_self
  constructor
  · refine Option.eq_none_iff_forall_ne_some.mpr fun value read => ?_
    cases strange.symm.trans (isNumeric_of_readInteger? read first present)
  · refine Option.eq_none_iff_forall_ne_some.mpr fun literal read => ?_
    rcases Literal.letters_of_read? read with word | ⟨_, numeric⟩
    · have unsigned : (takeSign text.toList).2 = text.toList := by
        rw [spelled]
        unfold takeSign
        split
        · rename_i same
          cases (List.cons.inj same).1
          cases strange
        · rename_i same
          cases (List.cons.inj same).1
          cases strange
        · rfl
      rw [unsigned] at word
      have lower : lowered text ∈ ["inf", "infinity", "nan"] := by
        have listed := List.contains_iff_mem.mp word
        simp only [List.mem_cons, List.not_mem_nil, or_false] at listed
        rcases listed with same | same | same <;> simp [lowered, same]
      rcases truth with same | same <;> simp [same] at lower
    · cases strange.symm.trans (numeric first present)

theorem printed_of_letter {text : String} {letter : Char} (found : letter ∈ text.toList)
    (strange : isNumeric letter = false) (word : isNumberWord (takeSign text.toList).2 = false)
    (truth : ¬ IsTruth text) : printed text = text := by
  rw [printed, if_neg truth]
  cases integer : readInteger? text.toList with
  | some value => cases strange.symm.trans (isNumeric_of_readInteger? integer letter found)
  | none =>
    cases fraction : Literal.read? text.toList with
    | some literal =>
      rcases Literal.letters_of_read? fraction with word' | ⟨_, numeric⟩
      · cases word.symm.trans word'
      · cases strange.symm.trans (numeric letter found)
    | none => rfl

theorem printed_of_truth {text : String} (truth : IsTruth text) : printed text = lowered text :=
  if_pos truth

theorem printed_of_integer {text : String} {value : Int}
    (read : readInteger? text.toList = some value) : printed text = toString value := by
  have untrue : ¬ IsTruth text := fun truth => by
    cases truth.unread.1.symm.trans read
  rw [printed, if_neg untrue, read]

theorem printed_of_fraction {text : String} {literal : Literal}
    (noInteger : readInteger? text.toList = none)
    (read : Literal.read? text.toList = some literal) :
    printed text = (Binary64.ofLiteral literal).render := by
  have untrue : ¬ IsTruth text := fun truth => by
    cases truth.unread.2.symm.trans read
  rw [printed, if_neg untrue, noInteger, read]

theorem toList_toString (negative : Bool) (size : Nat) :
    (toString (if negative then -(size : Int) else size)).toList =
      if negative = true ∧ size ≠ 0 then '-' :: Nat.toDigits 10 size
      else Nat.toDigits 10 size := by
  have shown := asText?_integer (if negative then -(size : Int) else size)
  rw [asText?, Option.some.injEq] at shown
  rw [← shown]
  cases negative with
  | true =>
    by_cases zero : size = 0
    · simp [zero]
    · simp [zero, Nat.pos_of_ne_zero zero]
  | false => simp [Int.not_lt.mpr (Int.natCast_nonneg size)]

/-- An integer is printed as it is unless it has a plus sign, a zero in front of other digits, or a
minus sign in front of a zero. -/
theorem printed_eq_self_iff_of_integer {text : String} {value : Int}
    (read : readInteger? text.toList = some value) :
    printed text = text ↔ text.toList.head? ≠ some '+' ∧
      ((takeSign text.toList).2.head? = some '0' → text = "0") := by
  obtain ⟨some, digits, same⟩ := digits_of_readInteger? read
  have back := toDigits_readDigits_iff some digits
  have zeroText : text = "0" ↔ text.toList = "0".toList := String.toList_inj.symm
  rw [printed_of_integer read, ← String.toList_inj, zeroText, same, toList_toString]
  clear read same zeroText
  generalize text.toList = letters at *
  have noSign (number : Nat) {sign : Char} {rest : List Char} (odd : sign.isDigit = false) :
      Nat.toDigits 10 number ≠ sign :: rest := by
    obtain ⟨first, others, printed, isDigit, _⟩ := Json.toDigits_cons number
    rw [printed]
    intro same
    cases (List.cons.inj same).1
    cases odd.symm.trans isDigit
  rcases takeSign_cases letters with ⟨rest, same, taken⟩ | ⟨rest, same, taken⟩ |
    ⟨noMinus, noPlus, taken⟩
  · subst same
    rw [taken] at some digits back ⊢
    by_cases zero : readDigits 0 rest = 0
    · obtain ⟨digit, others, same⟩ := List.exists_cons_of_ne_nil some
      have same : rest = digit :: others := same
      have first : digit = '0' :=
        readDigits_eq_zero zero digits digit (same ▸ List.mem_cons_self)
      rw [if_neg (fun both => both.2 zero)]
      constructor
      · intro printed
        exact (noSign _ rfl printed).elim
      · rintro ⟨-, alone⟩
        have impossible : '-' :: rest = "0".toList := alone (by rw [same, first]; rfl)
        cases impossible
    · have several : rest ≠ ['0'] := fun same => zero (same ▸ rfl)
      rw [if_pos ⟨rfl, zero⟩, List.cons.injEq, back]
      simp [several]
  · subst same
    rw [taken, if_neg (by simp)]
    simp [noSign (readDigits 0 rest) (show '+'.isDigit = false from rfl)]
  · rw [taken] at back ⊢
    rw [if_neg (by simp), back]
    simp [noPlus]

theorem printed_ne_self_of_fraction {text : String} {literal : Literal} {mark : Char}
    (noInteger : readInteger? text.toList = none) (read : Literal.read? text.toList = some literal)
    (marked : mark ∈ ['+', 'e', 'E']) (found : mark ∈ text.toList) : printed text ≠ text := by
  rw [printed_of_fraction noInteger read]
  intro same
  rw [← same] at found
  rcases (Binary64.ofLiteral literal).render_letters with word | ⟨_, plain⟩
  · have clear : ["NaN", "-inf", "inf"].all (fun word => ['+', 'e', 'E'].all fun mark =>
        !word.toList.contains mark) = true := by decide
    have own := List.all_eq_true.mp (List.all_eq_true.mp clear _ word) mark marked
    rw [List.contains_iff_mem.mpr found] at own
    cases own
  · have clear : ['+', 'e', 'E'].all (fun mark =>
        !mark.isDigit && mark != '.' && mark != '-') = true := by decide
    have own := List.all_eq_true.mp clear mark marked
    simp only [Bool.and_eq_true, Bool.not_eq_true', bne_iff_ne] at own
    rcases plain mark found with digit | point | minus
    · cases own.1.1.symm.trans digit
    · exact own.1.2 point
    · exact own.2 minus

theorem isAllBlank_of_mem {text : String} {letter : Char} (found : letter ∈ text.toList)
    (visible : Text.isBlank letter = false) : Text.isAllBlank text = false :=
  List.all_eq_false.mpr ⟨letter, found, by rw [visible]; exact Bool.false_ne_true⟩

theorem isAllBlank_toString (value : Int) : Text.isAllBlank (toString value) = false := by
  obtain ⟨digit, rest, digits, isDigit, -⟩ := Json.toDigits_cons value.natAbs
  have found : digit ∈ (toString value).toList := by
    have shown := asText?_integer value
    rw [asText?, Option.some.injEq] at shown
    rw [← shown]
    split <;> simp [digits]
  exact isAllBlank_of_mem found (isBlank_of_isNumeric (isNumeric_of_isDigit isDigit))

theorem isAllBlank_render (value : Binary64) : Text.isAllBlank value.render = false := by
  rcases value.render_letters with word | ⟨some, plain⟩
  · have clear : ["NaN", "-inf", "inf"].all (!Text.isAllBlank ·) = true := by decide
    simpa using List.all_eq_true.mp clear _ word
  · obtain ⟨first, rest, same⟩ := List.exists_cons_of_ne_nil some
    have found : first ∈ value.render.toList := same ▸ List.mem_cons_self
    refine isAllBlank_of_mem found (isBlank_of_isNumeric ?_)
    rcases plain first found with digit | rfl | rfl
    · exact isNumeric_of_isDigit digit
    · rfl
    · rfl

theorem isAllBlank_printed {text : String} (visible : Text.isAllBlank text = false) :
    Text.isAllBlank (printed text) = false := by
  by_cases truth : IsTruth text
  · rw [printed_of_truth truth]
    rcases truth with same | same
    · rw [same]
      decide
    · rw [same]
      decide
  cases integer : readInteger? text.toList with
  | some value =>
    rw [printed_of_integer integer]
    exact isAllBlank_toString value
  | none =>
    cases fraction : Literal.read? text.toList with
    | some literal =>
      rw [printed_of_fraction integer fraction]
      exact isAllBlank_render _
    | none =>
      rw [printed, if_neg truth, integer, fraction]
      exact visible

namespace Field

/-- Whether a field holds a text, if it holds anything. -/
def holdsText : Field → Bool
  | serviceName | qualifier | nameServer | sequencer | logLevel => true
  | retries | staggerMillis => false

/-- Whether a field must not be blank. -/
def isNeeded : Field → Bool
  | serviceName | nameServer | sequencer => true
  | qualifier | retries | staggerMillis | logLevel => false

/-- Settings with that text in a field, and all others as they were. -/
def withText (field : Field) (text : String) (settings : Settings) : Settings :=
  match field with
  | serviceName => { settings with serviceName := text }
  | qualifier => { settings with qualifier := some text }
  | nameServer => { settings with nameServer := text }
  | sequencer => { settings with sequencer := text }
  | logLevel => { settings with logLevel := text }
  | retries | staggerMillis => settings

variable {field : Field} {text : String} {settings : Settings}

theorem of_withText_of_ne {other : Field} (apart : other ≠ field) :
    other.of (field.withText text settings) = other.of settings := by
  cases field <;> cases other <;> first | rfl | exact (apart rfl).elim

theorem convert?_ofVariable (holds : field.holdsText = true) :
    field.convert? (ofVariable text) =
      some (field.of (field.withText (printed text) settings)) := by
  have taken := asText?_ofVariable text
  cases field with
  | serviceName | nameServer | sequencer | logLevel => exact taken
  | qualifier =>
    have option : asOption? (ofVariable text) = (asText? (ofVariable text)).map some := by
      cases same : ofVariable text with
      | null =>
        rw [same] at taken
        cases taken
      | _ => rfl
    rw [convert?, option, taken]
    rfl
  | retries | staggerMillis => cases holds

theorem check_withText (usable : settings.check = .ok ())
    (visible : field.isNeeded = true → Text.isAllBlank text = false) :
    (field.withText text settings).check = .ok () := by
  rw [Settings.check_eq_ok_iff] at usable ⊢
  simp only [neededTexts, List.forall_mem_cons, List.not_mem_nil, false_imp_iff, implies_true,
    and_true] at usable ⊢
  obtain ⟨service, server, sequencer⟩ := usable
  cases field with
  | serviceName => exact ⟨visible rfl, server, sequencer⟩
  | nameServer => exact ⟨service, visible rfl, sequencer⟩
  | sequencer => exact ⟨service, server, visible rfl⟩
  | qualifier | retries | staggerMillis | logLevel => exact ⟨service, server, sequencer⟩

end Field

theorem Layers.fromEnvironment?_of_last {before after : List (String × String)} {members : Members}
    {field name text : String} (own : variableField? name = some field)
    (last : ∀ binding ∈ after, ∀ key ∈ variableField? binding.1,
      key ≠ field ∧ leadsInto field key = false) :
    fromEnvironment? ⟨before ++ (name, text) :: after, members⟩ field = some (ofVariable text) := by
  have others : after.filterMap (fun binding : String × String =>
      (variableField? binding.1).bind fun key =>
        if key = field then some (ofVariable binding.2)
        else if leadsInto field key then some .compound
        else none) = [] := by
    refine List.filterMap_eq_nil_iff.mpr fun binding present => ?_
    cases named : variableField? binding.1 with
    | none => rfl
    | some key =>
      obtain ⟨apart, outside⟩ := last binding present key named
      simp [apart, outside]
  unfold fromEnvironment?
  simp [own, others]

section Load

variable {file : File} {members : Members} {bindings before after : List (String × String)}
  {name text : String} {field : Field} {base : Settings}

/-- A text is loaded into its field as it is printed, and the other fields come to what they come to
without it. -/
theorem load_of_last (read : file.members? = some members)
    (placed : bindings = before ++ (name, text) :: after)
    (own : variableField? name = some field.name)
    (last : ∀ binding ∈ after, ∀ key ∈ variableField? binding.1,
      key ≠ field.name ∧ leadsInto field.name key = false)
    (holds : field.holdsText = true)
    (visible : field.isNeeded = true → Text.isAllBlank text = false)
    (others : ∀ other : Field, other ≠ field →
      Layers.get ⟨bindings, members⟩ other.name other.convert? (other.of standard) =
        some (other.of base))
    (usable : base.check = .ok ()) :
    load file bindings = .ok (field.withText (printed text) base) := by
  have whole : Layers.settings? ⟨bindings, members⟩ =
      some (field.withText (printed text) base) := by
    refine (Layers.settings?_eq_some_iff _ _).mpr fun other => ?_
    by_cases same : other = field
    · subst same
      have counts : Layers.value? ⟨bindings, members⟩ other.name = some (ofVariable text) := by
        rw [Layers.value?, placed, Layers.fromEnvironment?_of_last own last]
        rfl
      rw [Layers.of?, Layers.get, counts]
      exact Field.convert?_ofVariable holds
    · rw [Layers.of?, others other same, Field.of_withText_of_ne same]
  have checked : (field.withText (printed text) base).check = .ok () :=
    Field.check_withText usable fun needed => isAllBlank_printed (visible needed)
  rw [load, read, Option.bind_some, whole]
  simp only [checked, Except.map]

/-- Where everything else is in order, the text of a field's variable is loaded into the field as it
is printed: a truth value in lower case, an integer without a plus sign and without zeros in front,
a fraction by the fewest digits and without an exponent, and every other text as it is. The name
server is asked for the service and the qualifier that were loaded. -/
theorem text_of_variable (read : file.members? = some members)
    (placed : bindings = before ++ (name, text) :: after)
    (own : variableField? name = some field.name)
    (last : ∀ binding ∈ after, ∀ key ∈ variableField? binding.1,
      key ≠ field.name ∧ leadsInto field.name key = false)
    (holds : field.holdsText = true)
    (visible : field.isNeeded = true → Text.isAllBlank text = false)
    (others : ∀ other : Field, other ≠ field →
      Layers.get ⟨bindings, members⟩ other.name other.convert? (other.of standard) =
        some (other.of base))
    (usable : base.check = .ok ()) :
    load file bindings = .ok (field.withText (printed text) base) ∧
    (¬ IsTruth text → readInteger? text.toList = none → Literal.read? text.toList = none →
      printed text = text) ∧
    (¬ IsTruth text → isNumberWord (takeSign text.toList).2 = false →
      (∃ letter ∈ text.toList, isNumeric letter = false) → printed text = text) ∧
    (IsTruth text → printed text = lowered text) ∧
    (∀ value, readInteger? text.toList = some value → printed text = toString value ∧
      (printed text = text ↔ text.toList.head? ≠ some '+' ∧
        ((takeSign text.toList).2.head? = some '0' → text = "0"))) ∧
    (∀ literal, readInteger? text.toList = none → Literal.read? text.toList = some literal →
      printed text = (Binary64.ofLiteral literal).render ∧
        ∀ mark ∈ ['+', 'e', 'E'], mark ∈ text.toList → printed text ≠ text) ∧
    ∀ (world : World) (timeline : Timeline),
      timeline.Reached world [field.withText (printed text) base] →
      ∀ moment ∈ timeline.past, ∀ service qualifier, moment.event = .lookup service qualifier →
        service = (field.withText (printed text) base).serviceName ∧
          qualifier = (field.withText (printed text) base).qualifier := by
  refine ⟨load_of_last read placed own last holds visible others usable, ?_, ?_,
    printed_of_truth, fun value spelled => ⟨printed_of_integer spelled,
      printed_eq_self_iff_of_integer spelled⟩, ?_, ?_⟩
  · intro truth noInteger noFraction
    rw [printed, if_neg truth, noInteger, noFraction]
  · rintro truth word ⟨letter, found, strange⟩
    exact printed_of_letter found strange word truth
  · intro literal noInteger spelled
    exact ⟨printed_of_fraction noInteger spelled, fun mark marked found =>
      printed_ne_self_of_fraction noInteger spelled marked found⟩
  · intro world timeline reached moment present service qualifier lookup
    obtain ⟨settings, listed, same⟩ := reached.seeking.past moment present service qualifier lookup
    have only : settings = field.withText (printed text) base := by
      rw [List.getElem?_singleton] at listed
      split at listed
      · exact (Option.some.inj listed).symm
      · cases listed
    exact only ▸ same

/-- The qualifier of a variable is asked for without the zeros in front of it. -/
theorem qualifier_without_zeros :
    load .absent [("TUPLESPACES_QUALIFIER", "007")] =
      .ok { standard with qualifier := some "7" } ∧
    ∀ (world : World) (timeline : Timeline),
      timeline.Reached world [{ standard with qualifier := some "7" }] →
      ∀ moment ∈ timeline.past, ∀ service qualifier, moment.event = .lookup service qualifier →
        service = "TupleSpaces" ∧ qualifier = some "7" := by
  have each (other : Field) (apart : other ≠ .qualifier) :
      Layers.get ⟨[("TUPLESPACES_QUALIFIER", "007")], []⟩ other.name other.convert?
        (other.of standard) = some (other.of standard) := by
    cases other <;> first | exact (apart rfl).elim | decide +kernel
  have shown : printed "007" = "7" := by decide +kernel
  obtain ⟨loads, _, _, _, _, _, asks⟩ := @text_of_variable .absent _ _ [] [] _ _ .qualifier
    standard rfl rfl (by decide +kernel) (by simp) rfl (by decide) each rfl
  rw [shown] at loads asks
  exact ⟨loads, asks⟩

/-- A qualifier with zeros in front is not loaded as it is. -/
theorem zeros_are_lost : ¬ ∃ settings : Settings,
    load .absent [("TUPLESPACES_QUALIFIER", "007")] = .ok settings ∧
      settings.qualifier = some "007" := by
  rintro ⟨settings, loads, same⟩
  have loaded : load .absent [("TUPLESPACES_QUALIFIER", "007")] =
      .ok { standard with qualifier := some "7" } := by
    decide +kernel
  cases loads.symm.trans loaded
  exact absurd same (by decide)

end Load
end ReplicatedSpace.Settings
