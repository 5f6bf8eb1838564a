import ReplicatedSpace.Proofs.Skipping

/-!
What texts mean. A reader makes of a text what the tree that it spells means to it, and leaves what
stands behind; a text whose tree means nothing to it is refused. So all texts of one tree are read
as one value, and it is enough to look at trees.
-/
namespace ReplicatedSpace.Json

variable {α β : Type}

namespace Tree

def text? : Tree → Option String
  | text content => some content
  | _ => none

def number? : Tree → Option Number
  | number value => some value
  | _ => none

def items? : Tree → Option (List Tree)
  | array items => some items
  | _ => none

/-- A whole number up to a limit. -/
def natural? (limit : Nat) (tree : Tree) : Option Nat :=
  (tree.number?.bind (·.natural?)).filter (· ≤ limit)

/-- A word of 64 bits. -/
def word64? (tree : Tree) : Option UInt64 := (tree.natural? (UInt64.size - 1)).map .ofNat

/-- A word of 32 bits. -/
def word32? (tree : Tree) : Option UInt32 := (tree.natural? (UInt32.size - 1)).map .ofNat

/-- Nothing, or what the tree means. -/
def optional? (meaning : Tree → Option α) : Tree → Option (Option α)
  | null => some none
  | tree => (meaning tree).map some

/-- What each item means. -/
def list? (meaning : Tree → Option α) (tree : Tree) : Option (List α) :=
  tree.items?.bind (·.mapM meaning)

/-! What the first character tells of a tree. -/

variable {tree : Tree} {mark : Char}

theorem Begins.of_quote (begins : tree.Begins mark) :
    mark = '\x22' ∧ (∃ content, tree = text content) ∨ mark ≠ '\x22' ∧ tree.text? = none := by
  cases tree with
  | text content => exact .inl ⟨begins, content, rfl⟩
  | number => exact .inr ⟨begins.ne_of_number (by decide) (by decide), rfl⟩
  | boolean value => cases value <;> (cases begins; exact .inr ⟨by decide, rfl⟩)
  | _ => cases begins; exact .inr ⟨by decide, rfl⟩

theorem Begins.of_digit (begins : tree.Begins mark) :
    (mark = '-' ∨ mark.isDigit = true) ∧ (∃ value, tree = number value) ∨
      ¬ (mark = '-' ∨ mark.isDigit = true) ∧ tree.number? = none := by
  cases tree with
  | number value =>
    refine .inl ⟨?_, value, rfl⟩
    simp only [Begins] at begins
    split at begins
    · exact .inl begins
    · exact .inr begins
  | boolean value => cases value <;> (cases begins; exact .inr ⟨by decide, rfl⟩)
  | _ => cases begins; exact .inr ⟨by decide, rfl⟩

theorem Begins.of_null (begins : tree.Begins mark) (meaning : Tree → Option α) :
    mark = 'n' ∧ tree = null ∨
      mark ≠ 'n' ∧ tree.optional? meaning = (meaning tree).map some := by
  cases tree with
  | null => exact .inl ⟨begins, rfl⟩
  | number => exact .inr ⟨begins.ne_of_number (by decide) (by decide), rfl⟩
  | boolean value => cases value <;> (cases begins; exact .inr ⟨by decide, rfl⟩)
  | _ => cases begins; exact .inr ⟨by decide, rfl⟩

theorem Begins.of_bracket (begins : tree.Begins mark) :
    mark = '[' ∧ (∃ items, tree = array items) ∨
      mark = '\x7b' ∧ (∃ members, tree = object members) ∨
      mark ≠ '[' ∧ mark ≠ '\x7b' ∧ (∀ items, tree ≠ array items) ∧
        ∀ members, tree ≠ object members := by
  cases tree with
  | array items => exact .inl ⟨begins, items, rfl⟩
  | object members => exact .inr (.inl ⟨begins, members, rfl⟩)
  | number =>
    exact .inr (.inr ⟨begins.ne_of_number (by decide) (by decide),
      begins.ne_of_number (by decide) (by decide), nofun, nofun⟩)
  | boolean value =>
    cases value <;> (cases begins; exact .inr (.inr ⟨by decide, by decide, nofun, nofun⟩))
  | _ => cases begins; exact .inr (.inr ⟨by decide, by decide, nofun, nofun⟩)

end Tree

/-- What has been read is a meaning and leaves the rest, or there is no meaning. -/
def Gives (parsed : Parsed α) (meaning : Option α) (rest : List Char) : Prop :=
  parsed.toOption = meaning.map (·, rest)

theorem Gives.map {parsed : Parsed α} {meaning : Option α} {rest : List Char}
    (gives : Gives parsed meaning rest) (into : α → β) :
    Gives (match parsed with
      | .error fault => .error fault
      | .ok (value, rest) => .ok (into value, rest)) (meaning.map into) rest := by
  unfold Gives at *
  cases parsed with
  | error fault => cases meaning <;> simp_all [Except.toOption]
  | ok pair => cases meaning <;> simp_all [Except.toOption]

/-- A reader reads every text of a tree, between a gap and what is no part of it, as what the tree
means. -/
structure Codec.Means (codec : Codec α) (stops : Tree → List Char → Prop)
    (meaning : Tree → Option α) : Prop where
  gives {tree : Tree} {text gap rest : List Char} (spelled : Spelled (.value tree) text)
    (blank : IsGap gap) (stop : stops tree rest) :
    Gives (codec.read (gap ++ (text ++ rest))) (meaning tree) rest

theorem Codec.Means.without_gap {codec : Codec α} {stops : Tree → List Char → Prop}
    {meaning : Tree → Option α} (means : codec.Means stops meaning) {tree : Tree}
    {text rest : List Char} (spelled : Spelled (.value tree) text) (stop : stops tree rest) :
    Gives (codec.read (text ++ rest)) (meaning tree) rest := by
  simpa using means.gives spelled IsGap.nil stop

theorem Codec.Means.stopping {codec : Codec α} {meaning : Tree → Option α}
    (means : codec.Means (fun _ _ => True) meaning) : codec.Means Tree.Stops meaning :=
  ⟨fun spelled blank _ => means.gives spelled blank trivial⟩

theorem Codec.Means.map {codec : Codec α} {stops : Tree → List Char → Prop}
    {meaning : Tree → Option α} (means : codec.Means stops meaning) (into : α → β) (back : β → α) :
    (codec.map into back).Means stops fun tree => (meaning tree).map into :=
  ⟨fun spelled blank stop => (means.gives spelled blank stop).map into⟩

theorem dropBlanks_isEmpty_iff {text : List Char} :
    (dropBlanks text).isEmpty = true ↔ IsGap text := by
  rw [List.isEmpty_iff, dropBlanks, List.dropWhile_eq_nil_iff]
  rfl

theorem Codec.Means.decode_eq_ok_iff {codec : Codec α} {meaning : Tree → Option α}
    (means : codec.Means (fun _ _ => True) meaning) {tree : Tree} {text gap rest : List Char}
    (spelled : Spelled (.value tree) text) (blank : IsGap gap) {value : α} :
    codec.decode (.ofList (gap ++ (text ++ rest))) = .ok value ↔
      IsGap rest ∧ meaning tree = some value := by
  have read : (codec.read (gap ++ (text ++ rest))).toOption = _ :=
    means.gives spelled blank trivial
  rw [Codec.decode, String.toList_ofList, ← dropBlanks_isEmpty_iff]
  cases found : codec.read (gap ++ (text ++ rest)) with
  | error fault =>
    rw [found] at read
    cases known : meaning tree <;> simp_all [Except.toOption]
  | ok pair =>
    rw [found] at read
    cases known : meaning tree with
    | none => simp [known, Except.toOption] at read
    | some given =>
      simp only [known, Except.toOption, Option.map_some, Option.some.injEq] at read
      subst read
      by_cases visible : dropBlanks rest = [] <;> simp [visible]

theorem Codec.exists_fault {codec : Codec α} {text : String}
    (nothing : ∀ value, codec.decode text ≠ .ok value) :
    ∃ fault, codec.decode text = .error fault := by
  cases found : codec.decode text with
  | error fault => exact ⟨fault, rfl⟩
  | ok value => exact (nothing value found).elim

theorem readText_gives {tree : Tree} {text gap rest : List Char}
    (spelled : Spelled (.value tree) text) (blank : IsGap gap) :
    Gives (readText (gap ++ (text ++ rest))) (tree.text?.map String.toList) rest := by
  obtain ⟨mark, more, rfl, begins, start⟩ := spelled.start blank rest
  rw [readText, start]
  rcases begins.of_quote with ⟨rfl, content, rfl⟩ | ⟨noQuote, noText⟩
  · cases spelled with
    | text quoted =>
      rw [List.append_assoc]
      exact congrArg Except.toOption (quoted.read rest)
  · simp only [if_neg noQuote, noText]
    rfl

theorem text_means : text.Means (fun _ _ => True) Tree.text? := by
  constructor
  intro tree _ gap rest spelled blank _
  have gives : Gives (text.read _) ((tree.text?.map String.toList).map String.ofList) rest :=
    (readText_gives spelled blank).map String.ofList
  have same : (tree.text?.map String.toList).map String.ofList = tree.text? := by
    simp [Function.comp_def]
  exact same ▸ gives

theorem Number.Unsigned.plain {number : Number} {text : List Char} {value : Nat}
    (unsigned : number.Unsigned text) (natural : number.natural? = some value) :
    number = Number.plain number.whole ∧ Decimal.readDigits 0 number.whole = value := by
  cases unsigned with
  | @mk negative whole fraction point power exponent _ _ _ =>
    unfold Number.natural? at natural
    split at natural
    · rename_i plain
      simp only [Bool.and_eq_true, Bool.not_eq_true', List.isEmpty_iff, Option.isNone_iff_eq_none]
        at plain
      obtain ⟨⟨rfl, rfl⟩, rfl⟩ := plain
      exact ⟨rfl, Option.some.inj natural⟩
    · cases natural

theorem Number.Spelled.read {number : Number} {mark : Char} {more rest : List Char}
    (spelled : number.Spelled (mark :: more)) (ends : Ends rest) :
    readNumber (mark = '-') (if mark = '-' then more ++ rest else mark :: (more ++ rest)) =
      if number.isOutOfRange then .error .malformed else .ok (number, rest) := by
  have begins := (Json.Spelled.number spelled).begins
  cases spelled with
  | positive noSign unsigned =>
    have read := unsigned.read .truncated ends
    have noMinus : mark ≠ '-' := by
      rintro rfl
      obtain ⟨_, _, same, begins⟩ := begins
      cases same
      simp [Tree.Begins, noSign] at begins
    rw [noSign, List.cons_append] at read
    simp [noMinus, readNumber, read]
  | negative sign unsigned =>
    have read := unsigned.read .truncated ends
    rw [sign] at read
    simp [readNumber, read]

theorem Number.Spelled.natural?_of_isOutOfRange {number : Number} {text : List Char} {limit : Nat}
    (spelled : number.Spelled text) (word : limit ≤ wordLimit)
    (range : number.isOutOfRange = true) : number.natural?.filter (· ≤ limit) = none := by
  refine Option.filter_eq_none_iff.mpr fun value natural => ?_
  have isPlain : number = Number.plain number.whole ∧
      Decimal.readDigits 0 number.whole = value := by
    cases spelled with
    | positive _ unsigned => exact unsigned.plain natural
    | negative _ unsigned => exact unsigned.plain natural
  simp only [decide_eq_true_eq]
  intro fits
  rw [isPlain.1, Number.isOutOfRange_plain (by omega)] at range
  cases range

theorem natural_means {limit : Nat} (word : limit ≤ Number.wordLimit) :
    (natural limit).Means Tree.Stops (Tree.natural? limit) := by
  constructor
  intro tree text gap rest spelled blank stops
  obtain ⟨mark, more, rfl, begins, start⟩ := spelled.start blank rest
  change Gives (readNatural limit _) _ _
  rw [readNatural, start]
  rcases begins.of_digit with ⟨isNumber, value, rfl⟩ | ⟨noNumber, nothing⟩
  · cases spelled with
    | number spelled =>
      simp only [if_pos isNumber, spelled.read stops, Tree.natural?, Tree.number?,
        Option.bind_some]
      cases range : value.isOutOfRange with
      | true =>
        rw [spelled.natural?_of_isOutOfRange word range]
        rfl
      | false =>
        simp only [Bool.false_eq_true, ↓reduceIte]
        cases natural : value.natural? with
        | none => rfl
        | some number =>
          by_cases fits : number ≤ limit <;>
            simp [fits, Gives, Except.toOption, Option.filter]
  · simp only [if_neg noNumber, Tree.natural?, nothing]
    rfl

theorem word64_means : word64.Means Tree.Stops Tree.word64? :=
  (natural_means (Nat.le_refl _)).map UInt64.ofNat UInt64.toNat

theorem word32_means : word32.Means Tree.Stops Tree.word32? :=
  (natural_means (by decide)).map UInt32.ofNat UInt32.toNat

theorem optional_means {item : Codec α} {meaning : Tree → Option α}
    (means : item.Means Tree.Stops meaning) :
    (optional item).Means Tree.Stops (Tree.optional? meaning) := by
  constructor
  intro tree text gap rest spelled blank stops
  obtain ⟨mark, more, same, begins, start⟩ := spelled.start blank rest
  change Gives (readOptional item _) _ _
  rw [readOptional]
  rcases begins.of_null meaning with ⟨rfl, rfl⟩ | ⟨noNull, given⟩
  · cases spelled
    have taken : takeWord "ull".toList (more ++ rest) = .ok rest := by
      cases same
      exact takeWord_append "ull".toList rest
    rw [start]
    simp only [taken]
    rfl
  · split
    · rename_i null
      cases start.symm.trans null
      exact (noNull rfl).elim
    · rw [given]
      exact (means.gives spelled blank stops).map some

theorem readItems_of_none {item : Codec α} {first : Bool} {text : List Char}
    (place : nextItem first text = .ok none) :
    readItems item first text = .ok ([], behindBracket text) := by
  rw [readItems]
  split
  · rename_i same
    cases place.symm.trans same
  · rfl
  · rename_i same
    cases place.symm.trans same

theorem readItems_of_start {item : Codec α} {first : Bool} {text start : List Char}
    (place : nextItem first text = .ok (some start)) :
    (readItems item first text).toOption = (item.read start).toOption.bind fun (value, rest) =>
        (readItems item false rest).toOption.map fun (values, behind) =>
          (value :: values, behind) := by
  cases read : item.read start with
  | ok found =>
    obtain ⟨value, rest⟩ := found
    rw [readItems_of_item place read]
    cases others : readItems item false rest <;> simp [Except.toOption, Except.map, others]
  | error fault =>
    rw [readItems]
    split
    · rename_i same
      cases place.symm.trans same
    · rename_i same
      cases place.symm.trans same
    · rename_i same
      cases place.symm.trans same
      split
      · rfl
      · rename_i same
        cases read.symm.trans same

theorem readItems_gives {item : Codec α} {meaning : Tree → Option α}
    (means : item.Means Tree.Stops meaning) {first : Bool} {items : List Tree} {text : List Char}
    (spelled : Spelled (.items first items) text) (rest : List Char) :
    Gives (readItems item first (text ++ rest)) (items.mapM meaning) rest := by
  induction items generalizing first text with
  | nil =>
    cases spelled with
    | endItems blank =>
      have visible : isBlank ']' = false := by decide
      rw [List.append_assoc, List.singleton_append, readItems_of_none (nextItem_of_end blank)]
      exact congrArg (fun rest => some ([], rest)) (behindBracket_of_gap blank visible)
  | cons tree items ih =>
    cases spelled with
    | @item _ lead text behind _ _ leads value further =>
      have read : (item.read (text ++ (behind ++ rest))).toOption = _ :=
        means.without_gap value ((further.ends_items rest).stops tree)
      have others : (readItems item false (behind ++ rest)).toOption = _ := ih further
      rw [Gives, List.append_assoc, List.append_assoc,
        readItems_of_start (leads.nextItem value _), read, List.mapM_cons]
      cases meaning tree with
      | none => rfl
      | some value =>
        simp only [Option.map_some, Option.bind_some, others]
        cases items.mapM meaning <;> rfl

theorem list_means {item : Codec α} {meaning : Tree → Option α}
    (means : item.Means Tree.Stops meaning) :
    (list item).Means (fun _ _ => True) (Tree.list? meaning) := by
  constructor
  intro tree text gap rest spelled blank _
  obtain ⟨mark, more, rfl, begins, start⟩ := spelled.start blank rest
  change Gives (readList item _) _ _
  rw [readList, start]
  rcases begins.of_bracket with ⟨rfl, items, rfl⟩ | ⟨rfl, members, rfl⟩ | ⟨noArray, _, noItems, _⟩
  · cases spelled with
    | array inside => exact readItems_gives means inside rest
  · rfl
  · have nothing : tree.list? meaning = none := by
      cases tree with
      | array items => exact (noItems items rfl).elim
      | _ => rfl
    simp only [if_neg noArray, nothing]
    rfl

end ReplicatedSpace.Json
