import Mathlib.Data.List.DropRight
import Mathlib.Data.List.TakeWhile
import ReplicatedSpace.Text.Letter

/-!
Texts as words with blanks between them. Trimming takes the blanks off the two ends and nothing
else, cutting at the first blank gives the first word, and splitting gives all of them: what each of
these comes to is said by how the text is put together, whatever the blanks are.
-/
namespace ReplicatedSpace.Text

/-- Blanks only, or nothing at all. -/
def IsGap (text : List Char) : Prop := ∀ letter ∈ text, isBlank letter = true

/-- Some characters, and none of them blank. -/
def IsWord (text : List Char) : Prop := text ≠ [] ∧ ∀ letter ∈ text, isBlank letter = false

/-- No blank stands at the beginning and none at the end. -/
def Trimmed (text : List Char) : Prop :=
  (∀ letter ∈ text.head?, isBlank letter = false) ∧
    ∀ letter ∈ text.getLast?, isBlank letter = false

/-- A word that is in front of this ends there. -/
def Breaks (text : List Char) : Prop := ∀ letter ∈ text.head?, isBlank letter = true

instance : DecidablePred IsGap := fun text =>
  decidable_of_iff (text.all isBlank = true) List.all_eq_true

instance : DecidablePred IsWord := fun text =>
  decidable_of_iff (text ≠ [] ∧ text.all (!isBlank ·) = true) (by simp [IsWord])

instance : DecidablePred Breaks := fun text =>
  decidable_of_iff (text.head?.all isBlank = true) (by simp [Breaks, Option.all_eq_true])

instance : DecidablePred Trimmed := fun text =>
  decidable_of_iff (text.head?.all (!isBlank ·) = true ∧ text.getLast?.all (!isBlank ·) = true)
    (by simp [Trimmed, Option.all_eq_true])

variable {before after gap word tail text : List Char}

theorem IsGap.nil : IsGap [] := fun _ found => absurd found List.not_mem_nil

theorem IsGap.append (first : IsGap before) (second : IsGap after) : IsGap (before ++ after) := by
  intro letter found
  rcases List.mem_append.mp found with found | found
  · exact first letter found
  · exact second letter found

theorem Breaks.nil : Breaks [] := fun _ found => by cases found

theorem IsGap.breaks (blank : IsGap gap) (breaks : Breaks tail) : Breaks (gap ++ tail) := by
  cases gap with
  | nil => exact breaks
  | cons first rest =>
    intro letter found
    cases found
    exact blank first List.mem_cons_self

theorem IsGap.breaks_of_ne_nil (blank : IsGap gap) (some : gap ≠ []) (tail : List Char) :
    Breaks (gap ++ tail) := by
  cases gap with
  | nil => exact absurd rfl some
  | cons first rest =>
    intro letter found
    cases found
    exact blank first List.mem_cons_self

theorem IsWord.trimmed (solid : IsWord word) : Trimmed word :=
  ⟨fun letter found => solid.2 letter (List.mem_of_mem_head? found),
    fun letter found => solid.2 letter (List.mem_of_mem_getLast? found)⟩

theorem trimEnd_eq_rdropWhile (text : List Char) : trimEnd text = text.rdropWhile isBlank := rfl

theorem IsGap.trimStart (blank : IsGap gap) (text : List Char) :
    trimStart (gap ++ text) = trimStart text :=
  List.dropWhile_append_of_pos blank

theorem IsGap.trimEnd (blank : IsGap gap) (text : List Char) :
    trimEnd (text ++ gap) = trimEnd text := by
  have turned : ∀ letter ∈ gap.reverse, isBlank letter = true :=
    fun letter found => blank letter (List.mem_reverse.mp found)
  rw [Text.trimEnd, List.reverse_append, List.dropWhile_append_of_pos turned, Text.trimEnd]

theorem IsGap.trim_eq_nil (blank : IsGap gap) : trim gap = [] :=
  (trim_eq_nil_iff gap).mpr (List.all_eq_true.mpr blank)

theorem trim_between (first : IsGap before) (last : IsGap after) (text : List Char) :
    trim (before ++ text ++ after) = trim text := by
  rw [trim, List.append_assoc, first.trimStart, trimStart, List.dropWhile_append]
  cases left : List.dropWhile isBlank text with
  | nil =>
    -- what is left is the blanks behind the text
    rw [List.isEmpty_nil, if_pos rfl, List.dropWhile_eq_nil_iff.mpr last, trim, trimStart, left]
  | cons letter rest =>
    rw [List.isEmpty_cons, if_neg Bool.false_ne_true, last.trimEnd, trim, trimStart, left]

theorem Trimmed.trim_eq (trimmed : Trimmed text) : trim text = text := by
  have start : trimStart text = text := by
    cases text with
    | nil => rfl
    | cons letter rest => exact List.dropWhile_cons_of_neg (by simp [trimmed.1 letter rfl])
  rw [trim, start, trimEnd_eq_rdropWhile, List.rdropWhile_eq_self_iff]
  intro some blank
  have last := trimmed.2 _ (List.getLast?_eq_some_getLast some)
  rw [blank] at last
  cases last

/-- What is trimmed off is blank. -/
theorem exists_trim (text : List Char) :
    ∃ before after, IsGap before ∧ IsGap after ∧ Trimmed (trim text) ∧
      text = before ++ trim text ++ after := by
  have front : text.takeWhile isBlank ++ trimStart text = text := List.takeWhile_append_dropWhile
  have back : trim text ++ (trimStart text).rtakeWhile isBlank = trimStart text :=
    List.rdropWhile_append_rtakeWhile
  refine ⟨text.takeWhile isBlank, (trimStart text).rtakeWhile isBlank,
    fun _ found => List.mem_takeWhile_imp found, fun _ found => List.mem_rtakeWhile_imp found,
    ⟨?_, ?_⟩, ?_⟩
  · intro letter found
    -- the first letter of what is trimmed is the first one behind the blanks
    have first : letter ∈ (trimStart text).head? := by
      rw [← back]
      cases trimmed : trim text with
      | nil => rw [trimmed] at found; cases found
      | cons => rw [trimmed] at found; exact found
    have visible := List.head?_dropWhile_not isBlank text
    rw [trimStart, Option.mem_def] at first
    rw [first] at visible
    simpa using visible
  · intro letter found
    have some : (trimStart text).rdropWhile isBlank ≠ [] := by
      rintro empty
      rw [trim, trimEnd_eq_rdropWhile, empty] at found
      cases found
    have last := List.rdropWhile_last_not isBlank (trimStart text) some
    rw [trim, trimEnd_eq_rdropWhile, List.getLast?_eq_some_getLast some] at found
    cases found
    simpa using last
  · rw [List.append_assoc, back, front]

theorem IsWord.takeWhile (solid : IsWord word) (breaks : Breaks tail) :
    (word ++ tail).takeWhile (!isBlank ·) = word := by
  have visible : ∀ letter ∈ word, (!isBlank letter) = true := by simpa using solid.2
  rw [List.takeWhile_append_of_pos visible]
  cases tail with
  | nil => simp
  | cons letter rest => simp [breaks letter rfl]

theorem IsWord.dropWhile (solid : IsWord word) (breaks : Breaks tail) :
    (word ++ tail).dropWhile (!isBlank ·) = tail := by
  have visible : ∀ letter ∈ word, (!isBlank letter) = true := by simpa using solid.2
  rw [List.dropWhile_append_of_pos visible]
  cases tail with
  | nil => rfl
  | cons letter rest => simp [breaks letter rfl]

theorem Breaks.trim_drop (breaks : Breaks tail) : trim (tail.drop 1) = trim tail := by
  cases tail with
  | nil => rfl
  | cons letter rest =>
    have blank : IsGap [letter] := by simpa [IsGap] using breaks letter rfl
    simpa using (trim_between blank IsGap.nil rest).symm

/-- A text begins with a word, and the rest without the blanks around it is this one. -/
def Opens (text word rest : List Char) : Prop :=
  ∃ before gap after, IsGap before ∧ IsWord word ∧ IsGap gap ∧ Trimmed rest ∧ IsGap after ∧
    (rest ≠ [] → gap ≠ []) ∧ text = before ++ word ++ gap ++ rest ++ after

theorem opens_of_word (blank : IsGap before) (solid : IsWord word) (breaks : Breaks tail) :
    Opens (before ++ word ++ tail) word (trim tail) := by
  obtain ⟨gap, after, first, last, trimmed, whole⟩ := exists_trim tail
  refine ⟨before, gap, after, blank, solid, first, trimmed, last, ?_, ?_⟩
  · rintro some rfl
    cases rest : trim tail with
    | nil => exact some rest
    | cons letter more =>
      rw [rest] at whole trimmed
      have visible := trimmed.1 letter rfl
      rw [breaks letter (by rw [whole]; rfl)] at visible
      cases visible
  · rw [List.append_assoc, List.append_assoc, List.append_assoc, ← List.append_assoc gap, ← whole,
      ← List.append_assoc]

theorem exists_opens (visible : ¬ IsGap text) : ∃ word rest, Opens text word rest := by
  obtain ⟨before, after, first, last, trimmed, whole⟩ := exists_trim text
  have parts : (trim text).takeWhile (!isBlank ·) ++ (trim text).dropWhile (!isBlank ·) =
      trim text := List.takeWhile_append_dropWhile
  have solid : IsWord ((trim text).takeWhile (!isBlank ·)) := by
    constructor
    · cases rest : trim text with
      | nil =>
        rw [rest, List.append_nil] at whole
        exact absurd (whole ▸ first.append last) visible
      | cons letter more =>
        rw [rest] at trimmed
        simp [trimmed.1 letter rfl]
    · intro letter found
      simpa using List.mem_takeWhile_imp found
  have breaks : Breaks ((trim text).dropWhile (!isBlank ·) ++ after) := by
    cases rest : (trim text).dropWhile (!isBlank ·) with
    | nil => simpa using last.breaks Breaks.nil
    | cons letter more =>
      intro other found
      cases found
      have blank := List.head?_dropWhile_not (!isBlank ·) (trim text)
      rw [rest] at blank
      simpa using blank
  have opens := opens_of_word first solid breaks
  rw [List.append_assoc, ← List.append_assoc _ _ after, parts, ← List.append_assoc,
    ← whole] at opens
  exact ⟨_, _, opens⟩

/-- Cutting the trimmed text at its first blank gives the word and what is trimmed to the rest. -/
theorem Opens.cut {rest : List Char} (opens : Opens text word rest) :
    (cutAtBlank (trim text)).1 = word ∧ trim (cutAtBlank (trim text)).2 = rest ∧
      trim text ≠ [] := by
  obtain ⟨before, gap, after, blank, solid, between, trimmed, last, apart, rfl⟩ := opens
  have parts : ∃ tail, trim (before ++ word ++ gap ++ rest ++ after) = word ++ tail ∧
      Breaks tail ∧ trim tail = rest := by
    by_cases empty : rest = []
    · subst empty
      refine ⟨[], ?_, Breaks.nil, rfl⟩
      rw [List.append_nil, List.append_assoc (before ++ word),
        trim_between blank (between.append last),
        solid.trimmed.trim_eq, List.append_nil]
    · refine ⟨gap ++ rest, ?_, between.breaks_of_ne_nil (apart empty) rest, ?_⟩
      · have whole : Trimmed (word ++ (gap ++ rest)) := by
          constructor
          · intro letter found
            rw [List.head?_append_of_ne_nil _ solid.1] at found
            exact solid.trimmed.1 letter found
          · intro letter found
            rw [← List.append_assoc, List.getLast?_append_of_ne_nil _ empty] at found
            exact trimmed.2 letter found
        rw [List.append_assoc before, List.append_assoc before, List.append_assoc word,
          trim_between blank last, whole.trim_eq]
      · have same := trim_between between IsGap.nil rest
        rw [List.append_nil] at same
        rw [same, trimmed.trim_eq]
  obtain ⟨tail, whole, breaks, rest'⟩ := parts
  rw [whole, cutAtBlank, solid.takeWhile breaks, solid.dropWhile breaks, breaks.trim_drop]
  exact ⟨rfl, rest', fun empty => solid.1 (List.append_eq_nil_iff.mp empty).1⟩

theorem Opens.exists_tail {rest : List Char} (opens : Opens text word rest) :
    ∃ before tail, IsGap before ∧ IsWord word ∧ Breaks tail ∧ trim tail = rest ∧
      text = before ++ word ++ tail := by
  obtain ⟨before, gap, after, blank, solid, between, trimmed, last, apart, rfl⟩ := opens
  refine ⟨before, gap ++ rest ++ after, blank, solid, ?_, ?_, by simp⟩
  · by_cases empty : rest = []
    · subst empty
      rw [List.append_nil]
      simpa using (between.append last).breaks Breaks.nil
    · rw [List.append_assoc]
      exact between.breaks_of_ne_nil (apart empty) _
  · rw [trim_between between last, trimmed.trim_eq]

theorem Opens.trimmed {rest : List Char} (opens : Opens text word rest) : Trimmed rest := by
  obtain ⟨_, _, _, _, _, _, trimmed, _⟩ := opens
  exact trimmed

/-- A text consists of these words, with blanks between them and perhaps around them. -/
inductive Spaced : List (List Char) → List Char → Prop
  | none {gap : List Char} (blank : IsGap gap) : Spaced [] gap
  | next {gap word tail : List Char} {words : List (List Char)} (blank : IsGap gap)
      (solid : IsWord word) (breaks : Breaks tail) (rest : Spaced words tail) :
      Spaced (word :: words) (gap ++ word ++ tail)

theorem IsGap.words_append (blank : IsGap gap) (text : List Char) :
    words (gap ++ text) = words text := by
  induction gap with
  | nil => rfl
  | cons letter gap ih =>
    rw [List.cons_append, words, if_pos (blank letter List.mem_cons_self)]
    exact ih fun other found => blank other (List.mem_cons_of_mem letter found)

theorem IsWord.words_append (solid : IsWord word) (breaks : Breaks tail) :
    words (word ++ tail) = word :: words tail := by
  obtain ⟨some, visible⟩ := solid
  induction word with
  | nil => exact absurd rfl some
  | cons letter word ih =>
    have own : isBlank letter = false := visible letter List.mem_cons_self
    cases word with
    | nil =>
      cases tail with
      | nil => simp [words, own]
      | cons next more =>
        have blank : isBlank next = true := breaks next rfl
        rw [List.cons_append, List.nil_append, words]
        cases words (next :: more) <;> simp [own, blank]
    | cons next more =>
      have further := ih (List.cons_ne_nil next more)
        fun other found => visible other (List.mem_cons_of_mem letter found)
      have visible' : isBlank next = false := visible next (by simp)
      rw [List.cons_append, words, further]
      simp [own, visible']

theorem Spaced.words_eq {found : List (List Char)} (spaced : Spaced found text) :
    words text = found := by
  induction spaced with
  | none blank =>
    have same := blank.words_append []
    rwa [List.append_nil] at same
  | next blank solid breaks _ ih =>
    rw [List.append_assoc, blank.words_append, solid.words_append breaks, ih]

theorem words_eq_iff {found : List (List Char)} : words text = found ↔ Spaced found text := by
  constructor
  · rintro rfl
    -- by induction on what is left of the text behind its first word
    generalize size : text.length = bound
    induction bound using Nat.strong_induction_on generalizing text with
    | _ bound ih =>
      by_cases blank : IsGap text
      · have none := (Spaced.none blank).words_eq
        rw [none]
        exact .none blank
      · obtain ⟨word, rest, opens⟩ := exists_opens blank
        obtain ⟨before, tail, first, solid, breaks, -, rfl⟩ := opens.exists_tail
        have shorter : tail.length < bound := by
          have := List.length_pos_iff.mpr solid.1
          simp only [List.length_append] at size
          omega
        have further := ih tail.length shorter rfl
        have whole := Spaced.next first solid breaks further
        rwa [whole.words_eq]
  · exact Spaced.words_eq

theorem Spaced.append_gap {found : List (List Char)} (spaced : Spaced found text)
    (blank : IsGap gap) : Spaced found (text ++ gap) := by
  induction spaced with
  | none first => exact .none (first.append blank)
  | @next _ _ tail _ first solid breaks _ ih =>
    have breaks' : Breaks (tail ++ gap) := by
      cases tail with
      | nil => simpa using blank.breaks Breaks.nil
      | cons => exact breaks
    rw [List.append_assoc]
    exact .next first solid breaks' ih

theorem words_trim (text : List Char) : words (trim text) = words text := by
  obtain ⟨before, after, first, last, -, whole⟩ := exists_trim text
  have same := ((words_eq_iff.mp rfl).append_gap last : Spaced (words (trim text)) _).words_eq
  rw [← same, ← first.words_append, ← List.append_assoc, ← whole]

theorem Opens.words_eq {rest : List Char} (opens : Opens text word rest) :
    words text = word :: words rest := by
  obtain ⟨before, tail, first, solid, breaks, rfl, rfl⟩ := opens.exists_tail
  rw [List.append_assoc, first.words_append, solid.words_append breaks, words_trim]

theorem Trimmed.eq_nil_of_words (trimmed : Trimmed text) (none : words text = []) : text = [] := by
  cases words_eq_iff.mp none with
  | none blank => rw [← trimmed.trim_eq, blank.trim_eq_nil]

theorem exists_opens_of_words {others : List (List Char)} (whole : words text = word :: others) :
    ∃ rest, Opens text word rest ∧ words rest = others := by
  have visible : ¬ IsGap text := by
    intro blank
    rw [(Spaced.none blank).words_eq] at whole
    cases whole
  obtain ⟨first, rest, opens⟩ := exists_opens visible
  rw [opens.words_eq] at whole
  cases whole
  exact ⟨rest, opens, rfl⟩

theorem IsWord.words_eq (solid : IsWord word) : words word = [word] := by
  have whole := solid.words_append Breaks.nil
  rwa [List.append_nil] at whole

end ReplicatedSpace.Text
