import ReplicatedSpace.Command
import ReplicatedSpace.Proofs.Literals
import ReplicatedSpace.Proofs.Words

/-!
The grammar of lines. A line that is not blank opens with a word, which alone decides what is made
of the rest; so the blanks around a line and behind its first word say nothing. What is typed is in
the command that it gives, word by word, except for what stands behind the word that asks to exit.
-/
namespace ReplicatedSpace.Command

open Text (IsGap IsWord Breaks Opens Spaced words)

section Opening

variable {line name : String} {rest : List Char}

theorem exists_opens (visible : ¬ IsGap line.toList) :
    ∃ (name : String) (rest : List Char), Opens line.toList name.toList rest := by
  obtain ⟨word, rest, opens⟩ := Text.exists_opens visible
  exact ⟨.ofList word, rest, by rwa [String.toList_ofList]⟩

theorem ofLine_of_opens (opens : Opens line.toList name.toList rest) :
    ofLine line = (ofWords name rest).map some := by
  obtain ⟨first, behind, some⟩ := opens.cut
  have visible : (Text.trim line.toList).isEmpty = false := by simpa using some
  rw [ofLine, visible, if_neg Bool.false_ne_true]
  simp only [first, behind, String.ofList_toList]

theorem ofLine_eq_none_iff : ofLine line = .ok none ↔ IsGap line.toList := by
  constructor
  · intro nothing
    by_contra visible
    obtain ⟨name, rest, opens⟩ := exists_opens visible
    rw [ofLine_of_opens opens] at nothing
    cases read : ofWords name rest <;> simp [read, Except.map] at nothing
  · intro blank
    simp [ofLine, blank.trim_eq_nil]

theorem ofLine_eq_some_iff {command : Command} :
    ofLine line = .ok (some command) ↔
      ∃ (name : String) (rest : List Char), Opens line.toList name.toList rest ∧
        ofWords name rest = .ok command := by
  have lift (name : String) (rest : List Char) :
      (ofWords name rest).map some = .ok (some command) ↔ ofWords name rest = .ok command := by
    cases ofWords name rest <;> simp [Except.map]
  constructor
  · intro read
    have visible : ¬ IsGap line.toList := by
      intro blank
      rw [ofLine_eq_none_iff.mpr blank] at read
      cases read
    obtain ⟨name, rest, opens⟩ := exists_opens visible
    rw [ofLine_of_opens opens, lift] at read
    exact ⟨name, rest, opens, read⟩
  · rintro ⟨name, rest, opens, read⟩
    rw [ofLine_of_opens opens, lift]
    exact read

end Opening

section Reading

variable {name : String} {rest : List Char} {command : Command}

/-- How a command is asked for by its name and what follows it. -/
inductive Asked : String → List Char → Command → Prop
  | operation (operation : Operation) {rest : List Char} (some : rest ≠ []) :
      Asked operation.name rest (.operation operation (.ofList rest))
  | setDelay {rest qualifier seconds : List Char} {delay : Span}
      (parts : words rest = [qualifier, seconds])
      (reads : Span.ofSeconds? (.ofList seconds) = some delay) :
      Asked "setdelay" rest (.setDelay (.ofList qualifier) delay)
  | sleep {rest : List Char} {duration : Span}
      (reads : Span.ofSeconds? (.ofList rest) = some duration) :
      Asked "sleep" rest (.sleep duration)
  | exit (rest : List Char) : Asked "exit" rest .exit

theorem readSpan_eq_ok_iff {text : String} {span : Span} :
    readSpan text = .ok span ↔ Span.ofSeconds? text = some span := by
  unfold readSpan
  split
  · rename_i found
    simp [found]
  · rename_i none
    simp [none]

theorem readSpan_of_none {text : String} (none : Span.ofSeconds? text = none) :
    readSpan text = .error (.invalidArgument (.badSeconds text)) := by
  rw [readSpan, none]

theorem ofWords_operation (operation : Operation) (rest : List Char) :
    ofWords operation.name rest = readOperation operation rest := by
  rw [ofWords, Operation.ofName?_name]

/-- The words that lines with commands begin with. -/
def names : List String := Operation.all.map Operation.name ++ ["setdelay", "sleep", "exit"]

theorem ofWords_of_not_mem_names (unknown : name ∉ names) (rest : List Char) :
    ofWords name rest = .error (.invalidArgument (.unknownCommand name)) := by
  simp only [names, List.mem_append, List.mem_map, not_or, not_exists, not_and, List.mem_cons,
    List.not_mem_nil, or_false] at unknown
  obtain ⟨operations, setDelay, sleep, exit⟩ := unknown
  have none : Operation.ofName? name = none := by
    refine Option.eq_none_iff_forall_ne_some.mpr fun operation found => ?_
    exact operations operation operation.mem_all (Operation.ofName?_eq_some_iff.mp found).symm
  simp [ofWords, none, setDelay, sleep, exit]

theorem name_cases (name : String) :
    (∃ operation : Operation, name = operation.name) ∨ name = "setdelay" ∨ name = "sleep" ∨
      name = "exit" ∨ name ∉ names := by
  by_cases known : name ∈ names
  · simp only [names, List.mem_append, List.mem_map, List.mem_cons, List.not_mem_nil,
      or_false] at known
    rcases known with ⟨operation, _, same⟩ | other | other | other
    · exact .inl ⟨operation, same.symm⟩
    · exact .inr (.inl other)
    · exact .inr (.inr (.inl other))
    · exact .inr (.inr (.inr (.inl other)))
  · exact .inr (.inr (.inr (.inr known)))

theorem asked_of_ofWords (read : ofWords name rest = .ok command) : Asked name rest command := by
  rcases name_cases name with ⟨operation, rfl⟩ | rfl | rfl | rfl | unknown
  · rw [ofWords_operation, readOperation] at read
    split at read
    · cases read
    · rename_i some
      cases read
      exact .operation operation (by simpa using some)
  · change readSetDelay rest = .ok command at read
    unfold readSetDelay at read
    split at read
    · rename_i qualifier seconds parts
      cases found : readSpan (.ofList seconds) with
      | error fault => simp [found, Except.map] at read
      | ok delay =>
        simp only [found, Except.map, Except.ok.injEq] at read
        subst read
        exact .setDelay parts (readSpan_eq_ok_iff.mp found)
    · cases read
  · change (readSpan (.ofList rest)).map Command.sleep = .ok command at read
    cases found : readSpan (.ofList rest) with
    | error fault => simp [found, Except.map] at read
    | ok duration =>
      simp only [found, Except.map, Except.ok.injEq] at read
      subst read
      exact .sleep (readSpan_eq_ok_iff.mp found)
  · cases read
    exact .exit rest
  · rw [ofWords_of_not_mem_names unknown] at read
    cases read

theorem ofWords_eq_ok_iff : ofWords name rest = .ok command ↔ Asked name rest command := by
  constructor
  · exact asked_of_ofWords
  · intro asked
    cases asked with
    | operation operation some =>
      rw [ofWords_operation, readOperation, if_neg (by simpa using some)]
    | setDelay parts reads =>
      change readSetDelay rest = _
      rw [readSetDelay, parts]
      simp only [readSpan_eq_ok_iff.mpr reads]
      rfl
    | sleep reads =>
      change (readSpan (.ofList rest)).map Command.sleep = _
      rw [readSpan_eq_ok_iff.mpr reads]
      rfl
    | exit => rfl

theorem invalidArgument_of_ofWords {error : Error} (read : ofWords name rest = .error error) :
    ∃ fault, error = .invalidArgument fault := by
  have span (into : Span → Command) {text : String}
      (failed : (readSpan text).map into = .error error) :
      ∃ fault, error = .invalidArgument fault := by
    cases found : Span.ofSeconds? text with
    | some span => simp [readSpan_eq_ok_iff.mpr found, Except.map] at failed
    | none =>
      rw [readSpan_of_none found] at failed
      cases failed
      exact ⟨_, rfl⟩
  rcases name_cases name with ⟨operation, rfl⟩ | rfl | rfl | rfl | unknown
  · rw [ofWords_operation, readOperation] at read
    split at read
    · cases read
      exact ⟨_, rfl⟩
    · cases read
  · change readSetDelay rest = .error error at read
    unfold readSetDelay at read
    split at read
    · exact span _ read
    · cases read
      exact ⟨_, rfl⟩
  · exact span .sleep read
  · cases read
  · rw [ofWords_of_not_mem_names unknown] at read
    cases read
    exact ⟨_, rfl⟩

end Reading

section Grammar

variable {line : String}

theorem spaced_three_iff {first second third text : List Char} :
    Spaced [first, second, third] text ↔
      ∃ rest, Opens text first rest ∧ words rest = [second, third] := by
  rw [← Text.words_eq_iff]
  constructor
  · intro whole
    exact Text.exists_opens_of_words whole
  · rintro ⟨rest, opens, parts⟩
    rw [opens.words_eq, parts]

theorem ofLine_eq_operation_iff {operation : Operation} {argument : String} :
    ofLine line = .ok (some (.operation operation argument)) ↔
      argument ≠ "" ∧ Opens line.toList operation.name.toList argument.toList := by
  rw [ofLine_eq_some_iff]
  constructor
  · rintro ⟨name, rest, opens, read⟩
    cases ofWords_eq_ok_iff.mp read with
    | operation _ some =>
      refine ⟨fun empty => some ?_, by rwa [String.toList_ofList]⟩
      exact String.ofList_eq_empty_iff.mp empty
  · rintro ⟨some, opens⟩
    refine ⟨_, _, opens, ofWords_eq_ok_iff.mpr ?_⟩
    have some' : argument.toList ≠ [] := fun empty => some (String.toList_eq_nil_iff.mp empty)
    have asked := Asked.operation operation some'
    rwa [String.ofList_toList] at asked

theorem ofLine_eq_setDelay_iff {qualifier : String} {delay : Span} :
    ofLine line = .ok (some (.setDelay qualifier delay)) ↔ ∃ seconds,
      Spaced ["setdelay".toList, qualifier.toList, seconds] line.toList ∧
        Span.ofSeconds? (.ofList seconds) = some delay := by
  rw [ofLine_eq_some_iff]
  constructor
  · rintro ⟨name, rest, opens, read⟩
    cases ofWords_eq_ok_iff.mp read with
    | @setDelay _ _ seconds _ parts reads =>
      refine ⟨seconds, spaced_three_iff.mpr ⟨rest, opens, ?_⟩, reads⟩
      rw [parts, String.toList_ofList]
  · rintro ⟨seconds, spaced, reads⟩
    obtain ⟨rest, opens, parts⟩ := spaced_three_iff.mp spaced
    refine ⟨_, _, opens, ofWords_eq_ok_iff.mpr ?_⟩
    have asked := Asked.setDelay parts reads
    rwa [String.ofList_toList] at asked

theorem ofLine_eq_sleep_iff {duration : Span} :
    ofLine line = .ok (some (.sleep duration)) ↔ ∃ seconds,
      Opens line.toList "sleep".toList seconds ∧
        Span.ofSeconds? (.ofList seconds) = some duration := by
  rw [ofLine_eq_some_iff]
  constructor
  · rintro ⟨name, rest, opens, read⟩
    cases ofWords_eq_ok_iff.mp read with
    | sleep reads => exact ⟨rest, opens, reads⟩
  · rintro ⟨seconds, opens, reads⟩
    exact ⟨_, _, opens, ofWords_eq_ok_iff.mpr (.sleep reads)⟩

theorem ofLine_eq_exit_iff :
    ofLine line = .ok (some .exit) ↔ ∃ rest, Opens line.toList "exit".toList rest := by
  rw [ofLine_eq_some_iff]
  constructor
  · rintro ⟨name, rest, opens, read⟩
    cases ofWords_eq_ok_iff.mp read with
    | exit => exact ⟨rest, opens⟩
  · rintro ⟨rest, opens⟩
    exact ⟨_, _, opens, ofWords_eq_ok_iff.mpr (.exit rest)⟩

theorem invalidArgument_of_ofLine {error : Error} (read : ofLine line = .error error) :
    ∃ fault, error = .invalidArgument fault := by
  have visible : ¬ IsGap line.toList := by
    intro blank
    rw [ofLine_eq_none_iff.mpr blank] at read
    cases read
  obtain ⟨name, rest, opens⟩ := exists_opens visible
  rw [ofLine_of_opens opens] at read
  cases found : ofWords name rest with
  | ok command => simp [found, Except.map] at read
  | error fault =>
    simp only [found, Except.map, Except.error.injEq] at read
    subst read
    exact invalidArgument_of_ofWords found

theorem ofLine_between {before after : List Char} (first : IsGap before) (last : IsGap after) :
    ofLine (.ofList (before ++ line.toList ++ after)) = ofLine line := by
  simp only [ofLine, String.toList_ofList, Text.trim_between first last]

theorem ofLine_more_blanks {before word more tail : List Char} (first : IsGap before)
    (solid : IsWord word) (breaks : Breaks tail) (blank : IsGap more) :
    ofLine (.ofList (before ++ word ++ (more ++ tail))) =
      ofLine (.ofList (before ++ word ++ tail)) := by
  have opens {behind : List Char} (breaks : Breaks behind) :
      Opens (String.ofList (before ++ word ++ behind)).toList (String.ofList word).toList
        (Text.trim behind) := by
    rw [String.toList_ofList, String.toList_ofList]
    exact Text.opens_of_word first solid breaks
  have same : Text.trim (more ++ tail) = Text.trim tail := by
    simpa using Text.trim_between blank Text.IsGap.nil tail
  rw [ofLine_of_opens (opens breaks), ofLine_of_opens (opens (blank.breaks breaks)), same]

/-- A line that is blank holds no command, and every other one opens with a word. The name of an
operation asks for it with the rest as its argument, whatever that is, if there is a rest; for a
delay there are exactly two words more, the second one of seconds; for a pause the rest is of
seconds; and what follows the word that asks to exit does not matter. All else is refused as an
argument, with a word that is no name as the one that is unknown. Blanks around a line and further
ones where its first word ends change nothing. -/
theorem line_grammar (line : String) :
    (ofLine line = .ok none ↔ IsGap line.toList) ∧
    (∀ operation argument, ofLine line = .ok (some (.operation operation argument)) ↔
      argument ≠ "" ∧ Opens line.toList operation.name.toList argument.toList) ∧
    (∀ qualifier delay, ofLine line = .ok (some (.setDelay qualifier delay)) ↔ ∃ seconds,
      Spaced ["setdelay".toList, qualifier.toList, seconds] line.toList ∧
        Span.ofSeconds? (.ofList seconds) = some delay) ∧
    (∀ duration, ofLine line = .ok (some (.sleep duration)) ↔ ∃ seconds,
      Opens line.toList "sleep".toList seconds ∧
        Span.ofSeconds? (.ofList seconds) = some duration) ∧
    (ofLine line = .ok (some .exit) ↔ ∃ rest, Opens line.toList "exit".toList rest) ∧
    (∀ error, ofLine line = .error error → ∃ fault, error = .invalidArgument fault) ∧
    (∀ name rest, Opens line.toList name.toList rest → name ∉ names →
      ofLine line = .error (.invalidArgument (.unknownCommand name))) ∧
    (∀ before after, IsGap before → IsGap after →
      ofLine (.ofList (before ++ line.toList ++ after)) = ofLine line) ∧
    ∀ before word more tail, IsGap before → IsWord word → Breaks tail → IsGap more →
      line.toList = before ++ word ++ tail →
        ofLine (.ofList (before ++ word ++ (more ++ tail))) = ofLine line := by
  refine ⟨ofLine_eq_none_iff, fun _ _ => ofLine_eq_operation_iff, fun _ _ => ofLine_eq_setDelay_iff,
    fun _ => ofLine_eq_sleep_iff, ofLine_eq_exit_iff, fun _ => invalidArgument_of_ofLine, ?_,
    fun _ _ => ofLine_between, ?_⟩
  · intro name rest opens unknown
    rw [ofLine_of_opens opens, ofWords_of_not_mem_names unknown]
    rfl
  · intro before word more tail first solid breaks blank whole
    rw [ofLine_more_blanks first solid breaks blank, ← whole, String.ofList_toList]

/-- A word that names nothing is refused, however many blanks there are around it. -/
theorem unknown_word_among_blanks :
    Opens "delete <a>".toList "delete".toList "<a>".toList ∧ "delete" ∉ names ∧
    IsGap ['\u3000', ' '] ∧ IsWord "delete".toList ∧ Breaks " <a>".toList ∧
    ofLine "delete <a>" = .error (.invalidArgument (.unknownCommand "delete")) ∧
    ofLine "\u3000 delete <a>" = .error (.invalidArgument (.unknownCommand "delete")) ∧
    ofLine "delete\u3000  <a>" = .error (.invalidArgument (.unknownCommand "delete")) := by
  have opens : Opens "delete <a>".toList "delete".toList "<a>".toList :=
    ⟨[], [' '], [], by decide, by decide, by decide, by decide, by decide,
      fun _ => List.cons_ne_nil _ _, rfl⟩
  have blank : IsGap ['\u3000', ' '] := by decide
  have solid : IsWord "delete".toList := by decide
  have breaks : Breaks " <a>".toList := by decide
  have unknown : "delete" ∉ names := by decide
  obtain ⟨_, _, _, _, _, _, refused, around, further⟩ := line_grammar "delete <a>"
  have fault := refused "delete" _ opens unknown
  refine ⟨opens, unknown, blank, solid, breaks, fault, ?_, ?_⟩
  · exact (around _ [] blank Text.IsGap.nil).trans fault
  · exact (further [] _ _ _ Text.IsGap.nil solid breaks blank rfl).trans fault

/-- The words of a command: its name, and those of what it holds. -/
def Holds : Command → List (List Char) → Prop
  | .operation kind argument, found => found = kind.name.toList :: words argument.toList
  | .setDelay qualifier delay, found => ∃ seconds,
      found = ["setdelay".toList, qualifier.toList, seconds] ∧
        Span.ofSeconds? (.ofList seconds) = some delay
  | .sleep duration, found => ∃ seconds, found = ["sleep".toList, seconds] ∧
      Span.ofSeconds? (.ofList seconds) = some duration
  | .exit, found => found = ["exit".toList]

theorem isWord_of_ofSeconds? {seconds : List Char} {span : Span} (trimmed : Text.Trimmed seconds)
    (reads : Span.ofSeconds? (.ofList seconds) = some span) : IsWord seconds := by
  rw [Span.ofSeconds?, String.toList_ofList, trimmed.trim_eq] at reads
  obtain ⟨literal, read, _⟩ := Option.bind_eq_some_iff.mp reads
  exact Decimal.Literal.isWord_of_read? read

theorem Asked.holds {name : String} {rest : List Char} {command : Command}
    (asked : Asked name rest command) (trimmed : Text.Trimmed rest) :
    command.Holds (name.toList :: words rest) ∨ command = .exit ∧ name = "exit" := by
  cases asked with
  | operation operation some => exact .inl (by rw [Holds, String.toList_ofList])
  | @setDelay _ qualifier seconds _ parts reads =>
    have same : (String.ofList qualifier).toList = qualifier := String.toList_ofList
    exact .inl ⟨seconds, by rw [parts, same], reads⟩
  | sleep reads =>
    have solid := isWord_of_ofSeconds? trimmed reads
    exact .inl ⟨rest, by rw [solid.words_eq], reads⟩
  | exit => exact .inr ⟨rfl, rfl⟩

/-- All words of a line that is a command are in the command, and a line with too few words or too
many for its command is refused, but for one: behind the word that asks to exit anything may stand,
and is dropped. -/
theorem words_kept_but_behind_exit (line : String) :
    (∀ command, ofLine line = .ok (some command) → command.Holds (words line.toList) ∨
      command = .exit ∧ (words line.toList).head? = some "exit".toList) ∧
    (∀ operation : Operation, words line.toList = [operation.name.toList] →
      ofLine line = .error (.invalidArgument (.missingArgument operation.name))) ∧
    (∀ others, words line.toList = "setdelay".toList :: others → others.length ≠ 2 →
      ofLine line = .error (.invalidArgument .delayUsage)) ∧
    (∀ others, words line.toList = "sleep".toList :: others → others.length ≠ 1 →
      ∃ rest, Opens line.toList "sleep".toList rest ∧
        ofLine line = .error (.invalidArgument (.badSeconds (.ofList rest)))) ∧
    ∀ others, words line.toList = "exit".toList :: others → ofLine line = .ok (some .exit) := by
  refine ⟨?_, ?_, ?_, ?_, ?_⟩
  · intro command read
    obtain ⟨name, rest, opens, asked⟩ := ofLine_eq_some_iff.mp read
    rw [opens.words_eq]
    rcases (ofWords_eq_ok_iff.mp asked).holds opens.trimmed with holds | ⟨isExit, rfl⟩
    · exact .inl holds
    · exact .inr ⟨isExit, rfl⟩
  · intro operation alone
    obtain ⟨rest, opens, none⟩ := Text.exists_opens_of_words alone
    rw [ofLine_of_opens opens, ofWords_operation, opens.trimmed.eq_nil_of_words none]
    rfl
  · intro others whole number
    obtain ⟨rest, opens, rfl⟩ := Text.exists_opens_of_words whole
    have refused : readSetDelay rest = .error (.invalidArgument .delayUsage) := by
      unfold readSetDelay
      split
      · rename_i parts
        rw [parts] at number
        exact absurd rfl number
      · rfl
    rw [ofLine_of_opens opens]
    change (readSetDelay rest).map some = _
    rw [refused]
    rfl
  · intro others whole number
    obtain ⟨rest, opens, rfl⟩ := Text.exists_opens_of_words whole
    have none : Span.ofSeconds? (.ofList rest) = none := by
      refine Option.eq_none_iff_forall_ne_some.mpr fun span reads => number ?_
      rw [(isWord_of_ofSeconds? opens.trimmed reads).words_eq]
      rfl
    refine ⟨rest, opens, ?_⟩
    rw [ofLine_of_opens opens]
    change ((readSpan (.ofList rest)).map Command.sleep).map some = _
    rw [readSpan_of_none none]
    rfl
  · intro others whole
    obtain ⟨rest, opens, -⟩ := Text.exists_opens_of_words whole
    exact ofLine_eq_exit_iff.mpr ⟨rest, opens⟩

/-- A word too many keeps a delay from being set. -/
theorem second_number_refused :
    words "setdelay A 1 2".toList = "setdelay".toList :: ["A".toList, ['1'], ['2']] ∧
    ["A".toList, ['1'], ['2']].length ≠ 2 ∧
    ofLine "setdelay A 1 2" = .error (.invalidArgument .delayUsage) := by
  have typed : words "setdelay A 1 2".toList = "setdelay".toList :: ["A".toList, ['1'], ['2']] := by
    decide
  have number : ["A".toList, ['1'], ['2']].length ≠ 2 := by decide
  exact ⟨typed, number, (words_kept_but_behind_exit _).2.2.1 _ typed number⟩

/-- A line that asks to exit may have a word too many, which is dropped. -/
theorem exit_drops_word :
    ofLine "exit now" = .ok (some .exit) ∧
    words "exit now".toList = ["exit".toList, "now".toList] ∧
    ¬ Command.exit.Holds (words "exit now".toList) := by
  have typed : words "exit now".toList = ["exit".toList, "now".toList] := by decide
  refine ⟨by decide +kernel, typed, ?_⟩
  rw [typed, Holds]
  decide

end Grammar

end ReplicatedSpace.Command
