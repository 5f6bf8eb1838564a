import ReplicatedSpace.Json.Number
import ReplicatedSpace.Json.Quoted

/-!
Skipping a value that nobody asked for. The brackets that are open are kept as a list, so that
values may nest to any depth; only the form of the value is looked at.
-/
namespace ReplicatedSpace.Json

inductive Bracket
  | array
  | object
deriving DecidableEq

/-- Skips a value without parts, from its first character on. -/
def skipScalar : List Char → Except Fault (List Char)
  | [] => .error .truncated
  | mark :: rest =>
    if mark = 'n' then takeWord "ull".toList rest
    else if mark = 't' then takeWord "rue".toList rest
    else if mark = 'f' then takeWord "alse".toList rest
    else if mark = '\x22' then skipQuoted rest
    else if mark = '-' then (Number.read .malformed true rest).map Prod.snd
    else if mark.isDigit then (Number.read .malformed false (mark :: rest)).map Prod.snd
    else .error .malformed

def skipName (text : List Char) : Except Fault (List Char) :=
  match skipQuoted text with
  | .error fault => .error fault
  | .ok rest => takeMark ':' rest

def behindBracket (text : List Char) : List Char := (dropBlanks text).drop 1

private theorem length_map_snd_lt {parsed : Parsed Number} {bound : Nat} {rest : List Char}
    (shorter : ∀ number tail, parsed = .ok (number, tail) → tail.length < bound)
    (found : parsed.map Prod.snd = .ok rest) : rest.length < bound := by
  cases parsed with
  | error fault => simp [Except.map] at found
  | ok pair =>
    simp only [Except.map, Except.ok.injEq] at found
    subst found
    exact shorter _ _ rfl

theorem length_skipScalar_lt {text rest : List Char} (found : skipScalar text = .ok rest) :
    rest.length < text.length := by
  unfold skipScalar at found
  split at found
  · simp at found
  · rename_i mark tail
    rw [List.length_cons]
    split at found
    · have := length_takeWord_le found; omega
    · split at found
      · have := length_takeWord_le found; omega
      · split at found
        · have := length_takeWord_le found; omega
        · split at found
          · have := length_skipQuoted_lt found; omega
          · split at found
            · exact length_map_snd_lt
                (fun _ _ read => by have := Number.length_read_lt read; omega) found
            · split at found
              · exact length_map_snd_lt
                  (fun _ _ read => by simpa using Number.length_read_lt read) found
              · simp at found

theorem length_skipName_lt {text rest : List Char} (found : skipName text = .ok rest) :
    rest.length < text.length := by
  unfold skipName at found
  split at found
  · simp at found
  · rename_i quoted
    have := length_skipQuoted_lt quoted
    have := length_takeMark_lt found
    omega

theorem length_behindBracket_lt {text : List Char} (some : dropBlanks text ≠ []) :
    (behindBracket text).length < text.length := by
  have shorter := length_dropBlanks_le text
  have positive : 0 < (dropBlanks text).length := List.length_pos_iff.mpr some
  simp only [behindBracket, List.length_drop]
  omega

theorem dropBlanks_ne_nil_of_nextItem {first : Bool} {text : List Char} {found : Option (List Char)}
    (read : nextItem first text = .ok found) : dropBlanks text ≠ [] := by
  intro empty
  simp [nextItem, empty] at read

theorem dropBlanks_ne_nil_of_nextName {first : Bool} {text : List Char} {found : Option (List Char)}
    (read : nextName first text = .ok found) : dropBlanks text ≠ [] := by
  intro empty
  simp [nextName, empty] at read

theorem length_nextItem_lt {text rest : List Char} (found : nextItem false text = .ok (some rest)) :
    rest.length < text.length := by
  have shorter := length_dropBlanks_le text
  unfold nextItem at found
  split at found
  · simp at found
  · rename_i mark tail same
    rw [same, List.length_cons] at shorter
    split at found
    · simp at found
    · simp only [Bool.false_eq_true, ↓reduceIte] at found
      split at found
      · have further := length_dropBlanks_le tail
        split at found
        · simp at found
        · rename_i next more deeper
          rw [deeper, List.length_cons] at further
          split at found
          · simp at found
          · cases found; simp only [List.length_cons]; omega
      · simp at found

mutual

/-- Skips a value, and then everything up to the end of the outermost open bracket. -/
def skipValue (opened : List Bracket) (text : List Char) : Except Fault (List Char) :=
  match _start : dropBlanks text with
  | [] => .error .truncated
  | mark :: rest =>
    if mark = '[' then
      match _item : nextItem true rest with
      | .error fault => .error fault
      | .ok none => skipBehind opened (behindBracket rest)
      | .ok (some inside) => skipValue (.array :: opened) inside
    else if mark = '\x7b' then
      match _member : nextName true rest with
      | .error fault => .error fault
      | .ok none => skipBehind opened (behindBracket rest)
      | .ok (some inside) =>
        match _named : skipName inside with
        | .error fault => .error fault
        | .ok value => skipValue (.object :: opened) value
    else
      match _scalar : skipScalar (mark :: rest) with
      | .error fault => .error fault
      | .ok behind => skipBehind opened behind
termination_by text.length
decreasing_by
  all_goals
    have shorter := length_dropBlanks_le text
    rw [‹dropBlanks text = _›, List.length_cons] at shorter
  · have := length_behindBracket_lt (dropBlanks_ne_nil_of_nextItem ‹_›); omega
  · have := length_nextItem_le ‹_›; omega
  · have := length_behindBracket_lt (dropBlanks_ne_nil_of_nextName ‹_›); omega
  · have := length_nextName_lt ‹_›; have := length_skipName_lt ‹_›; omega
  · have := length_skipScalar_lt ‹_›; rw [List.length_cons] at this; omega

/-- Goes on behind a skipped value to the end of the outermost open bracket. -/
def skipBehind (opened : List Bracket) (text : List Char) : Except Fault (List Char) :=
  match opened with
  | [] => .ok text
  | .array :: outer =>
    match _item : nextItem false text with
    | .error fault => .error fault
    | .ok none => skipBehind outer (behindBracket text)
    | .ok (some inside) => skipValue (.array :: outer) inside
  | .object :: outer =>
    match _member : nextName false text with
    | .error fault => .error fault
    | .ok none => skipBehind outer (behindBracket text)
    | .ok (some inside) =>
      match _named : skipName inside with
      | .error fault => .error fault
      | .ok value => skipValue (.object :: outer) value
termination_by text.length
decreasing_by
  · exact length_behindBracket_lt (dropBlanks_ne_nil_of_nextItem ‹_›)
  · exact length_nextItem_lt ‹_›
  · exact length_behindBracket_lt (dropBlanks_ne_nil_of_nextName ‹_›)
  · have := length_nextName_lt ‹_›; have := length_skipName_lt ‹_›; omega

end

private theorem length_skip (bound : Nat) :
    (∀ opened text rest, text.length ≤ bound → skipValue opened text = .ok rest →
      rest.length < text.length) ∧
    (∀ opened text rest, text.length ≤ bound → skipBehind opened text = .ok rest →
      rest.length ≤ text.length) := by
  induction bound with
  | zero =>
    constructor
    · intro opened text rest small found
      obtain rfl := List.eq_nil_of_length_eq_zero (Nat.le_zero.mp small)
      simp [skipValue, dropBlanks] at found
    · intro opened text rest small found
      obtain rfl := List.eq_nil_of_length_eq_zero (Nat.le_zero.mp small)
      cases opened with
      | nil => simp_all [skipBehind]
      | cons bracket outer =>
        cases bracket <;> simp [skipBehind, nextItem, nextName, dropBlanks] at found
  | succ bound ih =>
    obtain ⟨value, behind⟩ := ih
    constructor
    · intro opened text rest small found
      have shorter := length_dropBlanks_le text
      rw [skipValue] at found
      split at found
      · simp at found
      · rename_i mark tail start
        rw [start, List.length_cons] at shorter
        split at found
        · split at found
          · simp at found
          · have closed := length_behindBracket_lt (dropBlanks_ne_nil_of_nextItem ‹_›)
            have := behind _ _ _ (by omega) found
            omega
          · have opening := length_nextItem_le ‹_›
            have := value _ _ _ (by omega) found
            omega
        · split at found
          · split at found
            · simp at found
            · have closed := length_behindBracket_lt (dropBlanks_ne_nil_of_nextName ‹_›)
              have := behind _ _ _ (by omega) found
              omega
            · have opening := length_nextName_lt ‹_›
              split at found
              · simp at found
              · have named := length_skipName_lt ‹_›
                have := value _ _ _ (by omega) found
                omega
          · split at found
            · simp at found
            · have scalar := length_skipScalar_lt ‹_›
              rw [List.length_cons] at scalar
              have := behind _ _ _ (by omega) found
              omega
    · intro opened text rest small found
      rw [skipBehind.eq_def] at found
      split at found
      · simp only [Except.ok.injEq] at found
        subst found
        exact Nat.le_refl _
      · split at found
        · simp at found
        · have closed := length_behindBracket_lt (dropBlanks_ne_nil_of_nextItem ‹_›)
          have := behind _ _ _ (by omega) found
          omega
        · have opening := length_nextItem_lt ‹_›
          have := value _ _ _ (by omega) found
          omega
      · split at found
        · simp at found
        · have closed := length_behindBracket_lt (dropBlanks_ne_nil_of_nextName ‹_›)
          have := behind _ _ _ (by omega) found
          omega
        · have opening := length_nextName_lt ‹_›
          split at found
          · simp at found
          · have named := length_skipName_lt ‹_›
            have := value _ _ _ (by omega) found
            omega

theorem length_skipValue_lt {opened : List Bracket} {text rest : List Char}
    (found : skipValue opened text = .ok rest) : rest.length < text.length :=
  (length_skip text.length).1 _ _ _ (Nat.le_refl _) found

end ReplicatedSpace.Json
