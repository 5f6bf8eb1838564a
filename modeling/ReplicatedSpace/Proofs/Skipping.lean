import ReplicatedSpace.Proofs.Grammar

/-!
Values that nobody asked for are skipped to their ends, whatever is in them and however deep they
nest: what is left in the brackets that are open is skipped as it would be without the value.
-/
namespace ReplicatedSpace.Json

theorem skipQuoted_of_escape {rest behind : List Char} (escaped : skipEscape rest = .ok behind) :
    skipQuoted ('\\' :: rest) = skipQuoted behind := by
  rw [skipQuoted]
  split
  · rename_i same
    cases escaped.symm.trans same
  · rename_i same
    cases escaped.symm.trans same
    rfl

theorem skipQuoted_of_plain {rest : List Char} {letter : Char} (noQuote : letter ≠ '\x22')
    (noEscape : letter ≠ '\\') (noControl : ¬ letter.toNat < 0x20) :
    skipQuoted (letter :: rest) = skipQuoted rest := by
  rw [skipQuoted.eq_def]
  split
  · rename_i empty
    cases empty
  · rename_i same
    cases same
    exact absurd rfl noQuote
  · rename_i same
    cases same
    exact absurd rfl noEscape
  · rename_i same
    cases same
    exact if_neg noControl

theorem skipEscape_of_isHex {digits : List Char} {code : Nat} (hex : IsHex digits code)
    (rest : List Char) : skipEscape ('u' :: (digits ++ rest)) = .ok rest := by
  simp [skipEscape, readHex_of_isHex hex]

theorem Quoted.skip {spelled meant : List Char} (quoted : Quoted spelled meant)
    (rest : List Char) : skipQuoted (spelled ++ '\x22' :: rest) = .ok rest := by
  induction quoted with
  | nil => rw [List.nil_append, skipQuoted]
  | plain noQuote noEscape noControl _ ih =>
    rw [List.cons_append, skipQuoted_of_plain noQuote noEscape noControl, ih]
  | @escape mark letter spelled meant stands _ ih =>
    have escaped : skipEscape (mark :: (spelled ++ '\x22' :: rest)) =
        .ok (spelled ++ '\x22' :: rest) := by
      simp [skipEscape, ne_of_unescape? stands, stands]
    rw [List.cons_append, List.cons_append, skipQuoted_of_escape escaped, ih]
  | @code digits spelled meant code hex _ _ _ ih =>
    rw [List.cons_append, List.cons_append, List.append_assoc,
      skipQuoted_of_escape (skipEscape_of_isHex hex _), ih]
  | @pair first second spelled meant high low hex _ hex' _ _ ih =>
    have shift : '\\' :: 'u' :: (first ++ '\\' :: 'u' :: (second ++ spelled)) ++ '\x22' :: rest =
        '\\' :: 'u' :: (first ++ '\\' :: 'u' :: (second ++ (spelled ++ '\x22' :: rest))) := by
      simp
    rw [shift, skipQuoted_of_escape (skipEscape_of_isHex hex _),
      skipQuoted_of_escape (skipEscape_of_isHex hex' _), ih]

theorem takeWord_append (word rest : List Char) : takeWord word (word ++ rest) = .ok rest := by
  induction word with
  | nil => rfl
  | cons letter word ih => rw [List.cons_append, takeWord, if_pos rfl, ih]

theorem Number.Spelled.skip {number : Number} {text : List Char} (spelled : number.Spelled text)
    {rest : List Char} (ends : Ends rest) : skipScalar (text ++ rest) = .ok rest := by
  cases spelled with
  | negative sign unsigned =>
    have read := unsigned.read .malformed ends
    rw [sign] at read
    simp [skipScalar, read, Except.map]
  | positive noSign unsigned =>
    have read := unsigned.read .malformed ends
    rw [noSign] at read
    cases unsigned with
    | @mk negative whole fraction point power exponent isWhole isFraction isPower =>
      obtain ⟨present, numbers, -⟩ := isWhole
      obtain ⟨digit, others, rfl⟩ := List.exists_cons_of_ne_nil present
      have isDigit := numbers digit List.mem_cons_self
      have other (mark : Char) (odd : mark.isDigit = false) : digit ≠ mark := by
        rintro rfl
        cases odd.symm.trans isDigit
      simp only [List.cons_append] at read ⊢
      rw [skipScalar, if_neg (other 'n' rfl), if_neg (other 't' rfl), if_neg (other 'f' rfl),
        if_neg (other '\x22' rfl), if_neg (other '-' rfl), if_pos isDigit, read]
      rfl

/-- Skips what is left of an array, and then everything up to the end of the outermost bracket. -/
def skipItems (first : Bool) (opened : List Bracket) (text : List Char) :
    Except Fault (List Char) :=
  match nextItem first text with
  | .error fault => .error fault
  | .ok none => skipBehind opened (behindBracket text)
  | .ok (some inside) => skipValue (.array :: opened) inside

/-- Skips what is left of an object, and then everything up to the end of the outermost bracket. -/
def skipMembers (first : Bool) (opened : List Bracket) (text : List Char) :
    Except Fault (List Char) :=
  match nextName first text with
  | .error fault => .error fault
  | .ok none => skipBehind opened (behindBracket text)
  | .ok (some inside) =>
    match skipName inside with
    | .error fault => .error fault
    | .ok value => skipValue (.object :: opened) value

section Brackets

variable {opened : List Bracket} {text rest behind : List Char}

theorem skipValue_of_array (start : dropBlanks text = '[' :: rest) :
    skipValue opened text = skipItems true opened rest := by
  rw [skipValue]
  split
  · rename_i same
    cases start.symm.trans same
  · rename_i same
    cases start.symm.trans same
    rw [if_pos rfl]
    unfold skipItems
    split <;> simp_all

theorem skipValue_of_object (start : dropBlanks text = '\x7b' :: rest) :
    skipValue opened text = skipMembers true opened rest := by
  rw [skipValue]
  split
  · rename_i same
    cases start.symm.trans same
  · rename_i same
    cases start.symm.trans same
    rw [if_neg (by decide), if_pos rfl]
    unfold skipMembers
    split <;> simp_all
    split <;> simp_all

theorem skipValue_of_scalar {mark : Char} (start : dropBlanks text = mark :: rest)
    (noArray : mark ≠ '[') (noObject : mark ≠ '\x7b')
    (skipped : skipScalar (mark :: rest) = .ok behind) :
    skipValue opened text = skipBehind opened behind := by
  rw [skipValue]
  split
  · rename_i same
    cases start.symm.trans same
  · rename_i same
    cases start.symm.trans same
    rw [if_neg noArray, if_neg noObject]
    split
    · rename_i same
      cases skipped.symm.trans same
    · rename_i same
      cases skipped.symm.trans same
      rfl

theorem skipBehind_array :
    skipBehind (.array :: opened) text = skipItems false opened text := by
  rw [skipBehind, skipItems]
  split <;> simp_all

theorem skipBehind_object :
    skipBehind (.object :: opened) text = skipMembers false opened text := by
  rw [skipBehind, skipMembers]
  split <;> simp_all
  split <;> simp_all

end Brackets

/-- A part is skipped, whatever brackets are open around it and whatever stands behind it. -/
def Skips : Part → List Char → Prop
  | .value tree, text => ∀ (opened : List Bracket) (gap rest : List Char), IsGap gap →
      tree.Stops rest → skipValue opened (gap ++ (text ++ rest)) = skipBehind opened rest
  | .items first _, text => ∀ (opened : List Bracket) (rest : List Char),
      skipItems first opened (text ++ rest) = skipBehind opened rest
  | .members first _, text => ∀ (opened : List Bracket) (rest : List Char),
      skipMembers first opened (text ++ rest) = skipBehind opened rest

theorem skips_of_skipScalar {tree : Tree} {mark : Char} {text : List Char}
    (visible : isBlank mark = false) (noArray : mark ≠ '[') (noObject : mark ≠ '\x7b')
    (skipped : ∀ rest, tree.Stops rest → skipScalar (mark :: (text ++ rest)) = .ok rest) :
    Skips (.value tree) (mark :: text) := by
  intro opened gap rest blank stops
  exact skipValue_of_scalar (blank.dropBlanks_cons visible _) noArray noObject
    (skipped rest stops)

/-- Whatever is spelled is skipped. -/
theorem Spelled.skips {part : Part} {text : List Char} (spelled : Spelled part text) :
    Skips part text := by
  induction spelled with
  | null =>
    refine skips_of_skipScalar (by decide) (by decide) (by decide) fun rest _ => ?_
    exact takeWord_append "ull".toList rest
  | boolean value =>
    cases value with
    | true =>
      refine skips_of_skipScalar (by decide) (by decide) (by decide) fun rest _ => ?_
      exact takeWord_append "rue".toList rest
    | false =>
      refine skips_of_skipScalar (by decide) (by decide) (by decide) fun rest _ => ?_
      exact takeWord_append "alse".toList rest
  | @number value text spelled =>
    obtain ⟨mark, rest, rfl, begins⟩ := (Spelled.number spelled).begins
    exact skips_of_skipScalar begins.visible.1 (begins.ne_of_number (by decide) (by decide))
      (begins.ne_of_number (by decide) (by decide)) fun _ ends => spelled.skip ends
  | text quoted =>
    refine skips_of_skipScalar (by decide) (by decide) (by decide) fun rest _ => ?_
    rw [List.append_assoc]
    exact quoted.skip rest
  | array _ ih =>
    intro opened gap rest blank _
    rw [List.cons_append, skipValue_of_array (blank.dropBlanks_cons (by decide) _)]
    exact ih opened rest
  | object _ ih =>
    intro opened gap rest blank _
    rw [List.cons_append, skipValue_of_object (blank.dropBlanks_cons (by decide) _)]
    exact ih opened rest
  | endItems blank =>
    intro opened rest
    have visible : isBlank ']' = false := by decide
    rw [List.append_assoc]
    simp [skipItems, nextItem_of_end blank, behindBracket_of_gap blank visible]
  | @item first lead text rest tree items leads value further skips ih =>
    intro opened behind
    rw [List.append_assoc, List.append_assoc, skipItems, leads.nextItem value]
    calc skipValue (.array :: opened) (text ++ (rest ++ behind))
        = skipBehind (.array :: opened) (rest ++ behind) :=
          skips _ [] _ IsGap.nil ((further.ends_items behind).stops tree)
      _ = skipItems false opened (rest ++ behind) := skipBehind_array
      _ = skipBehind opened behind := ih opened behind
  | endMembers blank =>
    intro opened rest
    have visible : isBlank '\x7d' = false := by decide
    rw [List.append_assoc]
    simp [skipMembers, nextName_of_end blank, behindBracket_of_gap blank visible]
  | @member first lead spelled gap gap' text rest name tree members leads quoted blank blank' _
      further skips ih =>
    intro opened behind
    have named : skipName (spelled ++ '\x22' :: (gap ++ ':' ::
        (gap' ++ (text ++ (rest ++ behind))))) = .ok (gap' ++ (text ++ (rest ++ behind))) := by
      rw [skipName, quoted.skip]
      exact takeMark_of_gap blank (by decide)
    rw [member_append, skipMembers, leads.nextName]
    simp only [named]
    calc skipValue (.object :: opened) (gap' ++ (text ++ (rest ++ behind)))
        = skipBehind (.object :: opened) (rest ++ behind) :=
          skips _ gap' _ blank' ((further.ends_members behind).stops tree)
      _ = skipMembers false opened (rest ++ behind) := skipBehind_object
      _ = skipBehind opened behind := ih opened behind

theorem Spelled.skipValue {tree : Tree} {text gap rest : List Char}
    (spelled : Spelled (.value tree) text) (blank : IsGap gap) (stops : tree.Stops rest) :
    Json.skipValue [] (gap ++ (text ++ rest)) = .ok rest := by
  rw [spelled.skips [] gap rest blank stops, skipBehind]

end ReplicatedSpace.Json
