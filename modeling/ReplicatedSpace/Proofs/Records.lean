import ReplicatedSpace.Json.Record
import ReplicatedSpace.Proofs.Scalars

/-!
Codecs whose values are read back from their written forms. What is read of a part does not depend
on what stands behind it, so that the parts of lists and records are read one after the other.
-/
namespace ReplicatedSpace.Json

variable {α β : Type}

/-- A character that begins a value, and neither the end of a list nor `null`. -/
def Opens (mark : Char) : Prop := isBlank mark = false ∧ mark ≠ ']' ∧ mark ≠ 'n'

theorem Ends.cons {mark : Char} (ends : mark.isDigit = false ∧ mark ≠ '.' ∧ mark ≠ 'e' ∧ mark ≠ 'E')
    (rest : List Char) : Ends (mark :: rest) := by
  intro other same
  cases same
  exact ends

theorem dropBlanks_cons {mark : Char} (visible : isBlank mark = false) (rest : List Char) :
    dropBlanks (mark :: rest) = mark :: rest :=
  List.dropWhile_cons_of_neg (by simp [visible])

/-- A written value is read back, whatever stands behind it. -/
structure Codec.Faithful (codec : Codec α) : Prop where
  reads (value : α) {rest : List Char} (ends : Ends rest) :
    codec.read (codec.write value ++ rest) = .ok (value, rest)
  opens (value : α) : ∃ mark more, codec.write value = mark :: more ∧ Opens mark

theorem Codec.Faithful.decode_encode {codec : Codec α} (faithful : codec.Faithful) (value : α) :
    codec.read (codec.encode value).toList = .ok (value, []) ∧
      codec.decode (codec.encode value) = .ok value := by
  have read : codec.read (codec.encode value).toList = .ok (value, []) := by
    rw [Codec.encode, String.toList_ofList]
    simpa using faithful.reads value Ends.nil
  refine ⟨read, ?_⟩
  rw [Codec.decode, read]
  rfl

theorem Codec.Faithful.map {codec : Codec α} (faithful : codec.Faithful) {into : α → β}
    {back : β → α} (inverse : ∀ value, into (back value) = value) :
    (codec.map into back).Faithful := by
  constructor
  · intro value rest ends
    simp [Codec.map, faithful.reads (back value) ends, inverse]
  · intro value
    exact faithful.opens (back value)

theorem text_faithful : text.Faithful := by
  constructor
  · intro value rest _
    have read : readText (quote value.toList ++ rest) = .ok (value.toList, rest) := by
      have visible : isBlank '\x22' = false := by decide
      simp [readText, quote, dropBlanks_cons visible, readQuoted_quoted]
    simp [text, Codec.map, read]
  · intro value
    exact ⟨'\x22', _, rfl, by decide, by decide, by decide⟩

theorem natural_faithful {limit : Nat} (word : limit ≤ Number.wordLimit) {into : Nat → β}
    {back : β → Nat} (fits : ∀ value, back value ≤ limit)
    (inverse : ∀ value, into (back value) = value) : ((natural limit).map into back).Faithful := by
  constructor
  · intro value rest ends
    have read := readNatural_repr word (fits value) ends
    simp only [Codec.map, natural, read, inverse]
  · intro value
    obtain ⟨digit, others, digits, isDigit, -, -⟩ := toDigits_cons (back value)
    refine ⟨digit, others, Nat.toList_repr.trans digits, isBlank_of_isDigit isDigit, ?_, ?_⟩
    · rintro rfl
      cases isDigit
    · rintro rfl
      cases isDigit

theorem word64_faithful : word64.Faithful := by
  apply natural_faithful (Nat.le_refl _)
  · intro value
    exact Nat.le_sub_one_of_lt value.toNat_lt_size
  · intro value
    exact UInt64.ofNat_toNat

theorem word32_faithful : word32.Faithful := by
  apply natural_faithful (by decide)
  · intro value
    exact Nat.le_sub_one_of_lt value.toNat_lt_size
  · intro value
    exact UInt32.ofNat_toNat

theorem joinComma_cons (part : List Char) (parts : List (List Char)) :
    joinComma (part :: parts) = part ++ parts.flatMap (',' :: ·) := by
  induction parts generalizing part with
  | nil => simp [joinComma, List.intercalate]
  | cons next parts ih =>
    have shift : joinComma (part :: next :: parts) = part ++ [','] ++ joinComma (next :: parts) :=
      List.intercalate_cons_cons
    rw [shift, ih, List.flatMap_cons]
    simp

theorem Ends.parts (closing : Char)
    (ends : closing.isDigit = false ∧ closing ≠ '.' ∧ closing ≠ 'e' ∧ closing ≠ 'E')
    (parts : List (List Char)) (rest : List Char) :
    Ends (parts.flatMap (',' :: ·) ++ closing :: rest) := by
  cases parts with
  | nil => exact Ends.cons ends rest
  | cons => exact Ends.cons (by decide) _

theorem readItems_of_end (item : Codec α) (first : Bool) (rest : List Char) :
    readItems item first (']' :: rest) = .ok ([], rest) := by
  have visible : isBlank ']' = false := by decide
  have place : nextItem first (']' :: rest) = .ok none := by
    simp [nextItem, dropBlanks_cons visible]
  rw [readItems]
  split
  · rename_i same
    cases place.symm.trans same
  · simp [behindBracket, dropBlanks_cons visible]
  · rename_i same
    cases place.symm.trans same

theorem readItems_of_item {item : Codec α} {first : Bool} {text start rest : List Char} {value : α}
    (place : nextItem first text = .ok (some start)) (read : item.read start = .ok (value, rest)) :
    readItems item first text =
      (readItems item false rest).map fun (values, behind) => (value :: values, behind) := by
  rw [readItems]
  split
  · rename_i same
    cases place.symm.trans same
  · rename_i same
    cases place.symm.trans same
  · rename_i same
    cases place.symm.trans same
    split
    · rename_i same
      cases read.symm.trans same
    · rename_i same
      cases read.symm.trans same
      cases readItems item false rest <;> rfl

theorem readItems_behind {item : Codec α} (faithful : item.Faithful) (values : List α)
    (rest : List Char) :
    readItems item false ((values.map item.write).flatMap (',' :: ·) ++ ']' :: rest) =
      .ok (values, rest) := by
  induction values with
  | nil => exact readItems_of_end item false rest
  | cons value values ih =>
    obtain ⟨mark, more, written, visible, noEnd, -⟩ := faithful.opens value
    have read := faithful.reads value (Ends.parts ']' (by decide) (values.map item.write) rest)
    have place : nextItem false (',' :: (item.write value ++
        ((values.map item.write).flatMap (',' :: ·) ++ ']' :: rest))) =
        .ok (some (item.write value ++
          ((values.map item.write).flatMap (',' :: ·) ++ ']' :: rest))) := by
      have comma : isBlank ',' = false := by decide
      simp [nextItem, dropBlanks_cons comma, written, dropBlanks_cons visible, noEnd]
    rw [List.map_cons, List.flatMap_cons, List.append_assoc, List.cons_append,
      readItems_of_item place read, ih]
    rfl

theorem list_faithful {item : Codec α} (faithful : item.Faithful) : (list item).Faithful := by
  constructor
  · intro values rest _
    have bracket : isBlank '[' = false := by decide
    have items : readItems item true (joinComma (values.map item.write) ++ ']' :: rest) =
        .ok (values, rest) := by
      cases values with
      | nil => exact readItems_of_end item true rest
      | cons value values =>
        obtain ⟨mark, more, written, visible, noEnd, -⟩ := faithful.opens value
        have read := faithful.reads value (Ends.parts ']' (by decide) (values.map item.write) rest)
        have place : nextItem true (item.write value ++
            ((values.map item.write).flatMap (',' :: ·) ++ ']' :: rest)) =
            .ok (some (item.write value ++
              ((values.map item.write).flatMap (',' :: ·) ++ ']' :: rest))) := by
          simp [nextItem, written, dropBlanks_cons visible, noEnd]
        rw [List.map_cons, joinComma_cons, List.append_assoc, readItems_of_item place read,
          readItems_behind faithful]
        rfl
    simp [list, readList, dropBlanks_cons bracket, items]
  · intro values
    exact ⟨'[', _, rfl, by decide, by decide, by decide⟩

/-- A member with its name. -/
def entry (name : String) (value : List Char) : List Char := quote name.toList ++ ':' :: value

/-- What is written of a member is read back, and what is left out is its fallback. -/
structure Member.Faithful (member : Member α) : Prop where
  reads (value : α) (kept : member.isOmitted value = false) {rest : List Char} (ends : Ends rest) :
    member.codec.read (member.codec.write value ++ rest) = .ok (value, rest)
  omits (value : α) (omitted : member.isOmitted value = true) : member.fallback = some value

theorem Codec.Faithful.required {codec : Codec α} (faithful : codec.Faithful) (name : String) :
    (Member.required name codec).Faithful :=
  ⟨fun value _ _ ends => faithful.reads value ends, fun _ omitted => by cases omitted⟩

theorem Codec.Faithful.withFallback {codec : Codec α} (faithful : codec.Faithful) (name : String)
    (fallback : α) : (Member.withFallback name codec fallback).Faithful :=
  ⟨fun value _ _ ends => faithful.reads value ends, fun _ omitted => by cases omitted⟩

theorem Codec.Faithful.whenPresent {codec : Codec α} (faithful : codec.Faithful) (name : String) :
    (Member.whenPresent name codec).Faithful := by
  constructor
  · intro value kept rest ends
    cases value with
    | none => cases kept
    | some value =>
      obtain ⟨mark, more, written, visible, -, noNull⟩ := faithful.opens value
      have read := faithful.reads value ends
      change readOptional codec (codec.write value ++ rest) = .ok (some value, rest)
      have start : dropBlanks (codec.write value ++ rest) = mark :: (more ++ rest) := by
        rw [written, List.cons_append, dropBlanks_cons visible]
      rw [readOptional]
      split
      · rename_i same
        cases start.symm.trans same
        exact absurd rfl noNull
      · rw [read]
  · intro value omitted
    cases value with
    | none => rfl
    | some value => cases omitted

namespace Members

variable {types : List Type} {members : Members types}

def names : {types : List Type} → Members types → List String
  | _, nil => []
  | _, cons member rest => member.name :: rest.names

/-- Every member is read back, and no two have one name. -/
def Faithful : {types : List Type} → Members types → Prop
  | _, nil => True
  | _, cons member rest => member.Faithful ∧ member.name ∉ rest.names ∧ rest.Faithful

/-- The slots have what was read of a row, and these texts are still to be read. -/
inductive Awaits : {types : List Type} → Members types → Row types → Slots types →
    List (List Char) → Prop
  | nil : Awaits .nil () () []
  | filled {α : Type} {others : List Type} {member : Member α} {rest : Members others} {value : α}
      {row : Row others} {slots : Slots others} {parts : List (List Char)}
      (further : Awaits rest row slots parts) :
      Awaits (.cons member rest) (value, row) (some value, slots) parts
  | omitted {α : Type} {others : List Type} {member : Member α} {rest : Members others} {value : α}
      {row : Row others} {slots : Slots others} {parts : List (List Char)}
      (omitted : member.isOmitted value = true) (further : Awaits rest row slots parts) :
      Awaits (.cons member rest) (value, row) (none, slots) parts
  | kept {α : Type} {others : List Type} {member : Member α} {rest : Members others} {value : α}
      {row : Row others} {slots : Slots others} {parts : List (List Char)}
      (kept : member.isOmitted value = false) (further : Awaits rest row slots parts) :
      Awaits (.cons member rest) (value, row) (none, slots)
        (entry member.name (member.codec.write value) :: parts)

theorem awaits_vacant (members : Members types) (row : Row types) :
    members.Awaits row members.vacant (members.writeParts row) := by
  induction members with
  | nil => exact .nil
  | cons member rest ih =>
    obtain ⟨value, row⟩ := row
    cases omission : member.isOmitted value with
    | true =>
      rw [writeParts, if_pos omission]
      exact .omitted omission (ih row)
    | false =>
      rw [writeParts, if_neg (by simp [omission])]
      exact .kept omission (ih row)

theorem accept_of_other {others : List Type} {member : Member α} {rest : Members others}
    {name : String} (other : member.name ≠ name) {slot : Option α} {slots filled : Slots others}
    {text behind : List Char}
    (accepted : rest.accept name.toList slots text = .ok (filled, behind)) :
    (cons member rest).accept name.toList (slot, slots) text = .ok ((slot, filled), behind) := by
  have differs : member.name.toList ≠ name.toList := fun same => other (String.toList_inj.mp same)
  rw [accept, if_neg differs, accepted]

/-- The next text is a member of the record, and takes its slot. -/
theorem Awaits.accept {row : Row types} {slots : Slots types} {part : List Char}
    {parts : List (List Char)} (awaits : members.Awaits row slots (part :: parts))
    (faithful : members.Faithful) :
    ∃ name value, part = entry name value ∧ name ∈ members.names ∧
      ∀ rest, Ends rest → ∃ filled,
        members.accept name.toList slots (':' :: (value ++ rest)) = .ok (filled, rest) ∧
        members.Awaits row filled parts := by
  -- the induction goes along the members, past those that are settled, to the first to be read
  generalize same : part :: parts = all at awaits
  induction awaits with
  | nil => cases same
  | @filled _ _ member others _ _ _ _ _ ih =>
    obtain ⟨distinct, faithful⟩ := faithful.2
    obtain ⟨name, value, written, known, accepts⟩ := ih faithful same
    refine ⟨name, value, written, List.mem_cons_of_mem _ known, ?_⟩
    intro rest ends
    obtain ⟨filled, accepted, left⟩ := accepts rest ends
    have other : member.name ≠ name := fun equal => distinct (equal ▸ known)
    exact ⟨_, accept_of_other other accepted, .filled left⟩
  | @omitted _ _ member others _ _ _ _ omission _ ih =>
    obtain ⟨distinct, faithful⟩ := faithful.2
    obtain ⟨name, value, written, known, accepts⟩ := ih faithful same
    refine ⟨name, value, written, List.mem_cons_of_mem _ known, ?_⟩
    intro rest ends
    obtain ⟨filled, accepted, left⟩ := accepts rest ends
    have other : member.name ≠ name := fun equal => distinct (equal ▸ known)
    exact ⟨_, accept_of_other other accepted, .omitted omission left⟩
  | @kept _ _ member others value row slots _ kept further _ =>
    cases same
    refine ⟨member.name, _, rfl, List.mem_cons_self, ?_⟩
    intro rest ends
    refine ⟨(some value, slots), ?_, .filled further⟩
    have colon : takeMark ':' (':' :: (member.codec.write value ++ rest)) =
        .ok (member.codec.write value ++ rest) := by
      have visible : isBlank ':' = false := by decide
      simp [takeMark, dropBlanks_cons visible]
    simp [Members.accept, colon, faithful.1.reads value kept ends]

theorem Awaits.complete {row : Row types} {slots : Slots types}
    (awaits : members.Awaits row slots []) (faithful : members.Faithful) :
    members.complete slots = .ok row := by
  generalize same : [] = parts at awaits
  induction awaits with
  | nil => rfl
  | filled _ ih => simp [Members.complete, ih faithful.2.2 same]
  | omitted omission _ ih =>
    simp [Members.complete, ih faithful.2.2 same, faithful.1.omits _ omission]
  | kept => cases same

theorem Awaits.readNamed_end {row : Row types} {slots : Slots types}
    (awaits : members.Awaits row slots []) (faithful : members.Faithful) (first : Bool)
    (rest : List Char) : members.readNamed first slots ('\x7d' :: rest) = .ok (row, rest) := by
  have visible : isBlank '\x7d' = false := by decide
  have place : nextName first ('\x7d' :: rest) = .ok none := by
    simp [nextName, dropBlanks_cons visible]
  rw [readNamed]
  split
  · rename_i same
    cases place.symm.trans same
  · rw [awaits.complete faithful]
    simp [behindBracket, dropBlanks_cons visible]
  · rename_i same
    cases place.symm.trans same

theorem readNamed_of_accept {first : Bool} {slots filled : Slots types} {name : String}
    {text value rest : List Char}
    (place : nextName first text = .ok (some (name.toList.flatMap escape ++ '\x22' :: value)))
    (accepted : members.accept name.toList slots value = .ok (filled, rest)) :
    members.readNamed first slots text = members.readNamed false filled rest := by
  rw [readNamed]
  split
  · rename_i same
    cases place.symm.trans same
  · rename_i same
    cases place.symm.trans same
  · rename_i same
    cases place.symm.trans same
    split
    · rename_i same
      cases (readQuoted_quoted _ _).symm.trans same
    · rename_i same
      cases (readQuoted_quoted _ _).symm.trans same
      split
      · rename_i same
        cases accepted.symm.trans same
      · rename_i same
        cases accepted.symm.trans same
        rfl

theorem Awaits.readNamed_behind {row : Row types} {slots : Slots types} {parts : List (List Char)}
    (awaits : members.Awaits row slots parts) (faithful : members.Faithful) (rest : List Char) :
    members.readNamed false slots (parts.flatMap (',' :: ·) ++ '\x7d' :: rest) =
      .ok (row, rest) := by
  induction parts generalizing slots with
  | nil => exact awaits.readNamed_end faithful false rest
  | cons part parts ih =>
    obtain ⟨name, value, rfl, -, accepts⟩ := awaits.accept faithful
    obtain ⟨filled, accepted, left⟩ := accepts _ (Ends.parts '\x7d' (by decide) parts rest)
    have place : nextName false (((entry name value :: parts).flatMap (',' :: ·)) ++
        '\x7d' :: rest) = .ok (some (name.toList.flatMap escape ++ '\x22' :: ':' :: (value ++
          (parts.flatMap (',' :: ·) ++ '\x7d' :: rest)))) := by
      have comma : isBlank ',' = false := by decide
      have mark : isBlank '\x22' = false := by decide
      simp [nextName, entry, quote, dropBlanks_cons comma, dropBlanks_cons mark]
    rw [readNamed_of_accept place accepted]
    exact ih left

theorem Awaits.readNamed {row : Row types} {slots : Slots types} {parts : List (List Char)}
    (awaits : members.Awaits row slots parts) (faithful : members.Faithful) (rest : List Char) :
    members.readNamed true slots (joinComma parts ++ '\x7d' :: rest) = .ok (row, rest) := by
  cases parts with
  | nil => exact awaits.readNamed_end faithful true rest
  | cons part parts =>
    obtain ⟨name, value, rfl, -, accepts⟩ := awaits.accept faithful
    obtain ⟨filled, accepted, left⟩ := accepts _ (Ends.parts '\x7d' (by decide) parts rest)
    have place : nextName true (joinComma (entry name value :: parts) ++ '\x7d' :: rest) =
        .ok (some (name.toList.flatMap escape ++ '\x22' :: ':' :: (value ++
          (parts.flatMap (',' :: ·) ++ '\x7d' :: rest)))) := by
      have mark : isBlank '\x22' = false := by decide
      simp [joinComma_cons, nextName, entry, quote, dropBlanks_cons mark]
    rw [readNamed_of_accept place accepted]
    exact left.readNamed_behind faithful rest

theorem Faithful.codec (faithful : members.Faithful) : members.codec.Faithful := by
  have visible : isBlank '\x7b' = false := by decide
  constructor
  · intro row rest _
    have read := (members.awaits_vacant row).readNamed faithful rest
    simp [Members.codec, Members.read, dropBlanks_cons visible, read]
  · intro row
    exact ⟨'\x7b', _, rfl, visible, by decide, by decide⟩

end Members
end ReplicatedSpace.Json
