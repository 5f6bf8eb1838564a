import ReplicatedSpace.Json.Skip

/-!
A codec is a written form of a type and a reader of the forms that are accepted for it. Readers
take something off the text whenever they succeed, which is what lets lists and records be read
until they end.
-/
namespace ReplicatedSpace.Json

structure Codec (α : Type) where
  write : α → List Char
  read : List Char → Parsed α
  shrinks : ∀ {text value rest}, read text = .ok (value, rest) → rest.length < text.length

/-- The fault of a value of another type, at its first character: the shape is wrong, unless its
form is wrong already. -/
def misfit : List Char → Fault
  | [] => .truncated
  | mark :: rest =>
    let shape {α : Type} : Except Fault α → Fault
      | .error fault => fault
      | .ok _ => .shape
    if mark = 'n' then shape (takeWord "ull".toList rest)
    else if mark = 't' then shape (takeWord "rue".toList rest)
    else if mark = 'f' then shape (takeWord "alse".toList rest)
    else if mark = '\x22' then shape (readQuoted rest)
    else if mark = '-' then shape (readNumber true rest)
    else if mark.isDigit then shape (readNumber false (mark :: rest))
    else if mark = '[' ∨ mark = '\x7b' then .shape
    else .malformed

def Codec.decode {α : Type} (codec : Codec α) (text : String) : Except Fault α :=
  match codec.read text.toList with
  | .error fault => .error fault
  | .ok (value, rest) => if (dropBlanks rest).isEmpty then .ok value else .error .malformed

def Codec.encode {α : Type} (codec : Codec α) (value : α) : String := .ofList (codec.write value)

/-- The same texts for another type with the same values. -/
def Codec.map {α β : Type} (codec : Codec α) (into : α → β) (back : β → α) : Codec β where
  write value := codec.write (back value)
  read text :=
    match codec.read text with
    | .error fault => .error fault
    | .ok (value, rest) => .ok (into value, rest)
  shrinks found := by
    split at found
    · simp at found
    · rename_i read
      simp only [Except.ok.injEq, Prod.mk.injEq] at found
      obtain ⟨_, rfl⟩ := found
      exact codec.shrinks read

/-! Texts and numbers. -/

def readText (text : List Char) : Parsed (List Char) :=
  match dropBlanks text with
  | [] => .error .truncated
  | mark :: rest => if mark = '\x22' then readQuoted rest else .error (misfit (mark :: rest))

theorem length_readText_lt {text found rest : List Char}
    (read : readText text = .ok (found, rest)) :
    rest.length < text.length := by
  have shorter := length_dropBlanks_le text
  unfold readText at read
  split at read
  · simp at read
  · rename_i same
    rw [same, List.length_cons] at shorter
    split at read
    · have := length_readQuoted_lt read; omega
    · simp at read

def text : Codec String :=
  Codec.map ⟨quote, readText, length_readText_lt⟩ String.ofList String.toList

/-- A whole number up to a limit. -/
def readNatural (limit : Nat) (text : List Char) : Parsed Nat :=
  match dropBlanks text with
  | [] => .error .truncated
  | mark :: rest =>
    if mark = '-' ∨ mark.isDigit then
      match readNumber (mark = '-') (if mark = '-' then rest else mark :: rest) with
      | .error fault => .error fault
      | .ok (number, behind) =>
        match number.natural? with
        | some value => if value ≤ limit then .ok (value, behind) else .error .shape
        | none => .error .shape
    else .error (misfit (mark :: rest))

theorem length_readNatural_lt {limit value : Nat} {text rest : List Char}
    (read : readNatural limit text = .ok (value, rest)) : rest.length < text.length := by
  have shorter := length_dropBlanks_le text
  unfold readNatural at read
  split at read
  · simp at read
  · rename_i mark tail same
    rw [same, List.length_cons] at shorter
    split at read
    · split at read
      · simp at read
      · rename_i number
        have taken := length_readNumber_lt number
        split at read
        · split at read
          · simp only [Except.ok.injEq, Prod.mk.injEq] at read
            obtain ⟨_, rfl⟩ := read
            split at taken
            · omega
            · rw [List.length_cons] at taken; omega
          · simp at read
        · simp at read
    · simp at read

def natural (limit : Nat) : Codec Nat :=
  ⟨fun value => (Nat.repr value).toList, readNatural limit, length_readNatural_lt⟩

def word64 : Codec UInt64 := (natural (UInt64.size - 1)).map UInt64.ofNat UInt64.toNat

def word32 : Codec UInt32 := (natural (UInt32.size - 1)).map UInt32.ofNat UInt32.toNat

/-- A value or `null`. -/
def readOptional {α : Type} (item : Codec α) (text : List Char) : Parsed (Option α) :=
  match dropBlanks text with
  | 'n' :: rest =>
    match takeWord "ull".toList rest with
    | .error fault => .error fault
    | .ok behind => .ok (none, behind)
  | _ =>
    match item.read text with
    | .error fault => .error fault
    | .ok (value, rest) => .ok (some value, rest)

theorem length_readOptional_lt {α : Type} {item : Codec α} {text rest : List Char}
    {value : Option α} (read : readOptional item text = .ok (value, rest)) :
    rest.length < text.length := by
  have shorter := length_dropBlanks_le text
  unfold readOptional at read
  split at read
  · rename_i same
    rw [same, List.length_cons] at shorter
    split at read
    · simp at read
    · rename_i taken
      have := length_takeWord_le taken
      simp only [Except.ok.injEq, Prod.mk.injEq] at read
      obtain ⟨_, rfl⟩ := read
      omega
  · split at read
    · simp at read
    · rename_i found
      simp only [Except.ok.injEq, Prod.mk.injEq] at read
      obtain ⟨_, rfl⟩ := read
      exact item.shrinks found

def optional {α : Type} (item : Codec α) : Codec (Option α) where
  write value := (value.map item.write).getD "null".toList
  read := readOptional item
  shrinks := length_readOptional_lt

/-! Lists. -/

/-- The items of an array to the end, from behind its bracket or behind an item. -/
def readItems {α : Type} (item : Codec α) (first : Bool) (text : List Char) : Parsed (List α) :=
  match _place : nextItem first text with
  | .error fault => .error fault
  | .ok none => .ok ([], behindBracket text)
  | .ok (some start) =>
    match _read : item.read start with
    | .error fault => .error fault
    | .ok (value, rest) =>
      match readItems item false rest with
      | .error fault => .error fault
      | .ok (values, behind) => .ok (value :: values, behind)
termination_by text.length
decreasing_by
  have := length_nextItem_le ‹_›
  have := item.shrinks ‹_›
  omega

theorem length_readItems_lt {α : Type} {item : Codec α} {first : Bool} {text rest : List Char}
    {values : List α} (read : readItems item first text = .ok (values, rest)) :
    rest.length < text.length := by
  fun_induction readItems item first text generalizing values rest with
  | case1 => simp at read
  | case2 =>
    simp only [Except.ok.injEq, Prod.mk.injEq] at read
    obtain ⟨_, rfl⟩ := read
    exact length_behindBracket_lt (dropBlanks_ne_nil_of_nextItem ‹_›)
  | case3 => simp at read
  | case4 => simp at read
  | case5 first text start place value tail found values' behind more ih =>
    have := length_nextItem_le place
    have := item.shrinks found
    have := ih more
    simp only [Except.ok.injEq, Prod.mk.injEq] at read
    obtain ⟨_, rfl⟩ := read
    omega

def readList {α : Type} (item : Codec α) (text : List Char) : Parsed (List α) :=
  match dropBlanks text with
  | [] => .error .truncated
  | mark :: rest => if mark = '[' then readItems item true rest else .error (misfit (mark :: rest))

theorem length_readList_lt {α : Type} {item : Codec α} {text rest : List Char} {values : List α}
    (read : readList item text = .ok (values, rest)) : rest.length < text.length := by
  have shorter := length_dropBlanks_le text
  unfold readList at read
  split at read
  · simp at read
  · rename_i same
    rw [same, List.length_cons] at shorter
    split at read
    · have := length_readItems_lt read; omega
    · simp at read

def joinComma (parts : List (List Char)) : List Char := [','].intercalate parts

def list {α : Type} (item : Codec α) : Codec (List α) where
  write values := '[' :: joinComma (values.map item.write) ++ [']']
  read := readList item
  shrinks := length_readList_lt

end ReplicatedSpace.Json
