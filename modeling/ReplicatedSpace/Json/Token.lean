/-!
The lexical layer of JSON texts: blanks, fixed words and the marks between the parts of arrays and
objects. A text is read from left to right and the first fault met is the answer.
-/
namespace ReplicatedSpace.Json

/-- What is wrong with a text: a value of another shape, a text that is no JSON, or one that ends
too early. -/
inductive Fault
  | shape
  | malformed
  | truncated
deriving DecidableEq

abbrev Parsed (α : Type) := Except Fault (α × List Char)

def isBlank (character : Char) : Bool :=
  character = ' ' || character = '\n' || character = '\t' || character = '\r'

def dropBlanks (text : List Char) : List Char := text.dropWhile isBlank

theorem length_dropBlanks_le (text : List Char) : (dropBlanks text).length ≤ text.length :=
  (List.dropWhile_sublist _).length_le

def takeWord : List Char → List Char → Except Fault (List Char)
  | [], text => .ok text
  | _ :: _, [] => .error .truncated
  | expected :: word, found :: text =>
    if found = expected then takeWord word text else .error .malformed

theorem length_takeWord_le {word text rest : List Char} (taken : takeWord word text = .ok rest) :
    rest.length ≤ text.length := by
  induction word generalizing text with
  | nil => simp_all [takeWord]
  | cons expected word ih =>
    cases text with
    | nil => simp [takeWord] at taken
    | cons found text =>
      simp only [takeWord] at taken
      split at taken
      · have := ih taken; simp only [List.length_cons]; omega
      · simp at taken

def takeMark (mark : Char) (text : List Char) : Except Fault (List Char) :=
  match dropBlanks text with
  | [] => .error .truncated
  | found :: rest => if found = mark then .ok rest else .error .malformed

theorem length_takeMark_lt {mark : Char} {text rest : List Char}
    (taken : takeMark mark text = .ok rest) : rest.length < text.length := by
  have shorter := length_dropBlanks_le text
  unfold takeMark at taken
  split at taken
  · simp at taken
  · rename_i found tail same
    rw [same, List.length_cons] at shorter
    split at taken
    · cases taken; omega
    · simp at taken

/-- What stands where an array has room for an item: the text that begins with the item, or
nothing before a closing bracket, which is left in place. -/
def nextItem (first : Bool) (text : List Char) : Except Fault (Option (List Char)) :=
  match dropBlanks text with
  | [] => .error .truncated
  | mark :: rest =>
    if mark = ']' then .ok none
    else if first then .ok (some (mark :: rest))
    else if mark = ',' then
      match dropBlanks rest with
      | [] => .error .truncated
      | next :: more => if next = ']' then .error .malformed else .ok (some (next :: more))
    else .error .malformed

theorem length_nextItem_le {first : Bool} {text rest : List Char}
    (found : nextItem first text = .ok (some rest)) : rest.length ≤ text.length := by
  have shorter := length_dropBlanks_le text
  unfold nextItem at found
  split at found
  · simp at found
  · rename_i mark tail same
    rw [same, List.length_cons] at shorter
    split at found
    · simp at found
    · split at found
      · cases found; simpa using shorter
      · split at found
        · have further := length_dropBlanks_le tail
          split at found
          · simp at found
          · rename_i next more deeper
            rw [deeper, List.length_cons] at further
            split at found
            · simp at found
            · cases found; simp only [List.length_cons]; omega
        · simp at found

/-- What stands where an object has room for a member: the text behind the quote that opens its
name, or nothing before a closing brace, which is left in place. -/
def nextName (first : Bool) (text : List Char) : Except Fault (Option (List Char)) :=
  match dropBlanks text with
  | [] => .error .truncated
  | mark :: rest =>
    if mark = '\x7d' then .ok none
    else if first then if mark = '\x22' then .ok (some rest) else .error .malformed
    else if mark = ',' then
      match dropBlanks rest with
      | [] => .error .truncated
      | next :: more => if next = '\x22' then .ok (some more) else .error .malformed
    else .error .malformed

theorem length_nextName_lt {first : Bool} {text rest : List Char}
    (found : nextName first text = .ok (some rest)) : rest.length < text.length := by
  have shorter := length_dropBlanks_le text
  unfold nextName at found
  split at found
  · simp at found
  · rename_i mark tail same
    rw [same, List.length_cons] at shorter
    split at found
    · simp at found
    · split at found
      · split at found
        · cases found; omega
        · simp at found
      · split at found
        · have further := length_dropBlanks_le tail
          split at found
          · simp at found
          · rename_i next more deeper
            rw [deeper, List.length_cons] at further
            split at found
            · cases found; omega
            · simp at found
        · simp at found

end ReplicatedSpace.Json
