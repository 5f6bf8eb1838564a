import ReplicatedSpace.Json.Codec

/-!
Records: a fixed sequence of named members. A record is written as an object with its members in
their order, and read from an object with the members in any order and any others among them, or
from an array of the members in their order.
-/
namespace ReplicatedSpace.Json

/-- A member of a record. One with a fallback may be missing, and some values are left out. -/
structure Member (α : Type) where
  name : String
  codec : Codec α
  fallback : Option α
  isOmitted : α → Bool

namespace Member

def required {α : Type} (name : String) (codec : Codec α) : Member α :=
  ⟨name, codec, none, fun _ => false⟩

def withFallback {α : Type} (name : String) (codec : Codec α) (fallback : α) : Member α :=
  ⟨name, codec, some fallback, fun _ => false⟩

def whenPresent {α : Type} (name : String) (codec : Codec α) : Member (Option α) :=
  ⟨name, optional codec, some none, Option.isNone⟩

end Member

inductive Members : List Type → Type 1
  | nil : Members []
  | cons {α : Type} {others : List Type} (member : Member α) (rest : Members others) :
      Members (α :: others)

@[reducible] def Row : List Type → Type
  | [] => Unit
  | α :: others => α × Row others

@[reducible] def Slots : List Type → Type
  | [] => Unit
  | α :: others => Option α × Slots others

namespace Members

def vacant : {types : List Type} → Members types → Slots types
  | _, nil => ()
  | _, cons _ rest => (none, rest.vacant)

def writeParts : {types : List Type} → Members types → Row types → List (List Char)
  | _, nil, _ => []
  | _, cons member rest, row =>
    if member.isOmitted row.1 then rest.writeParts row.2
    else (quote member.name.toList ++ ':' :: member.codec.write row.1) :: rest.writeParts row.2

/-- The record, if nothing is missing that has no fallback. -/
def complete : {types : List Type} → Members types → Slots types → Except Fault (Row types)
  | _, nil, _ => .ok ()
  | _, cons member rest, slots =>
    match slots.1 <|> member.fallback with
    | none => .error .shape
    | some value =>
      match rest.complete slots.2 with
      | .error fault => .error fault
      | .ok row => .ok (value, row)

/-- Takes one member from behind its name: a known one into its slot, which has to be vacant, and
any other out of the text. -/
def accept : {types : List Type} → Members types → List Char → Slots types → List Char →
    Parsed (Slots types)
  | _, nil, _, slots, text =>
    match takeMark ':' text with
    | .error fault => .error fault
    | .ok value =>
      match skipValue [] value with
      | .error fault => .error fault
      | .ok rest => .ok (slots, rest)
  | _, cons member others, name, slots, text =>
    if member.name.toList = name then
      if slots.1.isSome then .error .shape
      else
        match takeMark ':' text with
        | .error fault => .error fault
        | .ok value =>
          match member.codec.read value with
          | .error fault => .error fault
          | .ok (found, rest) => .ok ((some found, slots.2), rest)
    else
      match others.accept name slots.2 text with
      | .error fault => .error fault
      | .ok (filled, rest) => .ok ((slots.1, filled), rest)

theorem length_accept_lt {types : List Type} {members : Members types} {name : List Char}
    {slots filled : Slots types} {text rest : List Char}
    (found : members.accept name slots text = .ok (filled, rest)) : rest.length < text.length := by
  induction members generalizing rest with
  | nil =>
    unfold accept at found
    split at found
    · simp at found
    · rename_i mark
      have := length_takeMark_lt mark
      split at found
      · simp at found
      · rename_i skipped
        have := length_skipValue_lt skipped
        simp only [Except.ok.injEq, Prod.mk.injEq] at found
        obtain ⟨_, rfl⟩ := found
        omega
  | cons member others ih =>
    unfold accept at found
    split at found
    · split at found
      · simp at found
      · split at found
        · simp at found
        · rename_i mark
          have := length_takeMark_lt mark
          split at found
          · simp at found
          · rename_i read
            have := member.codec.shrinks read
            simp only [Except.ok.injEq, Prod.mk.injEq] at found
            obtain ⟨_, rfl⟩ := found
            omega
    · split at found
      · simp at found
      · rename_i accepted
        have := ih accepted
        simp only [Except.ok.injEq, Prod.mk.injEq] at found
        obtain ⟨_, rfl⟩ := found
        exact this

/-- The members of an object to its end. -/
def readNamed {types : List Type} (members : Members types) (first : Bool) (slots : Slots types)
    (text : List Char) : Parsed (Row types) :=
  match _place : nextName first text with
  | .error fault => .error fault
  | .ok none =>
    match members.complete slots with
    | .error fault => .error fault
    | .ok row => .ok (row, behindBracket text)
  | .ok (some start) =>
    match _quoted : readQuoted start with
    | .error fault => .error fault
    | .ok (name, behind) =>
      match _accepted : members.accept name slots behind with
      | .error fault => .error fault
      | .ok (slots, rest) => members.readNamed false slots rest
termination_by text.length
decreasing_by
  have := length_nextName_lt ‹_›
  have := length_readQuoted_lt ‹_›
  have := length_accept_lt ‹_›
  omega

theorem length_readNamed_lt {types : List Type} {members : Members types} {first : Bool}
    {slots : Slots types} {text rest : List Char} {row : Row types}
    (read : members.readNamed first slots text = .ok (row, rest)) : rest.length < text.length := by
  fun_induction members.readNamed first slots text with
  | case1 => simp at read
  | case2 => simp at read
  | case3 =>
    simp only [Except.ok.injEq, Prod.mk.injEq] at read
    obtain ⟨_, rfl⟩ := read
    exact length_behindBracket_lt (dropBlanks_ne_nil_of_nextName ‹_›)
  | case4 => simp at read
  | case5 => simp at read
  | case6 first slots text start place name behind quoted slots' rest' accepted ih =>
    have := length_nextName_lt place
    have := length_readQuoted_lt quoted
    have := length_accept_lt accepted
    have := ih read
    omega

/-- The members of an array, in their order, up to its end, which is left in place. -/
def readOrdered : {types : List Type} → Members types → Bool → List Char → Parsed (Row types)
  | _, nil, _, text => .ok ((), text)
  | _, cons member others, first, text =>
    match nextItem first text with
    | .error fault => .error fault
    | .ok none =>
      match member.fallback with
      | none => .error .shape
      | some value =>
        match others.readOrdered first text with
        | .error fault => .error fault
        | .ok (row, rest) => .ok ((value, row), rest)
    | .ok (some start) =>
      match member.codec.read start with
      | .error fault => .error fault
      | .ok (value, behind) =>
        match others.readOrdered false behind with
        | .error fault => .error fault
        | .ok (row, rest) => .ok ((value, row), rest)

theorem length_readOrdered_le {types : List Type} {members : Members types} {first : Bool}
    {text rest : List Char} {row : Row types}
    (read : members.readOrdered first text = .ok (row, rest)) : rest.length ≤ text.length := by
  induction members generalizing first text rest with
  | nil =>
    simp only [readOrdered, Except.ok.injEq] at read
    obtain ⟨_, rfl⟩ := read
    exact Nat.le_refl _
  | cons member others ih =>
    unfold readOrdered at read
    split at read
    · simp at read
    · split at read
      · simp at read
      · split at read
        · simp at read
        · rename_i more
          simp only [Except.ok.injEq] at read
          obtain ⟨_, rfl⟩ := read
          exact ih more
    · rename_i place
      have := length_nextItem_le place
      split at read
      · simp at read
      · rename_i found
        have := member.codec.shrinks found
        split at read
        · simp at read
        · rename_i more
          have := ih more
          simp only [Except.ok.injEq, Prod.mk.injEq] at read
          obtain ⟨_, rfl⟩ := read
          omega

/-- A record, as an object or as an array. -/
def read {types : List Type} (members : Members types) (text : List Char) : Parsed (Row types) :=
  match dropBlanks text with
  | [] => .error .truncated
  | mark :: rest =>
    if mark = '[' then
      match members.readOrdered true rest with
      | .error fault => .error fault
      | .ok (row, behind) =>
        match takeMark ']' behind with
        | .error fault => .error fault
        | .ok end' => .ok (row, end')
    else if mark = '\x7b' then members.readNamed true members.vacant rest
    else .error (misfit (mark :: rest))

theorem length_read_lt {types : List Type} {members : Members types} {text rest : List Char}
    {row : Row types} (found : members.read text = .ok (row, rest)) :
    rest.length < text.length := by
  have shorter := length_dropBlanks_le text
  unfold read at found
  split at found
  · simp at found
  · rename_i same
    rw [same, List.length_cons] at shorter
    split at found
    · split at found
      · simp at found
      · rename_i ordered
        have := length_readOrdered_le ordered
        split at found
        · simp at found
        · rename_i closed
          have := length_takeMark_lt closed
          simp only [Except.ok.injEq, Prod.mk.injEq] at found
          obtain ⟨_, rfl⟩ := found
          omega
    · split at found
      · have := length_readNamed_lt found; omega
      · simp at found

def codec {types : List Type} (members : Members types) : Codec (Row types) where
  write row := '\x7b' :: joinComma (members.writeParts row) ++ ['\x7d']
  read := members.read
  shrinks := length_read_lt

end Members
end ReplicatedSpace.Json
