import ReplicatedSpace.Proofs.Content

/-!
What the texts of a record mean. An object means a row if each member of the record holds its value
there, wherever it stands and whatever other members stand around it, and an array means the row of
its items. Nothing else means a row.
-/
namespace ReplicatedSpace.Json

variable {α : Type}

/-- The trees that an object has under a name. -/
def named (name : String) (trees : List (String × Tree)) : List Tree :=
  (trees.filter (·.1 = name)).map Prod.snd

theorem named_cons_self (name : String) (tree : Tree) (trees : List (String × Tree)) :
    named name ((name, tree) :: trees) = tree :: named name trees := by
  simp [named]

theorem named_cons_of_ne {name other : String} (differs : other ≠ name) (tree : Tree)
    (trees : List (String × Tree)) : named name ((other, tree) :: trees) = named name trees := by
  simp [named, differs]

theorem named_eq_nil {name : String} {trees : List (String × Tree)}
    (missing : name ∉ trees.map Prod.fst) : named name trees = [] := by
  rw [named, List.filter_eq_nil_iff.mpr]
  · rfl
  · intro entry found same
    exact missing (List.mem_map.mpr ⟨entry, found, of_decide_eq_true same⟩)

theorem length_named (name : String) (trees : List (String × Tree)) :
    (named name trees).length = (trees.map Prod.fst).count name := by
  rw [named, List.length_map, ← List.countP_eq_length_filter, List.count, List.countP_map]
  rfl

namespace Member

/-- A member has the value that the only tree of its name means, or its fallback when there is
none. -/
def Holds (member : Member α) (meaning : Tree → Option α) (trees : List (String × Tree))
    (value : α) : Prop :=
  (∃ tree, named member.name trees = [tree] ∧ meaning tree = some value) ∨
    named member.name trees = [] ∧ member.fallback = some value

/-- The value that comes of a slot and of the trees that are still to be read. -/
def value? (member : Member α) (meaning : Tree → Option α) (slot : Option α)
    (trees : List Tree) : Option α :=
  match slot, trees with
  | none, [] => member.fallback
  | none, [tree] => meaning tree
  | some value, [] => some value
  | _, _ => none

theorem value?_none_eq_some_iff {member : Member α} {meaning : Tree → Option α}
    {trees : List (String × Tree)} {value : α} :
    member.value? meaning none (named member.name trees) = some value ↔
      member.Holds meaning trees value := by
  unfold Holds value?
  rcases named member.name trees with _ | ⟨tree, _ | ⟨second, more⟩⟩ <;> simp

theorem value?_cons (member : Member α) (meaning : Tree → Option α) (slot : Option α)
    (tree : Tree) (trees : List Tree) :
    member.value? meaning slot (tree :: trees) =
      (if slot.isSome then none else (meaning tree).map some).bind
        (member.value? meaning · trees) := by
  cases slot with
  | some value => simp [value?]
  | none =>
    cases trees with
    | nil => cases known : meaning tree <;> simp [value?, known]
    | cons second more => cases known : meaning tree <;> simp [value?]

end Member

/-- What the members of a record mean. -/
@[reducible] def Meanings : List Type → Type
  | [] => Unit
  | α :: others => (Tree → Option α) × Meanings others

namespace Members

variable {types : List Type} {members : Members types} {meanings : Meanings types}

/-- Each member is read as what its trees mean, and no two have one name. -/
inductive Means : {types : List Type} → Members types → Meanings types → Prop
  | nil : Means nil ()
  | cons {α : Type} {others : List Type} {member : Member α} {rest : Members others}
      {meaning : Tree → Option α} {meanings : Meanings others}
      (means : member.codec.Means Tree.Stops meaning) (distinct : member.name ∉ rest.names)
      (further : rest.Means meanings) : Means (cons member rest) (meaning, meanings)

/-- The names of the members without a fallback. -/
def needed : {types : List Type} → Members types → List String
  | _, nil => []
  | _, cons member rest =>
    if member.fallback.isSome then rest.needed else member.name :: rest.needed

/-- An object holds the values of a row under their names. -/
def Holds : {types : List Type} → Members types → Meanings types → List (String × Tree) →
    Row types → Prop
  | _, nil, _, _, _ => True
  | _, cons member rest, meanings, trees, row =>
    member.Holds meanings.1 trees row.1 ∧ rest.Holds meanings.2 trees row.2

/-- An array has the values of a row in their order. It may end where only fallbacks are left. -/
def Ordered : {types : List Type} → Members types → Meanings types → List Tree → Row types → Prop
  | _, nil, _, trees, _ => trees = []
  | _, cons member rest, meanings, [], row =>
    member.fallback = some row.1 ∧ rest.Ordered meanings.2 [] row.2
  | _, cons _ rest, meanings, tree :: trees, row =>
    meanings.1 tree = some row.1 ∧ rest.Ordered meanings.2 trees row.2

theorem Holds.count_le {trees : List (String × Tree)} {row : Row types}
    (holds : members.Holds meanings trees row) {name : String} (declared : name ∈ members.names) :
    (trees.map Prod.fst).count name ≤ 1 := by
  induction members with
  | nil => cases declared
  | cons member rest ih =>
    rcases List.mem_cons.mp declared with rfl | further
    · rw [← length_named]
      rcases holds.1 with ⟨tree, only, -⟩ | ⟨missing, -⟩
      · simp [only]
      · simp [missing]
    · exact ih holds.2 further

theorem Holds.mem_of_needed {trees : List (String × Tree)} {row : Row types}
    (holds : members.Holds meanings trees row) {name : String} (need : name ∈ members.needed) :
    name ∈ trees.map Prod.fst := by
  induction members with
  | nil => cases need
  | cons member rest ih =>
    unfold needed at need
    split at need
    · exact ih holds.2 need
    · rename_i noFallback
      rcases List.mem_cons.mp need with rfl | further
      · rcases holds.1 with ⟨tree, only, -⟩ | ⟨-, fallback⟩
        · by_contra missing
          simp [named_eq_nil missing] at only
        · simp [fallback] at noFallback
      · exact ih holds.2 further

/-- The row that comes of the slots and of the members that are still to be read. -/
def finish? : {types : List Type} → Members types → Meanings types → Slots types →
    List (String × Tree) → Option (Row types)
  | _, nil, _, _, _ => some ()
  | _, cons member rest, meanings, slots, trees =>
    (member.value? meanings.1 slots.1 (named member.name trees)).bind fun value =>
      (rest.finish? meanings.2 slots.2 trees).map (value, ·)

/-- The slots when one more member has been read. -/
def store? : {types : List Type} → Members types → Meanings types → String → Tree →
    Slots types → Option (Slots types)
  | _, nil, _, _, _, slots => some slots
  | _, cons member rest, meanings, name, tree, slots =>
    if member.name = name then
      (if slots.1.isSome then none else (meanings.1 tree).map some).map (·, slots.2)
    else (rest.store? meanings.2 name tree slots.2).map (slots.1, ·)

theorem finish?_vacant_eq_some_iff {trees : List (String × Tree)} {row : Row types} :
    members.finish? meanings members.vacant trees = some row ↔
      members.Holds meanings trees row := by
  induction members with
  | nil => simp [finish?, Holds]
  | cons member rest ih =>
    obtain ⟨value, row⟩ := row
    simp only [finish?, vacant, Holds, ← ih, ← Member.value?_none_eq_some_iff]
    simp [Option.bind_eq_some_iff]

theorem finish?_of_unknown {name : String} (unknown : name ∉ members.names) (tree : Tree)
    (slots : Slots types) (trees : List (String × Tree)) :
    members.finish? meanings slots ((name, tree) :: trees) =
      members.finish? meanings slots trees := by
  induction members with
  | nil => rfl
  | cons member rest ih =>
    obtain ⟨differs, further⟩ := not_or.mp (mt List.mem_cons.mpr unknown)
    rw [finish?, finish?, named_cons_of_ne differs, ih further]

theorem Means.finish?_cons (means : members.Means meanings) (name : String) (tree : Tree)
    (slots : Slots types) (trees : List (String × Tree)) :
    members.finish? meanings slots ((name, tree) :: trees) =
      (members.store? meanings name tree slots).bind (members.finish? meanings · trees) := by
  induction means with
  | nil => rfl
  | @cons _ _ member rest meaning meanings _ distinct _ ih =>
    by_cases same : member.name = name
    · subst same
      rw [finish?, store?, if_pos rfl, named_cons_self, Member.value?_cons,
        finish?_of_unknown distinct]
      cases (if slots.1.isSome then none else (meaning tree).map some) <;> rfl
    · rw [finish?, store?, if_neg same, named_cons_of_ne (Ne.symm same), ih]
      cases rest.store? meanings name tree slots.2 with
      | none => cases member.value? meaning slots.1 (named member.name trees) <;> rfl
      | some filled => rfl

theorem toOption_complete (members : Members types) (meanings : Meanings types)
    (slots : Slots types) :
    (members.complete slots).toOption = members.finish? meanings slots [] := by
  induction members with
  | nil => rfl
  | cons member rest ih =>
    have others := ih meanings.2 slots.2
    have own : (slots.1 <|> member.fallback) = member.value? meanings.1 slots.1 [] := by
      cases slots.1 <;> rfl
    rw [complete, finish?, own]
    change _ = (member.value? meanings.1 slots.1 []).bind _
    rw [← others]
    cases member.value? meanings.1 slots.1 [] with
    | none => rfl
    | some value => cases rest.complete slots.2 <;> rfl

/-- A member is read into its slot, or skipped. -/
theorem Means.accept_gives (means : members.Means meanings) {name : String} {tree : Tree}
    {gap gap' text rest : List Char} (blank : IsGap gap) (blank' : IsGap gap')
    (spelled : Spelled (.value tree) text) (stops : tree.Stops rest) (slots : Slots types) :
    Gives (members.accept name.toList slots (gap ++ ':' :: (gap' ++ (text ++ rest))))
      (members.store? meanings name tree slots) rest := by
  have colon : takeMark ':' (gap ++ ':' :: (gap' ++ (text ++ rest))) =
      .ok (gap' ++ (text ++ rest)) := takeMark_of_gap blank (by decide)
  induction means with
  | nil =>
    simp only [accept, colon, spelled.skipValue blank' stops]
    rfl
  | @cons α types member others meaning meanings means _ _ ih =>
    by_cases same : member.name = name
    · subst same
      rw [accept, if_pos rfl, store?, if_pos rfl]
      cases slots.1 with
      | some value => rfl
      | none =>
        have read : (member.codec.read (gap' ++ (text ++ rest))).toOption = _ :=
          means.gives spelled blank' stops
        simp only [colon, Gives]
        cases found : member.codec.read (gap' ++ (text ++ rest)) <;> rw [found] at read <;>
          cases known : meaning tree <;> simp_all [Except.toOption]
    · have differs : member.name.toList ≠ name.toList :=
        fun equal => same (String.toList_inj.mp equal)
      have read := ih slots.2
      rw [accept, if_neg differs, store?, if_neg same]
      generalize others.accept name.toList slots.2 _ = accepted at read ⊢
      cases accepted <;> exact read.map fun filled => ((slots.1, filled) : Slots (α :: types))

theorem readNamed_of_end {first : Bool} {text : List Char} (place : nextName first text = .ok none)
    (slots : Slots types) :
    (members.readNamed first slots text).toOption =
      (members.complete slots).toOption.map (·, behindBracket text) := by
  rw [readNamed]
  split
  · rename_i same
    cases place.symm.trans same
  · cases members.complete slots <;> rfl
  · rename_i same
    cases place.symm.trans same

theorem readNamed_of_name {first : Bool} {text start behind name : List Char}
    (place : nextName first text = .ok (some start))
    (quoted : readQuoted start = .ok (name, behind))
    (slots : Slots types) :
    (members.readNamed first slots text).toOption =
      (members.accept name slots behind).toOption.bind fun (filled, rest) =>
        (members.readNamed false filled rest).toOption := by
  rw [readNamed]
  split
  · rename_i same
    cases place.symm.trans same
  · rename_i same
    cases place.symm.trans same
  · rename_i same
    cases place.symm.trans same
    split
    · rename_i same
      cases quoted.symm.trans same
    · rename_i same
      cases quoted.symm.trans same
      split <;> rename_i accepted <;> rw [accepted] <;> rfl

theorem Means.readNamed_gives (means : members.Means meanings) {first : Bool}
    {trees : List (String × Tree)} {text : List Char}
    (spelled : Spelled (.members first trees) text) (slots : Slots types) (rest : List Char) :
    Gives (members.readNamed first slots (text ++ rest)) (members.finish? meanings slots trees)
      rest := by
  induction trees generalizing first text slots with
  | nil =>
    cases spelled with
    | endMembers blank =>
      have visible : isBlank '\x7d' = false := by decide
      rw [Gives, List.append_assoc, List.singleton_append,
        readNamed_of_end (nextName_of_end blank), toOption_complete members meanings,
        behindBracket_of_gap blank visible]
  | cons tree trees ih =>
    cases spelled with
    | @member _ lead spelled gap gap' text behind name tree _ leads quoted blank blank' value
        further =>
      have accepted : (members.accept name.toList slots
          (gap ++ ':' :: (gap' ++ (text ++ (behind ++ rest))))).toOption = _ :=
        means.accept_gives blank blank' value ((further.ends_members rest).stops tree) slots
      rw [Gives, member_append, readNamed_of_name leads.nextName (quoted.read _), accepted,
        means.finish?_cons]
      cases members.store? meanings name tree slots with
      | none => rfl
      | some filled => exact ih further filled

/-- The row of the items of an array. -/
def ordered? : {types : List Type} → Members types → Meanings types → List Tree →
    Option (Row types)
  | _, nil, _, trees => if trees.isEmpty then some () else none
  | _, cons member rest, meanings, [] =>
    member.fallback.bind fun value => (rest.ordered? meanings.2 []).map (value, ·)
  | _, cons _ rest, meanings, tree :: trees =>
    (meanings.1 tree).bind fun value => (rest.ordered? meanings.2 trees).map (value, ·)

theorem ordered?_eq_some_iff {trees : List Tree} {row : Row types} :
    members.ordered? meanings trees = some row ↔ members.Ordered meanings trees row := by
  induction members generalizing trees with
  | nil => simp [ordered?, Ordered]
  | cons member rest ih =>
    obtain ⟨value, row⟩ := row
    cases trees with
    | nil => simp [ordered?, Ordered, Option.bind_eq_some_iff, ih]
    | cons tree trees => simp [ordered?, Ordered, Option.bind_eq_some_iff, ih]

/-- The members of an array up to its closing bracket. -/
def readClosed (members : Members types) (first : Bool) (text : List Char) :
    Parsed (Row types) :=
  match members.readOrdered first text with
  | .error fault => .error fault
  | .ok (row, behind) =>
    match takeMark ']' behind with
    | .error fault => .error fault
    | .ok end' => .ok (row, end')

theorem readClosed_of_end {others : List Type} {member : Member α} {rest : Members others}
    {first : Bool} {text : List Char} (place : nextItem first text = .ok none) :
    ((cons member rest).readClosed first text).toOption = member.fallback.bind fun value =>
      (rest.readClosed first text).toOption.map fun (row, behind) => ((value, row), behind) := by
  simp only [readClosed, readOrdered, place]
  cases member.fallback with
  | none => rfl
  | some value =>
    cases rest.readOrdered first text with
    | error fault => rfl
    | ok found =>
      obtain ⟨row, behind⟩ := found
      cases closed : takeMark ']' behind <;> simp [closed, Except.toOption]

theorem readClosed_of_start {others : List Type} {member : Member α} {rest : Members others}
    {first : Bool} {text start : List Char} (place : nextItem first text = .ok (some start)) :
    ((cons member rest).readClosed first text).toOption =
      (member.codec.read start).toOption.bind fun (value, behind) =>
        (rest.readClosed false behind).toOption.map fun (row, end') => ((value, row), end') := by
  simp only [readClosed, readOrdered, place]
  cases member.codec.read start with
  | error fault => rfl
  | ok found =>
    obtain ⟨value, behind⟩ := found
    cases more : rest.readOrdered false behind with
    | error fault => simp [more, Except.toOption]
    | ok found =>
      obtain ⟨row, behind⟩ := found
      cases closed : takeMark ']' behind <;> simp [more, closed, Except.toOption]

/-- The items of an array are read one for each member. -/
theorem Means.readClosed_gives (means : members.Means meanings) {first : Bool}
    {trees : List Tree} {text : List Char} (spelled : Spelled (.items first trees) text)
    (rest : List Char) :
    Gives (members.readClosed first (text ++ rest)) (members.ordered? meanings trees) rest := by
  induction means generalizing first trees text with
  | nil =>
    cases spelled with
    | @endItems _ gap blank =>
      have bracket : takeMark ']' (gap ++ ']' :: rest) = .ok rest :=
        takeMark_of_gap blank (by decide)
      rw [List.append_assoc, List.singleton_append]
      simp only [readClosed, readOrdered, bracket]
      rfl
    | @item _ lead text behind _ _ leads value =>
      rw [List.append_assoc, List.append_assoc]
      simp only [readClosed, readOrdered, leads.takeMark value]
      rfl
  | @cons _ _ member others meaning meanings means _ _ ih =>
    cases spelled with
    | @endItems _ gap blank =>
      have left : Gives (others.readClosed first ((gap ++ [']']) ++ rest)) _ rest :=
        ih (.endItems blank)
      rw [List.append_assoc, List.singleton_append] at left ⊢
      rw [Gives, readClosed_of_end (nextItem_of_end blank), left, ordered?]
      dsimp only
      cases member.fallback with
      | none => rfl
      | some value => cases others.ordered? meanings [] <;> rfl
    | @item _ lead text behind tree trees leads value further =>
      have read : (member.codec.read (text ++ (behind ++ rest))).toOption = _ :=
        means.without_gap value ((further.ends_items rest).stops tree)
      have left : (others.readClosed false (behind ++ rest)).toOption = _ := ih further
      rw [Gives, List.append_assoc, List.append_assoc,
        readClosed_of_start (leads.nextItem value _), read, ordered?]
      dsimp only
      cases meaning tree with
      | none => rfl
      | some value =>
        simp only [Option.map_some, Option.bind_some, left]
        cases others.ordered? meanings trees <;> rfl

/-- The row that a tree means. -/
def row? (members : Members types) (meanings : Meanings types) : Tree → Option (Row types)
  | .object trees => members.finish? meanings members.vacant trees
  | .array items => members.ordered? meanings items
  | _ => none

theorem Means.codec_means (means : members.Means meanings) :
    members.codec.Means (fun _ _ => True) (members.row? meanings) := by
  constructor
  intro tree text gap rest spelled blank _
  obtain ⟨mark, more, rfl, begins, start⟩ := spelled.start blank rest
  change Gives (members.read _) _ _
  rw [read, start]
  rcases begins.of_bracket with
    ⟨rfl, items, rfl⟩ | ⟨rfl, trees, rfl⟩ | ⟨noArray, noObject, noItems, noMembers⟩
  · cases spelled with
    | array inside => exact means.readClosed_gives inside rest
  · cases spelled with
    | object inside => exact means.readNamed_gives inside members.vacant rest
  · have nothing : members.row? meanings tree = none := by
      cases tree with
      | array items => exact (noItems items rfl).elim
      | object trees => exact (noMembers trees rfl).elim
      | _ => rfl
    simp only [if_neg noArray, if_neg noObject, nothing]
    rfl

end Members

/-- The members of a record with their meanings. -/
structure Layout (types : List Type) where
  members : Members types
  meanings : Meanings types
  means : members.Means meanings

/-- How a type is a record: its layout, and the row of each value. -/
structure Shape (α : Type) where
  types : List Type
  layout : Layout types
  into : Row types → α
  row : α → Row types
  into_row (value : α) : into (row value) = value
  row_into (found : Row types) : row (into found) = found

namespace Shape

variable (shape : Shape α)

def codec : Codec α := shape.layout.members.codec.map shape.into shape.row

/-- The names of the members. -/
def names : List String := shape.layout.members.names

/-- The names that an object has to have. -/
def needed : List String := shape.layout.members.needed

/-- An object holds a value. -/
def Holds (trees : List (String × Tree)) (value : α) : Prop :=
  shape.layout.members.Holds shape.layout.meanings trees (shape.row value)

/-- An array lists the members of a value. -/
def Lists (items : List Tree) (value : α) : Prop :=
  shape.layout.members.Ordered shape.layout.meanings items (shape.row value)

/-- The value that a tree means. -/
def value? (tree : Tree) : Option α :=
  (shape.layout.members.row? shape.layout.meanings tree).map shape.into

theorem codec_means : shape.codec.Means (fun _ _ => True) shape.value? :=
  shape.layout.means.codec_means.map shape.into shape.row

theorem value?_eq_some_iff {tree : Tree} {value : α} :
    shape.value? tree = some value ↔
      shape.layout.members.row? shape.layout.meanings tree = some (shape.row value) := by
  rw [value?, Option.map_eq_some_iff]
  constructor
  · rintro ⟨row, found, rfl⟩
    rw [shape.row_into, found]
  · intro found
    exact ⟨_, found, shape.into_row value⟩

theorem value?_object {trees : List (String × Tree)} {value : α} :
    shape.value? (.object trees) = some value ↔ shape.Holds trees value :=
  shape.value?_eq_some_iff.trans Members.finish?_vacant_eq_some_iff

theorem value?_array {items : List Tree} {value : α} :
    shape.value? (.array items) = some value ↔ shape.Lists items value :=
  shape.value?_eq_some_iff.trans Members.ordered?_eq_some_iff

end Shape
end ReplicatedSpace.Json
