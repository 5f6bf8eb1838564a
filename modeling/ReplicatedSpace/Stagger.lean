import ReplicatedSpace.Span

/-!
Replicas are not called at once: each has a delay, by default a multiple of one slot, so that every
client reaches them in the same order. The walk finds that order step by step: ascending delays,
and ascending indices among equal delays.
-/
namespace ReplicatedSpace

/-- When it is a replica's turn. -/
structure Turn where
  delay : Span
  index : Nat
deriving DecidableEq

namespace Turn

/-- Earlier by delay, or at the same delay by index. -/
def Before (first second : Turn) : Prop :=
  first.delay < second.delay ∨ first.delay = second.delay ∧ first.index < second.index

instance (first second : Turn) : Decidable (first.Before second) :=
  inferInstanceAs (Decidable (_ ∨ _))

def earlier (first second : Turn) : Turn := if second.Before first then second else first

/-- The earliest of some turns. -/
def earliest? : List Turn → Option Turn
  | [] => none
  | first :: rest => some (rest.foldl earlier first)

end Turn

/-- The delay of each replica, by its index. -/
structure Stagger where
  delays : List Span
deriving DecidableEq

namespace Stagger

def empty : Stagger := ⟨[]⟩

/-- The default delays: the slot as often as replicas come before. How many do is a word of 32 bits
where it is multiplied, which holds it as long as there are no more than 2^32 replicas. -/
def uniform (count : Nat) (slot : Span) : Stagger := ⟨(List.range count).map slot.scale⟩

def size (stagger : Stagger) : Nat := stagger.delays.length

def isEmpty (stagger : Stagger) : Bool := stagger.delays.isEmpty

def delay? (stagger : Stagger) (index : Nat) : Option Span := stagger.delays[index]?

/-- Gives one replica another delay; there is no result for an index without a replica. -/
def setDelay? (stagger : Stagger) (index : Nat) (delay : Span) : Option Stagger :=
  if index < stagger.size then some ⟨stagger.delays.set index delay⟩ else none

/-- The turn of each replica, by its index. -/
def turns (stagger : Stagger) : List Turn :=
  stagger.delays.zipIdx.map fun (delay, index) => ⟨delay, index⟩

/-- A walk through the turns: the one taken last, and how many are left. -/
structure Walk where
  turns : List Turn
  last : Option Turn
  left : Nat

namespace Walk

/-- Turns that come after the one taken last. -/
def isAhead (walk : Walk) (turn : Turn) : Bool :=
  match walk.last with
  | none => true
  | some last => decide (last.Before turn)

/-- Takes the earliest turn ahead. -/
def next? (walk : Walk) : Option (Turn × Walk) :=
  if walk.left = 0 then none
  else (Turn.earliest? (walk.turns.filter walk.isAhead)).map fun turn =>
    (turn, { walk with last := some turn, left := walk.left - 1 })

theorem left_of_next? {walk later : Walk} {turn : Turn} (found : walk.next? = some (turn, later)) :
    walk.left = later.left + 1 := by
  unfold next? at found
  split at found
  · simp at found
  · obtain ⟨_, _, same⟩ := Option.map_eq_some_iff.mp found
    cases same
    simp only
    omega

/-- The indices of the turns that are left, in order. -/
def rest (walk : Walk) : List Nat :=
  match _found : walk.next? with
  | none => []
  | some (turn, later) => turn.index :: later.rest
termination_by walk.left
decreasing_by have := left_of_next? ‹_›; omega

end Walk

def walk (stagger : Stagger) : Walk := ⟨stagger.turns, none, stagger.size⟩

def order (stagger : Stagger) : List Nat := stagger.walk.rest

@[simp] theorem size_uniform (count : Nat) (slot : Span) : (uniform count slot).size = count := by
  simp [uniform, size]

theorem delay?_uniform (count : Nat) (slot : Span) (index : Nat) (inside : index < count) :
    (uniform count slot).delay? index = some (slot.scale index) := by
  simp [uniform, delay?, inside]

theorem uniform_eq_of_words {count : Nat} (inWords : count ≤ UInt32.size) (slot : Span) :
    uniform count slot =
      ⟨(List.range count).map fun index => slot.scale (UInt32.ofNat index).toNat⟩ := by
  refine congrArg Stagger.mk (List.map_congr_left fun index inside => congrArg slot.scale ?_)
  exact (Nat.mod_eq_of_lt (Nat.lt_of_lt_of_le (List.mem_range.mp inside) inWords)).symm

theorem size_setDelay? {stagger changed : Stagger} {index : Nat} {delay : Span}
    (set : stagger.setDelay? index delay = some changed) : changed.size = stagger.size := by
  unfold setDelay? at set
  split at set
  · cases set; simp [size]
  · simp at set

theorem delay?_setDelay? {stagger changed : Stagger} {index : Nat} {delay : Span}
    (set : stagger.setDelay? index delay = some changed) (other : Nat) :
    changed.delay? other = if other = index then some delay else stagger.delay? other := by
  unfold setDelay? at set
  split at set
  · rename_i inside
    cases set
    by_cases same : other = index
    · subst same
      have within : other < stagger.delays.length := inside
      simp [delay?, within]
    · simp [delay?, same, Ne.symm same]
  · simp at set

end Stagger
end ReplicatedSpace
