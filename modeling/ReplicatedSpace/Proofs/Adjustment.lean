import ReplicatedSpace.Proofs.Schedule
import ReplicatedSpace.Proofs.Walks

/-!
Setting the delay of one index. The other indices keep their order, whatever ties the index leaves
or joins, and of several calls the last one for each index counts.
-/
namespace ReplicatedSpace.Stagger

variable {stagger changed : Stagger} {index other : Nat} {delay : Span}

theorem setDelay?_of_lt (inside : index < stagger.size) (delay : Span) :
    ∃ changed, stagger.setDelay? index delay = some changed := ⟨_, if_pos inside⟩

theorem setDelay?_eq_none (outside : stagger.size ≤ index) (delay : Span) :
    stagger.setDelay? index delay = none := if_neg (Nat.not_lt_of_le outside)

theorem delayOf_setDelay? (set : stagger.setDelay? index delay = some changed) (other : Nat) :
    changed.delayOf other = if other = index then delay else stagger.delayOf other := by
  rw [delayOf, delay?_setDelay? set]
  split
  · rfl
  · rfl

theorem mem_order_iff (stagger : Stagger) (index : Nat) :
    index ∈ stagger.order ↔ index < stagger.size := by
  rw [stagger.order_perm.mem_iff, List.mem_range]

theorem filter_order_setDelay? (set : stagger.setDelay? index delay = some changed) :
    changed.order.filter (· ≠ index) = stagger.order.filter (· ≠ index) := by
  have sameMembers :
      (changed.order.filter (· ≠ index)).Perm (stagger.order.filter (· ≠ index)) := by
    apply List.Perm.filter
    apply changed.order_perm.trans
    rw [size_setDelay? set]
    exact stagger.order_perm.symm
  refine List.Perm.eq_of_pairwise (fun first second _ _ before behind => ?_)
    ((changed.order_pairwise.filter _).imp_of_mem ?_) (stagger.order_pairwise.filter _) sameMembers
  · exact absurd (before.trans behind) (Turn.not_before_self _)
  · intro first second one two before
    have apart : first ≠ index := of_decide_eq_true (List.mem_filter.mp one).2
    have apart' : second ≠ index := of_decide_eq_true (List.mem_filter.mp two).2
    rwa [delayOf_setDelay? set, delayOf_setDelay? set, if_neg apart, if_neg apart'] at before

/-- In front of the index whose delay was set are the others whose turn comes before its new one. -/
theorem split_order_setDelay? (set : stagger.setDelay? index delay = some changed)
    (inside : index < stagger.size) :
    ∃ front back, changed.order = front ++ index :: back ∧ index ∉ back ∧
      ∀ other, other ∈ front ↔ other < stagger.size ∧ other ≠ index ∧
        (⟨stagger.delayOf other, other⟩ : Turn).Before ⟨delay, index⟩ := by
  have size := size_setDelay? set
  have present : index ∈ changed.order := (mem_order_iff changed index).mpr (size ▸ inside)
  obtain ⟨front, back, order⟩ := List.append_of_mem present
  have ascending := changed.order_pairwise
  rw [order, List.pairwise_append] at ascending
  obtain ⟨_, behind, across⟩ := ascending
  have once : index ∉ back := fun again =>
    Turn.not_before_self _ ((List.pairwise_cons.mp behind).1 index again)
  refine ⟨front, back, order, once, fun other => ?_⟩
  have own : changed.delayOf index = delay := by rw [delayOf_setDelay? set, if_pos rfl]
  constructor
  · intro inFront
    have before := across other inFront index (List.mem_cons_self ..)
    have apart : other ≠ index := by
      rintro rfl
      exact Turn.not_before_self _ before
    rw [own, delayOf_setDelay? set, if_neg apart] at before
    have listed : other ∈ changed.order := order ▸ List.mem_append_left _ inFront
    exact ⟨size ▸ (mem_order_iff changed other).mp listed, apart, before⟩
  · rintro ⟨inside', apart, before⟩
    have listed : other ∈ changed.order := (mem_order_iff changed other).mpr (size ▸ inside')
    rw [order, List.mem_append, List.mem_cons] at listed
    rcases listed with inFront | same | inBack
    · exact inFront
    · exact absurd same apart
    · have after := (List.pairwise_cons.mp behind).1 other inBack
      rw [own, delayOf_setDelay? set, if_neg apart] at after
      exact absurd (before.trans after) (Turn.not_before_self _)

/-- The stagger behind a call, which leaves it as it is if there is no such index. -/
def adjust (stagger : Stagger) (index : Nat) (delay : Span) : Stagger :=
  (stagger.setDelay? index delay).getD stagger

/-- The stagger behind calls with these indices and delays. -/
def adjustAll (stagger : Stagger) (calls : List (Nat × Span)) : Stagger :=
  calls.foldl (fun stagger (index, delay) => stagger.adjust index delay) stagger

/-- The delay that the last call for an index gave. -/
def lastDelay? (calls : List (Nat × Span)) (index : Nat) : Option Span := calls.reverse.lookup index

theorem adjust_of_le (outside : stagger.size ≤ index) (delay : Span) :
    stagger.adjust index delay = stagger := by
  rw [adjust, setDelay?_eq_none outside, Option.getD_none]

@[simp] theorem size_adjust (stagger : Stagger) (index : Nat) (delay : Span) :
    (stagger.adjust index delay).size = stagger.size := by
  unfold adjust
  cases set : stagger.setDelay? index delay with
  | none => rfl
  | some changed => exact size_setDelay? set

theorem delay?_eq_none_iff : stagger.delay? index = none ↔ stagger.size ≤ index :=
  List.getElem?_eq_none_iff

theorem delay?_adjust (stagger : Stagger) (index : Nat) (delay : Span) (other : Nat) :
    (stagger.adjust index delay).delay? other =
      if other = index ∧ other < stagger.size then some delay else stagger.delay? other := by
  by_cases inside : index < stagger.size
  · obtain ⟨changed, set⟩ := setDelay?_of_lt inside delay
    rw [adjust, set, Option.getD_some, delay?_setDelay? set]
    by_cases own : other = index
    · rw [if_pos own, if_pos ⟨own, own ▸ inside⟩]
    · rw [if_neg own, if_neg fun both => own both.1]
  · rw [adjust_of_le (Nat.le_of_not_lt inside), if_neg]
    rintro ⟨rfl, inside'⟩
    exact inside inside'

theorem adjust_comm (stagger : Stagger) {first second : Nat} (different : first ≠ second)
    (delay delay' : Span) :
    (stagger.adjust first delay).adjust second delay' =
      (stagger.adjust second delay').adjust first delay := by
  apply ext_delay?
  intro index
  simp only [delay?_adjust, size_adjust]
  by_cases one : index = first
  · have notOther : index ≠ second := one ▸ different
    simp [notOther]
  · simp [one]

theorem adjust_adjust (stagger : Stagger) (index : Nat) (delay delay' : Span) :
    (stagger.adjust index delay).adjust index delay' = stagger.adjust index delay' := by
  apply ext_delay?
  intro other
  simp only [delay?_adjust, size_adjust]
  by_cases own : other = index ∧ other < stagger.size
  · rw [if_pos own, if_pos own]
  · rw [if_neg own, if_neg own, if_neg own]

@[simp] theorem size_adjustAll (stagger : Stagger) (calls : List (Nat × Span)) :
    (stagger.adjustAll calls).size = stagger.size := by
  unfold adjustAll
  induction calls generalizing stagger with
  | nil => rfl
  | cons call rest ih => rw [List.foldl_cons, ih, size_adjust]

theorem delay?_adjustAll (stagger : Stagger) (calls : List (Nat × Span))
    (inside : index < stagger.size) :
    (stagger.adjustAll calls).delay? index =
      (lastDelay? calls index).or (stagger.delay? index) := by
  induction calls using List.reverseRecOn with
  | nil => rfl
  | append_singleton calls call ih =>
    obtain ⟨target, delay⟩ := call
    have last : (stagger.adjustAll (calls ++ [(target, delay)])) =
        (stagger.adjustAll calls).adjust target delay := List.foldl_append
    rw [last, delay?_adjust, size_adjustAll, ih, lastDelay?, lastDelay?, List.reverse_append,
      List.reverse_singleton, List.singleton_append, List.lookup_cons]
    by_cases own : index = target
    · rw [if_pos ⟨own, inside⟩, beq_iff_eq.mpr own]
      rfl
    · rw [if_neg fun both => own both.1, beq_eq_false_iff_ne.mpr own]

theorem adjustAll_eq (stagger : Stagger) {calls others : List (Nat × Span)}
    (same : ∀ index, index < stagger.size → lastDelay? calls index = lastDelay? others index) :
    stagger.adjustAll calls = stagger.adjustAll others := by
  apply ext_delay?
  intro index
  by_cases inside : index < stagger.size
  · rw [delay?_adjustAll stagger calls inside, delay?_adjustAll stagger others inside,
      same index inside]
  · have outside : stagger.size ≤ index := Nat.le_of_not_lt inside
    rw [delay?_eq_none_iff.mpr (by rwa [size_adjustAll]),
      delay?_eq_none_iff.mpr (by rwa [size_adjustAll])]

/-- A call for an index of the stagger moves that index alone: without it the order is the one of
before, and in front of it are exactly those whose turn comes before its new one. Any other call has
no result and changes nothing. Calls for different indices may change places, of two calls for one
index the second counts, and behind any list of calls the delays, and with them the order, depend on
nothing but the last delay for each index. -/
theorem adjustments_move_their_own_index (stagger : Stagger) :
    (∀ index delay, index < stagger.size → ∃ changed,
      stagger.setDelay? index delay = some changed ∧ stagger.adjust index delay = changed ∧
      changed.order.filter (· ≠ index) = stagger.order.filter (· ≠ index) ∧
      ∃ front back, changed.order = front ++ index :: back ∧ index ∉ back ∧
        ∀ other, other ∈ front ↔ other < stagger.size ∧ other ≠ index ∧
          (⟨stagger.delayOf other, other⟩ : Turn).Before ⟨delay, index⟩) ∧
    (∀ index delay, stagger.size ≤ index →
      stagger.setDelay? index delay = none ∧ stagger.adjust index delay = stagger) ∧
    (∀ first second delay delay', first ≠ second →
      (stagger.adjust first delay).adjust second delay' =
        (stagger.adjust second delay').adjust first delay) ∧
    (∀ index delay delay',
      (stagger.adjust index delay).adjust index delay' = stagger.adjust index delay') ∧
    (∀ calls index, index < stagger.size →
      (stagger.adjustAll calls).delay? index =
        (lastDelay? calls index).or (stagger.delay? index)) ∧
    ∀ calls others,
      (∀ index, index < stagger.size → lastDelay? calls index = lastDelay? others index) →
        stagger.adjustAll calls = stagger.adjustAll others ∧
        (stagger.adjustAll calls).order = (stagger.adjustAll others).order := by
  refine ⟨?_, ?_, ?_, stagger.adjust_adjust, ?_, ?_⟩
  · intro index delay inside
    obtain ⟨changed, set⟩ := setDelay?_of_lt inside delay
    refine ⟨changed, set, ?_, filter_order_setDelay? set, split_order_setDelay? set inside⟩
    rw [adjust, set, Option.getD_some]
  · intro index delay outside
    exact ⟨setDelay?_eq_none outside delay, adjust_of_le outside delay⟩
  · intro first second delay delay' different
    exact stagger.adjust_comm different delay delay'
  · intro calls index inside
    exact stagger.delay?_adjustAll calls inside
  · intro calls others same
    have equal := stagger.adjustAll_eq same
    exact ⟨equal, congrArg order equal⟩

/-- The last of three joins the first at no delay: its turn is right behind that one. -/
theorem joins_tie_behind_lesser_index :
    ∃ changed front back,
      (uniform 3 (.ofMillis 1)).setDelay? 2 .zero = some changed ∧
      changed.order = front ++ 2 :: back ∧ 0 ∈ front ∧ 1 ∉ front := by
  obtain ⟨changed, set, _, _, front, back, order, _, inFront⟩ :=
    (adjustments_move_their_own_index (uniform 3 (.ofMillis 1))).1 2 .zero (by decide)
  refine ⟨changed, front, back, set, order, (inFront 0).mpr (by decide), ?_⟩
  intro present
  exact absurd ((inFront 1).mp present) (by decide)

end ReplicatedSpace.Stagger
