import Mathlib.Data.List.Induction
import ReplicatedSpace.Proofs.Order

/-!
Walks step by step. A stagger's order is the stable sort of its indices by their delays; a walk that
was called some times has that many turns less left and goes on with the rest of that order,
whichever other walks are called in between.
-/
namespace ReplicatedSpace

section Pairs

variable {α : Type} {items : List α} {first second : α}

private theorem pair_sublist_or (one : first ∈ items) (other : second ∈ items)
    (different : first ≠ second) :
    [first, second].Sublist items ∨ [second, first].Sublist items := by
  induction items with
  | nil => cases one
  | cons item rest ih =>
    rcases List.mem_cons.mp one with here | there
    · rcases List.mem_cons.mp other with here' | there'
      · exact absurd (here.trans here'.symm) different
      · exact .inl (here ▸ (List.singleton_sublist.mpr there').cons_cons _)
    · rcases List.mem_cons.mp other with here' | there'
      · exact .inr (here' ▸ (List.singleton_sublist.mpr there).cons_cons _)
      · exact (ih there there').imp (.cons _) (.cons _)

private theorem not_pair_sublist (distinct : items.Nodup)
    (inOrder : [first, second].Sublist items) : ¬ [second, first].Sublist items := by
  induction items with
  | nil => cases inOrder
  | cons item rest ih =>
    obtain ⟨absent, distinct⟩ := List.nodup_cons.mp distinct
    intro swapped
    cases inOrder with
    | cons _ inside =>
      cases swapped with
      | cons _ inside' => exact ih distinct inside inside'
      | cons_cons _ _ => exact absent (inside.subset (by simp))
    | cons_cons _ later =>
      cases swapped with
      | cons _ inside' => exact absent (inside'.subset (by simp))
      | cons_cons _ _ => exact absent (later.subset (by simp))

end Pairs

namespace Stagger

/-- The delay of an index. -/
def delayOf (stagger : Stagger) (index : Nat) : Span := (stagger.delay? index).getD .zero

/-- The indices sorted by their delays alone, where equal delays leave indices in place. -/
def byDelay (stagger : Stagger) : List Nat :=
  (List.range stagger.size).mergeSort fun first second =>
    decide (stagger.delayOf first ≤ stagger.delayOf second)

/-- Whether a turn has at most the delay of another. -/
def delayLE (first second : Turn) : Bool := decide (first.delay ≤ second.delay)

theorem delayLE_trans (first second third : Turn) (earlier : delayLE first second = true)
    (later : delayLE second third = true) : delayLE first third = true :=
  decide_eq_true (Nat.le_trans (of_decide_eq_true earlier) (of_decide_eq_true later))

theorem delayLE_total (first second : Turn) :
    (delayLE first second || delayLE second first) = true := by
  simp only [delayLE, Bool.or_eq_true, decide_eq_true_eq]
  exact Nat.le_total first.delay.nanos second.delay.nanos

theorem delayOf_of_mem_turns {stagger : Stagger} {turn : Turn} (present : turn ∈ stagger.turns) :
    stagger.delayOf turn.index = turn.delay := by
  obtain ⟨⟨delay, index⟩, listed, same⟩ := List.mem_map.mp present
  subst same
  have found : stagger.delays[index]? = some delay := List.mk_mem_zipIdx_iff_getElem?.mp listed
  rw [delayOf, delay?, found]
  rfl

theorem turns_pairwise (stagger : Stagger) :
    stagger.turns.Pairwise fun first second => first.index < second.index := by
  have ascending : (stagger.turns.map Turn.index).Pairwise (· < ·) := by
    rw [index_turns]
    exact List.pairwise_lt_range
  exact List.pairwise_map.mp ascending

theorem mergeSort_turns_pairwise (stagger : Stagger) :
    (stagger.turns.mergeSort delayLE).Pairwise Turn.Before := by
  have sorted := List.pairwise_mergeSort delayLE_trans delayLE_total stagger.turns
  have same := List.mergeSort_perm stagger.turns delayLE
  have distinct := same.nodup_iff.mpr stagger.turns_nodup
  refine List.pairwise_iff_forall_sublist.mpr fun {first second} inOrder => ?_
  have different : first ≠ second := by
    rintro rfl
    exact List.nodup_iff_sublist.mp distinct first inOrder
  have least := of_decide_eq_true (List.pairwise_iff_forall_sublist.mp sorted inOrder)
  rcases Nat.lt_or_eq_of_le least with less | equal
  · exact .inl less
  · have one : first ∈ stagger.turns := same.subset (inOrder.subset (by simp))
    have other : second ∈ stagger.turns := same.subset (inOrder.subset (by simp))
    rcases pair_sublist_or one other different with kept | swapped
    · have delay : first.delay = second.delay := by
        rcases first with ⟨⟨_, _⟩, _⟩
        rcases second with ⟨⟨_, _⟩, _⟩
        cases equal
        rfl
      exact .inr ⟨delay, List.pairwise_iff_forall_sublist.mp stagger.turns_pairwise kept⟩
    · -- The sort would have left the second turn in front.
      have stays := List.pair_sublist_mergeSort delayLE_trans delayLE_total
        (decide_eq_true (Nat.le_of_eq equal.symm)) swapped
      exact absurd stays (not_pair_sublist distinct inOrder)

theorem order_eq_byDelay (stagger : Stagger) : stagger.order = stagger.byDelay := by
  obtain ⟨sorted, same, ascending, order⟩ := stagger.order_sorted
  have unique : sorted = stagger.turns.mergeSort delayLE := by
    refine List.Perm.eq_of_pairwise (fun first second _ _ before behind => ?_) ascending
      stagger.mergeSort_turns_pairwise (same.trans (List.mergeSort_perm ..).symm)
    exact absurd (before.trans behind) (Turn.not_before_self first)
  rw [order, unique, byDelay, ← index_turns]
  refine List.map_mergeSort fun first one second other => ?_
  rw [delayLE, delayOf_of_mem_turns one, delayOf_of_mem_turns other]

theorem order_pairwise (stagger : Stagger) :
    stagger.order.Pairwise fun first second =>
      (⟨stagger.delayOf first, first⟩ : Turn).Before ⟨stagger.delayOf second, second⟩ := by
  obtain ⟨sorted, same, ascending, order⟩ := stagger.order_sorted
  rw [order]
  refine List.pairwise_map.mpr (ascending.imp_of_mem fun {first second} one other before => ?_)
  rw [delayOf_of_mem_turns (same.subset one), delayOf_of_mem_turns (same.subset other)]
  exact before

namespace Walk

/-- The walk after one call. A walk that is over stays as it is. -/
def advance (walk : Walk) : Walk :=
  match walk.next? with
  | some (_, later) => later
  | none => walk

/-- The walk after so many calls. -/
def after (walk : Walk) : Nat → Walk
  | 0 => walk
  | calls + 1 => (walk.after calls).advance

/-- There are as many turns left as a walk counts. -/
structure Exact (walk : Walk) : Prop where
  distinct : walk.turns.Nodup
  count : walk.ahead.length = walk.left

variable {walk later : Walk} {turn : Turn}

theorem Exact.next?_eq_none_iff (exact : walk.Exact) : walk.next? = none ↔ walk.left = 0 := by
  constructor
  · intro nothing
    unfold next? at nothing
    split at nothing
    · assumption
    · have none := Turn.earliest?_eq_none (Option.map_eq_none_iff.mp nothing)
      rw [← exact.count, ahead, none, List.length_nil]
  · intro done
    simp [next?, done]

theorem Exact.of_next? (exact : walk.Exact) (found : walk.next? = some (turn, later)) :
    later.Exact := by
  have fewer := left_of_next? found
  unfold next? at found
  split at found
  · cases found
  · obtain ⟨turn, earliest, same⟩ := Option.map_eq_some_iff.mp found
    cases same
    refine ⟨exact.distinct, ?_⟩
    have lengths := (ahead_perm exact.distinct earliest).length_eq
    rw [exact.count, List.length_cons] at lengths
    exact Nat.succ.inj (lengths.symm.trans fewer)

theorem Exact.advance (exact : walk.Exact) : walk.advance.Exact := by
  unfold Walk.advance
  split
  · exact exact.of_next? ‹_›
  · exact exact

theorem Exact.left_advance (exact : walk.Exact) : walk.advance.left = walk.left - 1 := by
  unfold Walk.advance
  split
  · rename_i found
    rw [left_of_next? found, Nat.add_sub_cancel]
  · rename_i nothing
    rw [exact.next?_eq_none_iff.mp nothing]

theorem next?_eq_head? (walk : Walk) :
    walk.next?.map (·.1.index) = walk.rest.head? ∧ walk.advance.rest = walk.rest.tail := by
  cases next : walk.next? with
  | none =>
    have done : walk.rest = [] := by
      rw [rest]
      split
      · rfl
      · rename_i found; rw [next] at found; cases found
    rw [advance, next, done]
    exact ⟨rfl, rfl⟩
  | some step =>
    obtain ⟨turn, later⟩ := step
    have more : walk.rest = turn.index :: later.rest := by
      rw [rest]
      split
      · rename_i nothing; rw [next] at nothing; cases nothing
      · rename_i found; rw [next] at found; cases found; rfl
    rw [advance, next, more]
    exact ⟨rfl, rfl⟩

theorem turns_advance (walk : Walk) : walk.advance.turns = walk.turns := by
  unfold advance next?
  split
  · rename_i found
    split at found
    · cases found
    · obtain ⟨_, _, same⟩ := Option.map_eq_some_iff.mp found
      cases same
      rfl
  · rfl

theorem Exact.after (exact : walk.Exact) (calls : Nat) :
    (walk.after calls).Exact ∧ (walk.after calls).turns = walk.turns ∧
      (walk.after calls).left = walk.left - calls ∧
      (walk.after calls).rest = walk.rest.drop calls := by
  induction calls with
  | zero => exact ⟨exact, rfl, rfl, rfl⟩
  | succ calls ih =>
    obtain ⟨exact', turns, left, rest⟩ := ih
    refine ⟨exact'.advance, (turns_advance _).trans turns, ?_, ?_⟩
    · rw [Walk.after, exact'.left_advance, left, Nat.sub_sub]
    · rw [Walk.after, (next?_eq_head? _).2, rest, List.tail_drop]

/-- Calls one of several walks. -/
def callOne (walks : List Walk) (number : Nat) : List Walk := walks.modify number advance

theorem foldl_callOne (walk : Walk) (count : Nat) (calls : List Nat) :
    calls.foldl callOne (List.replicate count walk) =
      (List.range count).map fun number => walk.after (calls.count number) := by
  induction calls using List.reverseRecOn with
  | nil => simp [after, List.map_const']
  | append_singleton calls latest ih =>
    rw [List.foldl_append, List.foldl_cons, List.foldl_nil, ih, callOne]
    refine List.ext_getElem? fun number => ?_
    rw [List.getElem?_modify, List.getElem?_map, List.getElem?_map]
    by_cases inside : number < count
    · by_cases own : latest = number <;> simp [inside, own, List.count_append, after]
    · simp [inside]

end Walk

theorem exact_walk (stagger : Stagger) : stagger.walk.Exact where
  distinct := stagger.turns_nodup
  count := by
    have all : stagger.walk.ahead = stagger.turns := List.filter_eq_self.mpr fun turn _ => rfl
    rw [all]
    simp [turns, walk, size]

/-- A walk through any stagger yields every index once, in the stable order of the delays: an
earlier one has less delay, or the same delay and a lesser index. After some calls it counts exactly
the turns that are left and goes on with the rest of that order, so that it ends with the call
behind the last index and not before. Calls of other walks make no difference to it, and none
changes the turns that walks see. -/
theorem walk_in_stable_order (stagger : Stagger) :
    stagger.order = stagger.byDelay ∧
    stagger.order.Perm (List.range stagger.size) ∧
    (stagger.order.Pairwise fun first second =>
      stagger.delayOf first < stagger.delayOf second ∨
        stagger.delayOf first = stagger.delayOf second ∧ first < second) ∧
    (∀ calls, (stagger.walk.after calls).left = stagger.size - calls ∧
      (stagger.walk.after calls).rest = stagger.order.drop calls ∧
      (stagger.walk.after calls).next?.map (·.1.index) = stagger.order[calls]? ∧
      ((stagger.walk.after calls).next? = none ↔ stagger.size ≤ calls) ∧
      (stagger.walk.after calls).turns = stagger.turns) ∧
    ∀ (walks : Nat) (calls : List Nat),
      calls.foldl Walk.callOne (List.replicate walks stagger.walk) =
        (List.range walks).map fun number => stagger.walk.after (calls.count number) := by
  refine ⟨stagger.order_eq_byDelay, stagger.order_perm, stagger.order_pairwise, ?_,
    stagger.walk.foldl_callOne⟩
  intro calls
  obtain ⟨exact, turns, left, rest⟩ := stagger.exact_walk.after calls
  refine ⟨left, rest, ?_, ?_, turns⟩
  · rw [(Walk.next?_eq_head? _).1, rest, List.head?_drop]
    rfl
  · rw [exact.next?_eq_none_iff, left]
    exact Nat.sub_eq_zero_iff_le

end Stagger
end ReplicatedSpace
