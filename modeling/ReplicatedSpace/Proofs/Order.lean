import Mathlib.Data.List.Nodup
import ReplicatedSpace.Coordinator

/-!
The walk through the turns of a stagger. It sorts them: each turn is taken once, an earlier one
before a later one, although every step looks only for the earliest turn behind the last one.
-/
namespace ReplicatedSpace

namespace Turn

theorem Before.trans {first second third : Turn} (earlier : first.Before second)
    (later : second.Before third) : first.Before third := by
  rcases earlier with less | ⟨same, less⟩
  · rcases later with less' | ⟨same', _⟩
    · exact .inl (Nat.lt_trans less less')
    · exact .inl (same' ▸ less)
  · rcases later with less' | ⟨same', less'⟩
    · exact .inl (same ▸ less')
    · exact .inr ⟨same.trans same', Nat.lt_trans less less'⟩

theorem not_before_self (turn : Turn) : ¬ turn.Before turn := by
  rintro (less | ⟨_, less⟩)
  · exact Nat.lt_irrefl _ less
  · exact Nat.lt_irrefl _ less

theorem before_or_before {first second : Turn} (different : first ≠ second) :
    first.Before second ∨ second.Before first := by
  rcases first with ⟨⟨nanos, inRange⟩, index⟩
  rcases second with ⟨⟨nanos', inRange'⟩, index'⟩
  rcases Nat.lt_trichotomy nanos nanos' with less | same | more
  · exact .inl (.inl less)
  · subst same
    rcases Nat.lt_trichotomy index index' with less | same | more
    · exact .inl (.inr ⟨rfl, less⟩)
    · exact absurd (by rw [same]) different
    · exact .inr (.inr ⟨rfl, more⟩)
  · exact .inr (.inl more)

theorem not_before_trans {first second third : Turn} (behind : ¬ first.Before second)
    (behind' : ¬ second.Before third) : ¬ first.Before third := by
  intro ahead
  by_cases same : first = second
  · exact behind' (same ▸ ahead)
  · exact behind' (((before_or_before same).resolve_left behind).trans ahead)

private theorem earlier_spec (first second : Turn) :
    (earlier first second = first ∨ earlier first second = second) ∧
      ¬ first.Before (earlier first second) ∧ ¬ second.Before (earlier first second) := by
  unfold earlier
  split
  · rename_i overtaken
    exact ⟨.inr rfl, fun ahead => not_before_self _ (overtaken.trans ahead), not_before_self _⟩
  · rename_i behind
    exact ⟨.inl rfl, not_before_self _, behind⟩

private theorem foldl_earlier (turns : List Turn) (first : Turn) :
    turns.foldl earlier first ∈ first :: turns ∧
      ∀ turn ∈ first :: turns, ¬ turn.Before (turns.foldl earlier first) := by
  induction turns generalizing first with
  | nil => exact ⟨by simp, by simpa using not_before_self first⟩
  | cons second rest ih =>
    obtain ⟨member, least⟩ := ih (earlier first second)
    obtain ⟨one, notFirst, notSecond⟩ := earlier_spec first second
    have atMost := least _ (List.mem_cons_self ..)
    rw [List.foldl_cons]
    constructor
    · rcases List.mem_cons.mp member with same | later
      · rw [same]
        rcases one with isFirst | isSecond
        · simp [isFirst]
        · simp [isSecond]
      · exact List.mem_cons_of_mem _ (List.mem_cons_of_mem _ later)
    · intro turn present
      rcases List.mem_cons.mp present with same | present
      · subst turn; exact not_before_trans notFirst atMost
      · rcases List.mem_cons.mp present with same | later
        · subst turn; exact not_before_trans notSecond atMost
        · exact least turn (List.mem_cons_of_mem _ later)

theorem earliest?_eq_some {turns : List Turn} {turn : Turn} (found : earliest? turns = some turn) :
    turn ∈ turns ∧ ∀ other ∈ turns, other ≠ turn → turn.Before other := by
  cases turns with
  | nil => cases found
  | cons first rest =>
    cases found
    obtain ⟨member, least⟩ := foldl_earlier rest first
    exact ⟨member, fun other present different =>
      (before_or_before different).resolve_left (least other present)⟩

theorem earliest?_eq_none {turns : List Turn} (nothing : earliest? turns = none) : turns = [] := by
  cases turns with
  | nil => rfl
  | cons first rest => cases nothing

end Turn

namespace Stagger

namespace Walk

/-- The turns behind the one taken last. -/
def ahead (walk : Walk) : List Turn := walk.turns.filter walk.isAhead

theorem ahead_perm {walk : Walk} {turn : Turn} (distinct : walk.turns.Nodup)
    (found : Turn.earliest? walk.ahead = some turn) :
    walk.ahead.Perm (turn :: walk.turns.filter fun other => decide (turn.Before other)) := by
  obtain ⟨member, least⟩ := Turn.earliest?_eq_some found
  have inFront : walk.isAhead turn = true := (List.mem_filter.mp member).2
  have absent : turn ∉ walk.turns.filter fun other => decide (turn.Before other) := by
    intro present
    exact Turn.not_before_self turn (of_decide_eq_true (List.mem_filter.mp present).2)
  refine (List.perm_ext_iff_of_nodup (distinct.filter _)
    (List.nodup_cons.mpr ⟨absent, distinct.filter _⟩)).mpr fun other => ?_
  constructor
  · intro present
    by_cases same : other = turn
    · exact List.mem_cons.mpr (.inl same)
    · refine List.mem_cons_of_mem _ (List.mem_filter.mpr ⟨(List.mem_filter.mp present).1, ?_⟩)
      exact decide_eq_true (least other present same)
  · intro present
    rcases List.mem_cons.mp present with same | later
    · exact same ▸ member
    · obtain ⟨present, before⟩ := List.mem_filter.mp later
      refine List.mem_filter.mpr ⟨present, ?_⟩
      have before := of_decide_eq_true before
      cases last : walk.last with
      | none => simp [isAhead, last]
      | some taken =>
        simp only [isAhead, last, decide_eq_true_eq] at inFront ⊢
        exact inFront.trans before

/-- What is left of a walk are the turns ahead of it, sorted. -/
theorem rest_sorted (count : Nat) (walk : Walk) (left : walk.left = count)
    (distinct : walk.turns.Nodup) (exact : walk.ahead.length = count) :
    ∃ sorted : List Turn, sorted.Perm walk.ahead ∧ sorted.Pairwise Turn.Before ∧
      walk.rest = sorted.map Turn.index := by
  induction count generalizing walk with
  | zero =>
    have nothing : walk.next? = none := by simp [next?, left]
    refine ⟨[], by rw [List.length_eq_zero_iff.mp exact], .nil, ?_⟩
    unfold rest
    split
    · rfl
    · rename_i found; rw [nothing] at found; cases found
  | succ count ih =>
    cases found : Turn.earliest? walk.ahead with
    | none => simp [Turn.earliest?_eq_none found] at exact
    | some turn =>
      let later : Walk := { walk with last := some turn, left := walk.left - 1 }
      have next : walk.next? = some (turn, later) := by
        have more : walk.left ≠ 0 := by omega
        simp only [next?, more, ↓reduceIte]
        exact congrArg (Option.map _) found
      have split := ahead_perm distinct found
      have behind : later.ahead = walk.turns.filter fun other => decide (turn.Before other) := rfl
      have fewer : later.ahead.length = count := by
        have := split.length_eq
        rw [List.length_cons, ← behind] at this
        omega
      obtain ⟨sorted, same, ascending, rest⟩ :=
        ih later (by simp only [later]; omega) distinct fewer
      refine ⟨turn :: sorted, ?_, ?_, ?_⟩
      · exact (same.cons turn).trans (behind ▸ split.symm)
      · refine List.pairwise_cons.mpr ⟨fun other present => ?_, ascending⟩
        exact of_decide_eq_true (List.mem_filter.mp (same.subset present)).2
      · rw [List.map_cons, ← rest, Walk.rest]
        split
        · rename_i nothing; rw [next] at nothing; cases nothing
        · rename_i found; rw [next] at found; cases found; rfl

end Walk

theorem index_turns (stagger : Stagger) :
    stagger.turns.map Turn.index = List.range stagger.size := by
  simp only [turns, List.map_map, size]
  exact (List.zipIdx_map_snd 0 stagger.delays).trans (List.range_eq_range' ..).symm

theorem turns_nodup (stagger : Stagger) : stagger.turns.Nodup := by
  have distinct : (List.range stagger.size).Nodup := List.nodup_range
  rw [← index_turns] at distinct
  exact List.Nodup.of_map Turn.index distinct

theorem order_sorted (stagger : Stagger) :
    ∃ sorted : List Turn, sorted.Perm stagger.turns ∧ sorted.Pairwise Turn.Before ∧
      stagger.order = sorted.map Turn.index := by
  have all : stagger.walk.ahead = stagger.turns :=
    List.filter_eq_self.mpr fun turn _ => rfl
  have count : stagger.turns.length = stagger.size := by simp [turns, size]
  have sorted := stagger.walk.rest_sorted stagger.size rfl stagger.turns_nodup (by rw [all, count])
  rw [all] at sorted
  exact sorted

theorem order_perm (stagger : Stagger) : stagger.order.Perm (List.range stagger.size) := by
  obtain ⟨sorted, same, _, order⟩ := stagger.order_sorted
  rw [order, ← index_turns]
  exact same.map _

end Stagger

private theorem filterMap_getElem? {α : Type} (items : List α) :
    (List.range items.length).filterMap (items[·]?) = items := by
  induction items with
  | nil => rfl
  | cons first rest ih =>
    rw [List.length_cons, List.range_succ_eq_map, List.filterMap_cons, List.filterMap_map]
    simpa [Function.comp_def] using ih

theorem Coordinator.plan_perm {coordinator : Coordinator}
    (inStep : coordinator.stagger.size = coordinator.replicas.size) :
    coordinator.plan.Perm (coordinator.replicas.entries.zip coordinator.stagger.delays) := by
  let pairs := coordinator.replicas.entries.zip coordinator.stagger.delays
  have lengths : coordinator.replicas.entries.length = coordinator.stagger.delays.length :=
    inStep.symm
  have size : pairs.length = coordinator.stagger.size := by simp [pairs, Stagger.size, lengths]
  have each (index : Nat) (inside : index ∈ List.range coordinator.stagger.size) :
      ((coordinator.replicas.get? index).map fun replica =>
        (replica, (coordinator.stagger.delay? index).getD .zero)) = pairs[index]? := by
    have other : index < coordinator.stagger.delays.length := List.mem_range.mp inside
    have one : index < coordinator.replicas.entries.length := lengths.symm ▸ other
    have pair : pairs[index]? = some
        (coordinator.replicas.entries[index], coordinator.stagger.delays[index]) :=
      List.getElem?_zip_eq_some.mpr ⟨List.getElem?_eq_getElem one, List.getElem?_eq_getElem other⟩
    simp [ReplicaSet.get?, Stagger.delay?, pair, one, other]
  refine (coordinator.stagger.order_perm.filterMap _).trans (.of_eq ?_)
  rw [List.filterMap_congr each, ← size, filterMap_getElem?]

end ReplicatedSpace
