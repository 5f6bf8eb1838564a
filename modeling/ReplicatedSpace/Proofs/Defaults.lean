import ReplicatedSpace.Proofs.Walks

/-!
The default delays. Each is the exact multiple of the slot as long as that is a span, and the
largest span from there on; so they never fall, and whoever is called without another delay is
called in the order of the indices, also among the equal delays that are left of a slot of no length
or one that is too long.
-/
namespace ReplicatedSpace

namespace Span

variable {span other : Span}

theorem ext_nanos (same : span.nanos = other.nanos) : span = other := by
  cases span
  cases other
  cases same
  rfl

theorem scale_of_le {count : Nat} (fits : span.nanos * count ≤ limit) :
    (span.scale count).nanos = span.nanos * count := by
  rw [nanos_scale, Nat.min_eq_left fits]

theorem scale_of_lt {count : Nat} (tooLong : limit < span.nanos * count) :
    span.scale count = longest := by
  apply ext_nanos
  rw [nanos_scale, Nat.min_eq_right (Nat.le_of_lt tooLong)]
  rfl

theorem scale_le_scale (span : Span) {first second : Nat} (inOrder : first ≤ second) :
    span.scale first ≤ span.scale second := by
  change (span.scale first).nanos ≤ (span.scale second).nanos
  rw [nanos_scale, nanos_scale]
  have larger : span.nanos * first ≤ span.nanos * second := Nat.mul_le_mul_left _ inOrder
  omega

/-- The words of a multiple, seconds and nanoseconds, unless the seconds do not fit theirs. The
nanoseconds are multiplied on their own, and the seconds that they make are carried over. -/
def wordProduct? (seconds : UInt64) (subsecond count : UInt32) : Option (UInt64 × UInt32) :=
  let product := subsecond.toUInt64 * count.toUInt64
  let whole := seconds.toNat * count.toNat + (product / 1000000000).toNat
  if whole < UInt64.size then some (.ofNat whole, (product % 1000000000).toUInt32) else none

/-- The words of a span. -/
def words (span : Span) : UInt64 × UInt32 := (.ofNat span.seconds, .ofNat span.subsecond)

theorem seconds_words (span : Span) : span.words.1.toNat = span.seconds :=
  Nat.mod_eq_of_lt span.seconds_lt

theorem subsecond_words (span : Span) : span.words.2.toNat = span.subsecond :=
  Nat.mod_eq_of_lt (Nat.lt_trans span.subsecond_lt (by decide))

theorem nanos_words (span : Span) :
    span.words.1.toNat * perSecond + span.words.2.toNat = span.nanos := by
  rw [seconds_words, subsecond_words]
  exact span.nanos_eq.symm

/-- In words there is a multiple just where it is a span, and then it is that span. -/
theorem wordProduct?_words (span : Span) (count : UInt32) :
    wordProduct? span.words.1 span.words.2 count =
      if span.nanos * count.toNat ≤ limit then some (span.scale count.toNat).words else none := by
  have split := span.nanos_words
  have small : span.words.2.toNat < perSecond := span.subsecond_words ▸ span.subsecond_lt
  generalize span.words.1 = seconds at split ⊢
  generalize span.words.2 = subsecond at split small ⊢
  -- The nanoseconds of the multiple have room in a word.
  have room : subsecond.toNat * count.toNat < UInt64.size := by
    have most : subsecond.toNat * count.toNat ≤ perSecond * UInt32.size :=
      Nat.mul_le_mul (Nat.le_of_lt small) (Nat.le_of_lt count.toNat_lt)
    exact Nat.lt_of_le_of_lt most (by decide)
  have product : (subsecond.toUInt64 * count.toUInt64).toNat = subsecond.toNat * count.toNat := by
    rw [UInt64.toNat_mul, UInt32.toNat_toUInt64, UInt32.toNat_toUInt64]
    exact Nat.mod_eq_of_lt room
  have all : span.nanos * count.toNat =
      subsecond.toNat * count.toNat + perSecond * (seconds.toNat * count.toNat) := by
    rw [← split, Nat.add_mul, Nat.add_comm, Nat.mul_comm seconds.toNat, Nat.mul_assoc]
  have whole : seconds.toNat * count.toNat +
      (subsecond.toUInt64 * count.toUInt64 / 1000000000).toNat =
        span.nanos * count.toNat / perSecond := by
    rw [UInt64.toNat_div, product, all, Nat.add_mul_div_left _ _ (by decide), Nat.add_comm]
    rfl
  have rest : (subsecond.toUInt64 * count.toUInt64 % 1000000000).toUInt32 =
      .ofNat (span.nanos * count.toNat % perSecond) := by
    apply UInt32.toNat_inj.mp
    rw [UInt64.toNat_toUInt32, UInt64.toNat_mod, product, all, Nat.add_mul_mod_self_left]
    rfl
  rw [wordProduct?, whole, rest]
  have fits : span.nanos * count.toNat / perSecond < UInt64.size ↔
      span.nanos * count.toNat ≤ limit := by
    rw [Nat.div_lt_iff_lt_mul (by decide)]
    exact Nat.lt_iff_le_pred (by decide)
  by_cases inside : span.nanos * count.toNat ≤ limit
  · rw [if_pos (fits.mpr inside), if_pos inside, words, Span.seconds, Span.subsecond,
      scale_of_le inside]
  · rw [if_neg fun less => inside (fits.mp less), if_neg inside]

end Span

namespace Stagger

theorem delayOf_uniform {count index : Nat} (slot : Span) (inside : index < count) :
    (uniform count slot).delayOf index = slot.scale index := by
  rw [delayOf, delay?_uniform _ _ _ inside, Option.getD_some]

theorem before_uniform {count first second : Nat} (slot : Span) (less : first < second)
    (inside : second < count) :
    (⟨(uniform count slot).delayOf first, first⟩ : Turn).Before
      ⟨(uniform count slot).delayOf second, second⟩ := by
  rw [delayOf_uniform slot (Nat.lt_trans less inside), delayOf_uniform slot inside]
  rcases Nat.lt_or_eq_of_le (slot.scale_le_scale (Nat.le_of_lt less)) with shorter | equal
  · exact .inl shorter
  · exact .inr ⟨Span.ext_nanos equal, less⟩

theorem order_uniform (count : Nat) (slot : Span) :
    (uniform count slot).order = List.range count := by
  have same := (uniform count slot).order_perm
  rw [size_uniform] at same
  have ascending : (List.range count).Pairwise fun first second =>
      (⟨(uniform count slot).delayOf first, first⟩ : Turn).Before
        ⟨(uniform count slot).delayOf second, second⟩ := by
    apply List.pairwise_lt_range.imp_of_mem
    intro first second _ inside less
    exact before_uniform slot less (List.mem_range.mp inside)
  refine List.Perm.eq_of_pairwise (fun first second _ _ before behind => ?_)
    (uniform count slot).order_pairwise ascending same
  exact absurd (before.trans behind) (Turn.not_before_self _)

/-- The default delays, whatever the slot and for as many indices as there are words of 32 bits.
Each is the exact multiple of the slot if that is a span, and the largest span if not, by arithmetic
in machine words as well, so that the nanoseconds never make a second. They do not fall, and the
walk takes the indices as they come. -/
theorem default_delays_at_limits {count : Nat} (inWords : count ≤ UInt32.size) (slot : Span) :
    (∀ index, index < count → ∃ delay, (uniform count slot).delay? index = some delay ∧
      (index * slot.nanos ≤ Span.limit → delay.nanos = index * slot.nanos) ∧
      (Span.limit < index * slot.nanos → delay = Span.longest) ∧
      delay.subsecond < Span.perSecond ∧
      delay.nanos = delay.seconds * Span.perSecond + delay.subsecond ∧
      Span.wordProduct? slot.words.1 slot.words.2 (.ofNat index) =
        if index * slot.nanos ≤ Span.limit then some delay.words else none) ∧
    (∀ first second, first ≤ second → second < count →
      (uniform count slot).delayOf first ≤ (uniform count slot).delayOf second) ∧
    (uniform count slot).order = List.range count := by
  refine ⟨?_, ?_, order_uniform count slot⟩
  · intro index inside
    have word : (UInt32.ofNat index).toNat = index :=
      Nat.mod_eq_of_lt (Nat.lt_of_lt_of_le inside inWords)
    have product := slot.wordProduct?_words (.ofNat index)
    rw [word] at product
    rw [Nat.mul_comm index]
    exact ⟨slot.scale index, delay?_uniform count slot index inside, Span.scale_of_le,
      Span.scale_of_lt, Span.subsecond_lt _, Span.nanos_eq _, product⟩
  · intro first second inOrder inside
    rw [delayOf_uniform slot (Nat.lt_of_le_of_lt inOrder inside), delayOf_uniform slot inside]
    exact slot.scale_le_scale inOrder

/-- A thousand of the longest slots that are set in milliseconds are a span, and more are not. -/
theorem defaults_of_longest_millis :
    let slot : Span := .ofMillis (.ofNat (UInt64.size - 1))
    (∃ delay, (uniform UInt32.size slot).delay? 1000 = some delay ∧
      delay.nanos = 1000 * slot.nanos) ∧
    (uniform UInt32.size slot).delay? 1001 = some .longest ∧
    (uniform UInt32.size slot).order = List.range UInt32.size := by
  intro slot
  obtain ⟨delays, _, order⟩ := default_delays_at_limits (Nat.le_refl UInt32.size) slot
  obtain ⟨delay, found, exact, _⟩ := delays 1000 (by decide)
  obtain ⟨delay', found', _, cut, _⟩ := delays 1001 (by decide)
  exact ⟨⟨delay, found, exact (by decide)⟩, cut (by decide) ▸ found', order⟩

end Stagger
end ReplicatedSpace
