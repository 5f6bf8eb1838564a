import Mathlib.Data.List.DropRight
import ReplicatedSpace.Http.Exchange

/-!
The authority behind a base. A new handle of the sequencer reads the base of the one before as if it
were an address. That changes nothing as long as the address names something; an address of slashes
alone has the bare scheme as its base, and the next handle takes that for the name of a host.
-/
namespace ReplicatedSpace

namespace Endpoint

/-- There is more to an address than slashes. -/
def Named (address : String) : Prop := ∃ letter ∈ address.toList, letter ≠ '/'

theorem trimSlashes_eq_rdropWhile (text : List Char) :
    trimSlashes text = text.rdropWhile (· == '/') := rfl

theorem trimSlashes_eq_nil_iff (address : String) :
    trimSlashes address.toList = [] ↔ ¬ Named address := by
  rw [trimSlashes_eq_rdropWhile, List.rdropWhile_eq_nil_iff, Named]
  simp

theorem trimSlashes_eq_self_iff (text : List Char) :
    trimSlashes text = text ↔ text.getLast? ≠ some '/' := by
  rw [trimSlashes_eq_rdropWhile, List.rdropWhile_eq_self_iff]
  cases text using List.reverseRecOn with
  | nil => simp
  | append_singleton front last => simp

theorem exists_toList_base (address : String) :
    ∃ front, (base address).toList = front ++ trimSlashes address.toList ∧
      hasScheme (base address).toList = true := by
  have spelled : (base address).toList =
      if hasScheme (trimSlashes address.toList) then trimSlashes address.toList
      else "http://".toList ++ trimSlashes address.toList := String.toList_ofList
  rw [spelled]
  split
  · rename_i given
    exact ⟨[], rfl, given⟩
  · refine ⟨"http://".toList, rfl, ?_⟩
    rw [hasScheme, List.isPrefixOf_iff_prefix.mpr (List.prefix_append ..), Bool.true_or]

theorem base_eq_of_not_named {address : String} (bare : ¬ Named address) :
    base address = "http://" := by
  unfold base
  rw [(trimSlashes_eq_nil_iff address).mpr bare]
  rfl

theorem getLast?_base_of_named {address : String} (named : Named address) :
    (base address).toList.getLast? ≠ some '/' := by
  obtain ⟨front, spelled, _⟩ := exists_toList_base address
  have more : trimSlashes address.toList ≠ [] :=
    fun nothing => (trimSlashes_eq_nil_iff address).mp nothing named
  rw [spelled, List.getLast?_append_of_ne_nil _ more, ← trimSlashes_eq_self_iff]
  exact trimSlashes_idem _

theorem getLast?_base_iff (address : String) :
    (base address).toList.getLast? = some '/' ↔ ¬ Named address := by
  constructor
  · intro slash named
    exact getLast?_base_of_named named slash
  · intro bare
    rw [base_eq_of_not_named bare]
    decide

theorem named_base (address : String) : Named (base address) := by
  obtain ⟨_, _, scheme⟩ := exists_toList_base address
  rw [hasScheme, Bool.or_eq_true, List.isPrefixOf_iff_prefix, List.isPrefixOf_iff_prefix] at scheme
  refine ⟨'h', ?_, by decide⟩
  rcases scheme with plain | secure
  · exact plain.subset (by decide)
  · exact secure.subset (by decide)

theorem base_base_of_named {address : String} (named : Named address) :
    base (base address) = base address := by
  obtain ⟨_, _, scheme⟩ := exists_toList_base address
  have kept := (trimSlashes_eq_self_iff _).mpr (getLast?_base_of_named named)
  rw [base, kept, if_pos scheme, String.ofList_toList]

theorem base_base_eq_iff (address : String) :
    base (base address) = base address ↔ Named address := by
  constructor
  · intro same
    by_contra bare
    have ended := (getLast?_base_iff address).mpr bare
    rw [← same] at ended
    exact (getLast?_base_iff _).mp ended (named_base address)
  · exact base_base_of_named

theorem doubled_slash_iff (base path : String) :
    ("//" ++ path).toList <:+ (join base path).toList ↔ base.toList.getLast? = some '/' := by
  have slashes : ("//" ++ path).toList = ['/'] ++ ('/' :: path.toList) := by simp
  have joined : (join base path).toList = base.toList ++ ('/' :: path.toList) := by simp [join]
  rw [slashes, joined, List.suffix_append_self_iff, List.singleton_suffix_iff_getLast?_eq_some]

end Endpoint

namespace Http.Directory

open Endpoint

theorem sequencerBase_succ (directory : Directory) (handle : Nat) :
    directory.sequencerBase (handle + 1) = base (base directory.sequencer) := by
  induction handle with
  | zero => rfl
  | succ handle ih =>
    rw [sequencerBase, ih]
    exact base_base_of_named (named_base _)

/-- All handles of the sequencer have the base of the first one, and taking the base of a base
changes nothing, exactly if the address names something; then no request has the slash in front of
its path doubled. If the address holds slashes alone, the first base is the bare scheme, so the
requests of the first handle have that slash doubled, and all later handles take the scheme for the
name of a host. -/
theorem handles_keep_base_iff_named (directory : Directory) :
    ((∀ handle, directory.sequencerBase handle = directory.sequencerBase 0) ↔
      Named directory.sequencer) ∧
    (base (base directory.sequencer) = base directory.sequencer ↔ Named directory.sequencer) ∧
    (∀ handle path,
      ("//" ++ path).toList <:+ (join (directory.sequencerBase handle) path).toList ↔
        handle = 0 ∧ ¬ Named directory.sequencer) ∧
    (Named directory.sequencer ∨
      directory.sequencerBase 0 = "http://" ∧
        ∀ handle, directory.sequencerBase (handle + 1) = "http://http:") := by
  refine ⟨?_, base_base_eq_iff _, ?_, ?_⟩
  · rw [← base_base_eq_iff]
    constructor
    · intro same
      exact same 1
    · intro same handle
      cases handle with
      | zero => rfl
      | succ handle => exact (sequencerBase_succ directory handle).trans same
  · intro handle path
    rw [doubled_slash_iff]
    cases handle with
    | zero =>
      rw [sequencerBase, getLast?_base_iff]
      simp
    | succ handle =>
      rw [sequencerBase_succ, getLast?_base_iff]
      simp [named_base]
  · by_cases named : Named directory.sequencer
    · exact .inl named
    · have first : base directory.sequencer = "http://" := base_eq_of_not_named named
      refine .inr ⟨first, fun handle => ?_⟩
      rw [sequencerBase_succ, first]
      rfl

/-- The standard settings with a slash for the sequencer. -/
def slashForSequencer : Settings := { Settings.standard with sequencer := "/" }

/-- A lone slash is an address that the settings accept, and the second handle has another base. -/
theorem lone_slash_loses_base :
    slashForSequencer.check = .ok () ∧
    (ofSettings slashForSequencer).sequencerBase 0 = "http://" ∧
    (ofSettings slashForSequencer).sequencerBase 1 = "http://http:" ∧
    base (base slashForSequencer.sequencer) ≠ base slashForSequencer.sequencer ∧
    join ((ofSettings slashForSequencer).sequencerBase 0) "next" = "http:///next" := by
  refine ⟨by decide, rfl, rfl, by decide, rfl⟩

end Http.Directory
end ReplicatedSpace
