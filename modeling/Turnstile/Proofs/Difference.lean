import Mathlib.Data.List.Sort
import Mathlib.Data.String.Basic
import Mathlib.Order.Defs.Unbundled
import Mathlib.Tactic.SplitIfs
import Turnstile.Difference

/-!
# Differences of key sets

`ascending` keeps the set of its keys (`mem_ascending`) and, over a total order, puts each of them
in once and in order (`pairwise_ascending`). There is one such list only for each set of keys
(`ascending_eq_ascending_iff`), so a difference depends on the two sets that it compares and on
nothing else, and carried out it leads from the one to the other (`mem_apply_between`).
-/

set_option autoImplicit false

namespace Turnstile

variable {κ : Type _} [LT κ] [DecidableLT κ] [DecidableEq κ] {key other : κ} {keys : List κ}

/-! ## Ascending lists -/

theorem mem_insertAscending : other ∈ insertAscending key keys ↔ other = key ∨ other ∈ keys := by
  induction keys with
  | nil => simp [insertAscending]
  | cons head tail ih =>
    unfold insertAscending
    split_ifs with before same
    · exact List.mem_cons
    · rw [same]
      exact ⟨.inr, fun member => member.elim (fun here => here ▸ List.mem_cons_self) id⟩
    · rw [List.mem_cons, ih, List.mem_cons]
      exact or_left_comm

@[simp] theorem mem_ascending : key ∈ ascending keys ↔ key ∈ keys := by
  induction keys with
  | nil => exact Iff.rfl
  | cons head tail ih =>
    rw [ascending, List.foldr_cons, mem_insertAscending, List.mem_cons]
    exact or_congr_right ih

section TotalOrder

variable [IsStrictTotalOrder κ (· < ·)]

theorem pairwise_insertAscending (key : κ) (sorted : keys.Pairwise (· < ·)) :
    (insertAscending key keys).Pairwise (· < ·) := by
  induction keys with
  | nil => exact List.pairwise_singleton _ key
  | cons head tail ih =>
    obtain ⟨least, rest⟩ := List.pairwise_cons.1 sorted
    unfold insertAscending
    split_ifs with before same
    · refine List.pairwise_cons.2 ⟨fun later member => ?_, sorted⟩
      rcases List.mem_cons.1 member with rfl | member
      · exact before
      · exact trans_of (· < ·) before (least later member)
    · exact sorted
    · refine List.pairwise_cons.2 ⟨fun later member => ?_, ih rest⟩
      rcases mem_insertAscending.1 member with rfl | member
      · rcases trichotomous_of (· < ·) head later with after | equal | contrary
        · exact after
        · exact absurd equal.symm same
        · exact absurd contrary before
      · exact least later member

theorem pairwise_ascending (keys : List κ) : (ascending keys).Pairwise (· < ·) := by
  induction keys with
  | nil => exact .nil
  | cons head tail ih => exact pairwise_insertAscending head ih

theorem nodup_ascending (keys : List κ) : (ascending keys).Nodup :=
  (pairwise_ascending keys).imp fun before => ne_of_irrefl before

/-- There is one ascending list of a set of keys. -/
theorem ascending_eq_ascending_iff {others : List κ} :
    ascending keys = ascending others ↔ ∀ key, key ∈ keys ↔ key ∈ others := by
  constructor
  · intro same key
    rw [← mem_ascending, same, mem_ascending]
  · intro same
    refine (pairwise_ascending keys).eq_of_mem_iff (pairwise_ascending others) fun key => ?_
    rw [mem_ascending, mem_ascending, same]

end TotalOrder

/-! ## Differences -/

namespace Difference

variable {desired actual : List κ}

@[simp] theorem mem_added :
    key ∈ (between desired actual).added ↔ key ∈ desired ∧ key ∉ actual := by
  simp [between]

@[simp] theorem mem_removed :
    key ∈ (between desired actual).removed ↔ key ∈ actual ∧ key ∉ desired := by
  simp [between]

/-- Nothing has to be done exactly if what is there is what is wanted. -/
theorem isConverged_between_iff :
    (between desired actual).isConverged ↔ ∀ key, key ∈ desired ↔ key ∈ actual := by
  simp only [isConverged, Bool.and_eq_true, List.isEmpty_iff, List.eq_nil_iff_forall_not_mem,
    mem_added, mem_removed, ← forall_and]
  refine forall_congr' fun key => ?_
  tauto

/-- The keys that are there once a difference is carried out: those that are not removed, and those
that are added. -/
def apply (difference : Difference κ) (keys : List κ) : List κ :=
  (keys.filter fun key => key ∉ difference.removed) ++ difference.added

/-- A difference that is carried out leads to what is wanted. -/
@[simp] theorem mem_apply_between :
    key ∈ (between desired actual).apply actual ↔ key ∈ desired := by
  simp only [apply, List.mem_append, List.mem_filter, decide_eq_true_eq, mem_added, mem_removed]
  tauto

/-- Differences of the same sets are the same. -/
theorem between_congr [IsStrictTotalOrder κ (· < ·)] {desired' actual' : List κ}
    (wanted : ∀ key, key ∈ desired' ↔ key ∈ desired) (there : ∀ key, key ∈ actual' ↔ key ∈ actual) :
    between desired' actual' = between desired actual := by
  have added : (between desired' actual').added = (between desired actual).added :=
    ascending_eq_ascending_iff.2 fun key => by simp [wanted, there]
  have removed : (between desired' actual').removed = (between desired actual).removed :=
    ascending_eq_ascending_iff.2 fun key => by simp [wanted, there]
  exact congrArg₂ mk added removed

/-- **Differences are those of key sets.** Of any two lists, with repeats and in any order, the keys
to start and the keys to stop are in ascending order, none of them twice and none in both lists: the
ones are wanted and not there, the others are there and not wanted. Without the ones that are
stopped and with those that are started, exactly the wanted keys are there, and then nothing has to
be done any more, as it has not exactly if the two sets are the same. Lists with the same keys have
the same difference, and the difference in the other direction exchanges its two sides. -/
theorem differences_of_key_sets [IsStrictTotalOrder κ (· < ·)] (desired actual : List κ) :
    (between desired actual).added.Pairwise (· < ·) ∧
    (between desired actual).removed.Pairwise (· < ·) ∧
    (between desired actual).added.Disjoint (between desired actual).removed ∧
    (∀ key, key ∈ (between desired actual).added ↔ key ∈ desired ∧ key ∉ actual) ∧
    (∀ key, key ∈ (between desired actual).removed ↔ key ∈ actual ∧ key ∉ desired) ∧
    (∀ key, (key ∈ actual ∧ key ∉ (between desired actual).removed) ∨
      key ∈ (between desired actual).added ↔ key ∈ desired) ∧
    (∀ desired' actual' : List κ, (∀ key, key ∈ desired' ↔ key ∈ desired) →
      (∀ key, key ∈ actual' ↔ key ∈ actual) →
        between desired' actual' = between desired actual) ∧
    between actual desired = ⟨(between desired actual).removed, (between desired actual).added⟩ ∧
    ((between desired actual).isConverged ↔ ∀ key, key ∈ desired ↔ key ∈ actual) ∧
    (between desired ((between desired actual).apply actual)).isConverged := by
  refine ⟨pairwise_ascending _, pairwise_ascending _, ?disjoint, fun _ => mem_added,
    fun _ => mem_removed, ?carriedOut, fun _ _ => between_congr, rfl, isConverged_between_iff,
    ?converges⟩
  case disjoint =>
    intro key added removed
    exact (mem_removed.1 removed).2 (mem_added.1 added).1
  case carriedOut =>
    intro key
    rw [mem_added, mem_removed]
    tauto
  case converges => exact isConverged_between_iff.2 fun key => mem_apply_between.symm

theorem differences_of_repeated_names :
    let desired := ["c", "a", "c", "b"]
    let actual := ["d", "b", "d"]
    IsStrictTotalOrder String (· < ·) ∧ between desired actual = ⟨["a", "c"], ["d"]⟩ ∧
      between actual desired = ⟨["d"], ["a", "c"]⟩ ∧
      (between desired ((between desired actual).apply actual)).isConverged := by
  intro desired actual
  have difference : between desired actual = ⟨["a", "c"], ["d"]⟩ := by decide
  obtain ⟨_, _, _, _, _, _, _, exchanged, _, converges⟩ := differences_of_key_sets desired actual
  rw [difference] at exchanged
  exact ⟨inferInstance, difference, exchanged, converges⟩

end Difference

end Turnstile
