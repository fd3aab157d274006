import Mathlib.Data.String.Basic
import Mathlib.Tactic.SplitIfs
import Turnstile.Proofs.Difference
import Turnstile.Tracker

/-!
# What the tracker counts

Each operation of the tracker decides about the pods that it is told about and leaves every other
pod as it was, and no pod is ever counted twice. Guards have no part in the counting.
-/

set_option autoImplicit false

namespace Turnstile

namespace PodName

instance : IsStrictTotalOrder PodName (· < ·) where
  irrefl := by
    rintro pod (before | ⟨_, before⟩)
    · exact lt_irrefl _ before
    · exact lt_irrefl _ before
  trans := by
    rintro first second third (before | ⟨same, before⟩) (after | ⟨same', after⟩)
    · exact .inl (before.trans after)
    · exact .inl (same' ▸ before)
    · exact .inl (same ▸ after)
    · exact .inr ⟨same.trans same', before.trans after⟩
  trichotomous := by
    intro first second notBefore notAfter
    have spaces : first.space = second.space := by
      refine le_antisymm (not_lt.1 fun after => notAfter (.inl after)) ?_
      exact not_lt.1 fun before => notBefore (.inl before)
    have names : first.name = second.name := by
      refine le_antisymm (not_lt.1 fun after => notAfter (.inr ⟨spaces.symm, after⟩)) ?_
      exact not_lt.1 fun before => notBefore (.inr ⟨spaces, before⟩)
    cases first
    cases second
    exact congrArg₂ PodName.mk spaces names

end PodName

theorem Pod.usesCapacity_iff {pod : Pod} :
    pod.usesCapacity ↔
      pod.deletionTimestamp = none ∧ pod.phase ≠ .succeeded ∧ pod.phase ≠ .failed := by
  cases phase : pod.phase <;> simp [usesCapacity, isBeingDeleted, PodPhase.isTerminal, phase]

namespace Tracker

variable {tracker : Tracker} {kind : WorkKind} {name : PodName} {pod : Pod} {pods : List Pod}

@[simp] theorem counted_guards (tracker : Tracker) (guards : Table PodName WorkKind)
    (kind : WorkKind) :
    ({ tracker with guards } : Tracker).counted kind = tracker.counted kind := by
  cases kind <;> rfl

/-! ## Reports about one pod -/

theorem mem_counted_observe : name ∈ (tracker.observe kind pod).counted kind ↔
    if name = pod.name then pod.usesCapacity = true else name ∈ tracker.counted kind := by
  rw [observe, counted_setCounted_self]
  split_ifs with uses same same <;> simp [same, uses]

theorem nodup_counted_observe (once : (tracker.counted kind).Nodup) (pod : Pod) :
    ((tracker.observe kind pod).counted kind).Nodup := by
  rw [observe, counted_setCounted_self]
  split_ifs
  · exact List.nodup_cons.2 ⟨by simp, once.filter _⟩
  · exact once.filter _

theorem mem_counted_forget {pod : PodName} : name ∈ (tracker.forget kind pod).counted kind ↔
    name ≠ pod ∧ name ∈ tracker.counted kind := by
  rw [forget, counted_guards, counted_setCounted_self, List.mem_filter, decide_eq_true_eq]
  exact and_comm

theorem nodup_counted_forget (once : (tracker.counted kind).Nodup) (pod : PodName) :
    ((tracker.forget kind pod).counted kind).Nodup := by
  rw [forget, counted_guards, counted_setCounted_self]
  exact once.filter _

/-! ## Listings -/

theorem mem_counted_replace : name ∈ (tracker.replace kind pods).counted kind ↔
    ∃ pod ∈ pods, pod.name = name ∧ pod.usesCapacity := by
  simp only [replace, counted_guards, counted_setCounted_self, mem_ascending, List.mem_map,
    List.mem_filter]
  constructor
  · rintro ⟨pod, ⟨member, uses⟩, same⟩
    exact ⟨pod, member, same, uses⟩
  · rintro ⟨pod, member, same, uses⟩
    exact ⟨pod, ⟨member, uses⟩, same⟩

theorem nodup_counted_replace (tracker : Tracker) (kind : WorkKind) (pods : List Pod) :
    ((tracker.replace kind pods).counted kind).Nodup := by
  rw [replace, counted_guards, counted_setCounted_self]
  exact nodup_ascending _

/-! ## Finished pods -/

@[simp] theorem counted_notice (tracker : Tracker) (kind : WorkKind) (pod : Pod)
    (other : WorkKind) : (tracker.notice kind pod).1.counted other = tracker.counted other := by
  unfold notice claim?
  split_ifs <;> simp

@[simp] theorem counted_noticeAll (tracker : Tracker) (kind : WorkKind) (pods : List Pod)
    (other : WorkKind) : (tracker.noticeAll kind pods).1.counted other = tracker.counted other := by
  induction pods generalizing tracker with
  | nil => rfl
  | cons pod rest ih =>
    rw [noticeAll]
    exact (ih _).trans (counted_notice tracker kind pod other)

end Tracker

end Turnstile
