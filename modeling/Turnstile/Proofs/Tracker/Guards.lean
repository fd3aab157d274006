import Turnstile.Proofs.Table
import Turnstile.Proofs.Tracker

/-!
# The guard of a pod

What the operations of the tracker do to the guard of one pod, and to the kind that holds it
(`Tracker.holder?`). To notice a pod as finished claims its guard for the kind under which it is
noticed, and hands the pod on unless the guard was held before, by whichever kind. A listing
releases the guards of its own kind only; a report that a pod is gone releases the guard of the pod,
whoever holds it.

A pod that is told about under one kind only has a guard of that kind, if any
(`Tracker.HasGuard`).
-/

set_option autoImplicit false

namespace Turnstile.Tracker

variable {tracker : Tracker} {kind owner : WorkKind} {name : PodName} {pod : Pod}
  {pods : List Pod} {isHeld : Bool}

/-! ## Who holds the guard -/

/-- The kind that holds the guard of a pod, if it is held. -/
def holder? (tracker : Tracker) (name : PodName) : Option WorkKind := tracker.guards.get? name

theorem isDeleting_eq (tracker : Tracker) (name : PodName) :
    tracker.isDeleting name = (tracker.holder? name).isSome := rfl

theorem holder?_set (tracker : Tracker) (pod : PodName) (kind : WorkKind) (name : PodName) :
    ({ tracker with guards := tracker.guards.set pod kind } : Tracker).holder? name =
      if pod = name then some kind else tracker.holder? name := by
  split_ifs with same
  · subst same
    exact Table.get?_set_self _ _ _
  · exact Table.get?_set_of_ne _ _ (Ne.symm same)

/-- A pod is handed on with its guard claimed if it has finished and nobody has the guard. -/
theorem notice_cases (tracker : Tracker) (kind : WorkKind) (pod : Pod) :
    (pod.isFinished ∧ tracker.isDeleting pod.name = false ∧
      tracker.notice kind pod =
        ({ tracker with guards := tracker.guards.set pod.name kind }, [pod.name])) ∨
    ((pod.isFinished → tracker.isDeleting pod.name = true) ∧
      tracker.notice kind pod = (tracker, [])) := by
  unfold notice claim?
  split
  case isTrue finished =>
    cases deleting : tracker.isDeleting pod.name with
    | false => exact .inl ⟨finished, rfl, rfl⟩
    | true => exact .inr ⟨fun _ => rfl, rfl⟩
  case isFalse unfinished => exact .inr ⟨fun finished => absurd finished unfinished, rfl⟩

/-- To notice a pod claims its guard if it has finished and the guard is free, and hands it on if
that is so. -/
theorem holder?_notice (tracker : Tracker) (kind : WorkKind) (pod : Pod) (name : PodName) :
    (tracker.notice kind pod).1.holder? name =
        (tracker.holder? name).or
          (if pod.name = name && pod.isFinished then some kind else none) ∧
      (tracker.notice kind pod).2.filter (· = name) =
        if pod.name = name && pod.isFinished && (tracker.holder? name).isNone then [name]
        else [] := by
  rcases tracker.notice_cases kind pod with ⟨finished, unclaimed, noticed⟩ | ⟨claimed, noticed⟩
  · rw [noticed, finished, Bool.and_true, holder?_set]
    by_cases same : pod.name = name
    · have free : tracker.holder? name = none := by simpa [isDeleting_eq, same] using unclaimed
      simp [same, free]
    · simp [same]
  · rw [noticed]
    by_cases same : pod.name = name
    · cases finished : pod.isFinished with
      | false => simp
      | true =>
        obtain ⟨holder, held⟩ : ∃ holder, tracker.holder? name = some holder := by
          rw [← Option.isSome_iff_exists, ← isDeleting_eq, ← same]
          exact claimed finished
        simp [held]
    · simp [same]

theorem holder?_noticeAll (tracker : Tracker) (kind : WorkKind) (pods : List Pod)
    (name : PodName) :
    (tracker.noticeAll kind pods).1.holder? name =
        (tracker.holder? name).or
          (if pods.any fun pod => pod.name = name && pod.isFinished then some kind else none) ∧
      (tracker.noticeAll kind pods).2.filter (· = name) =
        if (pods.any fun pod => pod.name = name && pod.isFinished) &&
          (tracker.holder? name).isNone then [name] else [] := by
  induction pods generalizing tracker with
  | nil => simp [noticeAll]
  | cons pod rest ih =>
    obtain ⟨first, handed⟩ := tracker.holder?_notice kind pod name
    obtain ⟨last, more⟩ := ih (tracker.notice kind pod).1
    rw [noticeAll, List.any_cons]
    refine ⟨last.trans ?_, ?_⟩
    · rw [first]
      cases tracker.holder? name <;> cases (decide (pod.name = name) && pod.isFinished) <;> simp
    · rw [List.filter_append, handed, more, first]
      cases tracker.holder? name <;> cases (decide (pod.name = name) && pod.isFinished) <;> simp

/-- A report that a pod is gone releases its guard, whoever holds it. -/
theorem holder?_forget (tracker : Tracker) (kind : WorkKind) (pod name : PodName) :
    (tracker.forget kind pod).holder? name =
      if pod = name then none else tracker.holder? name := by
  split_ifs with same
  · subst same
    exact Table.get?_erase_self _ _
  · exact Table.get?_erase_of_ne _ (Ne.symm same)

/-- A listing releases the guards that its kind holds of pods that are not listed. -/
theorem holder?_replace (distinct : tracker.guards.keys.Nodup) (kind : WorkKind) (pods : List Pod)
    (name : PodName) :
    (tracker.replace kind pods).holder? name =
      (tracker.holder? name).filter fun holder =>
        holder ≠ kind || pods.any fun pod => pod.name = name :=
  Table.get?_filter distinct _ _

/-! ## No pod has two guards -/

theorem nodup_guards_notice (distinct : tracker.guards.keys.Nodup) (kind : WorkKind) (pod : Pod) :
    (tracker.notice kind pod).1.guards.keys.Nodup := by
  rcases tracker.notice_cases kind pod with ⟨_, _, noticed⟩ | ⟨_, noticed⟩
  · rw [noticed]
    exact Table.nodup_keys_set distinct _ _
  · rwa [noticed]

theorem nodup_guards_noticeAll (distinct : tracker.guards.keys.Nodup) (kind : WorkKind)
    (pods : List Pod) : (tracker.noticeAll kind pods).1.guards.keys.Nodup := by
  induction pods generalizing tracker with
  | nil => exact distinct
  | cons pod rest ih => exact ih (nodup_guards_notice distinct kind pod)

theorem nodup_guards_forget (distinct : tracker.guards.keys.Nodup) (kind : WorkKind)
    (pod : PodName) : (tracker.forget kind pod).guards.keys.Nodup :=
  Table.nodup_keys_erase distinct pod

theorem nodup_guards_replace (distinct : tracker.guards.keys.Nodup) (kind : WorkKind)
    (pods : List Pod) : (tracker.replace kind pods).guards.keys.Nodup :=
  distinct.sublist (List.filter_sublist.map _)

/-! ## Pods of one kind -/

/-- Whether the guard of a pod is held, by the one kind that can hold it. -/
structure HasGuard (tracker : Tracker) (owner : WorkKind) (name : PodName) (isHeld : Bool) :
    Prop where
  held : tracker.isDeleting name = isHeld
  owned : ∀ kind, (name, kind) ∈ tracker.guards.bindings → kind = owner

theorem hasGuard_iff (distinct : tracker.guards.keys.Nodup) :
    tracker.HasGuard owner name isHeld ↔
      tracker.holder? name = if isHeld then some owner else none := by
  have bound : ∀ kind, (name, kind) ∈ tracker.guards.bindings ↔ tracker.holder? name = some kind :=
    fun kind => (Table.get?_eq_some_iff distinct).symm
  constructor
  · rintro ⟨held, owned⟩
    rw [isDeleting_eq] at held
    cases holder : tracker.holder? name with
    | none => simp [← held, holder]
    | some kind => simp [← held, holder, owned kind ((bound kind).2 holder)]
  · intro holder
    refine ⟨?_, fun kind member => ?_⟩
    · rw [isDeleting_eq, holder]
      cases isHeld <;> rfl
    · rw [bound, holder] at member
      cases isHeld with
      | false => cases member
      | true => exact (Option.some.inj member).symm

end Turnstile.Tracker
