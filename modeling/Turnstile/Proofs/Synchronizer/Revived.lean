import Turnstile.Proofs.Synchronizer.Upkeep

/-!
# Pods that come to life again under an errand

An errand is sent for a pod that was reported as finished. When it calls the substrate, the pod of
that name is live exactly if the synchronizer was told so in between, and of nothing later about
that name (`Upkeep.deletes_live_iff_revived`). As long as no pod is started under the name of one
that has finished, an errand therefore deletes no live pod.

It does delete one if the pod is reported gone, by an event or by a listing without it, and another
pod is started under its name before the sleep of the errand is over
(`Upkeep.deletes_revived_pod`): to report the pod gone releases its guard, but does not call the
errand back.
-/

set_option autoImplicit false

namespace Turnstile

theorem Pod.not_usesCapacity_of_isFinished {pod : Pod} (finished : pod.isFinished) :
    ¬ pod.usesCapacity := by
  rw [Pod.isFinished, Bool.and_eq_true] at finished
  simp [Pod.usesCapacity, finished]

namespace Tracker

variable {tracker : Tracker} {kind : WorkKind} {name : PodName} {pod : Pod} {pods : List Pod}

/-- A pod that is noticed has finished. -/
theorem finished_of_notice (noticed : name ∈ (tracker.notice kind pod).2) :
    pod.name = name ∧ pod.isFinished := by
  unfold notice at noticed
  split at noticed
  case isTrue finished =>
    split at noticed
    · exact ⟨(List.mem_singleton.1 noticed).symm, finished⟩
    · cases noticed
  case isFalse => cases noticed

theorem finished_of_noticeAll (noticed : name ∈ (tracker.noticeAll kind pods).2) :
    ∃ pod ∈ pods, pod.name = name ∧ pod.isFinished := by
  induction pods generalizing tracker with
  | nil => cases noticed
  | cons pod rest ih =>
    rcases List.mem_append.1 noticed with here | later
    · exact ⟨pod, List.mem_cons_self, finished_of_notice here⟩
    · obtain ⟨other, member, finished⟩ := ih later
      exact ⟨other, List.mem_cons_of_mem _ member, finished⟩

end Tracker

namespace Synchronizer

variable {kind : WorkKind} {tracker : Tracker} {input : Input} {name : PodName} {told : Told}

/-- Whatever an input has deleted is finished in the view after it. -/
theorem finished_of_effectOf (view : View)
    (distinct : ∀ page, input = .listed (.ok page) → (page.pods.map (·.name)).Nodup)
    (noticed : name ∈ (effectOf kind tracker input).2) :
    ∃ pod, view.take input name = some pod ∧ pod.isFinished := by
  match input with
  | .listed (.ok page) =>
    obtain ⟨pod, member, same, finished⟩ := Tracker.finished_of_noticeAll noticed
    exact ⟨pod, (View.ofListing_eq_some_iff (distinct page rfl)).2 ⟨member, same⟩, finished⟩
  | .item (.ok (.added pod)) =>
    obtain ⟨rfl, finished⟩ := Tracker.finished_of_notice noticed
    exact ⟨pod, Function.update_self _ _ _, finished⟩
  | .item (.ok (.modified pod)) =>
    obtain ⟨rfl, finished⟩ := Tracker.finished_of_notice noticed
    exact ⟨pod, Function.update_self _ _ _, finished⟩

/-- No listing names a pod twice. -/
def Told.IsPlain (told : Told) : Prop :=
  ∀ kind page, (kind, .listed (.ok page)) ∈ told → (page.pods.map (·.name)).Nodup

/-- An errand was sent for a pod that was finished then, and has called later than that, if at all;
one that is deleting has. -/
structure Errand.IsSound (told : Told) (errand : Errand) : Prop where
  noticed : errand.noticed ≤ told.length
  finished : ∃ pod, Told.view (told.take errand.noticed) errand.kind errand.pod = some pod ∧
    pod.isFinished
  called : ∀ called, errand.called = some called → errand.noticed ≤ called ∧ called ≤ told.length
  calls : errand.stage = .deleting → errand.called ≠ none

namespace Errand.IsSound

variable {errand : Errand}

/-- What is told later makes no difference. -/
theorem append (sound : errand.IsSound told) (more : Told) : errand.IsSound (told ++ more) where
  noticed := by
    rw [List.length_append]
    exact Nat.le_add_right_of_le sound.noticed
  finished := by
    rw [List.take_append_of_le_length sound.noticed]
    exact sound.finished
  called := by
    intro called same
    obtain ⟨after, before⟩ := sound.called called same
    rw [List.length_append]
    exact ⟨after, Nat.le_add_right_of_le before⟩
  calls := sound.calls

theorem enter (sound : errand.IsSound told) (stage : Deletion.Stage) :
    (errand.enter told.length stage).IsSound told where
  noticed := sound.noticed
  finished := sound.finished
  called := by
    intro called same
    by_cases deleting : stage = .deleting
    · simp only [Errand.enter, if_pos deleting, Option.some.injEq] at same
      exact ⟨same ▸ sound.noticed, Nat.le_of_eq same.symm⟩
    · simp only [Errand.enter, if_neg deleting] at same
      exact sound.called called same
  calls := by
    intro deleting
    have here : stage = .deleting := deleting
    simp [Errand.enter, here]

end Errand.IsSound

namespace Upkeep

variable {upkeep : Upkeep}

/-- The errands that an input sends are sound from the start. -/
theorem sound_tell (stage : Stage)
    (distinct : ∀ page, input = .listed (.ok page) → (page.pods.map (·.name)).Nodup)
    (sound : ∀ errand ∈ upkeep.errands, errand.IsSound upkeep.told) :
    ∀ errand ∈ (upkeep.tell kind input stage (effectOf kind upkeep.tracker input)).errands,
      errand.IsSound (upkeep.told ++ [(kind, input)]) := by
  intro errand member
  rcases List.mem_append.1 member with old | new
  · exact (sound errand old).append _
  · obtain ⟨pod, noticed, rfl⟩ := List.mem_map.1 new
    have length : (upkeep.told ++ [(kind, input)]).length = upkeep.told.length + 1 := by simp
    refine ⟨Nat.le_of_eq length.symm, ?_, nofun, nofun⟩
    show ∃ report, Told.view (List.take _ _) kind pod = some report ∧ _
    rw [← length, List.take_length]
    have after : Told.view (upkeep.told ++ [(kind, input)]) kind =
        (Told.view upkeep.told kind).take input := by
      simp [Told.view]
    rw [after]
    exact finished_of_effectOf _ distinct noticed

/-- **All errands of a run are sound.** -/
theorem sound_run (actions : List Action) (distinct : (run actions).told.IsPlain) :
    ∀ errand ∈ (run actions).errands, errand.IsSound (run actions).told := by
  let kept := fun upkeep : Upkeep =>
    upkeep.told.IsPlain → ∀ errand ∈ upkeep.errands, errand.IsSound upkeep.told
  suffices held : kept (run actions) from held distinct
  refine run_induction kept ?_ ?_ ?_ actions
  · exact fun _ _ member => absurd member List.not_mem_nil
  · intro upkeep kind input stage sound distinct
    have before := sound fun kind page member =>
      distinct kind page (List.mem_append_left _ member)
    refine sound_tell stage (fun page same => distinct kind page ?_) before
    exact List.mem_append_right _ (List.mem_singleton.2 (congrArg _ same.symm))
  · intro upkeep place errand input stage sound found _ distinct other member
    have before := sound distinct
    rcases List.mem_or_eq_of_mem_set member with old | rfl
    · exact before other old
    · exact (before errand (List.mem_of_getElem? found)).enter stage

/-- **An errand deletes a live pod exactly if the pod was revived under it.** Every errand was sent
for a pod that had finished. When it calls the substrate, its pod is live in the view of its
synchronizer if and only if the last word about the pod since then says so; without any word about
it, or with none that says so, it is not. -/
theorem deletes_live_iff_revived (actions : List Action) (distinct : (run actions).told.IsPlain) :
    let told := (run actions).told
    ∀ errand ∈ (run actions).errands,
      (errand.stage = .deleting → errand.called ≠ none) ∧
      (∃ pod, Told.view (told.take errand.noticed) errand.kind errand.pod = some pod ∧
        pod.isFinished) ∧
      ∀ called, errand.called = some called →
        (errand.pod ∈ (Told.view (told.take called) errand.kind).usingCapacity ↔
          ∃ input pod,
            Told.lastWord ((told.take called).drop errand.noticed) errand.kind errand.pod =
              some input ∧
            input.reportOf errand.pod = some pod ∧ pod.usesCapacity) := by
  intro told errand member
  have sound := sound_run actions distinct errand member
  refine ⟨sound.calls, sound.finished, fun called same => ?_⟩
  obtain ⟨after, _⟩ := sound.called called same
  have split : told.take called =
      told.take errand.noticed ++ (told.take called).drop errand.noticed := by
    have first : (told.take called).take errand.noticed = told.take errand.noticed := by
      rw [List.take_take, Nat.min_eq_left after]
    rw [← first, List.take_append_drop]
  rw [View.mem_usingCapacity, Told.view_eq, split, Told.lastWord_append, ← split]
  cases word : Told.lastWord ((told.take called).drop errand.noticed) errand.kind errand.pod with
  | some input => simp
  | none =>
    obtain ⟨finished, there, isFinished⟩ := sound.finished
    rw [Told.view_eq] at there
    have report : (none.or
        (Told.lastWord (told.take errand.noticed) errand.kind errand.pod)).bind
          (Input.reportOf errand.pod) = some finished := there
    rw [report]
    simp [Pod.not_usesCapacity_of_isFinished isFinished]

/-- A worker is seen to finish, and is gone before its errand has slept. -/
def finishing : List Action :=
  [.first .worker ⟨[], none, none⟩, .take .worker .began, .take .worker (.opened (.ok ())),
    .take .worker (.item (.ok (.added (Follower.sample "w1" .succeeded)))), .errand 0 .began,
    .take .worker (.item (.ok (.deleted (Follower.sample "w1" .succeeded))))]

theorem deletes_finished_pod :
    let upkeep := run (finishing ++ [.errand 0 .elapsed])
    upkeep.told.IsPlain ∧
      ∃ errand ∈ upkeep.errands, errand.pod = ⟨"brigade", "w1"⟩ ∧ errand.called = some 5 ∧
        errand.pod ∉ (Told.view (upkeep.told.take 5) errand.kind).usingCapacity := by
  intro upkeep
  have plain : upkeep.told.IsPlain := by
    intro kind page member
    have told_eq : upkeep.told = [(.worker, .listed (.ok ⟨[], none, none⟩)), (.worker, .began),
        (.worker, .opened (.ok ())),
        (.worker, .item (.ok (.added (Follower.sample "w1" .succeeded)))),
        (.worker, .item (.ok (.deleted (Follower.sample "w1" .succeeded))))] := rfl
    simp only [told_eq, List.mem_cons, Prod.mk.injEq, Input.listed.injEq, Except.ok.injEq,
      List.not_mem_nil, reduceCtorEq, and_false, or_false] at member
    rw [member.2]
    exact .nil
  let errand : Errand := ⟨.worker, ⟨"brigade", "w1"⟩, .deleting, 4, some 5⟩
  have sent : errand ∈ upkeep.errands := List.mem_singleton.2 rfl
  refine ⟨plain, errand, sent, rfl, rfl, fun live => ?_⟩
  obtain ⟨_, _, exactly⟩ := deletes_live_iff_revived _ plain errand sent
  obtain ⟨input, pod, word, report, _⟩ := (exactly 5 rfl).1 live
  have last : some (.item (.ok (.deleted (Follower.sample "w1" .succeeded)))) = some input := word
  cases last
  cases report

/-- Another worker is started under its name before that. -/
def reviving : List Action :=
  finishing ++ [.take .worker (.item (.ok (.added (Follower.sample "w1" .running)))),
    .errand 0 .elapsed]

theorem deletes_revived_pod :
    ∃ errand ∈ (run reviving).errands, ∃ called, errand.called = some called ∧
      errand.pod ∈ (Told.view ((run reviving).told.take called) errand.kind).usingCapacity := by
  refine ⟨⟨.worker, ⟨"brigade", "w1"⟩, .deleting, 4, some 6⟩, ?_, 6, rfl, ?_⟩
  · exact List.mem_singleton.2 rfl
  · exact View.mem_usingCapacity.2 ⟨Follower.sample "w1" .running, rfl, rfl⟩

end Upkeep

end Synchronizer

end Turnstile
