import Turnstile.Proofs.Synchronizer.Upkeep
import Turnstile.Proofs.Tracker.Guards

/-!
# One errand for each stay of a pod

A pod that is told about under one kind **stays** from one report that it is gone to the next:
an event that says so, or a listing of its kind without it. What the synchronizers were told is
thereby cut into stays (`Told.stays`).

However often a pod is reported as finished in a stay, one errand is sent for it, at the first of
these reports, and none in a stay in which there is no such report. The guard of the pod is held
exactly if there is one in the present stay (`Upkeep.one_errand_per_stay`). What is told later
neither sends another errand nor touches one that was sent.
-/

set_option autoImplicit false

namespace Turnstile.Synchronizer

namespace Input

/-- Whether the input speaks of a pod. -/
def mentions (name : PodName) : Input → Bool
  | listed (.ok page) => page.pods.any fun pod => pod.name = name
  | item (.ok (.added pod)) => pod.name = name
  | item (.ok (.modified pod)) => pod.name = name
  | item (.ok (.deleted pod)) => pod.name = name
  | _ => false

/-- Whether the input reports a pod as finished. -/
def showsFinished (name : PodName) : Input → Bool
  | listed (.ok page) => page.pods.any fun pod => pod.name = name && pod.isFinished
  | item (.ok (.added pod)) => pod.name = name && pod.isFinished
  | item (.ok (.modified pod)) => pod.name = name && pod.isFinished
  | _ => false

/-- Whether the input reports a pod of its kind as gone. -/
def showsGone (name : PodName) : Input → Bool
  | listed (.ok page) => !page.pods.any fun pod => pod.name = name
  | item (.ok (.deleted pod)) => pod.name = name
  | _ => false

theorem mentions_of_showsFinished {name : PodName} {input : Input}
    (finished : input.showsFinished name) : input.mentions name := by
  match input, finished with
  | listed (.ok page), finished =>
    obtain ⟨pod, member, shown⟩ := List.any_eq_true.1 finished
    exact List.any_eq_true.2 ⟨pod, member, (Bool.and_eq_true_iff.1 shown).1⟩
  | item (.ok (.added pod)), finished => exact (Bool.and_eq_true_iff.1 finished).1
  | item (.ok (.modified pod)), finished => exact (Bool.and_eq_true_iff.1 finished).1

/-- No input reports a pod as finished and as gone. -/
theorem showsFinished_of_showsGone {name : PodName} {input : Input}
    (gone : input.showsGone name) : input.showsFinished name = false := by
  match input, gone with
  | listed (.ok page), gone =>
    refine Bool.eq_false_iff.2 fun finished => ?_
    have mentioned : page.pods.any (fun pod => pod.name = name) :=
      @mentions_of_showsFinished name (listed (.ok page)) finished
    simp [showsGone, mentioned] at gone
  | item (.ok (.deleted pod)), _ => rfl

end Input

/-! ## Guards -/

namespace Input

/-- Whether an input that the synchronizer of a kind is told releases the guard of a pod from the
kind that holds it. An event that the pod is gone does, whichever kind that is; a listing without
the pod only if it is its own. -/
def releases (kind holder : WorkKind) (name : PodName) : Input → Bool
  | listed (.ok page) => holder = kind && !page.pods.any fun pod => pod.name = name
  | item (.ok (.deleted pod)) => pod.name = name
  | _ => false

variable {kind holder : WorkKind} {name : PodName} {input : Input}

/-- What tells nothing of pods reports none as finished or as gone. -/
theorem shows_of_isSilent (silent : input.isSilent) (name : PodName) :
    input.showsFinished name = false ∧ input.showsGone name = false ∧
      ∀ kind holder, input.releases kind holder name = false := by
  match input, silent with
  | listed (.error _), _ => exact ⟨rfl, rfl, fun _ _ => rfl⟩
  | item (.ok (.bookmark _)), _ => exact ⟨rfl, rfl, fun _ _ => rfl⟩
  | item (.error _), _ => exact ⟨rfl, rfl, fun _ _ => rfl⟩
  | began, _ => exact ⟨rfl, rfl, fun _ _ => rfl⟩
  | opened _, _ => exact ⟨rfl, rfl, fun _ _ => rfl⟩
  | ended, _ => exact ⟨rfl, rfl, fun _ _ => rfl⟩
  | rested, _ => exact ⟨rfl, rfl, fun _ _ => rfl⟩
  | cancelled, _ => exact ⟨rfl, rfl, fun _ _ => rfl⟩

/-- The guard of a pod that only one kind speaks of is released where the pod is reported gone. -/
theorem releases_eq_showsGone (own : input.mentions name → kind = holder) :
    input.releases kind holder name = (decide (kind = holder) && input.showsGone name) := by
  rcases input.word_cases with ⟨page, rfl⟩ | ⟨pod, rfl | rfl⟩ | ⟨pod, rfl⟩ | silent
  · simp [releases, showsGone, eq_comm]
  · simp [releases, showsGone]
  · simp [releases, showsGone]
  · by_cases same : pod.name = name
    · simp [releases, showsGone, same, own (decide_eq_true same)]
    · simp [releases, showsGone, same]
  · obtain ⟨_, gone, releases⟩ := shows_of_isSilent silent name
    simp [gone, releases]

end Input

/-- **What an input does to the guard of a pod, and whether it hands the pod on.** Unless it is
released the guard stays with its holder; if it is free then, a report that the pod has finished
claims it and hands the pod on. -/
theorem holder?_effectOf {tracker : Tracker} (distinct : tracker.guards.keys.Nodup)
    (kind : WorkKind) (input : Input) (name : PodName) :
    let kept := (tracker.holder? name).filter fun holder => !input.releases kind holder name
    (effectOf kind tracker input).1.holder? name =
        kept.or (if input.showsFinished name then some kind else none) ∧
      (effectOf kind tracker input).2.filter (· = name) =
        if input.showsFinished name && kept.isNone then [name] else [] := by
  have observed : ∀ pod : Pod, (tracker.observe kind pod).holder? name = tracker.holder? name :=
    fun pod => congrArg (·.get? name) (Tracker.guards_setCounted _ _ _)
  have unreleased : (tracker.holder? name).filter (fun _ => true) = tracker.holder? name := by
    cases tracker.holder? name <;> rfl
  rcases input.word_cases with ⟨page, rfl⟩ | ⟨pod, rfl | rfl⟩ | ⟨pod, rfl⟩ | silent
  · have listed := (tracker.replace kind page.pods).holder?_noticeAll kind page.pods name
    rw [Tracker.holder?_replace distinct] at listed
    simpa [Input.releases, Input.showsFinished, effectOf, takeListing] using listed
  · simpa [observed, unreleased, Input.releases, Input.showsFinished, effectOf, takeEvent] using
      (tracker.observe kind pod).holder?_notice kind pod name
  · simpa [observed, unreleased, Input.releases, Input.showsFinished, effectOf, takeEvent] using
      (tracker.observe kind pod).holder?_notice kind pod name
  · by_cases same : pod.name = name
    · simp [Input.releases, Input.showsFinished, effectOf, takeEvent, Tracker.holder?_forget, same]
    · simp [Input.releases, Input.showsFinished, effectOf, takeEvent, Tracker.holder?_forget, same,
        unreleased]
  · obtain ⟨unfinished, _, releases⟩ := Input.shows_of_isSilent silent name
    simp [effectOf_of_isSilent silent, unfinished, releases, unreleased]

theorem nodup_guards_effectOf {tracker : Tracker} (distinct : tracker.guards.keys.Nodup)
    (kind : WorkKind) (input : Input) : (effectOf kind tracker input).1.guards.keys.Nodup := by
  have observed : ∀ pod : Pod, (tracker.observe kind pod).guards.keys.Nodup := by
    intro pod
    rwa [Tracker.observe, Tracker.guards_setCounted]
  rcases input.word_cases with ⟨page, rfl⟩ | ⟨pod, rfl | rfl⟩ | ⟨pod, rfl⟩ | silent
  · exact Tracker.nodup_guards_noticeAll (Tracker.nodup_guards_replace distinct _ _) _ _
  · exact Tracker.nodup_guards_notice (observed pod) _ _
  · exact Tracker.nodup_guards_notice (observed pod) _ _
  · exact Tracker.nodup_guards_forget distinct _ _
  · rwa [effectOf_of_isSilent silent]

/-- The same for a pod that is told about under one kind only. -/
theorem hasGuard_effectOf {kind owner : WorkKind} {tracker : Tracker} {name : PodName}
    {isHeld : Bool} (distinct : tracker.guards.keys.Nodup)
    (has : tracker.HasGuard owner name isHeld) {input : Input}
    (own : input.mentions name → kind = owner) :
    let isKept := isHeld && !(kind = owner && input.showsGone name)
    (effectOf kind tracker input).1.HasGuard owner name (isKept || input.showsFinished name) ∧
      (effectOf kind tracker input).2.filter (· = name) =
        if input.showsFinished name && !isKept then [name] else [] := by
  intro isKept
  have kept : ((tracker.holder? name).filter fun holder => !input.releases kind holder name) =
      if isKept then some owner else none := by
    rw [(Tracker.hasGuard_iff distinct).1 has]
    cases isHeld with
    | false => rfl
    | true => simp [isKept, Input.releases_eq_showsGone own, Option.filter_some]
  obtain ⟨holder, handed⟩ := holder?_effectOf distinct kind input name
  rw [kept] at holder handed
  rw [Tracker.hasGuard_iff (nodup_guards_effectOf distinct kind input), holder, handed]
  cases finished : input.showsFinished name with
  | false => simp
  | true =>
    obtain rfl : kind = owner := own (Input.mentions_of_showsFinished finished)
    cases isKept <;> simp

/-! ## Stays -/

/-- A list is cut before its last element or not. -/
theorem splitOnP_append_singleton {α : Type} (cuts : α → Bool) (list : List α) (last : α) :
    ∃ earlier present, list.splitOnP cuts = earlier ++ [present] ∧
      (list ++ [last]).splitOnP cuts =
        if cuts last then earlier ++ [present] ++ [[]] else earlier ++ [present ++ [last]] := by
  induction list with
  | nil =>
    refine ⟨[], [], List.splitOnP_nil, ?_⟩
    by_cases cut : cuts last
    · simp [List.splitOnP_cons_eq_if_modifyHead, cut]
    · simp [List.splitOnP_cons_eq_if_modifyHead, cut]
  | cons first rest ih =>
    obtain ⟨earlier, present, split, longer⟩ := ih
    rw [List.cons_append, List.splitOnP_cons_eq_if_modifyHead, List.splitOnP_cons_eq_if_modifyHead,
      split, longer]
    by_cases cut : cuts first
    · refine ⟨[] :: earlier, present, by simp [cut], ?_⟩
      by_cases ends : cuts last <;> simp [cut, ends]
    · cases earlier with
      | nil =>
        refine ⟨[], first :: present, by simp [cut], ?_⟩
        by_cases ends : cuts last <;> simp [cut, ends]
      | cons segment earlier =>
        refine ⟨(first :: segment) :: earlier, present, by simp [cut], ?_⟩
        by_cases ends : cuts last <;> simp [cut, ends]

/-- A stretch of what the synchronizers were told, each input with its place in the whole. -/
abbrev Stretch := List ((WorkKind × Input) × Nat)

/-- The first report in a stretch that a pod has finished. -/
def Stretch.firstFinished? (stretch : Stretch) (name : PodName) :
    Option ((WorkKind × Input) × Nat) :=
  stretch.find? fun entry => entry.1.2.showsFinished name

namespace Told

/-- Whether a pod is told about under one kind only. -/
def IsOf (told : Told) (kind : WorkKind) (name : PodName) : Prop :=
  ∀ entry ∈ told, entry.2.mentions name → entry.1 = kind

/-- The stays of a pod of a kind: what was told is cut where the pod is reported as gone. Places
are counted from one. -/
def stays (told : Told) (kind : WorkKind) (name : PodName) : List Stretch :=
  (told.zipIdx 1).splitOnP fun entry => entry.1.1 = kind && entry.1.2.showsGone name

/-- A further input begins another stay, or it belongs to the present one. -/
theorem stays_append {told : Told} {kind : WorkKind} {name : PodName} {earlier : List Stretch}
    {present : Stretch} (stays : told.stays kind name = earlier ++ [present])
    (entry : WorkKind × Input) :
    Told.stays (told ++ [entry]) kind name =
      if entry.1 = kind && entry.2.showsGone name then earlier ++ [present] ++ [[]]
      else earlier ++ [present ++ [(entry, told.length + 1)]] := by
  obtain ⟨earlier', present', split, longer⟩ :=
    splitOnP_append_singleton (fun entry : (WorkKind × Input) × Nat =>
      entry.1.1 = kind && entry.1.2.showsGone name) (told.zipIdx 1) (entry, told.length + 1)
  obtain ⟨rfl, same⟩ := List.append_inj' (stays.symm.trans split) rfl
  obtain rfl : present = present' := (List.cons.inj same).1
  rw [Told.stays, List.zipIdx_append, List.zipIdx_singleton, Nat.add_comm 1]
  exact longer

end Told

namespace Upkeep

theorem nodup_guards_run (actions : List Action) : (run actions).tracker.guards.keys.Nodup :=
  run_induction (·.tracker.guards.keys.Nodup) List.nodup_nil
    (fun kind input _ distinct => nodup_guards_effectOf distinct kind input)
    (fun distinct _ _ => distinct) actions

/-- The errands that were sent for a pod: the kind of each, and the place of the input at which it
was sent. -/
def sentFor (upkeep : Upkeep) (name : PodName) : List (WorkKind × Nat) :=
  (upkeep.errands.filter fun errand => errand.pod = name).map fun errand =>
    (errand.kind, errand.noticed)

variable {upkeep : Upkeep} {kind owner : WorkKind} {name : PodName} {input : Input}

/-- Those that an input sends for a pod. -/
theorem sentFor_tell (upkeep : Upkeep) (kind : WorkKind) (input : Input) (stage : Stage)
    (effect : Effect) (name : PodName) :
    (upkeep.tell kind input stage effect).sentFor name = upkeep.sentFor name ++
      (effect.2.filter (· = name)).map fun _ => (kind, upkeep.told.length + 1) := by
  simp [sentFor, tell, List.filter_map, Function.comp_def]

/-- An errand that goes on remains what it is. -/
theorem sentFor_set {place : Nat} {errand : Errand} (found : upkeep.errands[place]? = some errand)
    (told : Nat) (stage : Deletion.Stage) (name : PodName) :
    ({ upkeep with errands := upkeep.errands.set place (errand.enter told stage) } :
      Upkeep).sentFor name = upkeep.sentFor name := by
  let brief := fun errand : Errand => (errand.pod, errand.kind, errand.noticed)
  have sent : ∀ errands : List Errand,
      (errands.filter fun errand => errand.pod = name).map
          (fun errand => (errand.kind, errand.noticed)) =
        ((errands.map brief).filter fun errand => errand.1 = name).map (·.2) := by
    intro errands
    simp [brief, List.filter_map, Function.comp_def]
  have same : (upkeep.errands.set place (errand.enter told stage)).map brief =
      upkeep.errands.map brief := by
    refine List.ext_getElem? fun other => ?_
    by_cases here : place = other
    · subst here
      rw [List.getElem?_map, List.getElem?_map, List.getElem?_set_self', found]
      rfl
    · simp [here]
  rw [sentFor, sentFor, sent, sent, same]

/-- The present stay of a pod and its guard, and the errands of all its stays. -/
structure Stay (upkeep : Upkeep) (owner : WorkKind) (name : PodName) (earlier : List Stretch)
    (present : Stretch) : Prop where
  stays : upkeep.told.stays owner name = earlier ++ [present]
  guard : upkeep.tracker.HasGuard owner name (present.firstFinished? name).isSome
  sent : upkeep.sentFor name = ((earlier ++ [present]).filterMap (·.firstFinished? name)).map
    fun entry => (owner, entry.2)

namespace Stay

variable {earlier : List Stretch} {present : Stretch}

theorem fresh (owner : WorkKind) (name : PodName) : Upkeep.fresh.Stay owner name [] [] where
  stays := List.splitOnP_nil
  guard := ⟨rfl, nofun⟩
  sent := rfl

/-- **What a synchronizer is told is taken into the present stay, or begins another one.** -/
theorem tell (stay : upkeep.Stay owner name earlier present)
    (distinct : upkeep.tracker.guards.keys.Nodup) (kind : WorkKind) (input : Input)
    (stage : Stage) (own : input.mentions name → kind = owner) :
    ∃ earlier' present', (upkeep.tell kind input stage
      (effectOf kind upkeep.tracker input)).Stay owner name earlier' present' := by
  obtain ⟨guard, handed⟩ := hasGuard_effectOf distinct stay.guard own
  have longer := Told.stays_append stay.stays (kind, input)
  by_cases gone : (kind = owner && input.showsGone name) = true
  · have unfinished : input.showsFinished name = false :=
      Input.showsFinished_of_showsGone (Bool.and_eq_true_iff.1 gone).2
    rw [if_pos gone] at longer
    rw [gone, unfinished, Bool.not_true, Bool.and_false] at guard
    refine ⟨earlier ++ [present], [], longer, guard, ?_⟩
    rw [sentFor_tell, handed, unfinished, stay.sent]
    simp [Stretch.firstFinished?, List.filterMap_cons]
  · rw [if_neg gone] at longer
    rw [Bool.eq_false_iff.2 gone, Bool.not_false, Bool.and_true] at guard handed
    have found :
        Stretch.firstFinished? (present ++ [((kind, input), upkeep.told.length + 1)]) name =
        (present.firstFinished? name).or
          (if input.showsFinished name then some ((kind, input), upkeep.told.length + 1)
          else none) := by
      rw [Stretch.firstFinished?, List.find?_append, List.find?_singleton]
      rfl
    refine ⟨earlier, present ++ [((kind, input), upkeep.told.length + 1)], longer, ?_, ?_⟩
    · suffices held : ((Stretch.firstFinished? (present ++ _) name).isSome) =
          ((present.firstFinished? name).isSome || input.showsFinished name) from held ▸ guard
      rw [found]
      cases present.firstFinished? name <;> cases input.showsFinished name <;> rfl
    · rw [sentFor_tell, handed, stay.sent, List.filterMap_append, List.filterMap_append,
        List.map_append, List.map_append, List.append_assoc]
      refine congrArg (_ ++ ·) ?_
      cases finished : input.showsFinished name with
      | false => cases first : present.firstFinished? name <;> simp [found, first, finished]
      | true =>
        obtain rfl : kind = owner := own (Input.mentions_of_showsFinished finished)
        cases first : present.firstFinished? name <;> simp [found, first, finished]

theorem of_run (actions : List Action) (own : (run actions).told.IsOf owner name) :
    ∃ earlier present, (run actions).Stay owner name earlier present := by
  let kept := fun upkeep : Upkeep => upkeep.tracker.guards.keys.Nodup ∧
    (upkeep.told.IsOf owner name → ∃ earlier present, upkeep.Stay owner name earlier present)
  suffices held : kept (run actions) from held.2 own
  refine run_induction kept ?_ ?_ ?_ actions
  · exact ⟨List.nodup_nil, fun _ => ⟨[], [], .fresh owner name⟩⟩
  · rintro upkeep kind input stage ⟨distinct, stays⟩
    refine ⟨nodup_guards_effectOf distinct kind input, fun own => ?_⟩
    obtain ⟨earlier, present, stay⟩ := stays fun entry member =>
      own entry (List.mem_append_left _ member)
    refine stay.tell distinct kind input stage (own (kind, input) ?_)
    exact List.mem_append_right _ (List.mem_singleton_self _)
  · rintro upkeep place errand input stage ⟨distinct, stays⟩ found _
    refine ⟨distinct, fun own => ?_⟩
    obtain ⟨earlier, present, stay⟩ := stays own
    refine ⟨earlier, present, stay.stays, stay.guard, ?_⟩
    rw [sentFor_set found]
    exact stay.sent

end Stay

/-- Unless it is about an errand itself, nothing that happens touches those that were sent. -/
theorem errands_prefix_act (upkeep : Upkeep) {action : Action}
    (others : ∀ place input, action ≠ .errand place input) :
    upkeep.errands <+: (upkeep.act action).errands := by
  rcases action with ⟨kind, page⟩ | ⟨kind, input⟩ | ⟨place, input⟩
  · simp only [act]
    split
    · exact List.prefix_append _ _
    · exact List.prefix_rfl
  · simp only [act]
    split
    · exact List.prefix_append _ _
    · exact List.prefix_rfl
  · exact absurd rfl (others place input)

/-- **One errand for each stay in which the pod is reported as finished.** If a pod is told about
under one kind only, then the errands that were sent for it are one for each of its stays with such
a report, sent at the first of these; its guard is held exactly if the present stay has one; and
what is told next leaves all errands as they are. -/
theorem one_errand_per_stay (actions : List Action) {kind : WorkKind} {name : PodName}
    (own : (run actions).told.IsOf kind name) :
    let upkeep := run actions
    let stays := upkeep.told.stays kind name
    (upkeep.sentFor name).length =
        stays.countP (fun stay => stay.any fun entry => entry.1.2.showsFinished name) ∧
      upkeep.sentFor name =
        (stays.filterMap (·.firstFinished? name)).map (fun entry => (kind, entry.2)) ∧
      (upkeep.tracker.isDeleting name ↔ ∃ present, stays.getLast? = some present ∧
        ∃ entry ∈ present, entry.1.2.showsFinished name) ∧
      ∀ next : Action, (∀ place input, next ≠ .errand place input) →
        upkeep.errands <+: (upkeep.act next).errands := by
  intro upkeep stays
  obtain ⟨earlier, present, stay⟩ := Stay.of_run actions own
  have split : stays = earlier ++ [present] := stay.stays
  have sent : upkeep.sentFor name = (stays.filterMap (·.firstFinished? name)).map
      fun entry => (kind, entry.2) := by
    rw [split]
    exact stay.sent
  refine ⟨?_, sent, ?_, fun next => upkeep.errands_prefix_act⟩
  · rw [sent, List.length_map, List.length_filterMap_eq_countP]
    refine List.countP_congr fun stay _ => ?_
    simp [Stretch.firstFinished?, List.find?_isSome]
  · rw [stay.guard.held, split, List.getLast?_append_cons]
    simp [Stretch.firstFinished?, List.find?_isSome]

/-- A worker that is there already, finished, when the first listing is made, and is reported as
finished again; it is deleted, and comes again under its name twice: once it fails, and is not on
the next listing of its kind any more, and once it succeeds. -/
def threeStays : List Action :=
  [.first .worker ⟨[Follower.sample "w1" .succeeded], none, none⟩, .take .worker .began,
    .take .worker (.opened (.ok ())),
    .take .worker (.item (.ok (.modified (Follower.sample "w1" .succeeded)))), .errand 0 .began,
    .take .worker (.item (.ok (.deleted (Follower.sample "w1" .succeeded)))),
    .take .worker (.item (.ok (.added (Follower.sample "w1" .running)))),
    .take .worker (.item (.ok (.modified (Follower.sample "w1" .failed)))),
    .first .job ⟨[], none, none⟩, .take .worker .ended, .take .worker .rested,
    .take .worker (.listed (.ok ⟨[], none, none⟩)), .take .worker (.opened (.ok ())),
    .take .worker (.item (.ok (.added (Follower.sample "w1" .succeeded)))),
    .take .worker (.item (.ok (.modified (Follower.sample "w1" .succeeded))))]

theorem three_stays_have_three_errands :
    let upkeep := run threeStays
    let name : PodName := ⟨"brigade", "w1"⟩
    upkeep.told.IsOf .worker name ∧
      (upkeep.sentFor name).length = 3 ∧
      upkeep.sentFor name = [(.worker, 1), (.worker, 7), (.worker, 13)] ∧
      upkeep.tracker.isDeleting name := by
  intro upkeep name
  have own : upkeep.told.IsOf .worker name := by
    unfold Told.IsOf
    decide +kernel
  obtain ⟨count, sent, guard, _⟩ := one_errand_per_stay threeStays own
  refine ⟨own, count.trans (by decide +kernel), sent.trans (by decide +kernel), guard.2 ?_⟩
  refine ⟨[((.worker, .opened (.ok ())), 12), _, _], rfl, _, .tail _ (.head _), rfl⟩

end Upkeep

end Turnstile.Synchronizer
