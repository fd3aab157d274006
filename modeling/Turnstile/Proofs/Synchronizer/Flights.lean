import Turnstile.Proofs.Synchronizer.Stays

/-!
# Errands in flight together

An errand is **in flight** until its deletion has ended, by the reply of the substrate or because it
was called back. As long as the guard of a pod is held no other errand is sent for the pod. But it
is what the synchronizers are told that releases the guard, and that does not end the errand. So a
pod that is reported gone, and as finished once more while its errand still sleeps, has two errands
in flight (`Upkeep.two_in_flight`).

That is the only way to it. Between any two errands for a pod the guard was released, and one more
comes to be in flight exactly when the pod is reported as finished and the guard was released since
the last errand was sent (`Upkeep.another_in_flight_iff_released`). Nothing is assumed about which
kind tells of the pod.
-/

set_option autoImplicit false

namespace Turnstile.Synchronizer

/-- Whether the guard of a pod was released after an errand was sent for it, by which kind and at
which place is given. -/
def Told.hasReleased (told : Told) (name : PodName) (sent : WorkKind × Nat) : Bool :=
  (told.drop sent.2).any fun entry => entry.2.releases entry.1 sent.1 name

/-- Whether the synchronizer of a kind was told at a place that a pod has finished. Places are
counted from one. -/
def Told.ReportsFinished (told : Told) (name : PodName) (kind : WorkKind) (place : Nat) : Prop :=
  ∃ before input, before.length + 1 = place ∧ before ++ [(kind, input)] <+: told ∧
    input.showsFinished name

namespace Told

variable {told : Told} {name : PodName} {kind kind' : WorkKind} {place : Nat}
  {sent : WorkKind × Nat}

theorem ReportsFinished.le_length (reports : told.ReportsFinished name kind place) :
    place ≤ told.length := by
  obtain ⟨before, input, rfl, before_prefix, _⟩ := reports
  simpa using before_prefix.length_le

theorem ReportsFinished.append (reports : told.ReportsFinished name kind place) (more : Told) :
    Told.ReportsFinished (told ++ more) name kind place := by
  obtain ⟨before, input, at_place, before_prefix, finished⟩ := reports
  exact ⟨before, input, at_place, before_prefix.trans (List.prefix_append _ _), finished⟩

/-- Another input is at a place of its own. -/
theorem reportsFinished_snoc {input : Input} :
    Told.ReportsFinished (told ++ [(kind, input)]) name kind' place ↔
      told.ReportsFinished name kind' place ∨
        (kind' = kind ∧ place = told.length + 1 ∧ input.showsFinished name) := by
  constructor
  · rintro ⟨before, other, rfl, before_prefix, finished⟩
    rcases List.prefix_concat_iff.1 before_prefix with whole | earlier
    · obtain ⟨rfl, same⟩ := List.append_inj' whole rfl
      cases same
      exact .inr ⟨rfl, rfl, finished⟩
    · exact .inl ⟨before, other, rfl, earlier, finished⟩
  · rintro (reports | ⟨rfl, rfl, finished⟩)
    · exact reports.append _
    · exact ⟨told, input, rfl, List.prefix_rfl, finished⟩

theorem hasReleased_append (before : sent.2 ≤ told.length) (more : Told) :
    Told.hasReleased (told ++ more) name sent =
      (told.hasReleased name sent ||
        more.any fun entry => entry.2.releases entry.1 sent.1 name) := by
  rw [hasReleased, List.drop_append_of_le_length before, List.any_append]
  rfl

/-- A guard that was released by some place has been released. -/
theorem hasReleased_of_take
    (released : Told.hasReleased (told.take place) name sent) : told.hasReleased name sent := by
  obtain ⟨entry, member, releases⟩ := List.any_eq_true.1 released
  rw [List.drop_take] at member
  exact List.any_eq_true.2 ⟨entry, List.mem_of_mem_take member, releases⟩

end Told

/-! ## Custody of the guard -/

/-- Where the guard of a pod is, by what was told and the errands that were sent for the pod. It is
with the kind that sent the last one, unless it was released since; and it was released between any
two. Each was sent where the pod was reported as finished. -/
structure Custody (told : Told) (sent : List (WorkKind × Nat)) (name : PodName)
    (holder : Option WorkKind) : Prop where
  reported : ∀ errand ∈ sent, told.ReportsFinished name errand.1 errand.2
  holder_eq : holder = (sent.getLast?.filter fun last => !told.hasReleased name last).map (·.1)
  apart : sent.Pairwise fun first second => Told.hasReleased (told.take second.2) name first

namespace Custody

variable {told : Told} {sent : List (WorkKind × Nat)} {name : PodName} {holder : Option WorkKind}

theorem start (name : PodName) : Custody [] [] name none where
  reported := nofun
  holder_eq := rfl
  apart := .nil

/-- Another input may release the guard. -/
theorem hear (custody : Custody told sent name holder) (kind : WorkKind) (input : Input) :
    Custody (told ++ [(kind, input)]) sent name
      (holder.filter fun holder => !input.releases kind holder name) where
  reported := fun errand member => (custody.reported errand member).append _
  holder_eq := by
    rw [custody.holder_eq]
    cases last : sent.getLast? with
    | none => rfl
    | some errand =>
      have before := (custody.reported errand (List.mem_of_getLast? last)).le_length
      rw [Option.filter_some, Option.filter_some, Told.hasReleased_append before]
      cases told.hasReleased name errand <;> simp [Option.filter_some, apply_ite]
  apart := by
    refine custody.apart.imp_of_mem fun _ second released => ?_
    rwa [List.take_append_of_le_length (custody.reported _ second).le_length]

theorem isNone_iff (custody : Custody told sent name holder) :
    holder = none ↔ ∀ last ∈ sent.getLast?, told.hasReleased name last := by
  rw [custody.holder_eq]
  cases sent.getLast? <;> simp [Option.filter_some]

/-- An errand since which the guard was not released is the last one, and its kind holds the
guard. -/
theorem holder_eq_of_unreleased (custody : Custody told sent name holder)
    {errand : WorkKind × Nat} (member : errand ∈ sent)
    (unreleased : told.hasReleased name errand = false) : holder = some errand.1 := by
  obtain ⟨others, last, rfl⟩ :=
    (List.eq_nil_or_concat' sent).resolve_left (List.ne_nil_of_mem member)
  rcases List.mem_append.1 member with earlier | here
  · have between := (List.pairwise_append.1 custody.apart).2.2 errand earlier last
      (List.mem_singleton_self _)
    rw [Told.hasReleased_of_take between] at unreleased
    cases unreleased
  · obtain rfl := List.mem_singleton.1 here
    rw [custody.holder_eq]
    simp [unreleased, Option.filter_some]

/-- If the guard is free, it was released from every errand that was sent. -/
theorem hasReleased_of_free (custody : Custody told sent name none) :
    ∀ errand ∈ sent, told.hasReleased name errand := by
  intro errand member
  by_contra unreleased
  have held := custody.holder_eq_of_unreleased member (Bool.eq_false_iff.2 unreleased)
  cases held

/-- If the guard is free, whoever is told now that the pod has finished has it, and sends an
errand. -/
theorem send (custody : Custody told sent name none) {kind : WorkKind}
    (reports : told.ReportsFinished name kind told.length) :
    Custody told (sent ++ [(kind, told.length)]) name (some kind) where
  reported := by
    intro errand member
    rcases List.mem_append.1 member with earlier | here
    · exact custody.reported errand earlier
    · rwa [List.mem_singleton.1 here]
  holder_eq := by simp [Told.hasReleased, Option.filter_some]
  apart := by
    refine List.pairwise_append.2 ⟨custody.apart, List.pairwise_singleton _ _, ?_⟩
    intro first earlier second here
    rw [List.mem_singleton.1 here, List.take_length]
    exact custody.hasReleased_of_free first earlier

end Custody

namespace Upkeep

variable {upkeep : Upkeep} {name : PodName}

/-- The custody of the guard of a pod. -/
abbrev HasCustody (upkeep : Upkeep) (name : PodName) : Prop :=
  Custody upkeep.told (upkeep.sentFor name) name (upkeep.tracker.holder? name)

/-- Between any two errands for the pod the guard was released. -/
theorem HasCustody.errands_apart (custody : upkeep.HasCustody name) :
    upkeep.errands.Pairwise fun earlier later => earlier.pod = name → later.pod = name →
      Told.hasReleased (upkeep.told.take later.noticed) name (earlier.kind, earlier.noticed) := by
  have apart := custody.apart
  rw [sentFor, List.pairwise_map, List.pairwise_filter] at apart
  refine apart.imp fun released first second => ?_
  exact released (decide_eq_true first) (decide_eq_true second)

/-- **What a synchronizer is told keeps the custody.** It may release the guard; a report that the
pod has finished takes the guard if it is free then, and sends an errand. -/
theorem HasCustody.tell (custody : upkeep.HasCustody name)
    (distinct : upkeep.tracker.guards.keys.Nodup) (kind : WorkKind) (input : Input)
    (stage : Stage) :
    (upkeep.tell kind input stage (effectOf kind upkeep.tracker input)).HasCustody name := by
  obtain ⟨holder, handed⟩ := holder?_effectOf distinct kind input name
  have heard := custody.hear kind input
  have place : upkeep.told.length + 1 = (upkeep.told ++ [(kind, input)]).length := by simp
  unfold HasCustody
  rw [sentFor_tell, handed, place]
  change Custody (upkeep.told ++ [(kind, input)]) _ name
    ((effectOf kind upkeep.tracker input).1.holder? name)
  rw [holder]
  cases kept : (upkeep.tracker.holder? name).filter fun holder =>
      !input.releases kind holder name with
  | some owner =>
    rw [kept] at heard
    simpa using heard
  | none =>
    rw [kept] at heard
    cases finished : input.showsFinished name with
    | false => simpa using heard
    | true =>
      have reports : Told.ReportsFinished (upkeep.told ++ [(kind, input)]) name kind
          (upkeep.told ++ [(kind, input)]).length :=
        Told.reportsFinished_snoc.2 (.inr ⟨rfl, by simp, finished⟩)
      simpa using heard.send reports

theorem custody_run (actions : List Action) (name : PodName) : (run actions).HasCustody name := by
  let kept := fun upkeep : Upkeep =>
    upkeep.tracker.guards.keys.Nodup ∧ upkeep.HasCustody name
  suffices held : kept (run actions) from held.2
  refine run_induction kept ?_ ?_ ?_ actions
  · exact ⟨List.nodup_nil, .start name⟩
  · rintro upkeep kind input stage ⟨distinct, custody⟩
    exact ⟨nodup_guards_effectOf distinct kind input, custody.tell distinct kind input stage⟩
  · rintro upkeep place errand input stage ⟨distinct, custody⟩ found _
    refine ⟨distinct, ?_⟩
    unfold HasCustody
    rw [sentFor_set found]
    exact custody

/-! ## In flight -/

/-- The errands for a pod that have not ended. -/
def inFlight (upkeep : Upkeep) (name : PodName) : List Errand :=
  upkeep.errands.filter fun errand => errand.pod = name && errand.stage ≠ .ended

/-- Those that an input sends for the pod come to be in flight. -/
theorem length_inFlight_tell (upkeep : Upkeep) (kind : WorkKind) (input : Input) (stage : Stage)
    (effect : Effect) (name : PodName) :
    ((upkeep.tell kind input stage effect).inFlight name).length =
      (upkeep.inFlight name).length + (effect.2.filter (· = name)).length := by
  simp [inFlight, tell, List.filter_map, Function.comp_def]

/-- A step of an errand brings none into flight. -/
theorem length_inFlight_set_le {place : Nat} {errand : Errand} {input : Deletion.Input}
    {stage : Deletion.Stage} (found : upkeep.errands[place]? = some errand)
    (next : errand.stage.next? input = some stage) (told : Nat) (name : PodName) :
    (({ upkeep with errands := upkeep.errands.set place (errand.enter told stage) } :
      Upkeep).inFlight name).length ≤ (upkeep.inFlight name).length := by
  obtain ⟨inRange, here⟩ := List.getElem?_eq_some_iff.1 found
  have unended : errand.stage ≠ .ended := by
    intro ended
    rw [ended] at next
    cases next
  let flies := fun errand : Errand => decide (errand.pod = name) && decide (errand.stage ≠ .ended)
  have counted : flies (errand.enter told stage) → flies errand := by
    intro still
    have own : errand.pod = name := of_decide_eq_true (Bool.and_eq_true_iff.1 still).1
    simp [flies, own, unended]
  have some : flies errand → 0 < upkeep.errands.countP flies := fun flying =>
    List.countP_pos_iff.2 ⟨errand, List.mem_of_getElem? found, flying⟩
  simp only [inFlight, ← List.countP_eq_length_filter]
  rw [List.countP_set inRange, here]
  split_ifs <;> grind

/-! ## Another one in flight -/

/-- **An input brings one more errand into flight at most.** It brings one exactly if it reports the
pod as finished and the guard was released since the last errand for the pod was sent. -/
theorem HasCustody.inFlight_tell (custody : upkeep.HasCustody name)
    (distinct : upkeep.tracker.guards.keys.Nodup) (kind : WorkKind) (input : Input)
    (stage : Stage) :
    let after := upkeep.tell kind input stage (effectOf kind upkeep.tracker input)
    (after.inFlight name).length ≤ (upkeep.inFlight name).length + 1 ∧
      ((upkeep.inFlight name).length < (after.inFlight name).length ↔
        input.showsFinished name ∧
          ∀ sent ∈ (upkeep.sentFor name).getLast?, Told.hasReleased after.told name sent) := by
  intro after
  have free := (custody.hear kind input).isNone_iff
  obtain ⟨_, handed⟩ := holder?_effectOf distinct kind input name
  have length := upkeep.length_inFlight_tell kind input stage
    (effectOf kind upkeep.tracker input) name
  change (after.inFlight name).length = _ at length
  rw [handed] at length
  change _ ∧ (_ ↔ _ ∧ ∀ sent ∈ _, Told.hasReleased (upkeep.told ++ [(kind, input)]) name sent)
  rw [← free, length]
  cases input.showsFinished name <;>
    cases (upkeep.tracker.holder? name).filter _ <;> simp

/-- **One more errand is in flight exactly if the guard was released before.** Between any two
errands for a pod its guard was released. Whatever happens next, at most one more errand for it
comes to be in flight; and one does exactly if a synchronizer is told that the pod has finished and
the guard was released since the last errand for it was sent, whether that one has ended or not. -/
theorem another_in_flight_iff_released (actions : List Action) (name : PodName) :
    let upkeep := run actions
    (upkeep.errands.Pairwise fun earlier later => earlier.pod = name → later.pod = name →
      Told.hasReleased (upkeep.told.take later.noticed) name (earlier.kind, earlier.noticed)) ∧
    ∀ next, let after := upkeep.act next
      (after.inFlight name).length ≤ (upkeep.inFlight name).length + 1 ∧
      ((upkeep.inFlight name).length < (after.inFlight name).length ↔
        ∃ kind input, after.told = upkeep.told ++ [(kind, input)] ∧ input.showsFinished name ∧
          ∀ sent ∈ (upkeep.sentFor name).getLast?, Told.hasReleased after.told name sent) := by
  intro upkeep
  have custody : upkeep.HasCustody name := custody_run actions name
  refine ⟨custody.errands_apart, ?_⟩
  intro next after
  rcases upkeep.act_cases next with
    same | ⟨kind, input, stage, tells⟩ | ⟨place, errand, input, stage, _, found, moves, moved⟩
  · have unchanged : after = upkeep := same
    simp [unchanged]
  · obtain ⟨bounded, sends⟩ := custody.inFlight_tell (nodup_guards_run actions) kind input stage
    rw [← tells] at bounded sends
    refine ⟨bounded, sends.trans ?_⟩
    have told : after.told = upkeep.told ++ [(kind, input)] := congrArg Upkeep.told tells
    constructor
    · exact fun both => ⟨kind, input, told, both⟩
    · rintro ⟨kind', input', told', both⟩
      obtain ⟨⟩ := List.append_cancel_left (told.symm.trans told')
      exact both
  · have told : after.told = upkeep.told := (congrArg Upkeep.told moved :)
    have length : (after.inFlight name).length ≤ (upkeep.inFlight name).length := by
      have bounded := length_inFlight_set_le found moves upkeep.told.length name
      rwa [← moved] at bounded
    refine ⟨Nat.le_succ_of_le length, ?_⟩
    rw [told]
    simp [Nat.not_lt.2 length]

/-- A worker finishes, is gone while its errand sleeps, and is then reported as finished again. -/
def finishingAgain : List Action :=
  [.first .worker ⟨[], none, none⟩, .take .worker .began, .take .worker (.opened (.ok ())),
    .take .worker (.item (.ok (.added (Follower.sample "w1" .succeeded)))), .errand 0 .began,
    .take .worker (.item (.ok (.deleted (Follower.sample "w1" .succeeded)))),
    .take .worker (.item (.ok (.added (Follower.sample "w1" .succeeded)))), .errand 1 .began]

/-- Then both of its errands sleep. -/
theorem two_in_flight :
    ((run finishingAgain).inFlight ⟨"brigade", "w1"⟩).map (·.stage) = [.sleeping, .sleeping] := by
  decide

end Upkeep

end Turnstile.Synchronizer
