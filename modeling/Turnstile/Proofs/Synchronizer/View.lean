import Mathlib.Data.List.Induction
import Mathlib.Data.Set.Card
import Turnstile.Proofs.Tracker
import Turnstile.Synchronizer

/-!
# The tracker and what was told

What a synchronizer was told amounts to a **view**: the last report of each pod that is there. A
listing replaces the view, a report of a pod sets it, and a report that a pod is gone erases it.
Nothing else that happens to a synchronizer has to do with pods: neither listings and watches that
fail, nor bookmarks, nor the end of a watch, however it comes about.

After every run of a synchronizer, the tracker counts exactly the pods that use capacity in the view
(`Follower.counted_eq_view`). The tracker is shared, so in between anything may happen to the rest
of it. Listings are assumed to name no pod twice.
-/

set_option autoImplicit false

namespace Turnstile.Synchronizer

/-! ## Views -/

/-- The last report of each pod that is there. -/
abbrev View := PodName → Option Pod

namespace View

/-- The view of a listing. -/
def ofListing (pods : List Pod) : View := fun name => pods.find? fun pod => pod.name = name

/-- The view after an event of a watch. -/
def takeEvent (view : View) : WatchEvent → View
  | .added pod => Function.update view pod.name (some pod)
  | .modified pod => Function.update view pod.name (some pod)
  | .deleted pod => Function.update view pod.name none
  | .bookmark _ => view

/-- The view after an input. -/
def take (view : View) : Input → View
  | .listed (.ok page) => ofListing page.pods
  | .item (.ok event) => view.takeEvent event
  | _ => view

/-- The pods that use capacity. -/
def usingCapacity (view : View) : Set PodName :=
  {name | ∃ pod, view name = some pod ∧
    pod.deletionTimestamp = none ∧ pod.phase ≠ .succeeded ∧ pod.phase ≠ .failed}

theorem mem_usingCapacity {view : View} {name : PodName} :
    name ∈ view.usingCapacity ↔ ∃ pod, view name = some pod ∧ pod.usesCapacity :=
  exists_congr fun _ => and_congr_right fun _ => Pod.usesCapacity_iff.symm

theorem ofListing_eq_some_iff {pods : List Pod} (distinct : (pods.map (·.name)).Nodup)
    {name : PodName} {pod : Pod} :
    ofListing pods name = some pod ↔ pod ∈ pods ∧ pod.name = name := by
  constructor
  · intro found
    exact ⟨List.mem_of_find?_eq_some found, by simpa using List.find?_some found⟩
  · rintro ⟨member, rfl⟩
    have present : (ofListing pods pod.name).isSome :=
      List.find?_isSome.2 ⟨pod, member, decide_eq_true rfl⟩
    obtain ⟨other, found⟩ := Option.isSome_iff_exists.1 present
    have same : other.name = pod.name := by simpa using List.find?_some found
    rw [found, List.inj_on_of_nodup_map distinct (List.mem_of_find?_eq_some found) member same]

end View

/-! ## Steps -/

/-- Whether an input tells nothing about pods. -/
def Input.isSilent : Input → Bool
  | listed (.ok _) => false
  | item (.ok (.bookmark _)) => true
  | item (.ok _) => false
  | _ => true

variable {kind : WorkKind} {tracker : Tracker} {view : View} {stage later : Stage} {input : Input}
  {effect : Effect}

theorem View.take_of_isSilent (view : View) (silent : input.isSilent) : view.take input = view := by
  match input, silent with
  | .listed (.error _), _ => rfl
  | .item (.ok (.bookmark _)), _ => rfl
  | .item (.error _), _ => rfl
  | .began, _ => rfl
  | .opened _, _ => rfl
  | .ended, _ => rfl
  | .rested, _ => rfl
  | .cancelled, _ => rfl

/-- An input is a listing or an event that is taken in, or the tracker stays as it is. -/
theorem step_cases (stepped : step kind tracker stage input = some (later, effect)) :
    (∃ page, input = .listed (.ok page) ∧ effect = takeListing kind tracker page) ∨
    (∃ event, input = .item (.ok event) ∧ effect = takeEvent kind tracker event) ∨
    (input.isSilent ∧ effect = (tracker, [])) := by
  unfold step at stepped
  split at stepped
  case h_3 page =>
    cases stepped
    exact .inl ⟨page, rfl, rfl⟩
  case h_7 event =>
    cases stepped
    exact .inr (.inl ⟨event, rfl, rfl⟩)
  case h_11 =>
    split at stepped
    · cases stepped
      exact .inr (.inr ⟨rfl, rfl⟩)
    · cases stepped
  all_goals
    cases stepped
    try exact .inr (.inr ⟨rfl, rfl⟩)

theorem effect_of_isSilent (silent : input.isSilent)
    (stepped : step kind tracker stage input = some (later, effect)) : effect.1 = tracker := by
  rcases step_cases stepped with ⟨page, rfl, rfl⟩ | ⟨event, rfl, rfl⟩ | ⟨_, rfl⟩
  · cases silent
  · cases event with
    | bookmark version => rfl
    | _ => cases silent
  · rfl

/-! ## The tracker and the view -/

/-- The tracker counts each pod that uses capacity in the view once, and no other. -/
structure Reflects (kind : WorkKind) (tracker : Tracker) (view : View) : Prop where
  once : (tracker.counted kind).Nodup
  mem_iff : ∀ name, name ∈ tracker.counted kind ↔ ∃ pod, view name = some pod ∧ pod.usesCapacity

namespace Reflects

theorem of_counted_eq {tracker' : Tracker} (reflects : Reflects kind tracker view)
    (same : tracker'.counted kind = tracker.counted kind) : Reflects kind tracker' view where
  once := same ▸ reflects.once
  mem_iff := fun name => by rw [same, reflects.mem_iff]

/-- A listing is reflected, whatever the tracker knew before. -/
theorem takeListing {page : PodPage} (distinct : (page.pods.map (·.name)).Nodup)
    (tracker : Tracker) :
    Reflects kind (Synchronizer.takeListing kind tracker page).1 (.ofListing page.pods) where
  once := by
    rw [Synchronizer.takeListing, Tracker.counted_noticeAll]
    exact Tracker.nodup_counted_replace tracker kind page.pods
  mem_iff := by
    intro name
    rw [Synchronizer.takeListing, Tracker.counted_noticeAll, Tracker.mem_counted_replace]
    exact exists_congr fun pod => by rw [View.ofListing_eq_some_iff distinct, and_assoc]

theorem observe (reflects : Reflects kind tracker view) (pod : Pod) :
    Reflects kind (tracker.observe kind pod) (Function.update view pod.name (some pod)) where
  once := Tracker.nodup_counted_observe reflects.once pod
  mem_iff := by
    intro name
    rw [Tracker.mem_counted_observe]
    by_cases same : name = pod.name
    · subst same
      simp
    · rw [if_neg same, Function.update_of_ne same, reflects.mem_iff]

theorem forget (reflects : Reflects kind tracker view) (pod : PodName) :
    Reflects kind (tracker.forget kind pod) (Function.update view pod none) where
  once := Tracker.nodup_counted_forget reflects.once pod
  mem_iff := by
    intro name
    rw [Tracker.mem_counted_forget]
    by_cases same : name = pod
    · subst same
      simp
    · rw [Function.update_of_ne same, reflects.mem_iff]
      exact and_iff_right same

theorem takeEvent (reflects : Reflects kind tracker view) (event : WatchEvent) :
    Reflects kind (Synchronizer.takeEvent kind tracker event).1 (view.takeEvent event) := by
  cases event with
  | added pod => exact (reflects.observe pod).of_counted_eq (Tracker.counted_notice _ _ _ _)
  | modified pod => exact (reflects.observe pod).of_counted_eq (Tracker.counted_notice _ _ _ _)
  | deleted pod => exact reflects.forget pod.name
  | bookmark => exact reflects

/-- **A step of the synchronizer keeps the view reflected.** -/
theorem step (reflects : Reflects kind tracker view)
    (distinct : ∀ page, input = .listed (.ok page) → (page.pods.map (·.name)).Nodup)
    (stepped : Synchronizer.step kind tracker stage input = some (later, effect)) :
    Reflects kind effect.1 (view.take input) := by
  rcases step_cases stepped with ⟨page, rfl, rfl⟩ | ⟨event, rfl, rfl⟩ | ⟨silent, rfl⟩
  · exact takeListing (distinct page rfl) tracker
  · exact reflects.takeEvent event
  · rw [View.take_of_isSilent view silent]
    exact reflects

theorem counted_eq (reflects : Reflects kind tracker view) :
    {name | name ∈ tracker.counted kind} = view.usingCapacity := by
  ext name
  rw [View.mem_usingCapacity]
  exact reflects.mem_iff name

theorem count_eq (reflects : Reflects kind tracker view) :
    tracker.count kind = view.usingCapacity.ncard := by
  have counted : (tracker.counted kind).toFinset = view.usingCapacity := by
    rw [← reflects.counted_eq]
    simp
  rw [← counted, Set.ncard_coe_finset, List.toFinset_card_of_nodup reflects.once, Tracker.count]

end Reflects

/-! ## Runs -/

/-- A synchronizer with the tracker that it shares, and the view that it was told. -/
structure Follower where
  tracker : Tracker
  stage : Stage
  view : View

/-- What can happen in a run. -/
inductive Action where
  | take (input : Input)
  /-- Others have changed the tracker, but not what is counted of the kind of the synchronizer. -/
  | meanwhile (tracker : Tracker)

namespace Follower

/-- A synchronizer that starts from a first listing. -/
def start (kind : WorkKind) (tracker : Tracker) (page : PodPage) : Follower where
  tracker := (takeListing kind tracker page).1
  stage := .idle (some (versionOf page))
  view := .ofListing page.pods

/-- A synchronizer after an action; an input that does not belong to its stage is passed over. -/
def act (kind : WorkKind) (follower : Follower) : Action → Follower
  | .take input =>
    match step kind follower.tracker follower.stage input with
    | some (stage, effect) => ⟨effect.1, stage, follower.view.take input⟩
    | none => follower
  | .meanwhile tracker =>
    { follower with tracker := tracker.setCounted kind (follower.tracker.counted kind) }

/-- A synchronizer after a first listing and a list of actions. -/
def run (kind : WorkKind) (tracker : Tracker) (page : PodPage) (actions : List Action) :
    Follower :=
  actions.foldl (act kind) (start kind tracker page)

theorem act_of_isSilent {kind : WorkKind} {follower : Follower} {input : Input}
    (silent : input.isSilent) :
    (follower.act kind (.take input)).tracker = follower.tracker ∧
      (follower.act kind (.take input)).view = follower.view := by
  cases stepped : step kind follower.tracker follower.stage input with
  | none => simp [act, stepped]
  | some result =>
    simp only [act, stepped]
    exact ⟨effect_of_isSilent silent stepped, View.take_of_isSilent _ silent⟩

/-- **A synchronizer goes on with whatever it waits for**, and the view with it. -/
theorem act_of_awaits {kind : WorkKind} {follower : Follower} {input : Input}
    (awaited : follower.stage.awaits input) :
    ∃ stage effect, step kind follower.tracker follower.stage input = some (stage, effect) ∧
      follower.act kind (.take input) = ⟨effect.1, stage, follower.view.take input⟩ := by
  obtain ⟨⟨stage, effect⟩, stepped⟩ := Option.isSome_iff_exists.1
    ((step_isSome kind follower.tracker follower.stage input).trans awaited)
  exact ⟨stage, effect, stepped, by simp [act, stepped]⟩

theorem reflects_act {kind : WorkKind} {follower : Follower}
    (reflects : Reflects kind follower.tracker follower.view) {action : Action}
    (distinct : ∀ page, action = .take (.listed (.ok page)) → (page.pods.map (·.name)).Nodup) :
    Reflects kind (follower.act kind action).tracker (follower.act kind action).view := by
  cases action with
  | take input =>
    cases stepped : step kind follower.tracker follower.stage input with
    | none => simpa [act, stepped] using reflects
    | some result =>
      obtain ⟨later, effect⟩ := result
      simp only [act, stepped]
      exact reflects.step (fun page same => distinct page (congrArg Action.take same)) stepped
  | meanwhile tracker => exact reflects.of_counted_eq (Tracker.counted_setCounted_self _ _ _)

theorem reflects_run (kind : WorkKind) (tracker : Tracker) {page : PodPage} {actions : List Action}
    (distinct : (page.pods.map (·.name)).Nodup)
    (allDistinct : ∀ page, .take (.listed (.ok page)) ∈ actions → (page.pods.map (·.name)).Nodup) :
    Reflects kind (run kind tracker page actions).tracker
      (run kind tracker page actions).view := by
  induction actions using List.reverseRecOn with
  | nil => exact .takeListing distinct tracker
  | append_singleton earlier action ih =>
    rw [run, List.foldl_append, List.foldl_cons, List.foldl_nil]
    refine reflects_act (ih fun page member => ?_) fun page same => ?_
    · exact allDistinct page (List.mem_append_left _ member)
    · exact allDistinct page (same ▸ List.mem_append_right _ (List.mem_singleton_self _))

/-- **The tracker counts what the view says.** After a first listing and whatever came then, the
pods that the tracker counts are those that use capacity in the view, and their number is its
count. What tells nothing about pods changes neither. -/
theorem counted_eq_view (kind : WorkKind) (tracker : Tracker) (page : PodPage)
    (actions : List Action) (distinct : (page.pods.map (·.name)).Nodup)
    (allDistinct : ∀ page, .take (.listed (.ok page)) ∈ actions → (page.pods.map (·.name)).Nodup) :
    let follower := run kind tracker page actions
    {name | name ∈ follower.tracker.counted kind} = follower.view.usingCapacity ∧
      follower.tracker.count kind = follower.view.usingCapacity.ncard ∧
      ∀ input : Input, input.isSilent →
        (follower.act kind (.take input)).tracker = follower.tracker ∧
          (follower.act kind (.take input)).view = follower.view := by
  intro follower
  have reflects : Reflects kind follower.tracker follower.view :=
    reflects_run kind tracker distinct allDistinct
  exact ⟨reflects.counted_eq, reflects.count_eq, fun input silent => act_of_isSilent silent⟩

/-- A pod by its name and phase. -/
def sample (name : String) (phase : PodPhase) : Pod :=
  ⟨⟨"brigade", name⟩, none, none, .empty, phase, none, []⟩

/-- A run in which a pod finishes, the watch fails, and so does the first listing after it; the next
listing does not show the finished pod any more. -/
def relisting : List Action :=
  [.take .began, .take (.opened (.ok ())), .take (.item (.ok (.modified (sample "a" .succeeded)))),
    .take (.item (.error (.status 410 "too old"))), .take .rested,
    .take (.listed (.error (.status 500 "list failed"))), .meanwhile .fresh, .take .rested,
    .take (.listed (.ok ⟨[sample "b" .running], none, none⟩))]

theorem counted_after_relisting :
    let page : PodPage := ⟨[sample "a" .running, sample "b" .pending], none, none⟩
    let follower := run .worker .fresh page relisting
    (page.pods.map (·.name)).Nodup ∧
      (∀ page, .take (.listed (.ok page)) ∈ relisting → (page.pods.map (·.name)).Nodup) ∧
      follower.tracker.counted .worker = [⟨"brigade", "b"⟩] ∧
      {name | name ∈ follower.tracker.counted .worker} = follower.view.usingCapacity ∧
      follower.tracker.count .worker = follower.view.usingCapacity.ncard := by
  intro page follower
  have distinct : (page.pods.map (·.name)).Nodup := by decide
  have allDistinct : ∀ page, .take (.listed (.ok page)) ∈ relisting →
      (page.pods.map (·.name)).Nodup := by
    intro page member
    simp only [relisting, List.mem_cons, Action.take.injEq, Input.listed.injEq, Except.ok.injEq,
      List.not_mem_nil, reduceCtorEq, false_or, or_false] at member
    rw [member]
    decide
  obtain ⟨counted, count, _⟩ := counted_eq_view .worker .fresh page relisting distinct allDistinct
  exact ⟨distinct, allDistinct, by decide, counted, count⟩

end Follower

end Turnstile.Synchronizer
