import Turnstile.Deletion
import Turnstile.Proofs.Synchronizer.View

/-!
# Both synchronizers and their deletions

The synchronizers of the two kinds share one tracker. Each takes the pods that it notices as
finished to be deleted, and hands every one of them to an **errand**: a deletion that sleeps, and
then calls on the substrate to delete the pod. An errand knows no more than the name of its pod, and
nothing that the synchronizers are told later reaches it.

An `Upkeep` is the tracker with the two synchronizers, all that they were told, and all errands.
Inputs for the synchronizers and the errands come in any order (`Upkeep.run`). What the
synchronizers were told determines their views (`Told.view`), and there it is the last word about a
pod that counts (`Told.view_eq`).
-/

set_option autoImplicit false

namespace Turnstile.Synchronizer

/-! ## Single inputs -/

/-- What an input does to the tracker, and the pods that are to be deleted from then on. -/
def effectOf (kind : WorkKind) (tracker : Tracker) : Input → Effect
  | .listed (.ok page) => takeListing kind tracker page
  | .item (.ok event) => takeEvent kind tracker event
  | _ => (tracker, [])

/-- An input is a listing, the state of a pod, a report that a pod is gone, or it tells nothing. -/
theorem Input.word_cases (input : Input) :
    (∃ page, input = .listed (.ok page)) ∨
    (∃ pod, input = .item (.ok (.added pod)) ∨ input = .item (.ok (.modified pod))) ∨
    (∃ pod, input = .item (.ok (.deleted pod))) ∨ input.isSilent := by
  match input with
  | .listed (.ok page) => exact .inl ⟨page, rfl⟩
  | .item (.ok (.added pod)) => exact .inr (.inl ⟨pod, .inl rfl⟩)
  | .item (.ok (.modified pod)) => exact .inr (.inl ⟨pod, .inr rfl⟩)
  | .item (.ok (.deleted pod)) => exact .inr (.inr (.inl ⟨pod, rfl⟩))
  | .item (.ok (.bookmark _)) => exact .inr (.inr (.inr rfl))
  | .listed (.error _) => exact .inr (.inr (.inr rfl))
  | .item (.error _) => exact .inr (.inr (.inr rfl))
  | .began => exact .inr (.inr (.inr rfl))
  | .opened _ => exact .inr (.inr (.inr rfl))
  | .ended => exact .inr (.inr (.inr rfl))
  | .rested => exact .inr (.inr (.inr rfl))
  | .cancelled => exact .inr (.inr (.inr rfl))

theorem effectOf_of_isSilent {input : Input} (silent : input.isSilent) (kind : WorkKind)
    (tracker : Tracker) : effectOf kind tracker input = (tracker, []) := by
  match input, silent with
  | .listed (.error _), _ => rfl
  | .item (.ok (.bookmark _)), _ => rfl
  | .item (.error _), _ => rfl
  | .began, _ => rfl
  | .opened _, _ => rfl
  | .ended, _ => rfl
  | .rested, _ => rfl
  | .cancelled, _ => rfl

/-- The effect of a step is that of its input. -/
theorem step_effect {kind : WorkKind} {tracker : Tracker} {stage later : Stage} {input : Input}
    {effect : Effect} (stepped : step kind tracker stage input = some (later, effect)) :
    effect = effectOf kind tracker input := by
  rcases step_cases stepped with ⟨page, rfl, rfl⟩ | ⟨event, rfl, rfl⟩ | ⟨silent, rfl⟩
  · rfl
  · rfl
  · exact (effectOf_of_isSilent silent kind tracker).symm

namespace Input

/-- Whether the input has a word about a pod; a listing has one about every pod. -/
def tellsOf (name : PodName) : Input → Bool
  | listed (.ok _) => true
  | item (.ok (.added pod)) => pod.name = name
  | item (.ok (.modified pod)) => pod.name = name
  | item (.ok (.deleted pod)) => pod.name = name
  | _ => false

/-- What the input says about a pod, if it has a word about it: its state, unless it is gone. -/
def reportOf (name : PodName) : Input → Option Pod
  | listed (.ok page) => View.ofListing page.pods name
  | item (.ok (.added pod)) => some pod
  | item (.ok (.modified pod)) => some pod
  | _ => none

end Input

/-- A view says of a pod what the input says, if that has a word about it. -/
theorem View.take_apply (view : View) (input : Input) (name : PodName) :
    view.take input name = if input.tellsOf name then input.reportOf name else view name := by
  have told : ∀ (pod : Pod) (report : Option Pod),
      Function.update view pod.name report name =
        if pod.name = name then report else view name := by
    intro pod report
    rw [Function.update_apply]
    exact if_congr eq_comm rfl rfl
  match input with
  | .item (.ok (.added pod)) =>
    simpa [take, takeEvent, Input.tellsOf, Input.reportOf] using
      told pod (some pod)
  | .item (.ok (.modified pod)) =>
    simpa [take, takeEvent, Input.tellsOf, Input.reportOf] using
      told pod (some pod)
  | .item (.ok (.deleted pod)) =>
    simpa [take, takeEvent, Input.tellsOf, Input.reportOf] using
      told pod none
  | .listed (.ok _) => rfl
  | .listed (.error _) => rfl
  | .item (.ok (.bookmark _)) => rfl
  | .item (.error _) => rfl
  | .began => rfl
  | .opened _ => rfl
  | .ended => rfl
  | .rested => rfl
  | .cancelled => rfl

/-- What the synchronizers were told, earliest first. -/
abbrev Told := List (WorkKind × Input)

namespace Told

/-- The view of the synchronizer of a kind. -/
def view (told : Told) (kind : WorkKind) : View :=
  told.foldl (fun view entry => if entry.1 = kind then view.take entry.2 else view) fun _ => none

/-- The last input of a synchronizer that has a word about a pod. -/
def lastWord (told : Told) (kind : WorkKind) (name : PodName) : Option Input :=
  (told.reverse.find? fun entry => entry.1 = kind && entry.2.tellsOf name).map (·.2)

variable (told more : Told) (kind : WorkKind) (name : PodName)

/-- Later words come before earlier ones. -/
theorem lastWord_append :
    lastWord (told ++ more) kind name =
      (lastWord more kind name).or (lastWord told kind name) := by
  simp [lastWord, List.find?_append, Option.map_or]

/-- **A view says of a pod what the last word about it says.** -/
theorem view_eq : view told kind name = (lastWord told kind name).bind (Input.reportOf name) := by
  induction told using List.reverseRecOn with
  | nil => rfl
  | append_singleton earlier entry ih =>
    rw [lastWord_append, view, List.foldl_append, List.foldl_cons, List.foldl_nil]
    change (if entry.1 = kind then (view earlier kind).take entry.2 else view earlier kind) name = _
    by_cases own : entry.1 = kind
    · rw [if_pos own, View.take_apply]
      by_cases tells : entry.2.tellsOf name
      · simp [lastWord, own, tells]
      · simp [lastWord, own, tells, ih]
    · rw [if_neg own, ih]
      simp [lastWord, own]

end Told

/-! ## Synchronizers with errands -/

/-- A deletion, by the name of its pod, with a record of when it came about. -/
structure Errand where
  kind : WorkKind
  pod : PodName
  stage : Deletion.Stage
  /-- How much the synchronizers had been told when the pod was noticed. -/
  noticed : Nat
  /-- How much they had been told when the substrate was called, if it was. -/
  called : Option Nat

/-- An errand comes to a stage; at `deleting` it calls the substrate. -/
def Errand.enter (errand : Errand) (told : Nat) (stage : Deletion.Stage) : Errand :=
  { errand with stage, called := if stage = .deleting then some told else errand.called }

/-- The tracker, its synchronizers, what they were told, and the errands they have sent. -/
structure Upkeep where
  tracker : Tracker
  stages : WorkKind → Stage
  told : Told
  errands : List Errand

namespace Upkeep

/-- What can happen. -/
inductive Action where
  /-- The first listing, before a synchronizer is started. -/
  | first (kind : WorkKind) (page : PodPage)
  | take (kind : WorkKind) (input : Input)
  /-- Something happens to the errand at a place in the list. -/
  | errand (place : Nat) (input : Deletion.Input)

/-- Nothing has happened. -/
def fresh : Upkeep := ⟨.fresh, fun _ => .idle none, [], []⟩

/-- A synchronizer is told something, which brings it to a stage and has an effect. -/
def tell (upkeep : Upkeep) (kind : WorkKind) (input : Input) (stage : Stage) (effect : Effect) :
    Upkeep where
  tracker := effect.1
  stages := Function.update upkeep.stages kind stage
  told := upkeep.told ++ [(kind, input)]
  errands := upkeep.errands ++
    effect.2.map fun pod => ⟨kind, pod, .idle, upkeep.told.length + 1, none⟩

/-- The upkeep after an action; one that does not fit is passed over. -/
def act (upkeep : Upkeep) : Action → Upkeep
  | .first kind page =>
    match upkeep.stages kind with
    | .idle _ =>
      upkeep.tell kind (.listed (.ok page)) (.idle (some (versionOf page)))
        (takeListing kind upkeep.tracker page)
    | _ => upkeep
  | .take kind input =>
    match step kind upkeep.tracker (upkeep.stages kind) input with
    | some (stage, effect) => upkeep.tell kind input stage effect
    | none => upkeep
  | .errand place input =>
    match upkeep.errands[place]? with
    | none => upkeep
    | some errand =>
      match errand.stage.next? input with
      | none => upkeep
      | some stage =>
        { upkeep with
          errands := upkeep.errands.set place (errand.enter upkeep.told.length stage) }

/-- The upkeep after a list of actions. -/
def run (actions : List Action) : Upkeep := actions.foldl act fresh

theorem run_snoc (earlier : List Action) (action : Action) :
    run (earlier ++ [action]) = (run earlier).act action :=
  List.foldl_concat _ _ _ _

/-- An action is passed over, tells a synchronizer something, or brings an errand on. -/
theorem act_cases (upkeep : Upkeep) (action : Action) :
    upkeep.act action = upkeep ∨
    (∃ kind input stage, upkeep.act action =
      upkeep.tell kind input stage (effectOf kind upkeep.tracker input)) ∨
    ∃ place errand input stage, action = .errand place input ∧
      upkeep.errands[place]? = some errand ∧ errand.stage.next? input = some stage ∧
      upkeep.act action = { upkeep with
        errands := upkeep.errands.set place (errand.enter upkeep.told.length stage) } := by
  cases action with
  | first kind page =>
    simp only [act]
    split
    · exact .inr (.inl ⟨kind, .listed (.ok page), _, rfl⟩)
    · exact .inl rfl
  | take kind input =>
    simp only [act]
    split
    case h_1 stage effect stepped =>
      exact .inr (.inl ⟨kind, input, stage, by rw [step_effect stepped]⟩)
    case h_2 => exact .inl rfl
  | errand place input =>
    simp only [act]
    split
    case h_1 => exact .inl rfl
    case h_2 errand found =>
      split
      case h_1 => exact .inl rfl
      case h_2 stage next => exact .inr (.inr ⟨place, errand, input, stage, rfl, found, next, rfl⟩)

/-- What holds at the start, and is kept by whatever a synchronizer is told and by every step of an
errand, holds after every run. -/
theorem run_induction (property : Upkeep → Prop) (start : property fresh)
    (told : ∀ {upkeep : Upkeep} kind input stage, property upkeep →
      property (upkeep.tell kind input stage (effectOf kind upkeep.tracker input)))
    (moved : ∀ {upkeep : Upkeep} {place errand input stage}, property upkeep →
      upkeep.errands[place]? = some errand → errand.stage.next? input = some stage →
      property { upkeep with
        errands := upkeep.errands.set place (errand.enter upkeep.told.length stage) })
    (actions : List Action) : property (run actions) := by
  induction actions using List.reverseRecOn with
  | nil => exact start
  | append_singleton earlier action ih =>
    rw [run_snoc]
    rcases (run earlier).act_cases action with
      same | ⟨kind, input, stage, tells⟩ | ⟨place, errand, input, stage, _, found, next, moves⟩
    · rw [same]
      exact ih
    · rw [tells]
      exact told kind input stage ih
    · rw [moves]
      exact moved ih found next

end Upkeep

end Turnstile.Synchronizer
