import Turnstile.Pod.Watch
import Turnstile.Tracker

/-!
# Synchronizers

A synchronizer keeps the tracker in step with the substrate for the pods of one kind. It lists
them, and watches from the version of that listing. When the watch ends or fails, or cannot be
started, it rests and lists again, so no version is watched twice.

The scheduler lists once before it starts its synchronizers (`takeListing`); such a one begins with
the version of that listing. Finished pods that are noticed are handed on to be deleted after a
delay, by a `Deletion` of their own.
-/

set_option autoImplicit false

namespace Turnstile.Synchronizer

/-- What a synchronizer is waiting for. -/
inductive Stage where
  /-- No first turn yet; the version to watch from, if a listing has gone before. -/
  | idle (version : Option String)
  | listing
  | opening (version : String)
  | watching
  | resting
  | stopped
deriving DecidableEq, Repr

/-- What happens to a synchronizer. -/
inductive Input where
  | began
  | listed (result : Except SubstrateFault PodPage)
  | opened (result : Except SubstrateFault Unit)
  | item (result : Except SubstrateFault WatchEvent)
  | ended
  | rested
  | cancelled

/-- Whether the wait can be cancelled. -/
def Stage.isCancellable : Stage → Bool
  | listing => true
  | opening _ => true
  | watching => true
  | resting => true
  | _ => false

/-- Whether the stage waits for an input, whatever that brings. -/
def Stage.awaits : Stage → Input → Bool
  | idle _, .began => true
  | listing, .listed _ => true
  | opening _, .opened _ => true
  | watching, .item _ => true
  | watching, .ended => true
  | resting, .rested => true
  | stage, .cancelled => stage.isCancellable
  | _, _ => false

/-- The tracker after an input, and the pods that are to be deleted from now on. -/
abbrev Effect := Tracker × List PodName

/-- Take in a listing: it replaces what was known, and its finished pods are noticed. -/
def takeListing (kind : WorkKind) (tracker : Tracker) (page : PodPage) : Effect :=
  (tracker.replace kind page.pods).noticeAll kind page.pods

/-- The version of a listing to watch from. -/
def versionOf (page : PodPage) : String := page.resourceVersion.getD ""

/-- Take in an event. -/
def takeEvent (kind : WorkKind) (tracker : Tracker) : WatchEvent → Effect
  | .added pod => (tracker.observe kind pod).notice kind pod
  | .modified pod => (tracker.observe kind pod).notice kind pod
  | .deleted pod => (tracker.forget kind pod.name, [])
  | .bookmark _ => (tracker, [])

/-- The stage after an input, with what it does to the tracker; none if the input does not belong
to the stage. -/
def step (kind : WorkKind) (tracker : Tracker) : Stage → Input → Option (Stage × Effect)
  | .idle (some version), .began => some (.opening version, tracker, [])
  | .idle none, .began => some (.listing, tracker, [])
  | .listing, .listed (.ok page) => some (.opening (versionOf page), takeListing kind tracker page)
  | .listing, .listed (.error _) => some (.resting, tracker, [])
  | .opening _, .opened (.ok ()) => some (.watching, tracker, [])
  | .opening _, .opened (.error _) => some (.resting, tracker, [])
  | .watching, .item (.ok event) => some (.watching, takeEvent kind tracker event)
  | .watching, .item (.error _) => some (.resting, tracker, [])
  | .watching, .ended => some (.resting, tracker, [])
  | .resting, .rested => some (.listing, tracker, [])
  | stage, .cancelled => if stage.isCancellable then some (.stopped, tracker, []) else none
  | _, _ => none

/-- **A synchronizer takes what its stage waits for, and nothing else.** -/
theorem step_isSome (kind : WorkKind) (tracker : Tracker) (stage : Stage) (input : Input) :
    (step kind tracker stage input).isSome = stage.awaits input := by
  cases stage with
  | idle version => cases version <;> cases input <;> rfl
  | listing =>
    cases input with
    | listed result => cases result <;> rfl
    | _ => rfl
  | opening version =>
    cases input with
    | opened result => cases result <;> rfl
    | _ => rfl
  | watching =>
    cases input with
    | item result => cases result <;> rfl
    | _ => rfl
  | _ => cases input <;> rfl

end Turnstile.Synchronizer
