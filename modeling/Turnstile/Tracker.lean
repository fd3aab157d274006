import Turnstile.Difference
import Turnstile.Pod

/-!
# Tracking pods

The tracker knows which pods of each kind use capacity, and which finished pods are going to be
deleted. A pod that is going to be deleted has a guard, so that it is deleted once however often
it is reported; the guard is released when the pod is reported gone.
-/

set_option autoImplicit false

namespace Turnstile

/-- The pods that use capacity, and the guards of those that are going to be deleted with the kind
that claimed them. -/
structure Tracker where
  workers : List PodName
  jobs : List PodName
  guards : Table PodName WorkKind

namespace Tracker

/-- The tracker at its start. -/
def fresh : Tracker := ⟨[], [], .empty⟩

/-- The pods of a kind that use capacity, in no particular order and each once. -/
def counted (tracker : Tracker) : WorkKind → List PodName
  | .worker => tracker.workers
  | .job => tracker.jobs

/-- The tracker with the pods of a kind replaced. -/
def setCounted (tracker : Tracker) (kind : WorkKind) (pods : List PodName) : Tracker :=
  match kind with
  | .worker => { tracker with workers := pods }
  | .job => { tracker with jobs := pods }

@[simp] theorem counted_setCounted_self (tracker : Tracker) (kind : WorkKind)
    (pods : List PodName) : (tracker.setCounted kind pods).counted kind = pods := by
  cases kind <;> rfl

theorem counted_setCounted_of_ne (tracker : Tracker) {kind other : WorkKind}
    (pods : List PodName) (different : other ≠ kind) :
    (tracker.setCounted kind pods).counted other = tracker.counted other := by
  cases kind <;> cases other <;> first | rfl | exact absurd rfl different

@[simp] theorem guards_setCounted (tracker : Tracker) (kind : WorkKind) (pods : List PodName) :
    (tracker.setCounted kind pods).guards = tracker.guards := by
  cases kind <;> rfl

/-- How many pods of a kind use capacity. -/
def count (tracker : Tracker) (kind : WorkKind) : Nat := (tracker.counted kind).length

/-- Whether a pod of a kind uses capacity. -/
def contains (tracker : Tracker) (kind : WorkKind) (pod : PodName) : Bool :=
  (tracker.counted kind).contains pod

/-- Whether a pod is going to be deleted. -/
def isDeleting (tracker : Tracker) (pod : PodName) : Bool := tracker.guards.contains pod

/-- Take in the state of a pod. -/
def observe (tracker : Tracker) (kind : WorkKind) (pod : Pod) : Tracker :=
  let others := (tracker.counted kind).filter (· ≠ pod.name)
  tracker.setCounted kind (if pod.usesCapacity then pod.name :: others else others)

/-- Forget a pod that is gone, with its guard. -/
def forget (tracker : Tracker) (kind : WorkKind) (pod : PodName) : Tracker :=
  { tracker.setCounted kind ((tracker.counted kind).filter (· ≠ pod)) with
    guards := tracker.guards.erase pod }

/-- Replace what is known about a kind by a listing. The guards of the kind's pods that are not in
the listing are released. -/
def replace (tracker : Tracker) (kind : WorkKind) (pods : List Pod) : Tracker :=
  let counted := ascending ((pods.filter (·.usesCapacity)).map (·.name))
  { tracker.setCounted kind counted with
    guards := ⟨tracker.guards.bindings.filter fun guard =>
      guard.2 ≠ kind || pods.any fun pod => pod.name = guard.1⟩ }

/-- Claim the guard of a pod, unless it is taken. -/
def claim? (tracker : Tracker) (kind : WorkKind) (pod : PodName) : Option Tracker :=
  if tracker.isDeleting pod then none
  else some { tracker with guards := tracker.guards.set pod kind }

/-- Notice a pod: one that has finished is to be deleted, once. -/
def notice (tracker : Tracker) (kind : WorkKind) (pod : Pod) : Tracker × List PodName :=
  if pod.isFinished then
    match tracker.claim? kind pod.name with
    | some tracker => (tracker, [pod.name])
    | none => (tracker, [])
  else (tracker, [])

/-- Notice the pods of a listing one after the other. -/
def noticeAll (tracker : Tracker) (kind : WorkKind) : List Pod → Tracker × List PodName
  | [] => (tracker, [])
  | pod :: rest =>
    let (noticed, first) := tracker.notice kind pod
    let (last, more) := noticed.noticeAll kind rest
    (last, first ++ more)

end Tracker

end Turnstile
