import Turnstile.Json.Reader
import Turnstile.Json.Record
import Turnstile.Pod

/-!
# Pods as JSON

How the substrate writes pods and listings of pods, and how they are read. Every part has a
default, so an empty record is a pod without name and in an unknown phase.
-/

set_option autoImplicit false

namespace Turnstile

open Json

/-- The timestamp that a string is. -/
def Time.Timestamp.ofTree? (tree : Tree) : Option Time.Timestamp :=
  tree.text?.bind Time.Timestamp.parse

/-- The phase that a variant names. -/
def PodPhase.ofTree? (tree : Tree) : Option PodPhase := tree.variant?.map ofText

/-- The ending of a container. -/
def Termination.ofTree? (tree : Tree) : Option Termination := do
  let parts ← tree.parts? ["exitCode", "reason", "finishedAt"]
  let exitCode ← parts.getOr "exitCode" 0 (Tree.integer? (-2147483648) 2147483647)
  let reason ← parts.getOr "reason" none (Tree.optional? Tree.text?)
  let finishedAt ← parts.getOr "finishedAt" none (Tree.optional? Time.Timestamp.ofTree?)
  return { exitCode, reason, finishedAt }

namespace Container

/-- The ending of a container from its state. -/
def state? (tree : Tree) : Option (Option Termination) := do
  (← tree.parts? ["terminated"]).getOr "terminated" none (Tree.optional? Termination.ofTree?)

/-- A container from its status. -/
def ofTree? (tree : Tree) : Option Container := do
  let parts ← tree.parts? ["name", "state"]
  let name ← parts.getOr "name" "" Tree.text?
  let state ← parts.getOr "state" none (Tree.optional? state?)
  return { name, termination := state.join }

end Container

namespace Pod

/-- What the metadata of a pod tells. -/
structure Metadata where
  name : PodName
  deletionTimestamp : Option Time.Timestamp
  resourceVersion : Option String
  labels : Table String String

/-- The metadata of a pod without any. -/
def Metadata.none : Metadata := ⟨⟨"", ""⟩, .none, .none, .empty⟩

/-- The metadata that a tree describes. -/
def Metadata.ofTree? (tree : Tree) : Option Metadata := do
  let parts ← tree.parts? ["namespace", "name", "deletionTimestamp", "resourceVersion", "labels"]
  let space ← parts.getOr "namespace" "" Tree.text?
  let name ← parts.getOr "name" "" Tree.text?
  let deletionTimestamp ←
    parts.getOr "deletionTimestamp" .none (Tree.optional? Time.Timestamp.ofTree?)
  let resourceVersion ← parts.getOr "resourceVersion" .none (Tree.optional? Tree.text?)
  let labels ← parts.getOr "labels" .empty (Tree.table? Tree.text?)
  return { name := ⟨space, name⟩, deletionTimestamp, resourceVersion, labels }

/-- What the status of a pod tells. -/
structure Status where
  phase : PodPhase
  startTime : Option Time.Timestamp
  containers : List Container

/-- The status of a pod without any. -/
def Status.none : Status := ⟨.unknown, .none, []⟩

/-- The status that a tree describes. -/
def Status.ofTree? (tree : Tree) : Option Status := do
  let parts ← tree.parts? ["phase", "startTime", "containerStatuses"]
  let phase ← parts.getOr "phase" .none (Tree.optional? PodPhase.ofTree?)
  let startTime ← parts.getOr "startTime" .none (Tree.optional? Time.Timestamp.ofTree?)
  let containers ← parts.getOr "containerStatuses" [] (Tree.list? Container.ofTree?)
  return { phase := phase.getD .unknown, startTime, containers }

/-- The pod that a tree describes. -/
def ofTree? (tree : Tree) : Option Pod := do
  let parts ← tree.parts? ["metadata", "status"]
  let metadata ← parts.getOr "metadata" Metadata.none Metadata.ofTree?
  let status ← parts.getOr "status" .none (Tree.optional? Status.ofTree?)
  let status := status.getD Status.none
  return {
    name := metadata.name
    deletionTimestamp := metadata.deletionTimestamp
    resourceVersion := metadata.resourceVersion
    labels := metadata.labels
    phase := status.phase
    startTime := status.startTime
    containers := status.containers }

/-- The pod that a JSON text describes. -/
def ofJson? (bytes : List UInt8) : Option Pod := (read? bytes).bind ofTree?

end Pod

namespace PodPage

/-- The version and the continuation token in the metadata of a listing. -/
def metadata? (tree : Tree) : Option (Option String × Option String) := do
  let parts ← tree.parts? ["resourceVersion", "continue"]
  let resourceVersion ← parts.getOr "resourceVersion" none (Tree.optional? Tree.text?)
  let next ← parts.getOr "continue" none (Tree.optional? Tree.text?)
  return (resourceVersion, next)

/-- The listing that a tree describes. -/
def ofTree? (tree : Tree) : Option PodPage := do
  let parts ← tree.parts? ["metadata", "items"]
  let (resourceVersion, next) ← parts.getOr "metadata" (none, none) metadata?
  let pods ← parts.getOr "items" [] (Tree.list? Pod.ofTree?)
  return { pods, resourceVersion, next }

/-- The listing that a JSON text describes. -/
def ofJson? (bytes : List UInt8) : Option PodPage := (read? bytes).bind ofTree?

end PodPage

end Turnstile
