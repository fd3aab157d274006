import Turnstile.Event
import Turnstile.Json.Printer
import Turnstile.Json.Reader
import Turnstile.Json.Record

/-!
# Events and project pages as JSON

How the orchestration API writes events and pages of projects, and how they are read. The
identifiers must be given and valid. A phase that is missing is unknown, like one that is not
among the known ones.
-/

set_option autoImplicit false

namespace Turnstile

open Json

namespace Identifier

variable {kind : IdentifierKind}

/-- The identifier that a string is. -/
def ofTree? (kind : IdentifierKind) (tree : Tree) : Option (Identifier kind) :=
  tree.text?.bind (parse? kind)

/-- The identifier that a JSON text is. -/
def ofJson? (kind : IdentifierKind) (bytes : List UInt8) : Option (Identifier kind) :=
  (read? bytes).bind (ofTree? kind)

/-- The string of an identifier. -/
def toTree (identifier : Identifier kind) : Tree := .ofText identifier.text

end Identifier

namespace Phase

/-- The phase that a variant names. -/
def ofTree? (tree : Tree) : Option Phase := tree.variant?.map ofText

/-- The phase in the status of a worker or job. -/
def ofStatus? (tree : Tree) : Option Phase := do
  (← tree.parts? ["phase"]).getOr "phase" .unknown ofTree?

/-- The phase of a job. -/
def ofJob? (tree : Tree) : Option Phase := do
  (← tree.parts? ["status"]).getOr "status" .unknown ofStatus?

/-- The status with a phase. -/
def toStatus (phase : Phase) : Tree :=
  .ofMembers [("status", .ofMembers [("phase", .ofText phase.text)])]

end Phase

namespace Event

/-- The phases of a worker and of its jobs. -/
def worker? (tree : Tree) : Option (Phase × Table String Phase) := do
  let parts ← tree.parts? ["status", "jobs"]
  let phase ← parts.getOr "status" .unknown Phase.ofStatus?
  let jobs ← parts.getOr "jobs" .empty (Tree.table? Phase.ofJob?)
  return (phase, jobs)

/-- The identifier in the metadata of an event or project. -/
def metadata? (kind : IdentifierKind) (tree : Tree) : Option (Identifier kind) := do
  (← tree.parts? ["id"]).required "id" (Identifier.ofTree? kind)

/-- The event that a tree describes. -/
def ofTree? (tree : Tree) : Option Event := do
  let parts ← tree.parts? ["metadata", "projectID", "worker"]
  let id ← parts.required "metadata" (metadata? .event)
  let project ← parts.getOr "projectID" none (Tree.optional? (Identifier.ofTree? .project))
  let (phase, jobs) ← parts.getOr "worker" (.unknown, .empty) worker?
  return { id, project, phase, jobs }

/-- The event that a JSON text describes. -/
def ofJson? (bytes : List UInt8) : Option Event := (read? bytes).bind ofTree?

/-- The tree of an event. -/
def toTree (event : Event) : Tree :=
  let jobs := event.jobs.bindings.map fun job => (job.1, job.2.toStatus)
  .ofMembers (
    [("metadata", .ofMembers [("id", event.id.toTree)])] ++
    (event.project.map fun project => ("projectID", project.toTree)).toList ++
    [("worker", .ofMembers
      [("status", .ofMembers [("phase", .ofText event.phase.text)]), ("jobs", .ofMembers jobs)])])

/-- The JSON text of an event. -/
def toJson (event : Event) : List UInt8 := event.toTree.print

end Event

namespace ProjectPage

/-- The identifier of a project. -/
def project? (tree : Tree) : Option ProjectId := do
  (← tree.parts? ["metadata"]).required "metadata" (Event.metadata? .project)

/-- The continuation token in the metadata of a page. -/
def next? (tree : Tree) : Option (Option String) := do
  (← tree.parts? ["continue"]).getOr "continue" none (Tree.optional? Tree.text?)

/-- The page that a tree describes. -/
def ofTree? (tree : Tree) : Option ProjectPage := do
  let parts ← tree.parts? ["metadata", "items"]
  let next ← parts.getOr "metadata" none next?
  let projects ← parts.getOr "items" [] (Tree.list? project?)
  return { projects, next }

/-- The page that a JSON text describes. -/
def ofJson? (bytes : List UInt8) : Option ProjectPage := (read? bytes).bind ofTree?

/-- The tree of a page. -/
def toTree (page : ProjectPage) : Tree :=
  .ofMembers
    [("metadata", .ofMembers (page.next.map fun token => ("continue", .ofText token)).toList),
      ("items", .list (page.projects.map fun project =>
        .ofMembers [("metadata", .ofMembers [("id", project.toTree)])]))]

/-- The JSON text of a page. -/
def toJson (page : ProjectPage) : List UInt8 := page.toTree.print

end ProjectPage

end Turnstile
