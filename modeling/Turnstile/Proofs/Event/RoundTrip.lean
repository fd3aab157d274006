import Turnstile.Event.Json
import Turnstile.Proofs.Json.Printer

/-!
# Events and project pages are read as they were written

An event is written as a record with a record of its jobs, whose order nobody fixes. Two events are
the same if they agree in everything that can be asked of them (`Event.Agrees`), and a text is one
of an event if it lists the jobs in some order (`Event.IsWrittenAs`). Whatever the texts of the
names and tokens hold, what was written is read as the same event or page, and writing again what
was read from any text and reading that changes nothing (`decoded_as_written`).

The jobs of an event must have different names, as the keys of a table have. That is no restriction
on what can be read: the decoder gives every name one phase (`Event.nodup_jobs`).
-/

set_option autoImplicit false

namespace Turnstile

open Json

/-! ## Identifiers and phases -/

namespace Identifier

variable {kind : IdentifierKind}

theorem isWritable_toTree (identifier : Identifier kind) : identifier.toTree.IsWritable :=
  Tree.isWritable_ofText identifier.text

@[simp] theorem ofTree?_toTree (identifier : Identifier kind) :
    ofTree? kind identifier.toTree = some identifier := by
  rw [ofTree?, toTree, Tree.text?_ofText, Option.bind_some]
  exact parse?_eq_some_iff.2 rfl

end Identifier

/-- A value is no null where one is allowed. -/
theorem Json.Tree.optional?_ofText {α : Type} (decode : Tree → Option α) (text : String) :
    Tree.optional? decode (.ofText text) = (decode (.ofText text)).map some := rfl

namespace Phase

@[simp] theorem ofTree?_ofText (phase : Phase) : ofTree? (.ofText phase.text) = some phase := by
  simp [ofTree?]

@[simp] theorem ofStatus?_written (phase : Phase) :
    ofStatus? (.ofMembers [("phase", .ofText phase.text)]) = some phase := by
  rw [ofStatus?, Tree.parts?_ofMembers (by simp) (by simp)]
  simp [Parts.getOr, Table.get?, Table.find?]

@[simp] theorem ofJob?_toStatus (phase : Phase) : ofJob? phase.toStatus = some phase := by
  rw [ofJob?, toStatus, Tree.parts?_ofMembers (by simp) (by simp)]
  simp [Parts.getOr, Table.get?, Table.find?]

theorem isWritable_toStatus (phase : Phase) : phase.toStatus.IsWritable := by
  refine Tree.isWritable_ofMembers fun status isStatus => ?_
  cases List.mem_singleton.1 isStatus
  refine Tree.isWritable_ofMembers fun member isMember => ?_
  cases List.mem_singleton.1 isMember
  exact Tree.isWritable_ofText phase.text

end Phase

/-! ## Events -/

namespace Event

/-- The tree of a worker with its phase and its jobs. -/
def workerTree (phase : Phase) (jobs : Table String Phase) : Tree :=
  .ofMembers
    [("status", .ofMembers [("phase", .ofText phase.text)]),
      ("jobs", .ofMembers (jobs.bindings.map fun job => (job.1, job.2.toStatus)))]

theorem isWritable_workerTree (phase : Phase) (jobs : Table String Phase) :
    (workerTree phase jobs).IsWritable := by
  refine Tree.isWritable_ofMembers (List.forall_mem_cons.2 ⟨?_, List.forall_mem_singleton.2 ?_⟩)
  · exact Tree.isWritable_ofMembers
      (List.forall_mem_singleton.2 (Tree.isWritable_ofText phase.text))
  · refine Tree.isWritable_ofMembers fun member isMember => ?_
    obtain ⟨job, _, rfl⟩ := List.mem_map.1 isMember
    exact job.2.isWritable_toStatus

theorem worker?_workerTree (phase : Phase) {jobs : Table String Phase}
    (distinct : jobs.keys.Nodup) : worker? (workerTree phase jobs) = some (phase, jobs) := by
  have readBack := Tree.table?_ofMembers distinct Phase.ofJob?_toStatus
  rw [worker?, workerTree, Tree.parts?_ofMembers (by simp) (by simp)]
  simp [Parts.getOr, Table.get?, Table.find?, readBack]

variable {kind : IdentifierKind}

/-- The tree of the metadata with an identifier. -/
def metadataTree (identifier : Identifier kind) : Tree := .ofMembers [("id", identifier.toTree)]

theorem isWritable_metadataTree (identifier : Identifier kind) :
    (metadataTree identifier).IsWritable :=
  Tree.isWritable_ofMembers (List.forall_mem_singleton.2 identifier.isWritable_toTree)

@[simp] theorem metadata?_metadataTree (identifier : Identifier kind) :
    metadata? kind (metadataTree identifier) = some identifier := by
  rw [metadata?, metadataTree, Tree.parts?_ofMembers (by simp) (by simp)]
  simp [Parts.required, Table.get?, Table.find?]

variable (event : Event)

/-- The members of the record of an event: its project is left out if there is none. -/
theorem toTree_eq : event.toTree = .ofMembers (
    [("metadata", metadataTree event.id)] ++
    (event.project.map fun project => ("projectID", project.toTree)).toList ++
    [("worker", workerTree event.phase event.jobs)]) := rfl

theorem isWritable_toTree : event.toTree.IsWritable := by
  rw [toTree_eq]
  refine Tree.isWritable_ofMembers fun member isMember => ?_
  rcases List.mem_append.1 isMember with isMember | isMember
  · rcases List.mem_append.1 isMember with isMember | isMember
    · cases List.mem_singleton.1 isMember
      exact isWritable_metadataTree event.id
    · obtain ⟨project, _, rfl⟩ := Option.map_eq_some_iff.1 (Option.mem_toList.1 isMember)
      exact project.isWritable_toTree
  · cases List.mem_singleton.1 isMember
    exact isWritable_workerTree event.phase event.jobs

theorem ofTree?_toTree (distinct : event.jobs.keys.Nodup) :
    ofTree? event.toTree = some event := by
  obtain ⟨id, project, phase, jobs⟩ := event
  have worker := worker?_workerTree phase distinct
  rw [ofTree?, toTree_eq]
  cases project with
  | none =>
    rw [Tree.parts?_ofMembers (by simp) (by simp)]
    simp [Parts.required, Parts.getOr, Table.get?, Table.find?, worker]
  | some project =>
    have named : Tree.optional? (Identifier.ofTree? .project) project.toTree =
        some (some project) := by
      rw [Identifier.toTree, Tree.optional?_ofText, ← Identifier.toTree,
        Identifier.ofTree?_toTree, Option.map_some]
    rw [Tree.parts?_ofMembers (by simp) (by simp)]
    simp [Parts.required, Parts.getOr, Table.get?, Table.find?, worker, named]

theorem ofJson?_toJson (distinct : event.jobs.keys.Nodup) :
    ofJson? event.toJson = some event := by
  rw [ofJson?, toJson, Tree.read?_print event.isWritable_toTree, Option.bind_some,
    event.ofTree?_toTree distinct]

variable {event}

theorem nodup_of_worker? {tree : Tree} {phase : Phase} {jobs : Table String Phase}
    (decoded : worker? tree = some (phase, jobs)) : jobs.keys.Nodup := by
  obtain ⟨parts, _, decoded⟩ := Option.bind_eq_some_iff.1 decoded
  obtain ⟨_, _, decoded⟩ := Option.bind_eq_some_iff.1 decoded
  obtain ⟨table, isTable, same⟩ := Option.bind_eq_some_iff.1 decoded
  cases same
  unfold Parts.getOr at isTable
  split at isTable
  · cases isTable
    exact List.nodup_nil
  · unfold Tree.table? at isTable
    split at isTable
    · obtain ⟨bindings, _, same⟩ := Option.bind_eq_some_iff.1 isTable
      cases same
      exact Table.nodup_keys_ofList bindings
    · cases isTable

/-- **The jobs of an event that was read have different names.** -/
theorem nodup_jobs {bytes : List UInt8} (decoded : ofJson? bytes = some event) :
    event.jobs.keys.Nodup := by
  obtain ⟨tree, _, decoded⟩ := Option.bind_eq_some_iff.1 decoded
  obtain ⟨parts, _, decoded⟩ := Option.bind_eq_some_iff.1 decoded
  obtain ⟨id, _, decoded⟩ := Option.bind_eq_some_iff.1 decoded
  obtain ⟨project, _, decoded⟩ := Option.bind_eq_some_iff.1 decoded
  obtain ⟨⟨phase, jobs⟩, worker, same⟩ := Option.bind_eq_some_iff.1 decoded
  cases same
  unfold Parts.getOr at worker
  split at worker
  · cases worker
    exact List.nodup_nil
  · exact nodup_of_worker? worker

/-! ## Events in any order of their jobs -/

/-- The events are the same in everything that can be asked of them. -/
structure Agrees (event other : Event) : Prop where
  id : event.id = other.id
  project : event.project = other.project
  phase : event.phase = other.phase
  jobs : ∀ name, event.jobs.get? name = other.jobs.get? name

/-- The bytes are a text of the event: they list its jobs in some order. -/
def IsWrittenAs (event : Event) (bytes : List UInt8) : Prop :=
  ∃ jobs : Table String Phase, jobs.bindings.Perm event.jobs.bindings ∧
    bytes = { event with jobs }.toJson

/-- Every text of an event is read as the event. -/
theorem IsWrittenAs.exists_decoded {bytes : List UInt8} (written : event.IsWrittenAs bytes)
    (distinct : event.jobs.keys.Nodup) :
    ∃ decoded, ofJson? bytes = some decoded ∧ decoded.Agrees event := by
  obtain ⟨jobs, same, rfl⟩ := written
  have distinct' : jobs.keys.Nodup := (same.map Prod.fst).nodup_iff.2 distinct
  refine ⟨_, ofJson?_toJson { event with jobs } distinct', rfl, rfl, rfl, ?_⟩
  exact Table.get?_eq_of_perm distinct same

end Event

/-! ## Pages of projects -/

namespace ProjectPage

/-- The tree of the metadata with a continuation token, if there is one. -/
def nextTree (next : Option String) : Tree :=
  .ofMembers (next.map fun token => ("continue", .ofText token)).toList

theorem isWritable_nextTree (next : Option String) : (nextTree next).IsWritable := by
  refine Tree.isWritable_ofMembers fun member isMember => ?_
  obtain ⟨token, _, rfl⟩ := Option.map_eq_some_iff.1 (Option.mem_toList.1 isMember)
  exact Tree.isWritable_ofText token

theorem next?_nextTree (next : Option String) : next? (nextTree next) = some next := by
  cases next with
  | none => rfl
  | some token =>
    rw [next?, nextTree, Tree.parts?_ofMembers (by simp) (by simp)]
    simp [Parts.getOr, Table.get?, Table.find?, Tree.optional?_ofText]

/-- The tree of a project. -/
def projectTree (project : ProjectId) : Tree :=
  .ofMembers [("metadata", Event.metadataTree project)]

theorem isWritable_projectTree (project : ProjectId) : (projectTree project).IsWritable :=
  Tree.isWritable_ofMembers (List.forall_mem_singleton.2 (Event.isWritable_metadataTree project))

@[simp] theorem project?_projectTree (project : ProjectId) :
    project? (projectTree project) = some project := by
  rw [project?, projectTree, Tree.parts?_ofMembers (by simp) (by simp)]
  simp [Parts.required, Table.get?, Table.find?]

variable (page : ProjectPage)

theorem toTree_eq : page.toTree =
    .ofMembers [("metadata", nextTree page.next),
      ("items", .list (page.projects.map projectTree))] := rfl

theorem isWritable_toTree : page.toTree.IsWritable := by
  rw [toTree_eq]
  refine Tree.isWritable_ofMembers (List.forall_mem_cons.2 ⟨?_, List.forall_mem_singleton.2 ?_⟩)
  · exact isWritable_nextTree page.next
  · refine Tree.isWritable_list.2 fun item member => ?_
    obtain ⟨project, _, rfl⟩ := List.mem_map.1 member
    exact isWritable_projectTree project

theorem ofTree?_toTree : ofTree? page.toTree = some page := by
  have projects : (page.projects.map projectTree).mapM project? = some page.projects := by
    rw [List.mapM_map]
    exact Tree.mapM_of_forall fun project _ => project?_projectTree project
  rw [ofTree?, toTree_eq, Tree.parts?_ofMembers (by simp) (by simp)]
  simp [Parts.getOr, Table.get?, Table.find?, next?_nextTree, Tree.list?, projects]

theorem ofJson?_toJson : ofJson? page.toJson = some page := by
  rw [ofJson?, toJson, Tree.read?_print page.isWritable_toTree, Option.bind_some,
    page.ofTree?_toTree]

end ProjectPage

/-- **What was written is read as the same.** Every text of an event, in whatever order it lists the
jobs, is read as that event, and the text of a page as that page. An event or a page that was read
from any bytes at all can be written and read again, and is the same afterwards. -/
theorem decoded_as_written :
    (∀ (event : Event) (bytes : List UInt8), event.jobs.keys.Nodup → event.IsWrittenAs bytes →
      ∃ decoded, Event.ofJson? bytes = some decoded ∧ decoded.Agrees event) ∧
    (∀ page : ProjectPage, ProjectPage.ofJson? page.toJson = some page) ∧
    (∀ (bytes again : List UInt8) (event : Event), Event.ofJson? bytes = some event →
      event.IsWrittenAs again →
      ∃ decoded, Event.ofJson? again = some decoded ∧ decoded.Agrees event) ∧
    (∀ (bytes : List UInt8) (page : ProjectPage), ProjectPage.ofJson? bytes = some page →
      ProjectPage.ofJson? page.toJson = some page) := by
  refine ⟨?_, ProjectPage.ofJson?_toJson, ?_, ?_⟩
  · intro event bytes distinct written
    exact written.exists_decoded distinct
  · intro bytes again event decoded written
    have distinct : event.jobs.keys.Nodup := Event.nodup_jobs decoded
    exact written.exists_decoded distinct
  · intro bytes page _
    exact page.ofJson?_toJson

/-! ## An event with awkward names -/

/-- An event whose jobs have names that do not stand in a string as they are. -/
def awkwardEvent : Event where
  id := ⟨"awkward", by decide +kernel⟩
  project := some ⟨"quiet", by decide +kernel⟩
  phase := .timedOut
  jobs := ⟨[("\"\\\n", .running), ("äß€", .unknown)]⟩

theorem awkwardEvent_distinct : awkwardEvent.jobs.keys.Nodup := by decide

/-- The event with its jobs the other way round. -/
def awkwardText : List UInt8 :=
  { awkwardEvent with jobs := ⟨awkwardEvent.jobs.bindings.reverse⟩ }.toJson

theorem awkwardText_isWritten : awkwardEvent.IsWrittenAs awkwardText :=
  ⟨_, List.reverse_perm _, rfl⟩

/-- A page with one project, which another page follows. -/
def quietPage : ProjectPage := ⟨awkwardEvent.project.toList, some "next\t"⟩

theorem awkwardEvent_decoded :
    (∃ decoded, Event.ofJson? awkwardText = some decoded ∧ decoded.Agrees awkwardEvent) ∧
    (∃ decoded, Event.ofJson? awkwardEvent.toJson = some decoded ∧ decoded.Agrees awkwardEvent) ∧
    ProjectPage.ofJson? quietPage.toJson = some quietPage := by
  obtain ⟨events, pages, eventsAgain, pagesAgain⟩ := decoded_as_written
  refine ⟨events _ _ awkwardEvent_distinct awkwardText_isWritten, ?_, ?_⟩
  · exact eventsAgain _ _ awkwardEvent (awkwardEvent.ofJson?_toJson awkwardEvent_distinct)
      ⟨awkwardEvent.jobs, .refl _, rfl⟩
  · exact pagesAgain _ _ (pages quietPage)

end Turnstile
