import Turnstile.Event.Json
import Turnstile.Pod.Json
import Turnstile.Proofs.Json.Composed
import Turnstile.Proofs.Json.TextEdits

/-!
# Members that nobody asks for

What the orchestration API and the substrate send has more members than are looked at, and gets new
ones with every release of theirs. The decoders of events, of pages of projects, of pods and of
listings of pods skip these. Which records they look into, and for which fields, is the shape of
each of them (`Event.shape`, `ProjectPage.shape`, `Pod.shape`, `PodPage.shape`), and they overlook
every edit of it: members with any other name and any value can be inserted into any of these
records, at any depth, and the members of these records can be put in any order, and what is decoded
stays the same. So does the failure to decode a text in which a field is missing, given twice or not
as it should be (`unknown_members_are_overlooked`).

The proofs go along the decoders, from the innermost record to the whole.
-/

set_option autoImplicit false

namespace Turnstile

open Json

/-! ## Events -/

namespace Phase

/-- The status of a worker or job. -/
def statusShape : Shape := .record [("phase", .leaf)]

/-- A job. -/
def jobShape : Shape := .record [("status", statusShape)]

theorem overlooks_ofStatus? : Overlooks statusShape ofStatus? :=
  overlooks_record (by decide) fun _ _ same => same.getOr (overlooks_leaf _) (by simp) _

theorem overlooks_ofJob? : Overlooks jobShape ofJob? :=
  overlooks_record (by decide) fun _ _ same => same.getOr overlooks_ofStatus? (by simp) _

end Phase

namespace Event

/-- A worker with its jobs. -/
def workerShape : Shape := .record [("status", Phase.statusShape), ("jobs", .table Phase.jobShape)]

/-- The metadata of an event or project. -/
def metadataShape : Shape := .record [("id", .leaf)]

/-- An event. -/
def shape : Shape :=
  .record [("metadata", metadataShape), ("projectID", .leaf), ("worker", workerShape)]

theorem overlooks_worker? : Overlooks workerShape worker? := by
  refine overlooks_record (by decide) fun parts edited same => ?_
  rw [same.getOr Phase.overlooks_ofStatus? (by simp),
    same.getOr Phase.overlooks_ofJob?.table? (by simp)]

theorem overlooks_metadata? (kind : IdentifierKind) : Overlooks metadataShape (metadata? kind) :=
  overlooks_record (by decide) fun _ _ same => same.required (overlooks_leaf _) (by simp)

theorem overlooks_ofTree? : Overlooks shape ofTree? := by
  refine overlooks_record (by decide) fun parts edited same => ?_
  rw [same.required (overlooks_metadata? .event) (by simp), same.getOr (overlooks_leaf _) (by simp),
    same.getOr overlooks_worker? (by simp)]

end Event

/-! ## Pages of projects -/

namespace ProjectPage

/-- A project. -/
def projectShape : Shape := .record [("metadata", Event.metadataShape)]

/-- The metadata of a page. -/
def metadataShape : Shape := .record [("continue", .leaf)]

/-- A page. -/
def shape : Shape := .record [("metadata", metadataShape), ("items", .list projectShape)]

theorem overlooks_project? : Overlooks projectShape project? :=
  overlooks_record (by decide) fun _ _ same =>
    same.required (Event.overlooks_metadata? .project) (by simp)

theorem overlooks_next? : Overlooks metadataShape next? :=
  overlooks_record (by decide) fun _ _ same => same.getOr (overlooks_leaf _) (by simp) _

theorem overlooks_ofTree? : Overlooks shape ofTree? := by
  refine overlooks_record (by decide) fun parts edited same => ?_
  rw [same.getOr overlooks_next? (by simp), same.getOr overlooks_project?.list? (by simp)]

end ProjectPage

/-! ## Pods -/

/-- The ending of a container. -/
def Termination.shape : Shape :=
  .record [("exitCode", .leaf), ("reason", .leaf), ("finishedAt", .leaf)]

theorem Termination.overlooks_ofTree? : Overlooks shape ofTree? := by
  refine overlooks_record (by decide) fun parts edited same => ?_
  rw [same.getOr (overlooks_leaf _) (by simp), same.getOr (overlooks_leaf _) (by simp),
    same.getOr (overlooks_leaf _) (by simp)]

namespace Container

/-- The state of a container. -/
def stateShape : Shape := .record [("terminated", Termination.shape)]

/-- The status of a container. -/
def shape : Shape := .record [("name", .leaf), ("state", stateShape)]

theorem overlooks_state? : Overlooks stateShape state? :=
  overlooks_record (by decide) fun _ _ same =>
    same.getOr Termination.overlooks_ofTree?.optional? (by simp) _

theorem overlooks_ofTree? : Overlooks shape ofTree? := by
  refine overlooks_record (by decide) fun parts edited same => ?_
  rw [same.getOr (overlooks_leaf _) (by simp), same.getOr overlooks_state?.optional? (by simp)]

end Container

namespace Pod

/-- The metadata of a pod; its labels are a table of texts. -/
def Metadata.shape : Shape :=
  .record [("namespace", .leaf), ("name", .leaf), ("deletionTimestamp", .leaf),
    ("resourceVersion", .leaf), ("labels", .leaf)]

/-- The status of a pod. -/
def Status.shape : Shape :=
  .record [("phase", .leaf), ("startTime", .leaf), ("containerStatuses", .list Container.shape)]

/-- A pod. -/
def shape : Shape := .record [("metadata", Metadata.shape), ("status", Status.shape)]

theorem Metadata.overlooks_ofTree? : Overlooks Metadata.shape Metadata.ofTree? := by
  refine overlooks_record (by decide) fun parts edited same => ?_
  rw [same.getOr (overlooks_leaf _) (by simp), same.getOr (overlooks_leaf _) (by simp),
    same.getOr (overlooks_leaf _) (by simp), same.getOr (overlooks_leaf _) (by simp),
    same.getOr (overlooks_leaf _) (by simp)]

theorem Status.overlooks_ofTree? : Overlooks Status.shape Status.ofTree? := by
  refine overlooks_record (by decide) fun parts edited same => ?_
  rw [same.getOr (overlooks_leaf _) (by simp), same.getOr (overlooks_leaf _) (by simp),
    same.getOr Container.overlooks_ofTree?.list? (by simp)]

theorem overlooks_ofTree? : Overlooks shape ofTree? := by
  refine overlooks_record (by decide) fun parts edited same => ?_
  rw [same.getOr Metadata.overlooks_ofTree? (by simp),
    same.getOr Status.overlooks_ofTree?.optional? (by simp)]

end Pod

namespace PodPage

/-- The metadata of a listing. -/
def metadataShape : Shape := .record [("resourceVersion", .leaf), ("continue", .leaf)]

/-- A listing. -/
def shape : Shape := .record [("metadata", metadataShape), ("items", .list Pod.shape)]

theorem overlooks_metadata? : Overlooks metadataShape metadata? := by
  refine overlooks_record (by decide) fun parts edited same => ?_
  rw [same.getOr (overlooks_leaf _) (by simp), same.getOr (overlooks_leaf _) (by simp)]

theorem overlooks_ofTree? : Overlooks shape ofTree? := by
  refine overlooks_record (by decide) fun parts edited same => ?_
  rw [same.getOr overlooks_metadata? (by simp), same.getOr Pod.overlooks_ofTree?.list? (by simp)]

end PodPage

/-! ## All decoders -/

open Relation (ReflTransGen)

/-- **Unknown members are overlooked.** Insert any number of members whose names are no fields into
any of the records that a decoder looks into, at any depth, with any values, and put the members of
these records in any order: events, pages of projects, pods and listings are decoded from the text
as before, and where nothing was decoded nothing is. Every text of a record or a list has pieces
between which something can be inserted. -/
theorem unknown_members_are_overlooked :
    (∀ text edited, ReflTransGen (TextEdit Event.shape) text edited →
      Event.ofJson? edited = Event.ofJson? text) ∧
    (∀ text edited, ReflTransGen (TextEdit ProjectPage.shape) text edited →
      ProjectPage.ofJson? edited = ProjectPage.ofJson? text) ∧
    (∀ text edited, ReflTransGen (TextEdit Pod.shape) text edited →
      Pod.ofJson? edited = Pod.ofJson? text) ∧
    (∀ text edited, ReflTransGen (TextEdit PodPage.shape) text edited →
      PodPage.ofJson? edited = PodPage.ofJson? text) ∧
    (∀ text members, read? text = some (.record members) →
      ∃ (frame : Frame) (pieces : List (List UInt8)), text = frame.record pieces ∧
        List.Forall₂ IsPiece pieces members) ∧
    (∀ text trees, read? text = some (.list trees) →
      ∃ (frame : Frame) (items : List (List UInt8)), text = frame.list items ∧
        List.Forall₂ (fun item tree => read? item = some tree) items trees) := by
  refine ⟨?events, ?pages, ?pods, ?listings, ?records, ?lists⟩
  case events =>
    intro text edited edits
    exact Event.overlooks_ofTree?.read?_edits edits
  case pages =>
    intro text edited edits
    exact ProjectPage.overlooks_ofTree?.read?_edits edits
  case pods =>
    intro text edited edits
    exact Pod.overlooks_ofTree?.read?_edits edits
  case listings =>
    intro text edited edits
    exact PodPage.overlooks_ofTree?.read?_edits edits
  case records =>
    intro text members isText
    exact exists_pieces_of_read? isText
  case lists =>
    intro text trees isText
    exact exists_items_of_read? isText

/-- A member with a text. -/
def textMember (member : String × String) : Token × Tree :=
  (Token.plain member.1, .text (Token.plain member.2))

theorem isPiece_textMember {member : String × String} (plain : IsPlain member.1)
    (plainText : IsPlain member.2) :
    IsPiece (Utf8.encode (memberOf (member.1, quoted member.2))) (textMember member) :=
  IsMember.isPiece ⟨plain, rfl, read?_quoted plainText⟩

/-- A member is inserted into metadata that have something for every decoder. Its value has a number
that is out of range, and a name that is given twice. -/
theorem unknown_members_are_overlooked_in_metadata :
    let members := [("id", "e1"), ("name", "w1"), ("resourceVersion", "7"), ("continue", "c")]
    let written := "\"id\": \"e1\",\"name\": \"w1\"," ++
      "\"resourceVersion\": \"7\",\"continue\": \"c\""
    let kind := "[1e999, \x7b\"a\": 1, \"a\": null\x7d]"
    let text := Utf8.encode ("\x7b\"metadata\":\x7b" ++ written ++ "\x7d\x7d")
    let edited := Utf8.encode
      ("\x7b\"metadata\":\x7b" ++ written ++ ",\"kind\": " ++ kind ++ "\x7d\x7d")
    (Event.ofJson? edited = Event.ofJson? text ∧
      (Event.ofJson? text).map (·.id.text) = some "e1") ∧
    (ProjectPage.ofJson? edited = ProjectPage.ofJson? text ∧
      ProjectPage.ofJson? text = some ⟨[], some "c"⟩) ∧
    (Pod.ofJson? edited = Pod.ofJson? text ∧
      (Pod.ofJson? text).map (·.name) = some ⟨"", "w1"⟩) ∧
    (PodPage.ofJson? edited = PodPage.ofJson? text ∧
      (PodPage.ofJson? text).map (fun page => (page.resourceVersion, page.next)) =
        some (some "7", some "c")) ∧
    (∃ (frame : Frame) (pieces : List (List UInt8)), text = frame.record pieces ∧
      List.Forall₂ IsPiece pieces
        [(Token.plain "metadata", .record (members.map textMember))]) ∧
    (∃ (frame : Frame) (items : List (List UInt8)), Utf8.encode "[\x7b\x7d]" = frame.list items ∧
      List.Forall₂ (fun item tree => read? item = some tree) items [.record []]) := by
  intro members written kind text edited
  have metadata : IsKey (Utf8.encode (quoted "metadata" ++ ":")) (Token.plain "metadata") :=
    isKey_quoted (by decide)
  let pieces := members.map fun member => Utf8.encode (memberOf (member.1, quoted member.2))
  have plain : ∀ member ∈ members, IsPlain member.1 ∧ IsPlain member.2 := by decide
  have areWritten : ∀ member ∈ members,
      IsPiece (Utf8.encode (memberOf (member.1, quoted member.2))) (textMember member) :=
    fun member inside => isPiece_textMember (plain member inside).1 (plain member inside).2
  have arePieces : List.Forall₂ IsPiece pieces (members.map textMember) := by
    rw [List.forall₂_map_left_iff, List.forall₂_map_right_iff, List.forall₂_same]
    exact areWritten
  obtain ⟨value, isValue⟩ :=
    Option.isSome_iff_exists.1 (by decide +kernel : (read? (Utf8.encode kind)).isSome)
  have unknown : IsPiece (Utf8.encode (memberOf ("kind", kind))) (Token.plain "kind", value) :=
    IsMember.isPiece ⟨by decide, rfl, isValue⟩
  have isText : text = Frame.tight.record ([] ++ (Utf8.encode (quoted "metadata" ++ ":") ++
      Frame.tight.record (pieces ++ [])) :: []) := by
    decide +kernel
  have isEdited : edited = Frame.tight.record ([] ++ (Utf8.encode (quoted "metadata" ++ ":") ++
      Frame.tight.record (pieces ++ Utf8.encode (memberOf ("kind", kind)) :: [])) :: []) := by
    decide +kernel
  have edits {fields inner : List (String × Shape)} (known : ("metadata", .record inner) ∈ fields)
      (notField : "kind" ∉ namesOf inner) :
      ReflTransGen (TextEdit (.record fields)) text edited := by
    rw [isText, isEdited]
    have siblings : AreMembers (pieces ++ []) := by
      rw [List.append_nil, AreMembers, List.forall_mem_map]
      exact fun member inside => ⟨_, areWritten member inside⟩
    refine .single (.field nofun metadata (Token.text?_plain "metadata") known ?_)
    exact .insert siblings unknown (Token.text?_plain "kind") notField
  refine ⟨⟨?event, by decide +kernel⟩, ⟨?page, by decide +kernel⟩, ⟨?pod, by decide +kernel⟩,
    ⟨?listing, by decide +kernel⟩, ?record, ?list⟩
  case event =>
    exact unknown_members_are_overlooked.1 _ _ (edits (.head _) (by decide))
  case page =>
    exact unknown_members_are_overlooked.2.1 _ _ (edits (.head _) (by decide))
  case pod =>
    exact unknown_members_are_overlooked.2.2.1 _ _ (edits (.head _) (by decide))
  case listing =>
    exact unknown_members_are_overlooked.2.2.2.1 _ _ (edits (.head _) (by decide))
  case record =>
    have inner : IsPiece _ (Token.plain "metadata", .record (members.map textMember)) :=
      .intro metadata (Frame.tight.read?_record arePieces)
    have whole := Frame.tight.read?_record (.cons inner .nil)
    refine unknown_members_are_overlooked.2.2.2.2.1 _ _ ?_
    rw [isText, List.append_nil]
    exact whole
  case list =>
    have empty : read? (Utf8.encode "[\x7b\x7d]") = some (.list [.record []]) :=
      Frame.tight.read?_list (.cons (Frame.tight.read?_record .nil) .nil)
    exact unknown_members_are_overlooked.2.2.2.2.2 _ _ empty

end Turnstile
