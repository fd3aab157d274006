import Turnstile.Pod.WatchStream
import Turnstile.Proofs.Json.Composed
import Turnstile.Proofs.Table

/-!
# Two decoders of pods

A pod comes as an item of a listing, where its text is given its meaning at once, or as the object
of a line of a watch, where it is taken as plain data first. The two differ on texts that repeat a
key, that hold numbers out of range or halves of surrogate pairs, or that are nested too deep. On
all others they give the same pod (`line_agrees_with_listing`).

That rests on three facts about any JSON: a text within a longer one is read as it is alone
(`exists_reads_append`), a tree without repeated keys that can be taken as plain data is that data
(`Tree.eq_of_generic?`, `Tree.generic?_of_plain`), and strings in a text are texts
(`text?_isSome_of_read?`). How pods are decoded plays no part.
-/

set_option autoImplicit false

namespace Turnstile

open Json Utf8

variable {object : String} {tree : Tree}

/-- A record with two different keys has these two parts. -/
theorem exists_parts_of_two {first second : String} (different : first ≠ second)
    (one other : Tree) :
    ∃ parts, Tree.parts? [first, second]
        (.record [(.plain first, one), (.plain second, other)]) = some parts ∧
      parts.get? first = some one ∧ parts.get? second = some other := by
  have kept := Table.get?_set_of_ne ((Table.empty : Parts).set first one) other different
  have free := Table.get?_set_of_ne (Table.empty : Parts) one different.symm
  refine ⟨(Table.empty.set first one).set second other, ?_, ?_, Table.get?_set_self ..⟩
  · simp [Tree.parts?, collectParts, Table.contains, free]
  · rw [kept, Table.get?_set_self]

/-! ## Lines -/

/-- A change of a pod that a watch tells about. -/
inductive PodChange where
  | added
  | modified
  | deleted
deriving DecidableEq, Repr

namespace PodChange

/-- The type by which a line names the change. -/
def type : PodChange → String
  | added => "ADDED"
  | modified => "MODIFIED"
  | deleted => "DELETED"

/-- The event that tells of the change. -/
def event : PodChange → Pod → WatchEvent
  | added => .added
  | modified => .modified
  | deleted => .deleted

/-- The line that tells of the change with an object. -/
def line (change : PodChange) (object : String) : String :=
  recordOf [("type", quoted change.type), ("object", object)]

example : added.line "null" = "\x7b\"type\": \"ADDED\", \"object\": null\x7d" := rfl

theorem isPlain_type (change : PodChange) : IsPlain change.type := by
  cases change <;> decide

theorem read?_line (change : PodChange) (isText : read? (encode object) = some tree) :
    read? (encode (change.line object)) =
      some (.record [(.plain "type", .text (.plain change.type)), (.plain "object", tree)]) := by
  have type : IsPlain "type" := by decide
  have object : IsPlain "object" := by decide
  exact read?_recordOf <|
    .cons ⟨type, rfl, read?_quoted change.isPlain_type⟩ <| .cons ⟨object, rfl, isText⟩ .nil

/-- The object of a line is taken as plain data. -/
theorem parts?_line (change : PodChange) (isText : read? (encode object) = some tree) :
    WatchStream.parts? (encode (change.line object)) =
      (tree.generic? WatchStream.objectDepth).map (change.type, ·) := by
  obtain ⟨parts, collected, type, value⟩ := @exists_parts_of_two "type" "object" (by decide)
    (.text (.plain change.type)) tree
  simp only [WatchStream.parts?, change.read?_line isText, Option.bind_eq_bind, Option.bind_some,
    collected, Parts.required, type, value, Tree.text?, Token.text?_plain]
  exact Option.map_eq_bind.symm

/-- **What a line tells**: its object as plain data, decoded as a pod. -/
theorem ofLine_line (change : PodChange) (isText : read? (encode object) = some tree) :
    WatchStream.ofLine (encode (change.line object)) =
      match (tree.generic? WatchStream.objectDepth).bind Pod.ofTree? with
      | some pod => .ok (change.event pod)
      | none => .error WatchStream.malformed := by
  rw [WatchStream.ofLine, change.parts?_line isText]
  cases tree.generic? WatchStream.objectDepth with
  | none => rfl
  | some data => cases change <;> rfl

end PodChange

/-! ## Listings -/

namespace Pod

/-- The listing with some metadata and some items. -/
def listing (metadata : String) (items : List String) : String :=
  recordOf [("metadata", metadata), ("items", listOf items)]

example : listing "null" ["1", "2"] = "\x7b\"metadata\": null, \"items\": [1, 2]\x7d" := rfl

theorem read?_listing {metadata : String} {items : List String} {trees : List Tree}
    (isText : read? (encode metadata) = some tree)
    (areTexts : List.Forall₂ (fun item tree => read? (encode item) = some tree) items trees) :
    read? (encode (listing metadata items)) =
      some (.record [(.plain "metadata", tree), (.plain "items", .list trees)]) := by
  have name : IsPlain "metadata" := by decide
  have name' : IsPlain "items" := by decide
  exact read?_recordOf <|
    .cons ⟨name, rfl, isText⟩ <| .cons ⟨name', rfl, read?_listOf areTexts⟩ .nil

theorem ofJson?_listing {metadata : String} {items : List String} {trees : List Tree}
    (isText : read? (encode metadata) = some tree)
    (areTexts : List.Forall₂ (fun item tree => read? (encode item) = some tree) items trees) :
    PodPage.ofJson? (encode (listing metadata items)) =
      (PodPage.metadata? tree).bind fun (resourceVersion, next) =>
        (trees.mapM ofTree?).map (⟨·, resourceVersion, next⟩) := by
  obtain ⟨parts, collected, about, values⟩ := @exists_parts_of_two "metadata" "items" (by decide)
    tree (.list trees)
  simp only [PodPage.ofJson?, read?_listing isText areTexts, PodPage.ofTree?, Option.bind_eq_bind,
    Option.bind_some, collected, Parts.getOr, about, values, Tree.list?, Option.map_eq_bind]
  rfl

/-- Texts of pods are texts, and what they are read as are pods. -/
theorem exists_trees_of_pods {items : List String} {pods : List Pod}
    (arePods : List.Forall₂ (fun item pod => ofJson? (encode item) = some pod) items pods) :
    ∃ trees, List.Forall₂ (fun item tree => read? (encode item) = some tree) items trees ∧
      trees.mapM ofTree? = some pods := by
  induction arePods with
  | nil => exact ⟨[], .nil, rfl⟩
  | cons isPod _ ih =>
    obtain ⟨tree, isText, decoded⟩ := Option.bind_eq_some_iff.1 isPod
    obtain ⟨trees, areTexts, others⟩ := ih
    refine ⟨tree :: trees, .cons isText areTexts, ?_⟩
    rw [List.mapM_cons, decoded, others]
    rfl

/-- **A line agrees with a listing.** A text in which no record repeats a key is decoded within any
listing as it is decoded alone, whatever pods stand around it. If a line with it as object is
accepted, then so is the text alone, with the same pod; and if the text alone is accepted, then so
is the line, provided that the object can be taken as plain data at all. -/
theorem line_agrees_with_listing {text : String} (isText : read? (encode text) = some tree)
    (distinct : tree.HasDistinctKeys) (change : PodChange) :
    (∀ {metadata : String} {before after : List String} {pods pods' : List Pod}
      {resourceVersion next : Option String},
      (read? (encode metadata)).bind PodPage.metadata? = some (resourceVersion, next) →
      List.Forall₂ (fun item pod => ofJson? (encode item) = some pod) before pods →
      List.Forall₂ (fun item pod => ofJson? (encode item) = some pod) after pods' →
      PodPage.ofJson? (encode (listing metadata (before ++ text :: after))) =
        (ofJson? (encode text)).map fun pod =>
          { pods := pods ++ pod :: pods', resourceVersion, next }) ∧
    (∀ event, WatchStream.ofLine (encode (change.line text)) = .ok event →
      ∃ pod, event = change.event pod ∧ ofJson? (encode text) = some pod) ∧
    (∀ pod, ofJson? (encode text) = some pod → tree.depth ≤ WatchStream.objectDepth →
      tree.FitsDoubles → tree.HasWholePairs →
      WatchStream.ofLine (encode (change.line text)) = .ok (change.event pod)) := by
  have alone : ofJson? (encode text) = ofTree? tree := by rw [ofJson?, isText, Option.bind_some]
  have told := change.ofLine_line isText
  refine ⟨?_, ?_, ?_⟩
  · intro metadata before after pods pods' resourceVersion next about earlier later
    obtain ⟨about, aboutRead, aboutDecoded⟩ := Option.bind_eq_some_iff.1 about
    obtain ⟨trees, treesRead, treesDecoded⟩ := exists_trees_of_pods earlier
    obtain ⟨trees', treesRead', treesDecoded'⟩ := exists_trees_of_pods later
    rw [ofJson?_listing aboutRead (List.rel_append treesRead (.cons isText treesRead')),
      aboutDecoded, List.mapM_append, List.mapM_cons, treesDecoded, treesDecoded', alone]
    cases ofTree? tree <;> rfl
  · intro event accepted
    rw [told] at accepted
    cases found : (tree.generic? WatchStream.objectDepth).bind ofTree? with
    | none =>
      rw [found] at accepted
      cases accepted
    | some pod =>
      rw [found] at accepted
      cases accepted
      obtain ⟨data, plain, decoded⟩ := Option.bind_eq_some_iff.1 found
      cases Tree.eq_of_generic? distinct plain
      exact ⟨pod, rfl, alone.trans decoded⟩
  · intro pod accepted shallow fits paired
    have plain := Tree.generic?_of_plain distinct fits
      (fun token writes => text?_isSome_of_read? isText writes (paired token writes)) shallow
    rw [told, plain, Option.bind_some, ← alone, accepted]

-- A text that repeats a key is refused as an item of a listing, and accepted as an object of a line.
example :
    let text := "\x7b\"status\": null, \"status\": null\x7d"
    (ofJson? (encode text)).isNone ∧
      (WatchStream.ofLine (encode (PodChange.added.line text))).isOk := by
  cbv

/-- A pod that is listed and watched alike. -/
theorem worker_listed_and_watched :
    let text := "\x7b\"metadata\": \x7b\"name\": \"w\"\x7d\x7d"
    ∃ pod, pod.name.name = "w" ∧
      PodPage.ofJson? (encode (listing "\x7b\x7d" [text])) = some ⟨[pod], none, none⟩ ∧
      WatchStream.ofLine (encode (PodChange.added.line text)) = .ok (.added pod) := by
  intro text
  have name : read? (encode (recordOf [("name", quoted "w")])) =
      some (.record [(.plain "name", .text (.plain "w"))]) :=
    read?_recordOf (.cons ⟨by decide, rfl, read?_quoted (by decide)⟩ .nil)
  have isText : read? (encode text) =
      some (.record [(.plain "metadata", .record [(.plain "name", .text (.plain "w"))])]) :=
    @read?_recordOf [("metadata", recordOf [("name", quoted "w")])] _
      (.cons ⟨by decide, rfl, name⟩ .nil)
  have about : (read? (encode "\x7b\x7d")).bind PodPage.metadata? = some (none, none) := by
    have nothing : read? (encode (recordOf [])) = some (.record []) := read?_recordOf .nil
    exact congrArg (·.bind PodPage.metadata?) nothing
  obtain ⟨pod, decoded, named⟩ :
      ∃ pod, ofJson? (encode text) = some pod ∧ pod.name.name = "w" := by
    rw [ofJson?, isText]
    simp [ofTree?, Tree.parts?, collectParts, Table.contains, Parts.getOr, Metadata.ofTree?,
      Table.get?_set_of_ne, Tree.text?]
  obtain ⟨listed, _, watched⟩ :=
    line_agrees_with_listing isText (by simp [Tree.HasDistinctKeys]) .added
  refine ⟨pod, named, ?_, watched pod decoded ?_ ?_ ?_⟩
  · have page := listed about .nil .nil
    rwa [decoded] at page
  · decide
  · simp [Tree.FitsDoubles]
  · simp [Tree.HasWholePairs, or_imp, forall_and]

end Pod

end Turnstile
