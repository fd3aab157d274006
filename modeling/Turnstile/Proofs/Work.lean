import Turnstile.Proofs.Separators
import Turnstile.Work

/-!
# The messages of work

A piece of work has one message, and a queue of its kind reads that message, and no other, as that
piece of work (`Work.ofMessage?_eq_some_iff`). The colon of a job message is unmistakable because
identifiers have none, so an event and a name go into a message and come out of it unchanged, and a
text of any other form is refused (`Work.job_messages_round_trip`).
-/

set_option autoImplicit false

namespace Turnstile

theorem Identifier.colon_notMem {kind : IdentifierKind} (identifier : Identifier kind) :
    ':' ∉ identifier.text.toList :=
  identifier.notMem_text (by decide)

namespace Work

/-- The work that a text on a queue of a kind asks for: a worker by its event, a job by its event,
a colon and its name. -/
inductive IsAskedBy : WorkKind → String → Work → Prop where
  | worker (event : EventId) : IsAskedBy .worker event.text (.worker event)
  | job (event : EventId) (name : JobName) :
      IsAskedBy .job (event.text ++ ":" ++ name.text) (.job event name)

variable {kind : WorkKind} {body : String} {work : Work}

theorem isAskedBy_iff : work.IsAskedBy kind body ↔ work.kind = kind ∧ body = work.message := by
  constructor
  · rintro (event | ⟨event, name⟩)
    · exact ⟨rfl, rfl⟩
    · exact ⟨rfl, rfl⟩
  · rintro ⟨rfl, rfl⟩
    cases work with
    | worker event => exact .worker event
    | job event name => exact .job event name

/-- **A message is read as the work that it asks for**, and as none if it asks for none. -/
theorem ofMessage?_eq_some_iff : ofMessage? kind body = some work ↔ IsAskedBy kind body work := by
  cases kind with
  | worker =>
    rw [ofMessage?, Option.map_eq_some_iff]
    constructor
    · rintro ⟨event, parsed, rfl⟩
      rw [Identifier.parse?_eq_some_iff.1 parsed]
      exact .worker event
    · rintro ⟨event⟩
      exact ⟨event, Identifier.parse?_eq_some_iff.2 rfl, rfl⟩
  | job =>
    constructor
    · intro read
      unfold ofMessage? at read
      dsimp only at read
      split at read
      · cases read
      · rename_i colon second after
        split at read
        · cases read
        · obtain ⟨event, parsed, read⟩ := Option.bind_eq_some_iff.1 read
          obtain ⟨name, parsed', same⟩ := Option.bind_eq_some_iff.1 read
          cases same
          have split := eq_of_dropWhile_ne after
          have whole : body = event.text ++ ":" ++ name.text := by
            apply String.toList_injective
            rw [split, ← Identifier.parse?_eq_some_iff.1 parsed,
              ← Identifier.parse?_eq_some_iff.1 parsed']
            simp
          rw [whole]
          exact .job event name
    · rintro (_ | ⟨event, name⟩)
      have text : (event.text ++ ":" ++ name.text).toList =
          event.text.toList ++ ':' :: name.text.toList := by simp
      have before := takeWhile_ne_append_cons event.colon_notMem name.text.toList
      have after := dropWhile_ne_append_cons event.colon_notMem name.text.toList
      have parsed := Identifier.parse?_eq_some_iff.2 (rfl : event.text = event.text)
      have parsed' := Identifier.parse?_eq_some_iff.2 (rfl : name.text = name.text)
      simp only [ofMessage?, text, before, after, name.colon_notMem, if_false,
        String.ofList_toList, parsed, parsed']
      rfl

theorem kind_of_ofMessage? (read : ofMessage? kind body = some work) : work.kind = kind :=
  (isAskedBy_iff.1 (ofMessage?_eq_some_iff.1 read)).1

theorem ofMessage?_message (work : Work) : ofMessage? work.kind work.message = some work :=
  ofMessage?_eq_some_iff.2 (isAskedBy_iff.2 ⟨rfl, rfl⟩)

theorem message_of_ofMessage? (read : ofMessage? kind body = some work) : work.message = body :=
  (isAskedBy_iff.1 (ofMessage?_eq_some_iff.1 read)).2.symm

/-- Work of one kind that has the same message is the same work. -/
theorem eq_of_message_eq {first second : Work} (kinds : first.kind = second.kind)
    (messages : first.message = second.message) : first = second := by
  have read := ofMessage?_message first
  rw [kinds, messages, ofMessage?_message second] at read
  exact (Option.some.inj read).symm

/-- A message that asks for a job has one colon. -/
theorem IsAskedBy.count_colon (asked : work.IsAskedBy .job body) :
    body.toList.count ':' = 1 := by
  obtain _ | ⟨event, name⟩ := asked
  apply count_eq_one_iff.2
  refine ⟨event.text.toList, name.text.toList, ?_, event.colon_notMem, name.colon_notMem⟩
  simp

/-- The texts around the colon of a message that asks for a job are its event and its name: no other
colon could stand between them. -/
theorem IsAskedBy.parts {first second : String}
    (asked : work.IsAskedBy .job (first ++ ":" ++ second)) :
    ∃ event name, work = Work.job event name ∧ event.text = first ∧ name.text = second := by
  generalize whole : first ++ ":" ++ second = body at asked
  obtain _ | ⟨event, name⟩ := asked
  have texts : event.text.toList ++ ':' :: name.text.toList =
      first.toList ++ ':' :: second.toList := by
    simpa using (congrArg String.toList whole).symm
  obtain ⟨events, -, names⟩ :=
    (List.append_cons_inj_of_notMem event.colon_notMem name.colon_notMem).1 texts
  exact ⟨event, name, rfl, String.toList_injective events, String.toList_injective names⟩

/-- **Messages of jobs go there and back.** A text is read as the job of an event if and only if it
is an identifier of an event, a colon and an identifier of a job, and it is read as these two. So
reading undoes writing, writing undoes reading, jobs with the same message are the same, and nothing
else is read: no text without a colon or with several of them, and none with anything but an
identifier before or behind its colon. -/
theorem job_messages_round_trip :
    (∀ body first second : String,
      (∃ event name, ofMessage? .job body = some (job event name) ∧
        event.text = first ∧ name.text = second) ↔
      Identifier.IsValid first ∧ Identifier.IsValid second ∧ body = first ++ ":" ++ second) ∧
    (∀ event name, ofMessage? .job (job event name).message = some (job event name)) ∧
    (∀ body work, ofMessage? .job body = some work →
      (∃ event name, work = job event name) ∧ work.message = body) ∧
    (∀ event name event' name', (job event name).message = (job event' name').message →
      event = event' ∧ name = name') ∧
    (∀ body : String, body.toList.count ':' ≠ 1 → ofMessage? .job body = none) ∧
    (∀ first second : String, ¬(Identifier.IsValid first ∧ Identifier.IsValid second) →
      ofMessage? .job (first ++ ":" ++ second) = none) := by
  refine ⟨?iff, ?decoded, ?encoded, ?distinct, ?colons, ?parts⟩
  case iff =>
    intro body first second
    constructor
    · rintro ⟨event, name, read, rfl, rfl⟩
      exact ⟨event.valid, name.valid, (message_of_ofMessage? read).symm⟩
    · rintro ⟨valid, valid', rfl⟩
      let event : EventId := ⟨first, valid⟩
      let name : JobName := ⟨second, valid'⟩
      exact ⟨event, name, ofMessage?_message (job event name), rfl, rfl⟩
  case decoded =>
    intro event name
    exact ofMessage?_message (job event name)
  case encoded =>
    intro body work read
    refine ⟨?_, message_of_ofMessage? read⟩
    cases work with
    | worker event => exact nomatch kind_of_ofMessage? read
    | job event name => exact ⟨event, name, rfl⟩
  case distinct =>
    intro event name event' name' same
    have works : job event name = job event' name' := eq_of_message_eq rfl same
    injection works with events names
    exact ⟨events, names⟩
  case colons =>
    intro body several
    refine Option.eq_none_iff_forall_ne_some.2 fun work read => several ?_
    exact (ofMessage?_eq_some_iff.1 read).count_colon
  case parts =>
    intro first second invalid
    refine Option.eq_none_iff_forall_ne_some.2 fun work read => invalid ?_
    obtain ⟨event, name, -, rfl, rfl⟩ := (ofMessage?_eq_some_iff.1 read).parts
    exact ⟨event.valid, name.valid⟩

/-- A message with a second colon is no message of a job, and neither is one without an event. -/
theorem build_message_round_trips :
    (∃ event name, ofMessage? .job "e1:build" = some (job event name) ∧
      event.text = "e1" ∧ name.text = "build") ∧
    ofMessage? .job "e1:build:extra" = none ∧ ofMessage? .job ":build" = none := by
  obtain ⟨iff, -, -, -, colons, parts⟩ := job_messages_round_trip
  refine ⟨?_, ?_, ?_⟩
  · exact (iff "e1:build" "e1" "build").2 (by decide)
  · exact colons "e1:build:extra" (by decide)
  · exact parts "" "build" (by decide)

end Work

/-- Work is to be started if the message names it and it is wanted. -/
theorem Disposition.ofMessage_eq_dispatch_iff {kind : WorkKind} {body : String}
    {answer : EventId → Except ApiFault Event} {work : Work} :
    (ofMessage kind body answer).1 = .dispatch work ↔
      Work.ofMessage? kind body = some work ∧ work.isWanted (answer work.event) := by
  unfold ofMessage
  cases Work.ofMessage? kind body with
  | none => simp
  | some other =>
    by_cases wanted : other.isWanted (answer other.event)
    · simp only [wanted, if_true, dispatch.injEq, Option.some.injEq]
      exact ⟨fun same => ⟨same, same ▸ wanted⟩, And.left⟩
    · simp only [wanted, Bool.false_eq_true, if_false, reduceCtorEq, false_iff, not_and,
        Option.some.injEq]
      rintro rfl
      exact wanted

end Turnstile
