import Turnstile.Proofs.Broker.Acknowledgments
import Turnstile.Proofs.Broker.Waiting

/-!
# Readers that break, and brokers that close

A reader that is opened is whole, and it breaks when its queue is interrupted or the broker closes
as long as it is open; nothing else breaks it, and nothing mends it (`Journal.isBroken?_run`). A
broken reader delivers nothing more, whatever happens, but keeps what it holds: this can still be
acknowledged, and goes back to the queue when the reader is closed. A closed broker stays closed
(`Journal.IsShut`): all readers that are open have broken, and none is opened again, whether or not
the broker is said to be available.
-/

set_option autoImplicit false

namespace Turnstile

/-! ## Reading and opening in vain -/

namespace Broker

variable {broker : Broker} {reader : ReaderRef} {name : String}

theorem read_of_isBroken (broken : broker.isBroken? reader = some true) :
    broker.read reader = (.failed (.receive reader.queue "link detached"), broker) := by
  obtain ⟨state, found, isBroken⟩ := Option.map_eq_some_iff.1 broken
  simp [read, found, isBroken]

theorem read_of_isBroken?_eq_none (closed : broker.isBroken? reader = none) :
    broker.read reader = (.failed (.closed reader.queue), broker) := by
  have unknown : broker.openReader? reader = none := Option.map_eq_none_iff.1 closed
  simp [read, unknown]

/-- A read fails, and changes nothing, unless its reader is open and whole. -/
theorem exists_read_failed (unwhole : broker.isBroken? reader ≠ some false) :
    ∃ fault, broker.read reader = (.failed fault, broker) := by
  match known : broker.isBroken? reader with
  | none => exact ⟨_, read_of_isBroken?_eq_none known⟩
  | some true => exact ⟨_, read_of_isBroken known⟩
  | some false => exact absurd known unwhole

theorem HasNothing.isBroken?_eq (nothing : broker.HasNothing reader) :
    broker.isBroken? reader = some false := by
  obtain ⟨state, found, whole, _⟩ := nothing
  simp [isBroken?, found, whole]

theorem openReader_of_isClosed (closed : broker.isClosed = true) (name : String) :
    broker.openReader name = .error refusal := by
  simp [openReader, closed]

theorem eq_refusal_of_openReader {fault : QueueFault}
    (refused : broker.openReader name = .error fault) : fault = refusal := by
  rcases broker.openReader_cases name with same | ⟨_, accepted, _⟩
  · exact Except.error.inj (refused.symm.trans same)
  · cases refused.symm.trans accepted

end Broker

/-! ## What breaks a reader -/

namespace Action

variable {α : Type} {action : Action α} {reader : ReaderRef}

@[simp] theorem isBrokenAfter?_closeReader (reader : ReaderRef) (before : Option Bool) :
    (closeReader reader : Action α).isBrokenAfter? reader before = none := if_pos rfl

@[simp] theorem isBrokenAfter?_none (action : Action α) (reader : ReaderRef) :
    action.isBrokenAfter? reader none = none := by
  cases action <;> simp [isBrokenAfter?]

/-- As long as a reader is not closed, it has broken if it had before or the action breaks it. -/
theorem exists_isBrokenAfter? (unclosed : action ≠ .closeReader reader) (before : Bool) :
    ∃ after, action.isBrokenAfter? reader (some before) = some after ∧
      (after = true ↔ before = true ∨ action = .interrupt reader.queue ∨ action = .close) := by
  cases action with
  | closeReader closed =>
    have other : closed ≠ reader := fun same => unclosed (congrArg closeReader same)
    exact ⟨before, by simp [isBrokenAfter?, other], by simp⟩
  | interrupt name => by_cases here : name = reader.queue <;> simp [isBrokenAfter?, here]
  | _ => simp [isBrokenAfter?]

/-- No action mends a reader. -/
theorem isBrokenAfter?_ne_whole {before : Option Bool} (action : Action α)
    (unwhole : before ≠ some false) : action.isBrokenAfter? reader before ≠ some false := by
  cases action with
  | closeReader closed => by_cases same : closed = reader <;> simp [isBrokenAfter?, same, unwhole]
  | interrupt name => by_cases here : name = reader.queue <;> simp [isBrokenAfter?, here, unwhole]
  | close => simp [isBrokenAfter?]
  | _ => exact unwhole

end Action

namespace Journal

variable {α : Type} [DecidableEq α] {actions : List (Action α)} {reader : ReaderRef}
  {name : String}

theorem nextReader_le_run (actions more : List (Action α)) :
    (run actions).broker.nextReader ≤ (run (actions ++ more)).broker.nextReader := by
  induction more using List.reverseRecOn with
  | nil => simp
  | append_singleton more action ih =>
    rw [← List.append_assoc, run_snoc]
    exact Nat.le_trans ih (nextReader_le_act _ action)

/-- **What becomes of an open reader.** It is open until it is closed, and then never again. It has
broken if it had before, or its queue was interrupted since, or the broker closed. -/
theorem isBroken?_run {before : Bool}
    (known : (run actions).broker.isBroken? reader = some before) (more : List (Action α)) :
    (.closeReader reader ∈ more → (run (actions ++ more)).broker.isBroken? reader = none) ∧
    (.closeReader reader ∉ more → ∃ after,
      (run (actions ++ more)).broker.isBroken? reader = some after ∧
      (after = true ↔ before = true ∨ .interrupt reader.queue ∈ more ∨ .close ∈ more)) := by
  have isOpen : (run actions).broker.IsOpen reader :=
    Broker.isOpen_iff_isBroken?.2 (known ▸ rfl)
  induction more using List.reverseRecOn with
  | nil => simp [known]
  | append_singleton more action ih =>
    obtain ⟨closed, unclosed⟩ := ih
    have numbered : reader.number < (run (actions ++ more)).broker.nextReader :=
      Nat.lt_of_lt_of_le (number_lt_of_isOpen isOpen) (nextReader_le_run actions more)
    rw [← List.append_assoc, run_snoc, isBroken?_act_of_numbered action numbered]
    by_cases earlier : .closeReader reader ∈ more
    · rw [closed earlier]
      simp [earlier]
    · obtain ⟨after, known', broken⟩ := unclosed earlier
      rw [known']
      by_cases now : action = .closeReader reader
      · simp [now]
      · obtain ⟨later, known'', broken'⟩ := Action.exists_isBrokenAfter? now after
        refine ⟨fun member => ?_, fun _ => ⟨later, known'', ?_⟩⟩
        · rcases List.mem_append.1 member with before | last
          · exact absurd before earlier
          · exact absurd (List.mem_singleton.1 last).symm now
        · simp only [broken', broken, List.mem_append, List.mem_singleton, eq_comm (b := action)]
          rw [or_assoc, or_or_or_comm]

/-- No reader that has broken is whole again. -/
theorem not_whole_of_broken (broken : (run actions).broker.isBroken? reader = some true)
    (more : List (Action α)) : (run (actions ++ more)).broker.isBroken? reader ≠ some false := by
  obtain ⟨closed, unclosed⟩ := isBroken?_run broken more
  by_cases gone : .closeReader reader ∈ more
  · simp [closed gone]
  · obtain ⟨after, known, iff⟩ := unclosed gone
    simp [known, iff]

/-- A reader that is opened has broken if its queue was interrupted later, or the broker closed. -/
theorem isBroken?_of_opened {opened : Broker}
    (accepted : (run actions).broker.openReader name = .ok (reader, opened))
    (more : List (Action α)) :
    let since := (run (actions ++ .openReader name :: more)).broker
    (.closeReader reader ∈ more → since.isBroken? reader = none) ∧
    (.closeReader reader ∉ more → ∃ isBroken, since.isBroken? reader = some isBroken ∧
      (isBroken = true ↔ .interrupt name ∈ more ∨ .close ∈ more)) := by
  obtain ⟨same, known, _⟩ := Broker.openReader?_of_opened accepted
  have whole : (run (actions ++ [.openReader name])).broker.isBroken? reader = some false := by
    rw [run_snoc, act_openReader_of_ok accepted]
    exact congrArg (Option.map (·.isBroken)) known
  have here : reader.queue = name := congrArg ReaderRef.queue same
  simpa [here] using isBroken?_run whole more

/-! ## What a broken reader delivers -/

/-- If at no time some readers are open and whole, then nothing is delivered by them. -/
theorem filter_delivered_run (more : List (Action α)) (test : ReaderRef → Bool)
    (unwhole : ∀ reader, test reader = true → ∀ earlier, earlier <+: more →
      (run (actions ++ earlier)).broker.isBroken? reader ≠ some false) :
    ((run (actions ++ more)).delivered.filter fun delivery => test delivery.reader) =
      (run actions).delivered.filter fun delivery => test delivery.reader := by
  induction more using List.reverseRecOn with
  | nil => rw [List.append_nil]
  | append_singleton more action ih =>
    have before := ih fun reader tested earlier shorter =>
      unwhole reader tested earlier (shorter.trans (List.prefix_append _ _))
    rw [← List.append_assoc, run_snoc]
    rcases (run (actions ++ more)).delivered_act action with same | ⟨delivery, added, whole, _⟩
    · rw [same, before]
    · have other : ¬ test delivery.reader = true := fun tested =>
        unwhole delivery.reader tested more (List.prefix_append _ _) whole
      simp [added, other, before]

/-! ## What a reader holds -/

theorem mem_delivered_run {delivery : Delivery} (given : delivery ∈ (run actions).delivered)
    (more : List (Action α)) : delivery ∈ (run (actions ++ more)).delivered := by
  induction more using List.reverseRecOn with
  | nil => rwa [List.append_nil]
  | append_singleton more action ih =>
    rw [← List.append_assoc, run_snoc]
    exact mem_delivered_act action ih

/-- What an open reader holds are its deliveries that can still be acknowledged. -/
theorem mem_inHands_iff {message : Message} :
    message ∈ (run actions).broker.inHands reader ↔
      ⟨reader, message⟩ ∈ (run actions).inHand ∧ (run actions).broker.IsOpen reader := by
  have consistent := consistent_run actions
  have answered := answered_run actions
  constructor
  · intro held
    cases found : (run actions).broker.openReader? reader with
    | none => simp [Broker.inHands, found] at held
    | some state =>
      rw [Broker.inHands_of_openReader? found] at held
      have isOpen : (run actions).broker.IsOpen reader := Broker.isOpen_iff.2 ⟨state, found⟩
      obtain ⟨given, unsettled⟩ :=
        ((answered.attributed reader.queue).holds reader.number state found message).1 held
      refine ⟨answered.mem_inHand.2 ⟨mem_ledger_delivered.1 given, fun acknowledged => ?_⟩, isOpen⟩
      exact unsettled (mem_ledger_settled.2 (answered.settles _ acknowledged isOpen))
  · rintro ⟨inHand, isOpen⟩
    obtain ⟨state, found, member, _⟩ :=
      Broker.exists_of_held? (answered.held?_of_isOpen consistent inHand isOpen)
    rwa [Broker.inHands_of_openReader? found]

/-- What a reader holds it holds until it is acknowledged or the reader is closed. -/
theorem mem_inHands_run {message : Message}
    (held : message ∈ (run actions).broker.inHands reader) (more : List (Action α))
    (unclosed : .closeReader reader ∉ more) :
    message ∈ (run (actions ++ more)).broker.inHands reader ∨
      ⟨reader, message⟩ ∈ (run (actions ++ more)).acknowledged := by
  obtain ⟨inHand, isOpen⟩ := mem_inHands_iff.1 held
  obtain ⟨_, known⟩ := Option.isSome_iff_exists.1 (Broker.isOpen_iff_isBroken?.1 isOpen)
  obtain ⟨_, known', _⟩ := (isBroken?_run known more).2 unclosed
  have isOpen' : (run (actions ++ more)).broker.IsOpen reader :=
    Broker.isOpen_iff_isBroken?.2 (known' ▸ rfl)
  have given := mem_delivered_run ((answered_run actions).mem_inHand.1 inHand).1 more
  by_cases acknowledged : ⟨reader, message⟩ ∈ (run (actions ++ more)).acknowledged
  · exact .inr acknowledged
  · have inHand' := (answered_run (actions ++ more)).mem_inHand.2 ⟨given, acknowledged⟩
    exact .inl (mem_inHands_iff.2 ⟨inHand', isOpen'⟩)

/-- What a reader holds is settled by its acknowledgment. -/
theorem settled_of_inHands {message : Message}
    (held : message ∈ (run actions).broker.inHands reader) :
    (run (actions ++ [.acknowledge ⟨reader, message⟩])).settled =
      (run actions).settled ++ [⟨reader, message⟩] := by
  obtain ⟨inHand, isOpen⟩ := mem_inHands_iff.1 held
  rw [run_snoc, act, if_pos inHand]
  exact (settled_acknowledge (consistent_run actions) (answered_run actions) inHand).1 isOpen

/-- When a reader is closed, what it holds goes back to the head of the queue. -/
theorem ready_closeReader (actions : List (Action α)) (reader : ReaderRef) :
    ((run (actions ++ [.closeReader reader])).broker.queue reader.queue).ready =
      (run actions).broker.inHands reader ++
        ((run actions).broker.queue reader.queue).ready := by
  rw [run_snoc]
  cases found : (run actions).broker.openReader? reader with
  | none =>
    have closed : ((run actions).act (.closeReader reader)).broker =
        (run actions).broker.closeReader reader := Exchange.broker_closeReader _ reader
    simp [closed, Broker.closeReader, Broker.inHands, found]
  | some state =>
    rw [Broker.inHands_of_openReader? found]
    exact congrArg (·.queue.ready) (ledger_closeReader found)

/-! ## Brokers that are closed -/

/-- The broker is closed, and no reader is open and whole. -/
structure IsShut (journal : Journal α) : Prop where
  closed : journal.broker.isClosed = true
  unwhole : ∀ reader, journal.broker.isBroken? reader ≠ some false

namespace IsShut

variable {journal : Journal α}

theorem of_close (journal : Journal α) : (journal.act .close).IsShut where
  closed := rfl
  unwhole := by
    intro reader whole
    have broken : (journal.act .close).broker.isBroken? reader = _ :=
      journal.broker.isBroken?_close reader
    simp [broken] at whole

omit [DecidableEq α] in
theorem openReader (shut : journal.IsShut) (name : String) :
    journal.broker.openReader name = .error Broker.refusal :=
  Broker.openReader_of_isClosed shut.closed name

theorem isClosed_act (shut : journal.IsShut) (action : Action α) :
    (journal.act action).broker.isClosed = true := by
  have kept (later : Broker) (same : ∃ queues, later = { journal.broker with queues }) :
      later.isClosed = true := by
    obtain ⟨_, rfl⟩ := same
    exact shut.closed
  cases action with
  | openReader name =>
    rw [act_openReader_of_error (shut.openReader name)]
    exact shut.closed
  | takeTurn read =>
    simp only [Journal.act]
    split
    · exact kept _ (journal.broker_takeTurn read ▸ journal.broker.exists_queues_read read.reader)
    · exact shut.closed
  | acknowledge delivery =>
    simp only [Journal.act]
    split
    · exact kept _ (journal.broker.exists_queues_acknowledge delivery)
    · exact shut.closed
  | closeReader reader =>
    have closed : (journal.act (.closeReader reader)).broker = journal.broker.closeReader reader :=
      Exchange.broker_closeReader _ _
    exact kept _ (closed ▸ journal.broker.exists_queues_closeReader reader)
  | close => rfl
  | _ => exact shut.closed

/-- **Whatever is done, a closed broker stays closed.** -/
theorem act (shut : journal.IsShut) (action : Action α) : (journal.act action).IsShut where
  closed := shut.isClosed_act action
  unwhole := by
    intro reader
    rcases journal.isBroken?_act action reader with ⟨⟨_, opened⟩, _⟩ | after
    · cases (shut.openReader reader.queue).symm.trans opened
    · rw [after]
      exact action.isBrokenAfter?_ne_whole (shut.unwhole reader)

end IsShut

theorem isShut_run (closed : .close ∈ actions) : (run actions).IsShut := by
  induction actions using List.reverseRecOn with
  | nil => exact absurd closed List.not_mem_nil
  | append_singleton actions action ih =>
    rw [run_snoc]
    rcases List.mem_append.1 closed with before | last
    · exact (ih before).act action
    · obtain rfl := List.mem_singleton.1 last
      exact .of_close _

/-! ## What is permanent, and what is not lost -/

/-- **Broken readers and closed brokers stay so, and lose nothing.** After every history and in
every continuation:

* a reader that is opened has broken just if, since it was opened, its own queue was interrupted or
  the broker closed;
* each read of a broken reader fails, as a detached one until it is closed and as a closed one
  from then on; it delivers nothing more and no read of it waits. What it holds it holds until this
  is acknowledged, which settles it, or the reader is closed, which puts it back before what waits;
* after the broker is closed nothing is delivered to anybody, all reads fail, and no reader is
  opened, also if the broker is said to be available;
* an opening that fails changes nothing. -/
theorem broken_for_good (actions more : List (Action α)) :
    let journal := run actions
    let later := run (actions ++ more)
    (∀ name reader opened, journal.broker.openReader name = .ok (reader, opened) →
      let since := (run (actions ++ .openReader name :: more)).broker
      (.closeReader reader ∈ more → since.isBroken? reader = none) ∧
      (.closeReader reader ∉ more → ∃ isBroken, since.isBroken? reader = some isBroken ∧
        (isBroken = true ↔ .interrupt name ∈ more ∨ .close ∈ more))) ∧
    (∀ reader, journal.broker.isBroken? reader = some true →
      (.closeReader reader ∉ more → later.broker.read reader =
        (.failed (.receive reader.queue "link detached"), later.broker)) ∧
      (.closeReader reader ∈ more → later.broker.read reader =
        (.failed (.closed reader.queue), later.broker)) ∧
      (later.delivered.filter fun delivery => delivery.reader = reader) =
        (journal.delivered.filter fun delivery => delivery.reader = reader) ∧
      (∀ read ∈ later.exchange.waiting, read.reader ≠ reader) ∧
      (∀ message ∈ journal.broker.inHands reader, .closeReader reader ∉ more →
        message ∈ later.broker.inHands reader ∨ ⟨reader, message⟩ ∈ later.acknowledged) ∧
      (∀ message ∈ later.broker.inHands reader,
        (run (actions ++ more ++ [.acknowledge ⟨reader, message⟩])).settled =
          later.settled ++ [⟨reader, message⟩]) ∧
      ((run (actions ++ more ++ [.closeReader reader])).broker.queue reader.queue).ready =
        later.broker.inHands reader ++ (later.broker.queue reader.queue).ready) ∧
    (.close ∈ actions → later.delivered = journal.delivered ∧
      (∀ reader, ∃ fault, later.broker.read reader = (.failed fault, later.broker)) ∧
      ∀ name, later.broker.openReader name = .error Broker.refusal) ∧
    ∀ name fault, journal.broker.openReader name = .error fault →
      fault = Broker.refusal ∧ run (actions ++ [.openReader name]) = journal ∧
      ∀ (session : Session) (bound : String), session.exchange.broker = journal.broker →
        session.readers.get? bound = none →
        session.serve (.openReader bound name) = (.failed fault, session) := by
  intro journal later
  refine ⟨fun _ _ _ accepted => isBroken?_of_opened accepted more, ?broken, ?shut, ?refused⟩
  case broken =>
    intro reader broken
    obtain ⟨closed, unclosed⟩ := isBroken?_run broken more
    have detached : .closeReader reader ∉ more → later.broker.isBroken? reader = some true := by
      intro still
      obtain ⟨after, known, iff⟩ := unclosed still
      rw [known, iff.2 (.inl rfl)]
    have unwhole := not_whole_of_broken broken
    refine ⟨fun still => Broker.read_of_isBroken (detached still),
      fun gone => Broker.read_of_isBroken?_eq_none (closed gone), ?_, fun read waits same => ?_,
      fun message held still => mem_inHands_run held more still,
      fun message held => settled_of_inHands held, ready_closeReader _ reader⟩
    · refine filter_delivered_run more (fun other => other = reader) fun other same earlier _ => ?_
      rw [of_decide_eq_true same]
      exact unwhole earlier
    · have nothing := isIdle_run (actions ++ more) read waits
      exact unwhole more (same ▸ nothing.isBroken?_eq)
  case shut =>
    intro closed
    have shut (earlier : List (Action α)) : (run (actions ++ earlier)).IsShut :=
      isShut_run (List.mem_append_left _ closed)
    refine ⟨?_, fun reader => Broker.exists_read_failed ((shut more).unwhole reader),
      (shut more).openReader⟩
    have same : (later.delivered.filter fun _ => true) = journal.delivered.filter fun _ => true :=
      filter_delivered_run more (fun _ => true) fun reader _ earlier _ =>
        (shut earlier).unwhole reader
    simpa using same
  case refused =>
    intro name fault refused
    refine ⟨Broker.eq_refusal_of_openReader refused, ?_, fun session bound same unbound => ?_⟩
    · rw [run_snoc, act_openReader_of_error refused]
    · simp [Session.serve, Exchange.openReader, same, refused, Session.dropReader, unbound]

/-- A reader that breaks with a message in hand. -/
example :
    let reader : ReaderRef := ⟨"workers", 0⟩
    let broker := (run [.publish "workers" "a", .openReader "workers", .beginRead ⟨(), reader⟩,
      .takeTurn ⟨(), reader⟩, .interrupt "workers"]).broker
    broker.isBroken? reader = some true ∧ broker.inHands reader = [⟨0, "a"⟩] := by
  decide

end Journal

end Turnstile
