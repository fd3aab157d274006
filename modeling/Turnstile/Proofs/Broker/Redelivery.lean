import Mathlib.Data.List.Infix
import Turnstile.Proofs.Broker.Sorted

/-!
# Redelivery in the order of publication

On a queue with one reader at most, a reader receives what waits when it is opened and then what is
published, in this order (`Ledger.Resumes`). The queue is sorted, and when the reader before was
closed nothing is in flight. So the next one gets first the messages that were delivered and not
acknowledged by then, in the order of their publication, and after these what nobody has received
(`Journal.redelivers_in_order`). What is acknowledged after the closing settles nothing, and as long
as no reader is open nothing is delivered, so it does not matter when the next one comes.
-/

set_option autoImplicit false

namespace Turnstile

namespace Ledger

variable {name : String} {ledger later : Ledger} {reader : ReaderRef} {state : OpenReader}
  {message : Message} {number : Nat}

/-! ## What the next reader receives -/

theorem Change.exists_added (change : ledger.Change name later) :
    ∃ added, later.published = ledger.published ++ added := by
  cases change with
  | publish body => exact ⟨_, rfl⟩
  | _ => exact ⟨[], (List.append_nil _).symm⟩

/-- Where no reader is open nothing is delivered or settled, unless a reader is opened. -/
theorem Change.of_no_reader (change : ledger.Change name later)
    (none : ledger.queue.readers.size = 0) :
    later.queue.openedCount = ledger.queue.openedCount + 1 ∨
      (later.queue.openedCount = ledger.queue.openedCount ∧ later.queue.readers.size = 0 ∧
        later.delivered = ledger.delivered ∧ later.settled = ledger.settled) := by
  have closed := Table.get?_of_size_eq_zero none
  cases change with
  | openReader => exact .inl rfl
  | deliver _ found _ _ => exact nomatch (closed _).symm.trans found
  | settle _ found _ => exact nomatch (closed _).symm.trans found
  | closeReader _ found => exact nomatch (closed _).symm.trans found
  | breakReaders =>
    refine .inr ⟨rfl, ?_, rfl, rfl⟩
    exact (List.length_map _).trans none
  | _ => exact .inr ⟨rfl, none, rfl, rfl⟩

theorem Change.openedCount_le (change : ledger.Change name later) :
    ledger.queue.openedCount ≤ later.queue.openedCount := by
  cases change with
  | openReader => exact Nat.le_succ _
  | _ => exact Nat.le_refl _

/-- A reader that was opened when some messages waited, since when some more were published, has
received a front part of these. What it has not received waits, as long as it is open. -/
structure Resumes (number : Nat) (messages : List Message) (ledger : Ledger) : Prop where
  numbered : number < ledger.nextReader
  received : ledger.receivedBy number <+: messages
  remains : ∀ state, ledger.queue.readers.get? number = some state →
    ledger.receivedBy number ++ ledger.queue.ready = messages

namespace Resumes

variable {messages : List Message}

theorem start (attributed : ledger.Attributed name) :
    ledger.openReader.Resumes ledger.nextReader ledger.queue.ready := by
  have nothing : ledger.openReader.receivedBy ledger.nextReader = [] :=
    attributed.receivedBy_nextReader
  refine ⟨Nat.lt_succ_self _, ?_, fun _ _ => ?_⟩
  · rw [nothing]
    exact List.nil_prefix
  · rw [nothing]
    rfl

theorem publish (resumes : ledger.Resumes number messages) (body : String) :
    (ledger.publish body).Resumes number (messages ++ [⟨ledger.nextTag, body⟩]) where
  numbered := resumes.numbered
  received := resumes.received.trans (List.prefix_append _ _)
  remains := by
    intro state found
    rw [← resumes.remains state found, List.append_assoc]
    rfl

theorem openReader (resumes : ledger.Resumes number messages) :
    ledger.openReader.Resumes number messages where
  numbered := Nat.lt_succ_of_lt resumes.numbered
  received := resumes.received
  remains := by
    intro state found
    rcases Table.get?_set_cases found with ⟨rfl, _⟩ | ⟨_, before⟩
    · exact absurd resumes.numbered (Nat.lt_irrefl _)
    · exact resumes.remains state before

/-- The next message that waits goes to the reader, if it is open, for no other one is. -/
theorem deliver (resumes : ledger.Resumes number messages)
    (single : ledger.queue.readers.size ≤ 1)
    (found : ledger.queue.readers.get? reader.number = some state) {ready : List Message}
    (head : ledger.queue.ready = message :: ready) :
    (ledger.deliver reader state message ready).Resumes number messages := by
  by_cases same : reader.number = number
  · subst same
    have received : (ledger.deliver reader state message ready).receivedBy reader.number =
        ledger.receivedBy reader.number ++ [message] := by
      rw [receivedBy_deliver, if_pos rfl]
    have sequence : ledger.receivedBy reader.number ++ [message] ++ ready = messages := by
      rw [List.append_assoc, List.singleton_append, ← head, resumes.remains state found]
    exact ⟨resumes.numbered, received ▸ ⟨ready, sequence⟩, fun _ _ => received ▸ sequence⟩
  · have received : (ledger.deliver reader state message ready).receivedBy number =
        ledger.receivedBy number := by
      rw [receivedBy_deliver, if_neg same]
    refine ⟨resumes.numbered, received ▸ resumes.received, fun state' found' => ?_⟩
    rcases Table.get?_set_cases found' with ⟨rfl, _⟩ | ⟨_, before⟩
    · exact absurd rfl same
    · exact absurd (Table.eq_of_size_le_one single found before) same

theorem settle (resumes : ledger.Resumes number messages)
    (found : ledger.queue.readers.get? reader.number = some state) :
    (ledger.settle reader state message).Resumes number messages where
  numbered := resumes.numbered
  received := resumes.received
  remains := by
    intro state' found'
    rcases Table.get?_set_cases found' with ⟨rfl, _⟩ | ⟨_, before⟩
    · exact resumes.remains state found
    · exact resumes.remains state' before

/-- When a reader is closed no other one is open. -/
theorem closeReader (resumes : ledger.Resumes number messages)
    (single : ledger.queue.readers.size ≤ 1)
    (found : ledger.queue.readers.get? reader.number = some state) :
    (ledger.closeReader reader state).Resumes number messages where
  numbered := resumes.numbered
  received := resumes.received
  remains := by
    intro state' found'
    rw [Ledger.closeReader, Table.get?_erase_of_size_le_one single found] at found'
    cases found'

theorem breakReaders (resumes : ledger.Resumes number messages) :
    ledger.breakReaders.Resumes number messages where
  numbered := resumes.numbered
  received := resumes.received
  remains := by
    intro state' found'
    obtain ⟨state, found, _⟩ := Table.exists_of_get?_mapValues found'
    exact resumes.remains state found

/-- **Every change to a queue with one reader at most leaves a reader where it was in what waited
for it.** -/
theorem of_change (resumes : ledger.Resumes number messages)
    (single : ledger.queue.readers.size ≤ 1) (change : ledger.Change name later) :
    ∃ added, later.published = ledger.published ++ added ∧
      later.Resumes number (messages ++ added) := by
  have nothing {later : Ledger} (same : later.published = ledger.published)
      (goesOn : later.Resumes number messages) :
      ∃ added, later.published = ledger.published ++ added ∧
        later.Resumes number (messages ++ added) :=
    ⟨[], same.trans (List.append_nil _).symm, (List.append_nil messages).symm ▸ goesOn⟩
  cases change with
  | elsewhere _ moreReaders =>
    exact nothing rfl
      { resumes with numbered := Nat.lt_of_lt_of_le resumes.numbered moreReaders }
  | publish body => exact ⟨_, rfl, resumes.publish body⟩
  | openReader => exact nothing rfl resumes.openReader
  | deliver _ found _ head => exact nothing rfl (resumes.deliver single found head)
  | settle _ found _ => exact nothing rfl (resumes.settle found)
  | closeReader _ found => exact nothing rfl (resumes.closeReader single found)
  | breakReaders => exact nothing rfl resumes.breakReaders

end Resumes

end Ledger

/-! ## Histories with one reader at most -/

namespace Journal

variable {α : Type} [DecidableEq α] {name : String} {actions : List (Action α)}

/-- Never in the history is more than one reader open on the queue. -/
def AtMostOneReader (name : String) (actions : List (Action α)) : Prop :=
  ∀ earlier, earlier <+: actions → ((run earlier).broker.queue name).readers.size ≤ 1

theorem AtMostOneReader.of_append {later : List (Action α)}
    (single : AtMostOneReader name (actions ++ later)) : AtMostOneReader name actions :=
  fun earlier shorter => single earlier (shorter.trans (List.prefix_append _ _))

theorem AtMostOneReader.size_le (single : AtMostOneReader name actions) :
    ((run actions).broker.queue name).readers.size ≤ 1 := single actions List.prefix_rfl

theorem sorted_run (single : AtMostOneReader name actions) :
    ((run actions).ledger name).Sorted := by
  induction actions using List.reverseRecOn with
  | nil => exact .unused
  | append_singleton earlier action ih =>
    have before := single.of_append
    rw [run_snoc]
    exact (ih before).of_change ((consistent_run earlier).balanced name)
      ((answered_run earlier).attributed name) before.size_le
      ((run earlier).ledger_change action name)

/-- What a reader has received since it was opened. -/
theorem exists_resumes {reader : ReaderRef} {opened : Broker} {after : List (Action α)}
    (accepted : (run actions).broker.openReader name = .ok (reader, opened))
    (single : AtMostOneReader name (actions ++ .openReader name :: after)) :
    let before := (run actions).ledger name
    let later := (run (actions ++ .openReader name :: after)).ledger name
    ∃ added, later.published = before.published ++ added ∧
      later.Resumes reader.number (before.queue.ready ++ added) := by
  induction after using List.reverseRecOn with
  | nil =>
    obtain ⟨rfl, ledger⟩ := ledger_openReader accepted
    rw [run_snoc, ledger]
    exact ⟨[], (List.append_nil _).symm,
      (List.append_nil _).symm ▸ .start ((answered_run actions).attributed name)⟩
  | append_singleton after action ih =>
    rw [← List.cons_append, ← List.append_assoc] at single ⊢
    obtain ⟨added, published, resumes⟩ := ih single.of_append
    rw [run_snoc]
    obtain ⟨more, published', resumes'⟩ := resumes.of_change single.of_append.size_le
      ((run _).ledger_change action name)
    refine ⟨added ++ more, ?_, List.append_assoc _ _ _ ▸ resumes'⟩
    rw [published', published, List.append_assoc]

/-- As long as no reader is opened on a queue without one, nothing is delivered or settled. -/
theorem exists_added_of_no_reader
    (none : ((run actions).broker.queue name).readers.size = 0) (later : List (Action α)) :
    let before := (run actions).ledger name
    let after := (run (actions ++ later)).ledger name
    before.queue.openedCount ≤ after.queue.openedCount ∧
      (∃ added, after.published = before.published ++ added) ∧
      (after.queue.openedCount = before.queue.openedCount → after.queue.readers.size = 0 ∧
        after.delivered = before.delivered ∧ after.settled = before.settled) := by
  induction later using List.reverseRecOn with
  | nil =>
    rw [List.append_nil]
    exact ⟨Nat.le_refl _, ⟨[], (List.append_nil _).symm⟩, fun _ => ⟨none, rfl, rfl⟩⟩
  | append_singleton later action ih =>
    obtain ⟨atLeast, ⟨added, published⟩, stays⟩ := ih
    rw [← List.append_assoc, run_snoc]
    have change := (run (actions ++ later)).ledger_change action name
    obtain ⟨more, published'⟩ := change.exists_added
    have grows := change.openedCount_le
    refine ⟨Nat.le_trans atLeast grows, ⟨added ++ more, ?_⟩, fun same => ?_⟩
    · rw [published', published, List.append_assoc]
    · have unopened := Nat.le_antisymm (same ▸ grows) atLeast
      obtain ⟨closed, delivered, settled⟩ := stays unopened
      rcases change.of_no_reader closed with opened | ⟨_, closed', delivered', settled'⟩
      · omega
      · exact ⟨closed', delivered'.trans delivered, settled'.trans settled⟩

/-- What waits when the next reader after one that was closed is opened: what was due when that one
was closed, and then what nobody has received. -/
theorem ready_of_reopened {closed : ReaderRef} {between : List (Action α)}
    (single : AtMostOneReader closed.queue (actions ++ .closeReader closed :: between))
    (isOpen : (run actions).broker.IsOpen closed) :
    let closing := (run actions).ledger closed.queue
    let reopening := (run (actions ++ .closeReader closed :: between)).ledger closed.queue
    reopening.queue.openedCount = closing.queue.openedCount →
      reopening.delivered = closing.delivered ∧
        reopening.queue.ready = closing.due ++ reopening.undelivered reopening.published := by
  intro closing reopening unopened
  obtain ⟨state, found⟩ := Broker.isOpen_iff.1 isOpen
  have closes : (run (actions ++ [.closeReader closed])).ledger closed.queue =
      closing.closeReader closed state := by
    rw [run_snoc]
    exact ledger_closeReader found
  have none : ((run (actions ++ [.closeReader closed])).broker.queue closed.queue).readers.size =
      0 := by
    have readers := congrArg (·.queue.readers.size) closes
    exact readers.trans (Table.size_erase_of_size_le_one single.of_append.size_le found)
  obtain ⟨_, ⟨added, published⟩, stays⟩ := exists_added_of_no_reader none between
  rw [List.append_assoc, List.singleton_append, closes] at published stays
  obtain ⟨empty, delivered, settled⟩ := stays unopened
  have balanced : reopening.Balanced := (consistent_run _).balanced closed.queue
  have nothing : reopening.queue.inFlight = [] := by
    rw [Queue.inFlight, Table.values, List.eq_nil_of_length_eq_zero empty]
    rfl
  refine ⟨delivered, ?_⟩
  rw [(sorted_run single).ready_eq balanced ((answered_run _).attributed closed.queue) nothing,
    (sorted_run single.of_append).due_eq published (.of_map _ balanced.distinct) delivered settled]

/-- **A queue with one reader at most redelivers in the order of publication.** In every history in
which never more than one reader is open on it, what waits is in strictly ascending order of the
tags, behind all that is in flight, and every reader receives messages in the order in which they
were published, each of them once at most. When a reader is closed, the next one that is opened
receives first the messages that were delivered and not acknowledged by then, exactly these and in
the order of their publication, and then those that nobody had received. What of this it has not
received waits in the queue as long as it is open. -/
theorem redelivers_in_order (single : AtMostOneReader name actions) :
    let journal := run actions
    let ledger := journal.ledger name
    let queue := journal.broker.queue name
    (queue.ready.map (·.tag)).Pairwise (· < ·) ∧
    (∀ held ∈ queue.inFlight, ∀ waiting ∈ queue.ready, held.tag < waiting.tag) ∧
    (∀ number, ((ledger.receivedBy number).map (·.tag)).Pairwise (· < ·) ∧
      (ledger.receivedBy number).Sublist ledger.published) ∧
    ∀ before closed between after,
      actions = before ++ .closeReader closed :: between ++ .openReader name :: after →
      closed.queue = name → (run before).broker.IsOpen closed →
      let closing := (run before).ledger name
      let reopening := run (before ++ .closeReader closed :: between)
      (reopening.broker.queue name).openedCount = closing.queue.openedCount →
      ∀ next opened, reopening.broker.openReader name = .ok (next, opened) →
        let sequence := closing.due ++ closing.undelivered ledger.published
        ledger.receivedBy next.number <+: sequence ∧
          (journal.broker.IsOpen next →
            ledger.receivedBy next.number ++ queue.ready = sequence) := by
  intro journal ledger queue
  have balanced : ledger.Balanced := (consistent_run actions).balanced name
  have attributed : ledger.Attributed name := (answered_run actions).attributed name
  have sorted : ledger.Sorted := sorted_run single
  refine ⟨List.pairwise_map.2 sorted.ready, fun held inFlight waiting waits =>
    sorted.inFlight_lt balanced attributed inFlight waits, fun number => ⟨?_, ?_⟩, ?_⟩
  · exact List.pairwise_map.2 (sorted.received number)
  · have known : ledger.receivedBy number ⊆ ledger.published := by
      intro message received
      obtain ⟨delivery, given, _, rfl⟩ := Ledger.mem_receivedBy.1 received
      exact sorted.known delivery given
    obtain ⟨part, same, isPart⟩ := List.subperm_of_subset (sorted.received number).nodup known
    exact (sorted.received number).eq_of_perm (sorted.published.sublist isPart) same.symm ▸ isPart
  · rintro before closed between after rfl rfl isOpen closing reopening unopened next opened
      accepted sequence
    obtain ⟨delivered, ready⟩ := ready_of_reopened single.of_append isOpen unopened
    obtain ⟨added, published, resumes⟩ := exists_resumes accepted single
    have distinct : ledger.published.Nodup := sorted.published.nodup
    have waited : (reopening.ledger closed.queue).queue.ready ++ added = sequence := by
      have later := (sorted_run single.of_append).undelivered_append (published ▸ distinct)
      rw [ready, List.append_assoc, ← later, ← published]
      exact congrArg (closing.due ++ ·) (by rw [Ledger.undelivered, Ledger.undelivered, delivered])
    rw [waited] at resumes
    refine ⟨resumes.received, fun isOpen' => ?_⟩
    obtain ⟨state, found⟩ := Broker.isOpen_iff.1 isOpen'
    obtain ⟨rfl, _⟩ := ledger_openReader accepted
    exact resumes.remains state found

/-- A history in which a reader acknowledges the second of the three messages that it holds, and is
closed when it has broken. The next reader has received two messages. -/
def gapInHand : List (Action Unit) :=
  let first : ReaderRef := ⟨"workers", 0⟩
  let second : ReaderRef := ⟨"workers", 1⟩
  [.publish "workers" "a", .publish "workers" "b", .publish "workers" "c",
    .publish "workers" "d", .openReader "workers", .beginRead ⟨(), first⟩, .takeTurn ⟨(), first⟩,
    .beginRead ⟨(), first⟩, .takeTurn ⟨(), first⟩, .beginRead ⟨(), first⟩, .takeTurn ⟨(), first⟩,
    .acknowledge ⟨first, ⟨1, "b"⟩⟩, .interrupt "workers", .closeReader first,
    .publish "workers" "e", .openReader "workers", .beginRead ⟨(), second⟩, .takeTurn ⟨(), second⟩,
    .beginRead ⟨(), second⟩, .takeTurn ⟨(), second⟩]

theorem redelivers_in_order_gapInHand :
    let ledger := (run gapInHand).ledger "workers"
    AtMostOneReader "workers" gapInHand ∧
      ledger.receivedBy 1 = [⟨0, "a"⟩, ⟨2, "c"⟩] ∧
      ledger.receivedBy 1 ++ ledger.queue.ready =
        [⟨0, "a"⟩, ⟨2, "c"⟩] ++ [⟨3, "d"⟩, ⟨4, "e"⟩] := by
  intro ledger
  have all : ∀ earlier ∈ gapInHand.inits,
      ((run earlier).broker.queue "workers").readers.size ≤ 1 := by
    decide
  have single : AtMostOneReader "workers" gapInHand :=
    fun earlier shorter => all earlier ((List.mem_inits _ _).2 shorter)
  obtain ⟨_, _, _, resumes⟩ := redelivers_in_order single
  obtain ⟨_, remains⟩ := resumes (gapInHand.take 13) ⟨"workers", 0⟩ (gapInHand.drop 14 |>.take 1)
    (gapInHand.drop 16) rfl rfl (by decide) (by decide) _ _ rfl
  exact ⟨single, by decide, (remains (by decide)).trans (by decide)⟩

end Journal

end Turnstile
