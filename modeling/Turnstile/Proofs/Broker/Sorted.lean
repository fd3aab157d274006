import Turnstile.Proofs.Broker.Acknowledgments

/-!
# Sorted queues

A reader may hold any number of messages and acknowledge them in any order, so what it gives back
when it is closed has gaps. As long as never more than one reader is open on a queue, the queue
stays **sorted** all the same (`Ledger.Sorted`): what waits comes in ascending order of the tags,
and behind everything that its reader has received. Only the closing of a reader needs this
assumption, for what one reader gives back can be younger than what another one holds.

In a sorted queue with nothing in flight, what waits begins with the messages that were delivered
and not acknowledged, and goes on with those that nobody has received (`Ledger.Sorted.ready_eq`).
-/

set_option autoImplicit false

namespace Turnstile

/-! ## Messages in ascending order -/

namespace Message

/-- Each message was published before the next one. -/
def Ascending (messages : List Message) : Prop :=
  messages.Pairwise fun earlier later => earlier.tag < later.tag

theorem Ascending.nodup {messages : List Message} (ascending : Ascending messages) :
    messages.Nodup :=
  ascending.imp fun less same => Nat.ne_of_lt less (congrArg tag same)

/-- A message with a tag above all others comes last. -/
theorem Ascending.concat {messages : List Message} {message : Message}
    (ascending : Ascending messages) (last : ∀ earlier ∈ messages, earlier.tag < message.tag) :
    Ascending (messages ++ [message]) := by
  refine List.pairwise_append.2 ⟨ascending, List.pairwise_singleton _ _, ?_⟩
  intro earlier member other here
  rw [List.mem_singleton.1 here]
  exact last earlier member

/-- There is one ascending order only. -/
theorem Ascending.eq_of_perm {first second : List Message} (here : Ascending first)
    (there : Ascending second) (same : first.Perm second) : first = second := by
  refine same.eq_of_pairwise (fun _ _ _ _ less more => ?_) here there
  exact absurd (Nat.lt_trans less more) (Nat.lt_irrefl _)

/-- A message with a tag above all others is put at the end. -/
theorem insertByTag_eq_append {message : Message} {messages : List Message}
    (after : ∀ held ∈ messages, held.tag < message.tag) :
    message.insertByTag messages = messages ++ [message] := by
  induction messages with
  | nil => rfl
  | cons head tail ih =>
    obtain ⟨first, others⟩ := List.forall_mem_cons.1 after
    rw [insertByTag, if_neg (Nat.lt_asymm first), ih others, List.cons_append]

end Message

namespace Ledger

variable {name : String} {ledger later : Ledger} {reader : ReaderRef} {state : OpenReader}
  {message : Message} {number : Nat}

/-! ## Sorted queues -/

/-- The messages that the reader with a number has received, in this order. -/
def receivedBy (ledger : Ledger) (number : Nat) : List Message :=
  (ledger.delivered.filter fun delivery => delivery.reader.number = number).map (·.message)

theorem mem_receivedBy : message ∈ ledger.receivedBy number ↔
    ∃ delivery ∈ ledger.delivered, delivery.reader.number = number ∧
      delivery.message = message := by
  simp [receivedBy, and_assoc]

theorem receivedBy_deliver (ready : List Message) (number : Nat) :
    (ledger.deliver reader state message ready).receivedBy number =
      if reader.number = number then ledger.receivedBy number ++ [message]
      else ledger.receivedBy number := by
  by_cases same : reader.number = number <;> simp [receivedBy, deliver, same]

/-- Under the number of the next reader nothing has been delivered yet. -/
theorem Attributed.receivedBy_nextReader (attributed : ledger.Attributed name) :
    ledger.receivedBy ledger.nextReader = [] := by
  rw [List.eq_nil_iff_forall_not_mem]
  intro message received
  obtain ⟨delivery, given, new, _⟩ := mem_receivedBy.1 received
  exact absurd (attributed.numbered delivery given) (new ▸ Nat.lt_irrefl _)

/-- What a reader holds it has received. -/
theorem Attributed.receivedBy_of_held (attributed : ledger.Attributed name)
    (found : ledger.queue.readers.get? number = some state) (held : message ∈ state.inFlight) :
    message ∈ ledger.receivedBy number :=
  mem_receivedBy.2 ⟨_, ((attributed.holds _ _ found _).1 held).1, rfl, rfl⟩

theorem Balanced.published_of_ready (balanced : ledger.Balanced)
    (waits : message ∈ ledger.queue.ready) : message ∈ ledger.published :=
  balanced.conserved.subset (List.mem_append_left _ (List.mem_append_left _ waits))

/-- A queue is sorted if what was published, what waits, what each reader has received and what it
still holds are all in ascending order, and what an open reader has received comes before everything
that waits. Only what was delivered is settled, only what was published is delivered, and what
nobody has received comes behind all that somebody has. -/
structure Sorted (ledger : Ledger) : Prop where
  published : Message.Ascending ledger.published
  ready : Message.Ascending ledger.queue.ready
  held : ∀ number state, ledger.queue.readers.get? number = some state →
    Message.Ascending state.inFlight
  received : ∀ number, Message.Ascending (ledger.receivedBy number)
  passed : ∀ number state, ledger.queue.readers.get? number = some state →
    ∀ message ∈ ledger.receivedBy number, ∀ waiting ∈ ledger.queue.ready,
      message.tag < waiting.tag
  answered : ∀ delivery ∈ ledger.settled, delivery ∈ ledger.delivered
  known : ∀ delivery ∈ ledger.delivered, delivery.message ∈ ledger.published
  touched : ∀ delivery ∈ ledger.delivered, ∀ message ∈ ledger.published,
    message ∉ ledger.delivered.map (·.message) → delivery.message.tag < message.tag

namespace Sorted

theorem unused : Ledger.unused.Sorted where
  published := .nil
  ready := .nil
  held := fun _ _ found => nomatch found
  received := fun _ => .nil
  passed := fun _ _ found => nomatch found
  answered := fun _ member => absurd member List.not_mem_nil
  known := fun _ member => absurd member List.not_mem_nil
  touched := fun _ member => absurd member List.not_mem_nil

/-- What is in flight comes before everything that waits. -/
theorem inFlight_lt (balanced : ledger.Balanced) (attributed : ledger.Attributed name)
    (sorted : ledger.Sorted) (held : message ∈ ledger.queue.inFlight) {waiting : Message}
    (waits : waiting ∈ ledger.queue.ready) : message.tag < waiting.tag := by
  obtain ⟨number, state, found, held⟩ := Queue.exists_reader_of_mem_inFlight balanced.separate held
  exact sorted.passed number state found _ (attributed.receivedBy_of_held found held) _ waits

/-- What nobody has received waits. -/
theorem ready_of_undelivered (balanced : ledger.Balanced) (attributed : ledger.Attributed name)
    (sorted : ledger.Sorted) (published : message ∈ ledger.published)
    (undelivered : message ∉ ledger.delivered.map (·.message)) :
    message ∈ ledger.queue.ready := by
  rcases List.mem_append.1 (balanced.conserved.mem_iff.2 published) with unsettled | settled
  · rcases List.mem_append.1 unsettled with waits | held
    · exact waits
    · obtain ⟨number, state, found, held⟩ :=
        Queue.exists_reader_of_mem_inFlight balanced.separate held
      have given := ((attributed.holds number state found message).1 held).1
      exact absurd (List.mem_map.2 ⟨_, given, rfl⟩) undelivered
  · obtain ⟨delivery, answered, rfl⟩ := List.mem_map.1 settled
    exact absurd (List.mem_map.2 ⟨delivery, sorted.answered delivery answered, rfl⟩) undelivered

theorem publish (balanced : ledger.Balanced) (sorted : ledger.Sorted) (body : String) :
    (ledger.publish body).Sorted where
  published := sorted.published.concat balanced.tagged
  ready := sorted.ready.concat fun message waits =>
    balanced.tagged message (balanced.published_of_ready waits)
  held := sorted.held
  received := sorted.received
  passed := by
    intro number state found message received waiting waits
    rcases List.mem_append.1 waits with old | new
    · exact sorted.passed number state found message received waiting old
    · obtain ⟨delivery, given, _, rfl⟩ := mem_receivedBy.1 received
      rw [List.mem_singleton.1 new]
      exact balanced.tagged _ (sorted.known delivery given)
  answered := sorted.answered
  known := fun delivery given => List.mem_append_left _ (sorted.known delivery given)
  touched := by
    intro delivery given message published undelivered
    rcases List.mem_append.1 published with old | new
    · exact sorted.touched delivery given message old undelivered
    · rw [List.mem_singleton.1 new]
      exact balanced.tagged _ (sorted.known delivery given)

theorem openReader (attributed : ledger.Attributed name) (sorted : ledger.Sorted) :
    ledger.openReader.Sorted where
  published := sorted.published
  ready := sorted.ready
  held := by
    intro number state found
    rcases Table.get?_set_cases found with ⟨_, rfl⟩ | ⟨_, before⟩
    · exact .nil
    · exact sorted.held number state before
  received := sorted.received
  passed := by
    intro number state found message received
    rcases Table.get?_set_cases found with ⟨rfl, _⟩ | ⟨_, before⟩
    · have nothing := attributed.receivedBy_nextReader
      exact absurd (nothing ▸ received) List.not_mem_nil
    · exact sorted.passed number state before message received
  answered := sorted.answered
  known := sorted.known
  touched := sorted.touched

/-- What is delivered comes behind all that its reader has received, and before all that still
waits. -/
theorem deliver (balanced : ledger.Balanced) (attributed : ledger.Attributed name)
    (sorted : ledger.Sorted) (found : ledger.queue.readers.get? reader.number = some state)
    {ready : List Message} (head : ledger.queue.ready = message :: ready) :
    (ledger.deliver reader state message ready).Sorted := by
  have waits : message ∈ ledger.queue.ready := head ▸ List.mem_cons_self
  have behind : ∀ earlier ∈ ledger.receivedBy reader.number, earlier.tag < message.tag :=
    fun earlier received => sorted.passed _ _ found earlier received message waits
  have remained : ∀ waiting ∈ ready, waiting ∈ ledger.queue.ready :=
    fun waiting remains => head ▸ List.mem_cons_of_mem _ remains
  obtain ⟨before, ascending⟩ := List.pairwise_cons.1 (head ▸ sorted.ready)
  refine ⟨sorted.published, ascending, ?held, ?received, ?passed, ?answered, ?known, ?touched⟩
  case held =>
    intro number state' found'
    rcases Table.get?_set_cases found' with ⟨_, rfl⟩ | ⟨_, same⟩
    · have after : ∀ held ∈ state.inFlight, held.tag < message.tag := fun held member =>
        behind held (attributed.receivedBy_of_held found member)
      show Message.Ascending (message.insertByTag state.inFlight)
      rw [Message.insertByTag_eq_append after]
      exact (sorted.held _ _ found).concat after
    · exact sorted.held number state' same
  case received =>
    intro number
    rw [receivedBy_deliver]
    split
    case isTrue same => exact same ▸ (sorted.received _).concat behind
    case isFalse => exact sorted.received number
  case passed =>
    intro number state' found' earlier received waiting remains
    rw [receivedBy_deliver] at received
    rcases Table.get?_set_cases found' with ⟨rfl, _⟩ | ⟨different, same⟩
    · rw [if_pos rfl] at received
      rcases List.mem_append.1 received with old | new
      · exact sorted.passed _ _ found earlier old waiting (remained waiting remains)
      · rw [List.mem_singleton.1 new]
        exact before waiting remains
    · rw [if_neg (Ne.symm different)] at received
      exact sorted.passed number state' same earlier received waiting (remained waiting remains)
  case answered =>
    intro delivery settled
    exact List.mem_append_left _ (sorted.answered delivery settled)
  case known =>
    intro delivery given
    rcases List.mem_append.1 given with old | new
    · exact sorted.known delivery old
    · rw [List.mem_singleton.1 new]
      exact balanced.published_of_ready waits
  case touched =>
    intro delivery given other published undelivered
    simp only [Ledger.deliver, List.map_append, List.mem_append, not_or] at undelivered
    obtain ⟨untouched, different⟩ := undelivered
    rcases List.mem_append.1 given with old | new
    · exact sorted.touched delivery old other published untouched
    · rw [List.mem_singleton.1 new]
      have waited := ready_of_undelivered balanced attributed sorted published untouched
      rcases List.mem_cons.1 (head ▸ waited) with rfl | remains
      · exact absurd (List.mem_singleton_self _) different
      · exact before other remains

theorem settle (attributed : ledger.Attributed name) (sorted : ledger.Sorted)
    (here : reader.queue = name) (found : ledger.queue.readers.get? reader.number = some state)
    (held : message ∈ state.inFlight) : (ledger.settle reader state message).Sorted where
  published := sorted.published
  ready := sorted.ready
  held := by
    intro number state' found'
    rcases Table.get?_set_cases found' with ⟨_, rfl⟩ | ⟨_, same⟩
    · exact (sorted.held _ _ found).filter _
    · exact sorted.held number state' same
  received := sorted.received
  passed := by
    intro number state' found'
    rcases Table.get?_set_cases found' with ⟨rfl, _⟩ | ⟨_, same⟩
    · exact sorted.passed _ _ found
    · exact sorted.passed number state' same
  answered := by
    subst here
    intro delivery settled
    rcases List.mem_append.1 settled with old | new
    · exact sorted.answered delivery old
    · rw [List.mem_singleton.1 new]
      exact ((attributed.holds _ _ found message).1 held).1
  known := sorted.known
  touched := sorted.touched

/-- What the only open reader gives back comes before everything that waits. -/
theorem closeReader (attributed : ledger.Attributed name) (sorted : ledger.Sorted)
    (single : ledger.queue.readers.size ≤ 1)
    (found : ledger.queue.readers.get? reader.number = some state) :
    (ledger.closeReader reader state).Sorted := by
  have alone := Table.get?_erase_of_size_le_one single found
  refine ⟨sorted.published, ?_, ?_, sorted.received, ?_, sorted.answered, sorted.known,
    sorted.touched⟩
  · refine List.pairwise_append.2 ⟨sorted.held _ _ found, sorted.ready, ?_⟩
    intro held member
    exact sorted.passed _ _ found held (attributed.receivedBy_of_held found member)
  · intro number state' found'
    exact nomatch (alone number).symm.trans found'
  · intro number state' found'
    exact nomatch (alone number).symm.trans found'

theorem breakReaders (sorted : ledger.Sorted) : ledger.breakReaders.Sorted := by
  refine ⟨sorted.published, sorted.ready, ?_, sorted.received, ?_, sorted.answered, sorted.known,
    sorted.touched⟩
  · intro number state' found'
    obtain ⟨state, found, rfl⟩ := Table.exists_of_get?_mapValues found'
    exact sorted.held number state found
  · intro number state' found'
    obtain ⟨state, found, _⟩ := Table.exists_of_get?_mapValues found'
    exact sorted.passed number state found

/-- **Every change keeps a queue with one reader at most sorted.** -/
theorem of_change (balanced : ledger.Balanced) (attributed : ledger.Attributed name)
    (sorted : ledger.Sorted) (single : ledger.queue.readers.size ≤ 1)
    (change : ledger.Change name later) : later.Sorted := by
  cases change with
  | elsewhere _ _ => exact { sorted with }
  | publish body => exact sorted.publish balanced body
  | openReader => exact sorted.openReader attributed
  | deliver _ found _ head => exact sorted.deliver balanced attributed found head
  | settle here found held => exact sorted.settle attributed here found held
  | closeReader _ found => exact sorted.closeReader attributed single found
  | breakReaders => exact sorted.breakReaders

end Sorted

/-! ## What waits when no reader is open -/

/-- The messages that were delivered and not acknowledged, in the order of their publication. -/
def due (ledger : Ledger) : List Message :=
  ledger.published.filter fun message =>
    message ∈ ledger.delivered.map (·.message) ∧ message ∉ ledger.settled.map (·.message)

/-- Among some messages those that nobody has received. -/
def undelivered (ledger : Ledger) (messages : List Message) : List Message :=
  messages.filter fun message => message ∉ ledger.delivered.map (·.message)

theorem mem_due : message ∈ ledger.due ↔ message ∈ ledger.published ∧
    message ∈ ledger.delivered.map (·.message) ∧ message ∉ ledger.settled.map (·.message) := by
  rw [due, List.mem_filter, decide_eq_true_eq]

theorem mem_undelivered {messages : List Message} : message ∈ ledger.undelivered messages ↔
    message ∈ messages ∧ message ∉ ledger.delivered.map (·.message) := by
  rw [undelivered, List.mem_filter, decide_eq_true_eq]

namespace Sorted

/-- **With nothing in flight, what waits is what is due, followed by what nobody has received.** -/
theorem ready_eq (balanced : ledger.Balanced) (attributed : ledger.Attributed name)
    (sorted : ledger.Sorted) (nothing : ledger.queue.inFlight = []) :
    ledger.queue.ready = ledger.due ++ ledger.undelivered ledger.published := by
  have ascending : Message.Ascending (ledger.due ++ ledger.undelivered ledger.published) := by
    refine List.pairwise_append.2 ⟨sorted.published.filter _, sorted.published.filter _, ?_⟩
    intro message isDue other untouched
    obtain ⟨delivery, given, rfl⟩ := List.mem_map.1 (mem_due.1 isDue).2.1
    obtain ⟨published, undelivered⟩ := mem_undelivered.1 untouched
    exact sorted.touched delivery given other published undelivered
  apply sorted.ready.eq_of_perm ascending
  apply (List.perm_ext_iff_of_nodup sorted.ready.nodup ascending.nodup).2
  intro message
  have conserved := balanced.conserved.mem_iff (a := message)
  have nodup := balanced.nodup
  rw [nothing, List.append_nil] at conserved nodup
  rw [List.mem_append, mem_due, mem_undelivered]
  constructor
  · intro waits
    have published := balanced.published_of_ready waits
    by_cases given : message ∈ ledger.delivered.map (·.message)
    · refine .inl ⟨published, given, fun settled => ?_⟩
      exact (List.nodup_append.1 nodup).2.2 message waits message settled rfl
    · exact .inr ⟨published, given⟩
  · rintro (⟨published, _, unsettled⟩ | ⟨published, undelivered⟩)
    · exact (List.mem_append.1 (conserved.2 published)).resolve_right unsettled
    · exact ready_of_undelivered balanced attributed sorted published undelivered

/-- What was delivered is not published again, so it does not matter for what is due what is
published later. -/
theorem notMem_delivered (sorted : ledger.Sorted) {added : List Message}
    (distinct : (ledger.published ++ added).Nodup) (new : message ∈ added) :
    message ∉ ledger.delivered.map (·.message) := by
  intro member
  obtain ⟨delivery, given, rfl⟩ := List.mem_map.1 member
  exact (List.nodup_append.1 distinct).2.2 _ (sorted.known delivery given) _ new rfl

theorem undelivered_append (sorted : ledger.Sorted) {added : List Message}
    (distinct : (ledger.published ++ added).Nodup) :
    ledger.undelivered (ledger.published ++ added) =
      ledger.undelivered ledger.published ++ added := by
  rw [undelivered, List.filter_append, undelivered, List.append_cancel_left_eq,
    List.filter_eq_self]
  exact fun message new => decide_eq_true (sorted.notMem_delivered distinct new)

theorem due_eq (sorted : ledger.Sorted) {added : List Message}
    (published : later.published = ledger.published ++ added)
    (distinct : later.published.Nodup) (delivered : later.delivered = ledger.delivered)
    (settled : later.settled = ledger.settled) : later.due = ledger.due := by
  rw [published] at distinct
  rw [due, published, delivered, settled, List.filter_append, due, List.append_right_eq_self,
    List.filter_eq_nil_iff]
  intro message new isDue
  exact sorted.notMem_delivered distinct new (of_decide_eq_true isDue).1

end Sorted

end Ledger

end Turnstile
