import Turnstile.Proofs.Broker.History

/-!
# What becomes of the readers of a broker

Each operation of the broker concerns the readers of one queue, or one of its readers only, and
leaves what is known about every other reader as it was. Opening and closing decide about one
reader, a delivery and an acknowledgment change what one reader holds, and readers that break keep
what they hold.
-/

set_option autoImplicit false

namespace Turnstile

namespace Broker

variable {broker : Broker} {reader other : ReaderRef} {delivery : Delivery}

/-- The messages that a reader holds; none if it is not open. -/
def inHands (broker : Broker) (reader : ReaderRef) : List Message :=
  ((broker.openReader? reader).map (·.inFlight)).getD []

theorem inHands_of_openReader? {state : OpenReader}
    (found : broker.openReader? reader = some state) : broker.inHands reader = state.inFlight := by
  simp [inHands, found]

/-! ## Queues that are replaced -/

theorem openReader?_setQueue_of_ne (broker : Broker) {name : String} (queue : Queue)
    (elsewhere : other.queue ≠ name) :
    (broker.setQueue name queue).openReader? other = broker.openReader? other := by
  rw [openReader?, queue_setQueue_of_ne broker queue elsewhere]
  rfl

theorem openReader?_setQueue_self (broker : Broker) (reader : ReaderRef) (queue : Queue) :
    (broker.setQueue reader.queue queue).openReader? reader =
      queue.readers.get? reader.number := by
  rw [openReader?, queue_setQueue_self]

/-- What replaces a queue is known of its readers from then on, but for those that are as they
were. -/
theorem openReader?_setQueue_of_same (broker : Broker) {name : String} {queue : Queue}
    (same : other.queue = name →
      queue.readers.get? other.number = (broker.queue name).readers.get? other.number) :
    (broker.setQueue name queue).openReader? other = broker.openReader? other := by
  by_cases here : other.queue = name
  · subst here
    rw [openReader?_setQueue_self, same rfl]
    rfl
  · exact openReader?_setQueue_of_ne broker queue here

/-- A change at one reader leaves the others alone. -/
theorem openReader?_setQueue_at (broker : Broker) {queue : Queue} (different : other ≠ reader)
    (same : ∀ number, number ≠ reader.number →
      queue.readers.get? number = (broker.queue reader.queue).readers.get? number) :
    (broker.setQueue reader.queue queue).openReader? other = broker.openReader? other := by
  refine openReader?_setQueue_of_same broker fun here => same _ fun sameNumber => ?_
  cases other
  cases reader
  exact different (congrArg₂ ReaderRef.mk here sameNumber)

/-! ## Publishing and breaking -/

theorem openReader?_publish (broker : Broker) (name body : String) (reader : ReaderRef) :
    (broker.publish name body).openReader? reader = broker.openReader? reader :=
  openReader?_setQueue_of_same broker fun _ => rfl

theorem inHands_publish (broker : Broker) (name body : String) (reader : ReaderRef) :
    (broker.publish name body).inHands reader = broker.inHands reader := by
  rw [inHands, openReader?_publish]
  rfl

theorem openReader?_interrupt_of_ne (broker : Broker) {name : String}
    (elsewhere : reader.queue ≠ name) :
    (broker.interrupt name).openReader? reader = broker.openReader? reader :=
  openReader?_setQueue_of_ne broker _ elsewhere

theorem inHands_interrupt (broker : Broker) (name : String) (reader : ReaderRef) :
    (broker.interrupt name).inHands reader = broker.inHands reader := by
  by_cases here : reader.queue = name
  · subst here
    rw [inHands, interrupt, openReader?_setQueue_self, Queue.breakReaders, Table.get?_mapValues,
      inHands, openReader?, Option.map_map]
    rfl
  · rw [inHands, openReader?_interrupt_of_ne broker here]
    rfl

theorem inHands_close (broker : Broker) (reader : ReaderRef) :
    broker.close.inHands reader = broker.inHands reader := by
  rw [inHands, openReader?, queue_close, Queue.breakReaders, Table.get?_mapValues, Option.map_map]
  rfl

/-! ## Opening and closing -/

theorem openReader?_of_opened {name : String} {after : Broker}
    (opened : broker.openReader name = .ok (reader, after)) :
    reader = ⟨name, broker.nextReader⟩ ∧ after.openReader? reader = some ⟨[], false⟩ ∧
      (∀ other, other ≠ reader → after.openReader? other = broker.openReader? other) ∧
      after.nextReader = broker.nextReader + 1 := by
  rcases broker.openReader_cases name with refused | ⟨later, accepted, here, elsewhere, _, next⟩
  · rw [refused] at opened
    cases opened
  · rw [accepted] at opened
    cases opened
    refine ⟨rfl, ?_, fun other different => ?_, next⟩
    · simp [openReader?, here]
    · by_cases sameQueue : other.queue = name
      · subst sameQueue
        have apart : other.number ≠ broker.nextReader := fun same => different (same ▸ rfl)
        simp [openReader?, here, Table.get?_set_of_ne _ _ apart]
      · simp [openReader?, elsewhere _ sameQueue]

@[simp] theorem openReader?_closeReader_self (broker : Broker) (reader : ReaderRef) :
    (broker.closeReader reader).openReader? reader = none := by
  cases found : broker.openReader? reader with
  | none => simp [closeReader, found]
  | some state => simp [closeReader, found, openReader?_setQueue_self]

theorem openReader?_closeReader_of_ne (broker : Broker) (different : other ≠ reader) :
    (broker.closeReader reader).openReader? other = broker.openReader? other := by
  cases found : broker.openReader? reader with
  | none => simp [closeReader, found]
  | some state =>
    simp only [closeReader, found]
    exact openReader?_setQueue_at broker different fun number apart =>
      Table.get?_erase_of_ne _ apart

/-! ## Deliveries and acknowledgments -/

/-- A reader to which a message is delivered holds it with those that it held. -/
theorem openReader?_of_delivered {after : Broker}
    (delivered : broker.read reader = (.delivered delivery, after)) :
    ∃ state message, delivery = ⟨reader, message⟩ ∧ broker.openReader? reader = some state ∧
      after.openReader? reader =
        some { state with inFlight := message.insertByTag state.inFlight } ∧
      (∀ other, other ≠ reader → after.openReader? other = broker.openReader? other) ∧
      ∃ ready, (broker.queue reader.queue).ready = message :: ready := by
  rcases broker.read_cases reader with ⟨nothing, _⟩ | ⟨state, message, ready, found, _, head, read⟩
  · rw [delivered] at nothing
    cases nothing
  · rw [delivered] at read
    cases read
    refine ⟨state, message, rfl, found, ?_, fun other different => ?_, ready, head⟩
    · rw [openReader?_setQueue_self, Table.get?_set_self]
    · exact openReader?_setQueue_at broker different fun number apart =>
        Table.get?_set_of_ne _ _ apart

theorem openReader?_acknowledge_of_ne (broker : Broker) (different : other ≠ delivery.reader) :
    (broker.acknowledge delivery).openReader? other = broker.openReader? other := by
  cases held : broker.held? delivery with
  | none => rw [acknowledge_of_held?_eq_none held]
  | some message =>
    obtain ⟨state, _, _, acknowledged⟩ := exists_of_held? held
    rw [acknowledged]
    exact openReader?_setQueue_at broker different fun number apart =>
      Table.get?_set_of_ne _ _ apart

/-- An acknowledgment takes the message away from its reader. -/
theorem openReader?_acknowledge_self {state : OpenReader} {message : Message}
    (found : broker.openReader? delivery.reader = some state)
    (held : broker.held? delivery = some message) :
    (broker.acknowledge delivery).openReader? delivery.reader =
      some { state with
        inFlight := state.inFlight.filter fun other => other.tag ≠ message.tag } := by
  obtain ⟨state', found', _, acknowledged⟩ := exists_of_held? held
  cases found.symm.trans found'
  rw [acknowledged, openReader?_setQueue_self, Table.get?_set_self]

/-- A reader whose one message is acknowledged holds it no more, and the acknowledgment settles. -/
theorem acknowledge_of_inHands (hands : broker.inHands delivery.reader = [delivery.message]) :
    broker.held? delivery = some delivery.message ∧
      (broker.acknowledge delivery).inHands delivery.reader = [] := by
  cases found : broker.openReader? delivery.reader with
  | none => simp [inHands, found] at hands
  | some state =>
    have only : state.inFlight = [delivery.message] := by simpa [inHands, found] using hands
    have held : broker.held? delivery = some delivery.message := by simp [held?, found, only]
    refine ⟨held, ?_⟩
    rw [inHands_of_openReader? (openReader?_acknowledge_self found held)]
    simp [only]

/-- A read leaves alone what others hold; the reader holds what it is given besides. -/
theorem inHands_read (broker : Broker) (reader : ReaderRef) :
    ((broker.read reader).1.delivery? = none ∧ (broker.read reader).2 = broker) ∨
    ∃ message, (broker.read reader).1 = .delivered ⟨reader, message⟩ ∧
      (broker.read reader).2.inHands reader = message.insertByTag (broker.inHands reader) ∧
      ∀ other, other ≠ reader → (broker.read reader).2.inHands other = broker.inHands other := by
  rcases broker.read_cases reader with unread | ⟨_, message, _, _, _, _, read⟩
  · exact .inl unread
  · obtain ⟨state, _, same, found, after, others, _⟩ := openReader?_of_delivered read
    cases same
    refine .inr ⟨message, congrArg Prod.fst read, ?_, fun other different => ?_⟩
    · rw [read, inHands_of_openReader? after, inHands_of_openReader? found]
    · rw [read, inHands, others other different]
      rfl

theorem ready_acknowledge (broker : Broker) (delivery : Delivery) (name : String) :
    ((broker.acknowledge delivery).queue name).ready = (broker.queue name).ready := by
  cases held : broker.held? delivery with
  | none => rw [acknowledge_of_held?_eq_none held]
  | some message =>
    obtain ⟨state, _, _, acknowledged⟩ := exists_of_held? held
    rw [acknowledged]
    by_cases here : name = delivery.reader.queue
    · rw [here, queue_setQueue_self]
    · rw [queue_setQueue_of_ne _ _ here]

/-! ## What concerns no queue -/

theorem exists_queues_closeReader (broker : Broker) (reader : ReaderRef) :
    ∃ queues, broker.closeReader reader = { broker with queues } := by
  unfold closeReader
  split
  · exact ⟨_, rfl⟩
  · exact ⟨_, rfl⟩

theorem exists_queues_acknowledge (broker : Broker) (delivery : Delivery) :
    ∃ queues, broker.acknowledge delivery = { broker with queues } := by
  cases held : broker.held? delivery with
  | none => exact ⟨_, acknowledge_of_held?_eq_none held⟩
  | some message =>
    obtain ⟨_, _, _, acknowledged⟩ := exists_of_held? held
    exact ⟨_, acknowledged⟩

theorem exists_queues_read (broker : Broker) (reader : ReaderRef) :
    ∃ queues, (broker.read reader).2 = { broker with queues } := by
  rcases broker.read_cases reader with ⟨_, same⟩ | ⟨_, _, _, _, _, _, delivered⟩
  · exact ⟨_, same⟩
  · exact ⟨_, congrArg Prod.snd delivered⟩

@[simp] theorem nextReader_closeReader (broker : Broker) (reader : ReaderRef) :
    (broker.closeReader reader).nextReader = broker.nextReader := by
  obtain ⟨_, same⟩ := broker.exists_queues_closeReader reader
  rw [same]

@[simp] theorem nextReader_acknowledge (broker : Broker) (delivery : Delivery) :
    (broker.acknowledge delivery).nextReader = broker.nextReader := by
  obtain ⟨_, same⟩ := broker.exists_queues_acknowledge delivery
  rw [same]

@[simp] theorem nextReader_read (broker : Broker) (reader : ReaderRef) :
    (broker.read reader).2.nextReader = broker.nextReader := by
  obtain ⟨_, same⟩ := broker.exists_queues_read reader
  rw [same]

/-! ## Whether a reader has broken -/

/-- Whether a reader has broken; nothing if it is not open. -/
def isBroken? (broker : Broker) (reader : ReaderRef) : Option Bool :=
  (broker.openReader? reader).map (·.isBroken)

theorem isBroken?_congr {after : Broker}
    (same : after.openReader? reader = broker.openReader? reader) :
    after.isBroken? reader = broker.isBroken? reader := by
  rw [isBroken?, isBroken?, same]

theorem isBroken?_interrupt (broker : Broker) (name : String) (reader : ReaderRef) :
    (broker.interrupt name).isBroken? reader =
      if name = reader.queue then (broker.isBroken? reader).map fun _ => true
      else broker.isBroken? reader := by
  split_ifs with here
  · subst here
    rw [isBroken?, interrupt, openReader?_setQueue_self, Queue.breakReaders, Table.get?_mapValues,
      isBroken?, openReader?, Option.map_map, Option.map_map]
    rfl
  · exact isBroken?_congr (openReader?_interrupt_of_ne broker (Ne.symm here))

theorem isBroken?_close (broker : Broker) (reader : ReaderRef) :
    broker.close.isBroken? reader = (broker.isBroken? reader).map fun _ => true := by
  rw [isBroken?, openReader?, queue_close, Queue.breakReaders, Table.get?_mapValues, isBroken?,
    openReader?, Option.map_map, Option.map_map]
  rfl

theorem isBroken?_closeReader (broker : Broker) (closed reader : ReaderRef) :
    (broker.closeReader closed).isBroken? reader =
      if closed = reader then none else broker.isBroken? reader := by
  split_ifs with same
  · subst same
    simp [isBroken?]
  · exact isBroken?_congr (openReader?_closeReader_of_ne broker (Ne.symm same))

theorem isBroken?_read (broker : Broker) (reading reader : ReaderRef) :
    (broker.read reading).2.isBroken? reader = broker.isBroken? reader := by
  rcases broker.read_cases reading with ⟨_, same⟩ | ⟨_, message, _, _, _, _, read⟩
  · rw [same]
  · obtain ⟨state, _, _, found, after, others, _⟩ := openReader?_of_delivered read
    rw [read]
    by_cases same : reader = reading
    · subst same
      simp [isBroken?, found, after]
    · exact isBroken?_congr (others reader same)

theorem isBroken?_acknowledge (broker : Broker) (delivery : Delivery) (reader : ReaderRef) :
    (broker.acknowledge delivery).isBroken? reader = broker.isBroken? reader := by
  by_cases same : reader = delivery.reader
  · subst same
    cases held : broker.held? delivery with
    | none => rw [acknowledge_of_held?_eq_none held]
    | some message =>
      obtain ⟨state, found, _⟩ := exists_of_held? held
      simp [isBroken?, found, openReader?_acknowledge_self found held]
  · exact isBroken?_congr (openReader?_acknowledge_of_ne broker same)

end Broker

/-- Whether a reader has broken after an action, if it was opened before, from whether it had
broken until then. -/
def Action.isBrokenAfter? {α : Type} (reader : ReaderRef) : Option Bool → Action α → Option Bool
  | before, .closeReader closed => if closed = reader then none else before
  | before, .interrupt name => if name = reader.queue then before.map fun _ => true else before
  | before, .close => before.map fun _ => true
  | before, _ => before

theorem Action.isSome_isBrokenAfter? {α : Type} (action : Action α) (reader : ReaderRef)
    (before : Option Bool) :
    (action.isBrokenAfter? reader before).isSome ↔
      before.isSome ∧ action ≠ .closeReader reader := by
  cases action with
  | closeReader closed => by_cases same : closed = reader <;> simp [isBrokenAfter?, same]
  | interrupt name => by_cases here : name = reader.queue <;> simp [isBrokenAfter?, here]
  | _ => simp [isBrokenAfter?]

/-- **A reader that an action opens is whole; to every other one the action does what it does to
readers that were opened before.** -/
theorem Journal.isBroken?_act {α : Type} [DecidableEq α] (journal : Journal α) (action : Action α)
    (reader : ReaderRef) :
    ((∃ opened, journal.broker.openReader reader.queue = .ok (reader, opened)) ∧
      (journal.act action).broker.isBroken? reader = some false) ∨
    (journal.act action).broker.isBroken? reader =
      action.isBrokenAfter? reader (journal.broker.isBroken? reader) := by
  cases action with
  | publish queue body =>
    exact .inr (Broker.isBroken?_congr (journal.broker.openReader?_publish queue body reader))
  | openReader queue =>
    cases opened : journal.broker.openReader queue with
    | error fault => exact .inr (by rw [act_openReader_of_error opened]; rfl)
    | ok accepted =>
      obtain ⟨new, after⟩ := accepted
      obtain ⟨number, known, others, _⟩ := Broker.openReader?_of_opened opened
      rw [act_openReader_of_ok opened]
      by_cases same : reader = new
      · subst same
        have here : reader.queue = queue := congrArg ReaderRef.queue number
        have whole : after.isBroken? reader = some false := by rw [Broker.isBroken?, known]; rfl
        exact .inl ⟨⟨after, here ▸ opened⟩, whole⟩
      · exact .inr (Broker.isBroken?_congr (others reader same))
  | takeTurn read =>
    refine .inr ?_
    simp only [act]
    split
    · rw [broker_takeTurn]
      exact journal.broker.isBroken?_read read.reader reader
    · rfl
  | acknowledge delivery =>
    refine .inr ?_
    simp only [act]
    split
    · exact journal.broker.isBroken?_acknowledge delivery reader
    · rfl
  | closeReader closed =>
    have after : (journal.act (.closeReader closed)).broker = journal.broker.closeReader closed :=
      Exchange.broker_closeReader _ _
    rw [after]
    exact .inr (journal.broker.isBroken?_closeReader closed reader)
  | interrupt queue => exact .inr (journal.broker.isBroken?_interrupt queue reader)
  | close => exact .inr (journal.broker.isBroken?_close reader)
  | _ => exact .inr rfl

theorem Journal.isBroken?_act_of_numbered {α : Type} [DecidableEq α] {journal : Journal α}
    {reader : ReaderRef} (action : Action α)
    (numbered : reader.number < journal.broker.nextReader) :
    (journal.act action).broker.isBroken? reader =
      action.isBrokenAfter? reader (journal.broker.isBroken? reader) := by
  rcases journal.isBroken?_act action reader with ⟨⟨_, opened⟩, _⟩ | after
  · have new := congrArg ReaderRef.number (Broker.openReader?_of_opened opened).1
    exact absurd new (Nat.ne_of_lt numbered)
  · exact after

end Turnstile
