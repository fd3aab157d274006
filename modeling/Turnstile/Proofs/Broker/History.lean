import Mathlib.Data.List.Induction
import Turnstile.Broker.Exchange
import Turnstile.Proofs.Table

/-!
# Histories of the in-memory broker

A `Journal` is an exchange with a record of what has happened to it: what was published, what was
delivered, which deliveries were acknowledged, and which of these acknowledgments settled their
message. An acknowledgment settles a message if its reader is open and still holds it; every
acknowledgment uses its delivery up, so a message in hand is acknowledged once at most.

Everything that can be done with the broker is an `Action`. Reads take several of them: a read
begins, has its turn whenever it is woken, and may be given up at any time before it has ended.
Actions come in any order; one that is not possible, such as acknowledging a message that is not
in hand, does nothing. The journals of all histories are the `run`s of lists of actions.
-/

set_option autoImplicit false

namespace Turnstile

/-! ## What the operations of the broker do -/

/-- What a read has delivered. -/
def ReadOutcome.delivery? : ReadOutcome → Option Delivery
  | delivered delivery => some delivery
  | _ => none

namespace Broker

variable {broker : Broker} {reader : ReaderRef} {delivery : Delivery}

/-- The message that the reader of a delivery still holds for it. -/
def held? (broker : Broker) (delivery : Delivery) : Option Message :=
  (broker.openReader? delivery.reader).bind fun state =>
    state.inFlight.find? fun message => message.tag = delivery.message.tag

/-- A reader is refused, or opened under the next number. -/
theorem openReader_cases (broker : Broker) (name : String) :
    broker.openReader name = .error refusal ∨
    ∃ after, broker.openReader name = .ok (⟨name, broker.nextReader⟩, after) ∧
      after.queue name = { broker.queue name with
        readers := (broker.queue name).readers.set broker.nextReader ⟨[], false⟩
        openedCount := (broker.queue name).openedCount + 1 } ∧
      (∀ other, other ≠ name → after.queue other = broker.queue other) ∧
      after.nextTag = broker.nextTag ∧ after.nextReader = broker.nextReader + 1 := by
  by_cases refused : (broker.isClosed || broker.isUnavailable) = true
  · exact .inl (by rw [openReader, if_pos refused])
  · rw [openReader, if_neg refused]
    exact .inr ⟨_, rfl, queue_setQueue_self _ _ _,
      fun other different => queue_setQueue_of_ne _ _ different, rfl, rfl⟩

/-- A read leaves the broker alone, or hands out the message at the head of the queue. -/
theorem read_cases (broker : Broker) (reader : ReaderRef) :
    ((broker.read reader).1.delivery? = none ∧ (broker.read reader).2 = broker) ∨
    ∃ state message ready, broker.openReader? reader = some state ∧ state.isBroken = false ∧
      (broker.queue reader.queue).ready = message :: ready ∧
      broker.read reader = (.delivered ⟨reader, message⟩,
        broker.setQueue reader.queue { broker.queue reader.queue with
          ready := ready
          readers := (broker.queue reader.queue).readers.set reader.number
            { state with inFlight := message.insertByTag state.inFlight } }) := by
  cases found : broker.openReader? reader with
  | none => exact .inl (by simp [ReadOutcome.delivery?, read, found])
  | some state =>
    cases broken : state.isBroken with
    | true => exact .inl (by simp [ReadOutcome.delivery?, read, found, broken])
    | false =>
      cases head : (broker.queue reader.queue).ready with
      | nil => exact .inl (by simp [ReadOutcome.delivery?, read, found, broken, head])
      | cons message ready =>
        exact .inr ⟨state, message, ready, rfl, broken, rfl, by simp [read, found, broken, head]⟩

theorem acknowledge_of_held?_eq_none (nothing : broker.held? delivery = none) :
    broker.acknowledge delivery = broker := by
  cases found : broker.openReader? delivery.reader with
  | none => simp [acknowledge, found]
  | some state =>
    have gone :
        (state.inFlight.find? fun message => message.tag = delivery.message.tag) = none := by
      simpa [held?, found] using nothing
    simp [acknowledge, found, gone]

/-- What a reader holds is among what it has in flight, under the tag of the delivery. -/
theorem exists_of_held? {message : Message} (held : broker.held? delivery = some message) :
    ∃ state, broker.openReader? delivery.reader = some state ∧ message ∈ state.inFlight ∧
      broker.acknowledge delivery =
        broker.setQueue delivery.reader.queue { broker.queue delivery.reader.queue with
          readers := (broker.queue delivery.reader.queue).readers.set delivery.reader.number
            { state with inFlight := state.inFlight.filter fun held => held.tag ≠ message.tag }
          recentAcks :=
            Queue.remember (broker.queue delivery.reader.queue).recentAcks message.body
          ackedCount := (broker.queue delivery.reader.queue).ackedCount + 1 } := by
  obtain ⟨state, found, kept⟩ := Option.bind_eq_some_iff.1 held
  exact ⟨state, found, List.mem_of_find?_eq_some kept, by simp [acknowledge, found, kept]⟩

theorem queue_close (broker : Broker) (name : String) :
    broker.close.queue name = (broker.queue name).breakReaders := by
  simp only [queue, close, Table.get?_mapValues]
  cases broker.queues.get? name <;> rfl

end Broker

namespace Exchange

variable {α : Type}

theorem broker_closeReader (exchange : Exchange α) (reader : ReaderRef) :
    (exchange.closeReader reader).broker = exchange.broker.closeReader reader := by
  cases found : exchange.broker.openReader? reader with
  | none => simp [closeReader, Broker.closeReader, found]
  | some state => simp [closeReader, found, wakeQueue, wake]

theorem broker_attempt (exchange : Exchange α) (read : PendingRead α) :
    (exchange.attempt read).1 = (exchange.broker.read read.reader).1 ∧
      (exchange.attempt read).2.broker = (exchange.broker.read read.reader).2 := by
  unfold attempt
  split <;> simp_all

end Exchange

/-! ## Journals -/

/-- A message with the queue that it was published to. -/
structure Posting where
  queue : String
  message : Message
deriving DecidableEq, Repr

/-- An exchange with what has happened to it, earliest first. -/
structure Journal (α : Type) where
  exchange : Exchange α
  published : List Posting
  delivered : List Delivery
  /-- The deliveries that were acknowledged, to whatever effect. -/
  acknowledged : List Delivery
  /-- The deliveries whose acknowledgment settled their message. -/
  settled : List Delivery

/-- What can be done with an exchange. -/
inductive Action (α : Type) where
  | publish (queue body : String)
  | openReader (queue : String)
  | beginRead (read : PendingRead α)
  /-- A read that is woken has its turn. -/
  | takeTurn (read : PendingRead α)
  /-- The reads of an owner are given up. -/
  | withdraw (owner : α)
  | acknowledge (delivery : Delivery)
  /-- A reader is closed, or dropped. -/
  | closeReader (reader : ReaderRef)
  | interrupt (queue : String)
  | setUnavailable (isUnavailable : Bool)
  | close

namespace Journal

variable {α : Type}

/-- The journal of an exchange to which nothing has happened. -/
def fresh : Journal α := ⟨.fresh, [], [], [], []⟩

/-- The broker as the history has left it. -/
def broker (journal : Journal α) : Broker := journal.exchange.broker

/-- The deliveries that can still be acknowledged. -/
def inHand (journal : Journal α) : List Delivery := journal.delivered.diff journal.acknowledged

variable [DecidableEq α]

/-- The turn of a read that is woken. -/
def takeTurn (journal : Journal α) (read : PendingRead α) : Journal α :=
  let exchange := { journal.exchange with woken := journal.exchange.woken.erase read }
  let (outcome, exchange) := exchange.attempt read
  { journal with exchange, delivered := journal.delivered ++ outcome.delivery?.toList }

/-- The acknowledgment of a delivery. -/
def acknowledge (journal : Journal α) (delivery : Delivery) : Journal α :=
  let settling := (journal.broker.held? delivery).map fun message => ⟨delivery.reader, message⟩
  { journal with
    exchange := journal.exchange.acknowledge delivery
    acknowledged := journal.acknowledged ++ [delivery]
    settled := journal.settled ++ settling.toList }

/-- The journal after an action. -/
def act (journal : Journal α) : Action α → Journal α
  | .publish queue body =>
    { journal with
      exchange := journal.exchange.publish queue body
      published := journal.published ++ [⟨queue, ⟨journal.broker.nextTag, body⟩⟩] }
  | .openReader queue =>
    match journal.exchange.openReader queue with
    | .ok (_, exchange) => { journal with exchange }
    | .error _ => journal
  | .beginRead read => { journal with exchange := journal.exchange.begin read }
  | .takeTurn read => if read ∈ journal.exchange.woken then journal.takeTurn read else journal
  | .withdraw owner =>
    { journal with exchange := journal.exchange.withdraw fun other => other = owner }
  | .acknowledge delivery =>
    if delivery ∈ journal.inHand then journal.acknowledge delivery else journal
  | .closeReader reader => { journal with exchange := journal.exchange.closeReader reader }
  | .interrupt queue => { journal with exchange := journal.exchange.interrupt queue }
  | .setUnavailable isUnavailable =>
    { journal with exchange := journal.exchange.setUnavailable isUnavailable }
  | .close => { journal with exchange := journal.exchange.close }

/-- The journal of a history. -/
def run (actions : List (Action α)) : Journal α := actions.foldl act fresh

/-- What holds at the start and is kept by every action holds of every history. -/
theorem run_induction {property : Journal α → Prop} (start : property fresh)
    (step : ∀ journal action, property journal → property (journal.act action))
    (actions : List (Action α)) : property (run actions) := by
  induction actions using List.reverseRecOn with
  | nil => exact start
  | append_singleton earlier action ih =>
    rw [run, List.foldl_append]
    exact step _ action ih

end Journal

/-! ## The ledger of a queue -/

/-- A queue with what has happened to it, and the next tag and number that the broker gives out. -/
@[ext]
structure Ledger where
  queue : Queue
  published : List Message
  delivered : List Delivery
  settled : List Delivery
  nextTag : Nat
  nextReader : Nat

namespace Ledger

/-- The ledger of a queue that nobody has used. -/
def unused : Ledger := ⟨.unused, [], [], [], 0, 0⟩

variable (ledger : Ledger) (reader : ReaderRef) (state : OpenReader) (message : Message)

/-- A message is published. -/
def publish (body : String) : Ledger :=
  { ledger with
    queue := { ledger.queue with ready := ledger.queue.ready ++ [⟨ledger.nextTag, body⟩] }
    published := ledger.published ++ [⟨ledger.nextTag, body⟩]
    nextTag := ledger.nextTag + 1 }

/-- A reader is opened. -/
def openReader : Ledger :=
  { ledger with
    queue := { ledger.queue with
      readers := ledger.queue.readers.set ledger.nextReader ⟨[], false⟩
      openedCount := ledger.queue.openedCount + 1 }
    nextReader := ledger.nextReader + 1 }

/-- The message at the head of the queue is delivered to a reader. -/
def deliver (ready : List Message) : Ledger :=
  { ledger with
    queue := { ledger.queue with
      ready
      readers := ledger.queue.readers.set reader.number
        { state with inFlight := message.insertByTag state.inFlight } }
    delivered := ledger.delivered ++ [⟨reader, message⟩] }

/-- A message that a reader holds is settled. -/
def settle : Ledger :=
  { ledger with
    queue := { ledger.queue with
      readers := ledger.queue.readers.set reader.number
        { state with inFlight := state.inFlight.filter fun held => held.tag ≠ message.tag }
      recentAcks := Queue.remember ledger.queue.recentAcks message.body
      ackedCount := ledger.queue.ackedCount + 1 }
    settled := ledger.settled ++ [⟨reader, message⟩] }

/-- A reader is closed. -/
def closeReader : Ledger :=
  { ledger with
    queue := { ledger.queue with
      ready := state.inFlight ++ ledger.queue.ready
      readers := ledger.queue.readers.erase reader.number } }

/-- All readers break. -/
def breakReaders : Ledger := { ledger with queue := ledger.queue.breakReaders }

/-- What an action can do to the ledger of a queue. -/
inductive Change (name : String) (ledger : Ledger) : Ledger → Prop where
  /-- Only other queues, or no queues at all, are concerned. -/
  | elsewhere {nextTag nextReader : Nat} (moreTags : ledger.nextTag ≤ nextTag)
      (moreReaders : ledger.nextReader ≤ nextReader) :
      Change name ledger { ledger with nextTag, nextReader }
  | publish (body : String) : Change name ledger (ledger.publish body)
  | openReader : Change name ledger ledger.openReader
  | deliver {reader : ReaderRef} {state : OpenReader} {message : Message} {ready : List Message}
      (here : reader.queue = name) (found : ledger.queue.readers.get? reader.number = some state)
      (whole : state.isBroken = false) (head : ledger.queue.ready = message :: ready) :
      Change name ledger (ledger.deliver reader state message ready)
  | settle {reader : ReaderRef} {state : OpenReader} {message : Message}
      (here : reader.queue = name) (found : ledger.queue.readers.get? reader.number = some state)
      (held : message ∈ state.inFlight) :
      Change name ledger (ledger.settle reader state message)
  | closeReader {reader : ReaderRef} {state : OpenReader}
      (here : reader.queue = name) (found : ledger.queue.readers.get? reader.number = some state) :
      Change name ledger (ledger.closeReader reader state)
  | breakReaders : Change name ledger ledger.breakReaders

theorem Change.nextTag_le {name : String} {ledger later : Ledger}
    (change : ledger.Change name later) : ledger.nextTag ≤ later.nextTag := by
  cases change with
  | elsewhere moreTags _ => exact moreTags
  | publish body => exact Nat.le_succ _
  | _ => exact Nat.le_refl _

end Ledger

namespace Journal

variable {α : Type} {journal later : Journal α} {name other : String}

/-- The ledger of a queue. -/
def ledger (journal : Journal α) (name : String) : Ledger where
  queue := journal.broker.queue name
  published := (journal.published.filter fun posting => posting.queue = name).map (·.message)
  delivered := journal.delivered.filter fun delivery => delivery.reader.queue = name
  settled := journal.settled.filter fun delivery => delivery.reader.queue = name
  nextTag := journal.broker.nextTag
  nextReader := journal.broker.nextReader

/-- What leaves a queue and its records alone does not concern it. -/
theorem change_elsewhere (queue : later.broker.queue name = journal.broker.queue name)
    (published : (later.ledger name).published = (journal.ledger name).published)
    (delivered : (later.ledger name).delivered = (journal.ledger name).delivered)
    (settled : (later.ledger name).settled = (journal.ledger name).settled)
    (moreTags : journal.broker.nextTag ≤ later.broker.nextTag)
    (moreReaders : journal.broker.nextReader ≤ later.broker.nextReader) :
    (journal.ledger name).Change name (later.ledger name) := by
  have same : later.ledger name = { journal.ledger name with
      nextTag := later.broker.nextTag
      nextReader := later.broker.nextReader } :=
    Ledger.ext queue published delivered settled rfl rfl
  exact same ▸ .elsewhere moreTags moreReaders

/-- What leaves the broker and all records alone concerns no queue. -/
theorem change_of_same (broker : later.broker = journal.broker)
    (published : later.published = journal.published)
    (delivered : later.delivered = journal.delivered)
    (settled : later.settled = journal.settled) (name : String) :
    (journal.ledger name).Change name (later.ledger name) := by
  have same : later.ledger name = journal.ledger name := by
    simp [ledger, broker, published, delivered, settled]
  exact same ▸ .elsewhere (Nat.le_refl _) (Nat.le_refl _)

theorem change_publish [DecidableEq α] (journal : Journal α) (queue body name : String) :
    (journal.ledger name).Change name ((journal.act (.publish queue body)).ledger name) := by
  by_cases same : queue = name
  · subst same
    have after : (journal.act (.publish queue body)).ledger queue =
        (journal.ledger queue).publish body :=
      Ledger.ext (Broker.queue_setQueue_self _ _ _)
        (by simp [ledger, act, Ledger.publish, List.filter_append]) rfl rfl rfl rfl
    exact after ▸ .publish body
  · refine change_elsewhere (Broker.queue_setQueue_of_ne _ _ (Ne.symm same)) ?_ rfl rfl
      (Nat.le_succ _) (Nat.le_refl _)
    simp [ledger, act, List.filter_append, same]

theorem act_openReader_of_error [DecidableEq α] {fault : QueueFault}
    (refused : journal.broker.openReader name = .error fault) :
    journal.act (.openReader name) = journal := by
  rw [act, Exchange.openReader, ← broker, refused]

theorem act_openReader_of_ok [DecidableEq α] {reader : ReaderRef} {opened : Broker}
    (accepted : journal.broker.openReader name = .ok (reader, opened)) :
    journal.act (.openReader name) =
      { journal with exchange := { journal.exchange with broker := opened } } := by
  rw [act, Exchange.openReader, ← broker, accepted]

theorem ledger_openReader [DecidableEq α] {reader : ReaderRef} {opened : Broker}
    (accepted : journal.broker.openReader name = .ok (reader, opened)) :
    reader = ⟨name, journal.broker.nextReader⟩ ∧
      (journal.act (.openReader name)).ledger name = (journal.ledger name).openReader := by
  rcases journal.broker.openReader_cases name with
    refused | ⟨after, opens, here, _, tags, readers⟩
  · cases refused.symm.trans accepted
  · cases opens.symm.trans accepted
    rw [act_openReader_of_ok opens]
    exact ⟨rfl, Ledger.ext here rfl rfl rfl tags readers⟩

theorem change_openReader [DecidableEq α] (journal : Journal α) (queue name : String) :
    (journal.ledger name).Change name ((journal.act (.openReader queue)).ledger name) := by
  rcases journal.broker.openReader_cases queue with
    refused | ⟨opened, accepted, _, elsewhere, tags, readers⟩
  · rw [act_openReader_of_error refused]
    exact change_of_same rfl rfl rfl rfl name
  · by_cases same : queue = name
    · subst same
      exact (ledger_openReader accepted).2 ▸ .openReader
    · rw [act_openReader_of_ok accepted]
      exact change_elsewhere (elsewhere name (Ne.symm same)) rfl rfl rfl (Nat.le_of_eq tags.symm)
        (readers ▸ Nat.le_succ _)

theorem broker_takeTurn [DecidableEq α] (journal : Journal α) (read : PendingRead α) :
    (journal.takeTurn read).broker = (journal.broker.read read.reader).2 :=
  (Exchange.broker_attempt
    { journal.exchange with woken := journal.exchange.woken.erase read } read).2

theorem delivered_takeTurn [DecidableEq α] (journal : Journal α) (read : PendingRead α) :
    (journal.takeTurn read).delivered =
      journal.delivered ++ (journal.broker.read read.reader).1.delivery?.toList :=
  congrArg (fun outcome : ReadOutcome => journal.delivered ++ outcome.delivery?.toList)
    (Exchange.broker_attempt
      { journal.exchange with woken := journal.exchange.woken.erase read } read).1

theorem change_takeTurn [DecidableEq α] (journal : Journal α) (read : PendingRead α)
    (name : String) : (journal.ledger name).Change name ((journal.takeTurn read).ledger name) := by
  let reader := read.reader
  have broker : (journal.takeTurn read).broker = (journal.broker.read reader).2 :=
    journal.broker_takeTurn read
  have delivered : (journal.takeTurn read).delivered =
      journal.delivered ++ (journal.broker.read reader).1.delivery?.toList :=
    journal.delivered_takeTurn read
  rcases journal.broker.read_cases reader with
    ⟨nothing, same⟩ | ⟨state, message, ready, found, whole, head, success⟩
  · refine change_of_same (broker.trans same) rfl ?_ rfl name
    simp [delivered, nothing]
  · rw [success] at broker delivered
    by_cases here : reader.queue = name
    · subst here
      have ledger_eq : (journal.takeTurn read).ledger reader.queue =
          (journal.ledger reader.queue).deliver reader state message ready := by
        refine Ledger.ext ?_ rfl ?_ rfl ?_ ?_
        · simp [ledger, broker, Ledger.deliver]
        · simp [ledger, delivered, Ledger.deliver, ReadOutcome.delivery?]
        · simp [ledger, broker, Ledger.deliver, Broker.setQueue]
        · simp [ledger, broker, Ledger.deliver, Broker.setQueue]
      exact ledger_eq ▸ .deliver rfl found whole head
    · refine change_elsewhere ?_ rfl ?_ rfl ?_ ?_
      · rw [broker, Broker.queue_setQueue_of_ne _ _ (Ne.symm here)]
      · simp [ledger, delivered, ReadOutcome.delivery?, here]
      · simp [broker, Broker.setQueue]
      · simp [broker, Broker.setQueue]

theorem change_acknowledge (journal : Journal α) (delivery : Delivery) (name : String) :
    (journal.ledger name).Change name ((journal.acknowledge delivery).ledger name) := by
  let reader := delivery.reader
  cases held : journal.broker.held? delivery with
  | none =>
    have broker : (journal.acknowledge delivery).broker = journal.broker :=
      Broker.acknowledge_of_held?_eq_none held
    have settled : (journal.acknowledge delivery).settled = journal.settled := by
      simp [acknowledge, held]
    exact change_of_same broker rfl rfl settled name
  | some message =>
    obtain ⟨state, found, member, acknowledged⟩ := Broker.exists_of_held? held
    have broker : (journal.acknowledge delivery).broker = _ := acknowledged
    have settled : (journal.acknowledge delivery).settled =
        journal.settled ++ [⟨reader, message⟩] := by
      simp [acknowledge, held, reader]
    by_cases here : reader.queue = name
    · subst here
      have ledger_eq : (journal.acknowledge delivery).ledger reader.queue =
          (journal.ledger reader.queue).settle reader state message := by
        refine Ledger.ext ?_ rfl rfl ?_ ?_ ?_
        · simp [ledger, broker, Ledger.settle, reader]
        · simp [ledger, settled, Ledger.settle]
        · simp [ledger, broker, Ledger.settle, Broker.setQueue]
        · simp [ledger, broker, Ledger.settle, Broker.setQueue]
      exact ledger_eq ▸ .settle rfl found member
    · refine change_elsewhere ?_ rfl rfl ?_ ?_ ?_
      · rw [broker, Broker.queue_setQueue_of_ne _ _ (Ne.symm here)]
      · simp [ledger, settled, here]
      · simp [broker, Broker.setQueue]
      · simp [broker, Broker.setQueue]

theorem ledger_closeReader [DecidableEq α] {reader : ReaderRef} {state : OpenReader}
    (found : journal.broker.openReader? reader = some state) :
    (journal.act (.closeReader reader)).ledger reader.queue =
      (journal.ledger reader.queue).closeReader reader state := by
  have broker : (journal.act (.closeReader reader)).broker = journal.broker.closeReader reader :=
    Exchange.broker_closeReader _ _
  simp only [Broker.closeReader, found] at broker
  refine Ledger.ext ?_ rfl rfl rfl ?_ ?_
  · simp [ledger, broker, Ledger.closeReader]
  · simp [ledger, broker, Ledger.closeReader, Broker.setQueue]
  · simp [ledger, broker, Ledger.closeReader, Broker.setQueue]

theorem change_closeReader [DecidableEq α] (journal : Journal α) (reader : ReaderRef)
    (name : String) :
    (journal.ledger name).Change name ((journal.act (.closeReader reader)).ledger name) := by
  have broker : (journal.act (.closeReader reader)).broker = journal.broker.closeReader reader :=
    Exchange.broker_closeReader _ _
  cases found : journal.broker.openReader? reader with
  | none =>
    have same : journal.broker.closeReader reader = journal.broker := by
      simp [Broker.closeReader, found]
    exact change_of_same (broker.trans same) rfl rfl rfl name
  | some state =>
    by_cases here : reader.queue = name
    · subst here
      exact ledger_closeReader found ▸ .closeReader rfl found
    · simp only [Broker.closeReader, found] at broker
      refine change_elsewhere ?_ rfl rfl rfl ?_ ?_
      · rw [broker, Broker.queue_setQueue_of_ne _ _ (Ne.symm here)]
      · simp [broker, Broker.setQueue]
      · simp [broker, Broker.setQueue]

theorem change_interrupt [DecidableEq α] (journal : Journal α) (queue name : String) :
    (journal.ledger name).Change name ((journal.act (.interrupt queue)).ledger name) := by
  by_cases here : queue = name
  · subst here
    have ledger_eq : (journal.act (.interrupt queue)).ledger queue =
        (journal.ledger queue).breakReaders :=
      Ledger.ext (Broker.queue_setQueue_self _ _ _) rfl rfl rfl rfl rfl
    exact ledger_eq ▸ .breakReaders
  · exact change_elsewhere (Broker.queue_setQueue_of_ne _ _ (Ne.symm here)) rfl rfl rfl
      (Nat.le_refl _) (Nat.le_refl _)

/-- **An action does one of a few things to the ledger of a queue.** -/
theorem ledger_change [DecidableEq α] (journal : Journal α) (action : Action α) (name : String) :
    (journal.ledger name).Change name ((journal.act action).ledger name) := by
  cases action with
  | publish queue body => exact journal.change_publish queue body name
  | openReader queue => exact journal.change_openReader queue name
  | beginRead read => exact change_of_same rfl rfl rfl rfl name
  | takeTurn read =>
    simp only [act]
    split
    · exact journal.change_takeTurn read name
    · exact change_of_same rfl rfl rfl rfl name
  | withdraw owner => exact change_of_same rfl rfl rfl rfl name
  | acknowledge delivery =>
    simp only [act]
    split
    · exact journal.change_acknowledge delivery name
    · exact change_of_same rfl rfl rfl rfl name
  | closeReader reader => exact journal.change_closeReader reader name
  | interrupt queue => exact journal.change_interrupt queue name
  | setUnavailable isUnavailable =>
    exact change_elsewhere rfl rfl rfl rfl (Nat.le_refl _) (Nat.le_refl _)
  | close =>
    have ledger_eq : (journal.act .close).ledger name = (journal.ledger name).breakReaders :=
      Ledger.ext (Broker.queue_close _ _) rfl rfl rfl rfl rfl
    exact ledger_eq ▸ .breakReaders

end Journal

end Turnstile
