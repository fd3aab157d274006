import Turnstile.Fault
import Turnstile.Table
import Turnstile.Text.Quoted

/-!
# The in-memory broker

Messages wait in a queue until a reader takes them. A message in the hands of a reader is in
flight until it is acknowledged; when its reader is closed it goes back to the head of its queue,
in the order of publication. A reader can break: it then delivers nothing more, but what it holds
can still be acknowledged.

Every published message has a tag of its own, and every reader a number of its own, so an
acknowledgment can tell whether its reader is still open.
-/

set_option autoImplicit false

namespace Turnstile

/-- A published message. -/
structure Message where
  tag : Nat
  body : String
deriving DecidableEq, Repr

/-- The message as a diagnostic shows it. -/
def Message.describe (message : Message) : String :=
  "QueueMessage \x7b body: " ++ Text.quote message.body ++ ", .. \x7d"

/-- Put a message into its place by tag. -/
def Message.insertByTag (message : Message) : List Message → List Message
  | [] => [message]
  | head :: tail =>
    if message.tag < head.tag then message :: head :: tail
    else head :: insertByTag message tail

/-- What the broker knows about an open reader. -/
structure OpenReader where
  /-- The messages that the reader holds, in the order of their tags. -/
  inFlight : List Message
  isBroken : Bool
deriving DecidableEq, Repr

/-- A queue with its open readers. -/
structure Queue where
  ready : List Message
  readers : Table Nat OpenReader
  /-- The bodies acknowledged last, oldest first. -/
  recentAcks : List String
  ackedCount : Nat
  openedCount : Nat

namespace Queue

/-- How many acknowledged bodies are remembered. -/
def ackMemory : Nat := 256

/-- The queue that nobody has used. -/
def unused : Queue := ⟨[], .empty, [], 0, 0⟩

/-- The messages that readers hold. -/
def inFlight (queue : Queue) : List Message := queue.readers.values.flatMap (·.inFlight)

/-- The queue with every open reader broken. -/
def breakReaders (queue : Queue) : Queue :=
  { queue with readers := queue.readers.mapValues fun reader => { reader with isBroken := true } }

/-- The bodies remembered after one more acknowledgment. -/
def remember (acks : List String) (body : String) : List String :=
  if acks.length = ackMemory then acks.drop 1 ++ [body] else acks ++ [body]

end Queue

/-- A reader, open or not: the queue it reads and its number. -/
structure ReaderRef where
  queue : String
  number : Nat
deriving DecidableEq, Repr

/-- A message handed out by a reader. -/
structure Delivery where
  reader : ReaderRef
  message : Message
deriving DecidableEq, Repr

/-- What comes of a read. -/
inductive ReadOutcome where
  | delivered (delivery : Delivery)
  | failed (fault : QueueFault)
  /-- Nothing is there to be read yet. -/
  | waits
deriving DecidableEq, Repr

/-- The state of the broker. -/
structure Broker where
  queues : Table String Queue
  nextTag : Nat
  nextReader : Nat
  isUnavailable : Bool
  isClosed : Bool

namespace Broker

/-- The broker at its start. -/
def fresh : Broker := ⟨.empty, 0, 0, false, false⟩

/-- A queue by its name; queues exist as soon as they are named. -/
def queue (broker : Broker) (name : String) : Queue := (broker.queues.get? name).getD .unused

/-- The broker with a queue replaced. -/
def setQueue (broker : Broker) (name : String) (queue : Queue) : Broker :=
  { broker with queues := broker.queues.set name queue }

@[simp] theorem queue_setQueue_self (broker : Broker) (name : String) (queue : Queue) :
    (broker.setQueue name queue).queue name = queue := by
  simp [Broker.queue, setQueue]

theorem queue_setQueue_of_ne (broker : Broker) {name other : String} (queue : Queue)
    (different : other ≠ name) : (broker.setQueue name queue).queue other = broker.queue other := by
  simp [Broker.queue, setQueue, Table.get?_set_of_ne _ _ different]

/-- Put a message at the end of a queue. -/
def publish (broker : Broker) (name : String) (body : String) : Broker :=
  let queue := broker.queue name
  { broker.setQueue name { queue with ready := queue.ready ++ [⟨broker.nextTag, body⟩] } with
    nextTag := broker.nextTag + 1 }

/-- Say whether readers can be opened. -/
def setUnavailable (broker : Broker) (isUnavailable : Bool) : Broker :=
  { broker with isUnavailable }

/-- Break the open readers of a queue. -/
def interrupt (broker : Broker) (name : String) : Broker :=
  broker.setQueue name (broker.queue name).breakReaders

/-- Break all open readers, and let none be opened any more. -/
def close (broker : Broker) : Broker :=
  { broker with isClosed := true, queues := broker.queues.mapValues Queue.breakReaders }

/-- The fault of opening a reader on a broker that has none to give. -/
def refusal : QueueFault := .exhausted 1 "in-memory broker unavailable"

/-- Open a reader on a queue. -/
def openReader (broker : Broker) (name : String) : Except QueueFault (ReaderRef × Broker) :=
  if broker.isClosed || broker.isUnavailable then .error refusal
  else
    let queue := broker.queue name
    let opened := { queue with
      readers := queue.readers.set broker.nextReader ⟨[], false⟩
      openedCount := queue.openedCount + 1 }
    .ok (⟨name, broker.nextReader⟩,
      { broker.setQueue name opened with nextReader := broker.nextReader + 1 })

/-- What the broker knows about a reader, if it is open. -/
def openReader? (broker : Broker) (reader : ReaderRef) : Option OpenReader :=
  (broker.queue reader.queue).readers.get? reader.number

/-- Read: the message at the head of the queue passes into the hands of the reader. -/
def read (broker : Broker) (reader : ReaderRef) : ReadOutcome × Broker :=
  match broker.openReader? reader with
  | none => (.failed (.closed reader.queue), broker)
  | some state =>
    if state.isBroken then (.failed (.receive reader.queue "link detached"), broker)
    else
      let queue := broker.queue reader.queue
      match queue.ready with
      | [] => (.waits, broker)
      | message :: ready =>
        let state := { state with inFlight := message.insertByTag state.inFlight }
        (.delivered ⟨reader, message⟩,
          broker.setQueue reader.queue
            { queue with ready, readers := queue.readers.set reader.number state })

/-- Close a reader: what it holds goes back to the head of the queue. -/
def closeReader (broker : Broker) (reader : ReaderRef) : Broker :=
  match broker.openReader? reader with
  | none => broker
  | some state =>
    let queue := broker.queue reader.queue
    broker.setQueue reader.queue { queue with
      ready := state.inFlight ++ queue.ready
      readers := queue.readers.erase reader.number }

/-- Acknowledge a message. Nothing happens if its reader is closed, for then the message is back
in its queue, or if it is acknowledged already. -/
def acknowledge (broker : Broker) (delivery : Delivery) : Broker :=
  match broker.openReader? delivery.reader with
  | none => broker
  | some state =>
    match state.inFlight.find? fun message => message.tag = delivery.message.tag with
    | none => broker
    | some message =>
      let queue := broker.queue delivery.reader.queue
      let state := { state with
        inFlight := state.inFlight.filter fun held => held.tag ≠ message.tag }
      broker.setQueue delivery.reader.queue { queue with
        readers := queue.readers.set delivery.reader.number state
        recentAcks := Queue.remember queue.recentAcks message.body
        ackedCount := queue.ackedCount + 1 }

end Broker

end Turnstile
