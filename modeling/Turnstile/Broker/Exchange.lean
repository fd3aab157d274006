import Turnstile.Broker

/-!
# Reads that wait

A read that finds its queue empty waits until something happens to the queue: a message is
published, a reader of it is closed, or its readers are broken. Each of these wakes every read
that waits on the queue, in the order in which they began to wait. A woken read tries again when
its turn comes, and waits anew, behind the others, if there is still nothing for it.

An `Exchange` is a broker with these reads. `owner` is whoever is told what came of a read.
-/

set_option autoImplicit false

namespace Turnstile

/-- A read in progress. -/
structure PendingRead (α : Type) where
  owner : α
  reader : ReaderRef
deriving DecidableEq, Repr

/-- A broker with the reads that wait, and those that are woken and have not had their turn. -/
structure Exchange (α : Type) where
  broker : Broker
  waiting : List (PendingRead α)
  woken : List (PendingRead α)

namespace Exchange

variable {α : Type}

/-- The exchange at its start. -/
def fresh : Exchange α := ⟨.fresh, [], []⟩

/-- Wake the reads for which the test holds. -/
def wake (exchange : Exchange α) (test : PendingRead α → Bool) : Exchange α :=
  { exchange with
    waiting := exchange.waiting.filter fun read => !test read
    woken := exchange.woken ++ exchange.waiting.filter test }

/-- Wake the reads on a queue. -/
def wakeQueue (exchange : Exchange α) (name : String) : Exchange α :=
  exchange.wake fun read => read.reader.queue == name

/-- Put a message at the end of a queue. -/
def publish (exchange : Exchange α) (name : String) (body : String) : Exchange α :=
  { exchange with broker := exchange.broker.publish name body }.wakeQueue name

/-- Say whether readers can be opened. -/
def setUnavailable (exchange : Exchange α) (isUnavailable : Bool) : Exchange α :=
  { exchange with broker := exchange.broker.setUnavailable isUnavailable }

/-- Break the open readers of a queue. -/
def interrupt (exchange : Exchange α) (name : String) : Exchange α :=
  { exchange with broker := exchange.broker.interrupt name }.wakeQueue name

/-- Close the broker. -/
def close (exchange : Exchange α) : Exchange α :=
  { exchange with broker := exchange.broker.close }.wake fun _ => true

/-- Open a reader on a queue. -/
def openReader (exchange : Exchange α) (name : String) :
    Except QueueFault (ReaderRef × Exchange α) :=
  match exchange.broker.openReader name with
  | .error fault => .error fault
  | .ok (reader, broker) => .ok (reader, { exchange with broker })

/-- Close a reader; only one that is open wakes the others. -/
def closeReader (exchange : Exchange α) (reader : ReaderRef) : Exchange α :=
  if (exchange.broker.openReader? reader).isSome then
    { exchange with broker := exchange.broker.closeReader reader }.wakeQueue reader.queue
  else exchange

/-- Acknowledge a message. -/
def acknowledge (exchange : Exchange α) (delivery : Delivery) : Exchange α :=
  { exchange with broker := exchange.broker.acknowledge delivery }

/-- Try a read; if it has to wait it does so behind the others. -/
def attempt (exchange : Exchange α) (read : PendingRead α) : ReadOutcome × Exchange α :=
  match exchange.broker.read read.reader with
  | (.waits, broker) => (.waits, { exchange with broker, waiting := exchange.waiting ++ [read] })
  | (outcome, broker) => (outcome, { exchange with broker })

/-- Begin a read that has its first turn behind those that are woken already. -/
def begin (exchange : Exchange α) (read : PendingRead α) : Exchange α :=
  { exchange with woken := exchange.woken ++ [read] }

/-- Give up the reads of some owners. -/
def withdraw (exchange : Exchange α) (isOwner : α → Bool) : Exchange α :=
  { exchange with
    waiting := exchange.waiting.filter fun read => !isOwner read.owner
    woken := exchange.woken.filter fun read => !isOwner read.owner }

/-- Give the woken reads their turns; those that end are listed in that order. -/
def settle (exchange : Exchange α) : List (PendingRead α × ReadOutcome) × Exchange α :=
  exchange.woken.foldl
    (fun (ended, current) read =>
      match current.attempt read with
      | (.waits, later) => (ended, later)
      | (outcome, later) => (ended ++ [(read, outcome)], later))
    ([], { exchange with woken := [] })

end Exchange

end Turnstile
