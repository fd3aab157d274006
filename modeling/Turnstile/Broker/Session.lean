import Turnstile.Broker.Exchange

/-!
# Sessions with the in-memory broker

A session drives a broker through readers and messages that have names. A read asked for `later`
goes on in the background until it ends or a request names its reader, which withdraws it.

Binding a name again lets go of the value it had, after the new one is there: a reader let go of
is closed, a message let go of stays with its reader.
-/

set_option autoImplicit false

namespace Turnstile

/-- A message in hand, or the reader to keep it for, by name. -/
structure Background where
  reader : String
  message : String
deriving DecidableEq, Repr

/-- A broker with the readers and messages that have names. -/
structure Session where
  exchange : Exchange Background
  readers : Table String ReaderRef
  messages : Table String Delivery
  /-- The queues seen so far. -/
  queues : List String

namespace Session

/-- What can be asked for. -/
inductive Request where
  | publish (queue body : String)
  | openReader (reader queue : String)
  | read (reader message : String)
  | readLater (reader message : String)
  /-- Publish, read and acknowledge one message after the other. -/
  | cycle (reader queue : String) (bodies : List String)
  | acknowledge (message : String)
  | describe (message : String)
  | dropMessage (message : String)
  | closeReader (reader : String)
  | dropReader (reader : String)
  | interrupt (queue : String)
  | setUnavailable (isUnavailable : Bool)
  | close
deriving DecidableEq, Repr

/-- What is answered. -/
inductive Reply where
  | silent
  | opened
  | closed
  | acknowledged
  | delivered (body : String)
  | pending
  | failed (fault : QueueFault)
  | noMessage
  | described (text : String)
  | present (wasThere : Bool)
deriving DecidableEq, Repr

/-- A background read that has ended. -/
structure Completion where
  reader : String
  result : Except QueueFault String

/-- The session at its start. -/
def fresh : Session := ⟨.fresh, .empty, .empty, []⟩

/-- The reader that a request names. -/
def Request.reader? : Request → Option String
  | .openReader reader _ => some reader
  | .read reader _ => some reader
  | .readLater reader _ => some reader
  | .cycle reader _ _ => some reader
  | .closeReader reader => some reader
  | .dropReader reader => some reader
  | _ => none

/-- The queue that a request names. -/
def Request.queue? : Request → Option String
  | .publish queue _ => some queue
  | .openReader _ queue => some queue
  | .cycle _ queue _ => some queue
  | .interrupt queue => some queue
  | _ => none

/-- Give up the background read of a reader. -/
def withdraw (session : Session) (reader : String) : Session :=
  { session with exchange := session.exchange.withdraw fun owner => owner.reader == reader }

/-- Remember a queue. -/
def see (session : Session) (queue : String) : Session :=
  if queue ∈ session.queues then session
  else { session with queues := session.queues ++ [queue] }

/-- Let go of the reader with a name. -/
def dropReader (session : Session) (name : String) : Session :=
  match session.readers.get? name with
  | none => session
  | some reader =>
    { session with
      exchange := session.exchange.closeReader reader
      readers := session.readers.erase name }

/-- Read without waiting. -/
def readNow (session : Session) (reader : ReaderRef) : ReadOutcome × Session :=
  let (outcome, broker) := session.exchange.broker.read reader
  (outcome, { session with exchange := { session.exchange with broker } })

/-- Publish, read and acknowledge a message. -/
def cycleOnce (reader : ReaderRef) (queue : String) (session : Session) (body : String) : Session :=
  let session := { session with exchange := session.exchange.publish queue body }
  match session.readNow reader with
  | (.delivered delivery, session) =>
    { session with exchange := session.exchange.acknowledge delivery }
  | (_, session) => session

/-- Carry out a request, background reads apart. -/
def serve (session : Session) : Request → Reply × Session
  | .publish queue body =>
    (.silent, { session with exchange := session.exchange.publish queue body })
  | .openReader name queue =>
    match session.exchange.openReader queue with
    | .error fault => (.failed fault, session.dropReader name)
    | .ok (reader, exchange) =>
      let session := { session with exchange }.dropReader name
      (.opened, { session with readers := session.readers.set name reader })
  | .read name message =>
    match session.readers.get? name with
    | none => (.silent, session)
    | some reader =>
      match session.readNow reader with
      | (.waits, session) => (.pending, session)
      | (.failed fault, session) => (.failed fault, session)
      | (.delivered delivery, session) =>
        (.delivered delivery.message.body,
          { session with messages := session.messages.set message delivery })
  | .readLater name message =>
    match session.readers.get? name with
    | none => (.silent, session)
    | some reader =>
      (.silent, { session with exchange := session.exchange.begin ⟨⟨name, message⟩, reader⟩ })
  | .cycle name queue bodies =>
    match session.readers.get? name with
    | none => (.silent, session)
    | some reader => (.silent, bodies.foldl (cycleOnce reader queue) session)
  | .acknowledge message =>
    match session.messages.get? message with
    | none => (.noMessage, session)
    | some delivery =>
      (.acknowledged, { session with
        exchange := session.exchange.acknowledge delivery
        messages := session.messages.erase message })
  | .describe message =>
    match session.messages.get? message with
    | none => (.noMessage, session)
    | some delivery => (.described delivery.message.describe, session)
  | .dropMessage message =>
    (.present (session.messages.contains message),
      { session with messages := session.messages.erase message })
  | .closeReader name =>
    match session.readers.get? name with
    | none => (.closed, session)
    | some reader => (.closed, { session with exchange := session.exchange.closeReader reader })
  | .dropReader name => (.present (session.readers.contains name), session.dropReader name)
  | .interrupt queue => (.silent, { session with exchange := session.exchange.interrupt queue })
  | .setUnavailable isUnavailable =>
    (.silent, { session with exchange := session.exchange.setUnavailable isUnavailable })
  | .close => (.closed, { session with exchange := session.exchange.close })

/-- Note how a background read has ended; the message is kept under its name. -/
def complete (session : Session) (read : PendingRead Background) :
    ReadOutcome → Session × List Completion
  | .delivered delivery =>
    ({ session with messages := session.messages.set read.owner.message delivery },
      [⟨read.owner.reader, .ok delivery.message.body⟩])
  | .failed fault => (session, [⟨read.owner.reader, .error fault⟩])
  | .waits => (session, [])

/-- Let the background reads run as far as they can. -/
def settle (session : Session) : List Completion × Session :=
  let (ended, exchange) := session.exchange.settle
  ended.foldl
    (fun (completions, session) (read, outcome) =>
      let (session, more) := session.complete read outcome
      (completions ++ more, session))
    ([], { session with exchange })

/-- Carry out a request and let the background reads run; those that end are listed by the name
of their reader. -/
def handle (session : Session) (request : Request) : Reply × List Completion × Session :=
  let session := (request.reader?.map session.withdraw).getD session
  let session := (request.queue?.map session.see).getD session
  let (reply, session) := session.serve request
  let (completions, session) := session.settle
  (reply, completions.mergeSort fun first second => !(second.reader < first.reader), session)

end Session

end Turnstile
