import Turnstile.Amqp.Server

/-!
# Trials of the AMQP client

A trial drives a client against a server through readers and messages that have names. Every
reader has a number of its own, by which its messages know it. Binding a name to a new reader ends
the link of the reader that had it.
-/

set_option autoImplicit false

namespace Turnstile.Amqp

/-- A client and a server, with the readers and messages that have names. -/
structure Trial where
  client : Client Nat
  server : Server
  readers : Table Nat (Reader Nat Nat)
  names : Table String Nat
  /-- The reader of each message. -/
  messages : Table String Nat

namespace Trial

/-- What can be asked for. -/
inductive Request where
  | openReader (reader queue : String)
  | read (reader message : String)
  | acknowledge (message : String)
  | closeReader (reader : String)
  | close
  | cut
  | stop
deriving DecidableEq, Repr

/-- What is answered. -/
inductive Reply where
  | silent
  | connected
  | opened
  | done
  | delivered (body : String)
  | pending
  | failed (fault : QueueFault)
deriving DecidableEq, Repr

/-- Begin a trial: the client dials for the first time. -/
def start (settings : Settings.Broker) (server : Server) : Reply × Trial :=
  let ((result, client), server) := (Client.connect Server.peer settings).run server
  (match result with
    | .ok () => .connected
    | .error fault => .failed fault,
    ⟨client, server, .empty, .empty, .empty⟩)

/-- A reader by its name. -/
def reader? (trial : Trial) (name : String) : Option (Nat × Reader Nat Nat) := do
  let number ← trial.names.get? name
  return (number, ← trial.readers.get? number)

/-- End the link of the reader that has a name. -/
def endLinkOf (trial : Trial) (name : String) : Trial :=
  match (trial.reader? name).bind fun reader => reader.2.link with
  | none => trial
  | some link => { trial with server := trial.server.detach link }

/-- Bind a name to a new reader. -/
def bindReader (trial : Trial) (name : String) (reader : Reader Nat Nat) : Trial :=
  let trial := trial.endLinkOf name
  let number := trial.readers.size
  { trial with
    readers := trial.readers.set number reader
    names := trial.names.set name number }

/-- Carry out a request. -/
def serve (trial : Trial) : Request → Reply × Trial
  | .openReader name queue =>
    let ((result, client), server) :=
      (Client.openReader Server.peer queue trial.server.sufficientTries trial.client).run
        trial.server
    let trial := { trial with client, server }
    match result with
    | some (.ok reader) => (.opened, trial.bindReader name reader)
    | some (.error fault) => (.failed fault, trial)
    | none => (.pending, trial)
  | .read name message =>
    match trial.reader? name with
    | none => (.silent, trial)
    | some (number, reader) =>
      let (result, server) := (reader.read Server.peer).run trial.server
      let trial := { trial with server }
      match result with
      | .ok (some body) =>
        (.delivered body, { trial with messages := trial.messages.set message number })
      | .ok none => (.pending, trial)
      | .error fault => (.failed fault, trial)
  | .acknowledge message =>
    match (trial.messages.get? message).bind trial.readers.get? with
    | none => (.silent, trial)
    | some reader =>
      let (result, server) := (reader.acknowledge Server.peer).run trial.server
      let trial := { trial with server, messages := trial.messages.erase message }
      match result with
      | .ok () => (.done, trial)
      | .error fault => (.failed fault, trial)
  | .closeReader name =>
    match trial.reader? name with
    | none => (.silent, trial)
    | some (number, reader) =>
      let (reader, server) := (reader.close Server.peer).run trial.server
      (.done, { trial with server, readers := trial.readers.set number reader })
  | .close =>
    let ((result, client), server) := (trial.client.close Server.peer).run trial.server
    let trial := { trial with client, server }
    match result with
    | .ok () => (.done, trial)
    | .error fault => (.failed fault, trial)
  | .cut => (.silent, { trial with server := trial.server.cut })
  | .stop => (.silent, { trial with server := trial.server.stop })

/-- What is reported after a request; what the server got to see is reported once. -/
structure Report where
  reply : Reply
  accepted : Nat
  attachments : List Attachment
  settled : List String

/-- The report after a reply. -/
def report (reply : Reply) (trial : Trial) : Report × Trial :=
  (⟨reply, trial.server.accepted, trial.server.attachments, trial.server.settled⟩,
    { trial with server := { trial.server with attachments := [], settled := [] } })

/-- The reports after some requests. -/
def serveAll (trial : Trial) : List Request → List Report
  | [] => []
  | request :: rest =>
    let (reply, trial) := trial.serve request
    let (report, trial) := report reply trial
    report :: trial.serveAll rest

/-- The report of the first dial and, if it succeeds, of the requests after it. -/
def run (settings : Settings.Broker) (server : Server) (requests : List Request) : List Report :=
  let (reply, trial) := start settings server
  let (report, trial) := report reply trial
  report :: if reply = .connected then trial.serveAll requests else []

end Trial

end Turnstile.Amqp
