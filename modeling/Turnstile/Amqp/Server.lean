import Turnstile.Amqp.Client
import Turnstile.Table

/-!
# A simulated AMQP broker

The server accepts connections as long as it listens, and treats each as its plan says. A link is
given one message of its address at a time: the next one follows when that one is settled. When a
link ends, a message that it has been given and that is not settled goes back to the head of its
queue.
-/

set_option autoImplicit false

namespace Turnstile.Amqp

/-- How the server treats a connection. -/
inductive Treatment where
  | serves
  /-- It is closed at once. -/
  | dropped
  /-- It breaks when a session is begun. -/
  | refusesSessions
  /-- It breaks when a link is attached. -/
  | refusesLinks
deriving DecidableEq, Repr

/-- What a link has been given. -/
inductive Credit where
  | unused
  /-- A message that has not been read. -/
  | arrived (body : Body)
  /-- A message that has been read and is not settled. -/
  | read (body : Body)

/-- The message that is not settled. -/
def Credit.unsettled : Credit → List Body
  | .unused => []
  | .arrived body => [body]
  | .read body => [body]

/-- A link as the server knows it. -/
structure ServerLink where
  number : Nat
  connection : Nat
  address : String
  credit : Credit

/-- An attachment as the server gets to see it. -/
structure Attachment where
  link : String
  source : LinkSource
deriving DecidableEq, Repr

/-- The state of the server. -/
structure Server where
  username : String
  password : String
  plan : List Treatment
  isListening : Bool
  /-- How many connections have been accepted. -/
  accepted : Nat
  connections : Table Nat Treatment
  queues : Table String (List Body)
  /-- The links in the order in which they were attached. -/
  links : List ServerLink
  nextLink : Nat
  /-- The attachments seen, oldest first. -/
  attachments : List Attachment
  /-- The addresses of the messages settled, oldest first. -/
  settled : List String

namespace Server

/-- A server before its first connection: the credentials it accepts, its plan and its messages by
address. -/
def fresh (username password : String) (plan : List Treatment)
    (messages : List (String × List Body)) : Server where
  username
  password
  plan
  isListening := true
  accepted := 0
  connections := .empty
  queues := .ofList messages
  links := []
  nextLink := 0
  attachments := []
  settled := []

/-- The messages of a queue. -/
def queue (server : Server) (address : String) : List Body := (server.queues.get? address).getD []

/-- Give messages to the links that have none, in the order of the links. -/
def supply (server : Server) : Server :=
  server.links.foldl
    (fun server link =>
      match link.credit, server.queue link.address with
      | .unused, body :: rest =>
        { server with
          queues := server.queues.set link.address rest
          links := server.links ++ [{ link with credit := .arrived body }] }
      | _, _ => { server with links := server.links ++ [link] })
    { server with links := [] }

/-- Put what a link has not settled back to the head of its queue. -/
def takeBack (link : ServerLink) (server : Server) : Server :=
  { server with
    queues := server.queues.set link.address
      (link.credit.unsettled ++ server.queue link.address) }

/-- End the links for which the test holds. -/
def endLinks (server : Server) (test : ServerLink → Bool) : Server :=
  ((server.links.filter test).foldr takeBack
    { server with links := server.links.filter fun link => !test link }).supply

/-- End a connection with its links. -/
def endConnection (server : Server) (number : Nat) : Server :=
  { server with connections := server.connections.erase number }.endLinks
    fun link => link.connection == number

/-- End all connections. -/
def cut (server : Server) : Server :=
  { server with connections := .empty }.endLinks fun _ => true

/-- Accept no more connections. -/
def stop (server : Server) : Server := { server with isListening := false }

/-- Accept a connection, unless the server does not listen. -/
def dial (settings : Settings.Broker) (server : Server) : Except String Nat × Server :=
  if !server.isListening then (.error "connection refused", server)
  else
    let number := server.accepted
    let treatment := server.plan.head?.getD .serves
    let server := { server with accepted := number + 1, plan := server.plan.tail }
    if treatment = .dropped then (.error "connection closed", server)
    else if settings.username = server.username ∧ settings.password = server.password then
      (.ok number, { server with connections := server.connections.set number treatment })
    else (.error "wrong credentials", server)

/-- Begin a session; its number is that of its connection. -/
def beginSession (connection : Nat) (server : Server) : Except String Nat × Server :=
  match server.connections.get? connection with
  | none => (.error "connection lost", server)
  | some .refusesSessions => (.error "connection lost", server.endConnection connection)
  | some _ => (.ok connection, server)

/-- Attach a link. -/
def attach (session : Nat) (name : String) (source : LinkSource) (server : Server) :
    Except String Nat × Server :=
  match server.connections.get? session with
  | none => (.error "connection lost", server)
  | some .refusesLinks => (.error "connection lost", server.endConnection session)
  | some _ =>
    let link : ServerLink := ⟨server.nextLink, session, source.address, .unused⟩
    (.ok server.nextLink,
      { server with
        links := server.links ++ [link]
        nextLink := server.nextLink + 1
        attachments := server.attachments ++ [Attachment.mk name source] }.supply)

/-- Detach a link. -/
def detach (number : Nat) (server : Server) : Server :=
  server.endLinks fun link => link.number == number

/-- A link by its number. -/
def link? (server : Server) (number : Nat) : Option ServerLink :=
  server.links.find? fun link => link.number == number

/-- The server with what a link has been given replaced. -/
def setCredit (server : Server) (number : Nat) (credit : Credit) : Server :=
  { server with
    links := server.links.map fun link =>
      if link.number == number then { link with credit } else link }

/-- Deliver the message that has arrived at a link. -/
def receive (number : Nat) (server : Server) : Except String (Option Body) × Server :=
  match server.link? number with
  | none => (.error "link detached", server)
  | some link =>
    match link.credit with
    | .arrived body => (.ok (some body), server.setCredit number (.read body))
    | _ => (.ok none, server)

/-- Settle the message that a link has delivered. -/
def accept (number : Nat) (server : Server) : Except String Unit × Server :=
  match server.link? number with
  | none => (.error "link detached", server)
  | some link =>
    (.ok (), { server.setCredit number .unused with
      settled := server.settled ++ [link.address] }.supply)

/-- The server as the peer of a client. Pauses do not count. -/
def peer : Peer (StateM Server) Nat Nat Nat where
  dial settings := fun server => server.dial settings
  closeConnection connection := fun server => (.ok (), server.endConnection connection)
  beginSession connection := fun server => server.beginSession connection
  endSession _ := fun server => ((), server)
  attach session name source := fun server => server.attach session name source
  detach link := fun server => ((), server.detach link)
  receive link := fun server => server.receive link
  accept link := fun server => server.accept link
  pause _ := fun server => ((), server)

/-- How many tries a client needs at most to open a reader. A try that fails breaks the
connection, and the next one then is on a connection that took a step of the plan, except for the
try on the connection held and the one when the plan is used up. -/
def sufficientTries (server : Server) : Nat := server.plan.length + 2

end Server

end Turnstile.Amqp
