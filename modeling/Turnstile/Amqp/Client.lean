import Turnstile.Amqp.Body
import Turnstile.Amqp.LinkSource
import Turnstile.Fault
import Turnstile.Settings

/-!
# The AMQP client

A client holds at most one connection, which all its readers share. Every reader has a session and
a link of its own. To open a reader, the client begins a session and attaches a link; when one of
them fails it gives up the connection and dials anew, as often as its settings allow, and tries
again. Only when no dial succeeds does it give up, and then it holds no connection.

What the peer does is a set of effects of any monad, so a client can be run against a broker that
is simulated (`Server`) or against prepared outcomes (`Script`).
-/

set_option autoImplicit false

namespace Turnstile.Amqp

/-- What can be asked of the peer, for connections `κ`, sessions `σ` and links `ρ`. A failure comes
with its wording. -/
structure Peer (m : Type → Type) (κ σ ρ : Type) where
  dial : Settings.Broker → m (Except String κ)
  closeConnection : κ → m (Except String Unit)
  beginSession : κ → m (Except String σ)
  endSession : σ → m Unit
  attach : σ → String → LinkSource → m (Except String ρ)
  detach : ρ → m Unit
  /-- The next message of a link, if one is there. -/
  receive : ρ → m (Except String (Option Body))
  /-- Settle the message that the link has delivered. -/
  accept : ρ → m (Except String Unit)
  /-- Let some milliseconds pass. -/
  pause : Nat → m Unit

/-- The peer that no dial reaches. -/
def Peer.unreachable {m : Type → Type} [Monad m] (pause : Nat → m Unit) :
    Peer m Empty Empty Empty where
  dial _ := return .error "no route to the broker"
  closeConnection := nofun
  beginSession := nofun
  endSession := nofun
  attach := nofun
  detach := nofun
  receive := nofun
  accept := nofun
  pause := pause

/-- A client with the connection that it holds. -/
structure Client (κ : Type) where
  settings : Settings.Broker
  held : Option κ

/-- A reader of a queue; once it is closed it has no session and no link. -/
structure Reader (σ ρ : Type) where
  queue : String
  session : Option σ
  link : Option ρ
deriving DecidableEq, Repr

/-- The fault of a client whose dials have all failed. -/
def dialFault : Retry.Failure String → QueueFault
  | .exhausted _ attempts last => .exhausted attempts (QueueFault.connect last).message
  | .notAttempted _ => .exhausted 0 "no connection attempts configured"

section Operations

variable {m : Type → Type} [Monad m] {κ σ ρ : Type}

namespace Client

/-- The client without its connection, which is closed. -/
def release (peer : Peer m κ σ ρ) (client : Client κ) : m (Except String Unit × Client κ) := do
  match client.held with
  | none => return (.ok (), client)
  | some connection =>
    return (← peer.closeConnection connection, { client with held := none })

/-- Close the connection, if there is one, and dial. -/
def reconnect (peer : Peer m κ σ ρ) (client : Client κ) :
    m (Except QueueFault Unit × Client κ) := do
  let (_, client) ← client.release peer
  match ← Retry.attempt client.settings.retryPolicy "connect to broker" peer.pause
      (peer.dial client.settings) with
  | .ok connection => return (.ok (), { client with held := some connection })
  | .error failure => return (.error (dialFault failure), client)

/-- A client that has dialed for the first time. -/
def connect (peer : Peer m κ σ ρ) (settings : Settings.Broker) :
    m (Except QueueFault Unit × Client κ) :=
  reconnect peer ⟨settings, none⟩

/-- Open a reader on the connection that is held; there is none if that fails at any point. -/
def tryReader (peer : Peer m κ σ ρ) (client : Client κ) (queue : String) :
    m (Option (Reader σ ρ)) := do
  match client.held with
  | none => return none
  | some connection =>
    match ← peer.beginSession connection with
    | .error _ => return none
    | .ok session =>
      let source := LinkSource.ofQueue client.settings.usesSessionFilters queue
      match ← peer.attach session (linkName queue) source with
      | .ok link => return some ⟨queue, some session, some link⟩
      | .error _ =>
        peer.endSession session
        return none

/-- Open a reader, with a number of tries that each follow a dial of their own, the first one
apart. There is no result if the tries are used up before one succeeds or a dial fails for
good. -/
def openReader (peer : Peer m κ σ ρ) (queue : String) :
    Nat → Client κ → m (Option (Except QueueFault (Reader σ ρ)) × Client κ)
  | 0, client => return (none, client)
  | tries + 1, client => do
    match ← client.tryReader peer queue with
    | some reader => return (some (.ok reader), client)
    | none =>
      match ← client.reconnect peer with
      | (.ok (), client) => openReader peer queue tries client
      | (.error fault, client) => return (some (.error fault), client)

/-- Close the connection, if there is one. -/
def close (peer : Peer m κ σ ρ) (client : Client κ) : m (Except QueueFault Unit × Client κ) := do
  let (result, client) ← client.release peer
  return (result.mapError .connect, client)

end Client

namespace Reader

/-- Read the next message; there is none if it has yet to come. -/
def read (peer : Peer m κ σ ρ) (reader : Reader σ ρ) : m (Except QueueFault (Option String)) := do
  match reader.link with
  | none => return .error (.closed reader.queue)
  | some link =>
    match ← peer.receive link with
    | .ok body => return .ok (body.map Body.delivered)
    | .error detail => return .error (.receive reader.queue detail)

/-- Acknowledge the message that was read. There is nothing to do if the reader is closed, for
then the broker has the message back. -/
def acknowledge (peer : Peer m κ σ ρ) (reader : Reader σ ρ) : m (Except QueueFault Unit) := do
  match reader.link with
  | none => return .ok ()
  | some link => return (← peer.accept link).mapError .acknowledge

/-- Close the reader: first its link, then its session. -/
def close (peer : Peer m κ σ ρ) (reader : Reader σ ρ) : m (Reader σ ρ) := do
  if let some link := reader.link then peer.detach link
  if let some session := reader.session then peer.endSession session
  return { reader with session := none, link := none }

end Reader

end Operations

end Turnstile.Amqp
