import Turnstile.Amqp.Client

/-!
# Peers with prepared outcomes

A script says which dials, sessions, links and closings of connections fail, one list for each;
what a list no longer tells succeeds. A connection has the number of its dial, a session is numbered
likewise, and a link has the number of its session. The script keeps record of what the client does,
so that a history of the client is a list of acts.
-/

set_option autoImplicit false

namespace Turnstile.Amqp

/-- What a client does to its peer, with what comes of it. -/
inductive Act where
  | dialed (outcome : Except String Nat)
  | closed (connection : Nat)
  | began (connection : Nat) (outcome : Except String Nat)
  | ended (session : Nat)
  | attached (session : Nat) (link : String) (source : LinkSource) (outcome : Except String Nat)
  | paused (milliseconds : Nat)
deriving Repr

/-- The failures to come, each as the wording of one or as a success; how many dials and sessions
were taken; and the acts so far, earliest first. -/
structure Script where
  dials : List (Option String)
  sessions : List (Option String)
  links : List (Option String)
  closings : List (Option String)
  dialed : Nat
  begun : Nat
  acts : List Act
deriving Repr

namespace Script

/-- A script of which nothing has been taken. -/
def ofFailures (dials sessions links closings : List (Option String)) : Script :=
  ⟨dials, sessions, links, closings, 0, 0, []⟩

/-- The outcome at the head of a list: a failure, or the number that a success has. -/
def outcome {α : Type} (failures : List (Option String)) (made : α) : Except String α :=
  match failures.head?.join with
  | some failure => .error failure
  | none => .ok made

/-- Record an act. -/
def record (script : Script) (act : Act) : Script := { script with acts := script.acts ++ [act] }

/-- Take the next dial. -/
def dial (script : Script) : Except String Nat × Script :=
  let result := outcome script.dials script.dialed
  (result,
    { script with dials := script.dials.tail, dialed := script.dialed + 1 }.record
      (.dialed result))

/-- Take the next closing. -/
def closeConnection (connection : Nat) (script : Script) : Except String Unit × Script :=
  (outcome script.closings (),
    { script with closings := script.closings.tail }.record (.closed connection))

/-- Take the next session. -/
def beginSession (connection : Nat) (script : Script) : Except String Nat × Script :=
  let result := outcome script.sessions script.begun
  (result,
    { script with sessions := script.sessions.tail, begun := script.begun + 1 }.record
      (.began connection result))

/-- Take the next link. -/
def attach (session : Nat) (link : String) (source : LinkSource) (script : Script) :
    Except String Nat × Script :=
  let result := outcome script.links session
  (result,
    { script with links := script.links.tail }.record (.attached session link source result))

/-- The script as the peer of a client. No messages come on its links. -/
def peer : Peer (StateM Script) Nat Nat Nat where
  dial _ := dial
  closeConnection connection := closeConnection connection
  beginSession connection := beginSession connection
  endSession session := fun script => ((), script.record (.ended session))
  attach session link source := attach session link source
  detach _ := fun script => ((), script)
  receive _ := fun script => (.ok none, script)
  accept _ := fun script => (.ok (), script)
  pause milliseconds := fun script => ((), script.record (.paused milliseconds))

/-- How many tries a client needs at most to open a reader: a try that fails takes a session or a
link from the script, except for a first one without connection. -/
def sufficientTries (script : Script) : Nat := script.sessions.length + script.links.length + 2

end Script

end Turnstile.Amqp
