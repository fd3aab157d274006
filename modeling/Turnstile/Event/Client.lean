import Turnstile.Event.Json
import Turnstile.Http.Client
import Turnstile.Work

/-!
# The client of the orchestration API

The API speaks of an event at `v2/events/` and of projects at `v2/projects`. Identifiers stand in a
path as they are. An answer that the thing is not there is a fault of its own kind, and says what
was asked for.
-/

set_option autoImplicit false

namespace Turnstile.EventClient

open Http

/-- A call with the requests that it took. -/
structure Conversation (α : Type) where
  result : Except ApiFault α
  requests : List Request

/-- The path of an event. -/
def eventPath (event : EventId) : String := s!"/v2/events/{event.text}"

/-- The path at which a piece of work is started. -/
def startPath : Work → String
  | .worker event => s!"{eventPath event}/worker/start"
  | .job event name => s!"{eventPath event}/worker/jobs/{name.text}/start"

/-- The path of the projects. -/
def projectsPath : String := "/v2/projects"

/-- What a call is about. -/
def subject : Work → String
  | .worker event => s!"event {event.text}"
  | .job event name => s!"job {name.text} of event {event.text}"

/-- The body of an answer that means success. Why there is no response is told in the words of
those who send requests, and one wording stands for all of these here. -/
def check (what : String) : Answer → Except ApiFault Body
  | .broken => .error (.unreachable "no response")
  | .response status body =>
    if isSuccess status then .ok body
    else if status = 404 then .error (.notFound what)
    else .error (.status status body.text)

/-- What the body of an answer says. What is wrong with a body is told in the words of those who
read it, and one wording stands for all of these here. -/
def decode {α : Type} (what : String) (read : List UInt8 → Option α) (answer : Answer) :
    Except ApiFault α := do
  let body ← check what answer
  match body.bytes?.bind read with
  | some value => .ok value
  | none => .error (.undecodable "unexpected body")

/-- Look at an event. -/
def getEvent (client : Client) (peer : Peer) (event : EventId) : Conversation Event :=
  let (answer, requests, _) :=
    peer.call (client.request? peer.origin .get (eventPath event) [])
  ⟨decode (subject (.worker event)) Event.ofJson? answer, requests⟩

/-- Start a piece of work. What the body of the answer says does not count. -/
def start (client : Client) (peer : Peer) (work : Work) : Conversation Unit :=
  let (answer, requests, _) := peer.call (client.request? peer.origin .put (startPath work) [])
  ⟨(check (subject work) answer).map fun _ => (), requests⟩

/-- The query that asks for a page. -/
def pageQuery (token : Option String) : List (String × String) :=
  (token.map fun token => ("continue", token)).toList

/-- List the projects. -/
def listProjects (client : Client) (peer : Peer) : Conversation (List ProjectId) :=
  let request (token : Option String) : Option Request :=
    client.request? peer.origin .get projectsPath (pageQuery token)
  let (pages, requests) :=
    collect request (decode "projects" ProjectPage.ofJson?) ProjectPage.continuation peer
  ⟨pages.map fun pages => pages.flatMap (·.projects), requests⟩

end Turnstile.EventClient
