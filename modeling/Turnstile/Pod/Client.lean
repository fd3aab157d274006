import Turnstile.Http.Client
import Turnstile.Pod.WatchStream

/-!
# The client of the substrate

Pods are listed and watched by label, and deleted by name. A pod that is to be deleted and is not
there counts as deleted.
-/

set_option autoImplicit false

namespace Turnstile.PodClient

open Http

/-- A call with the requests that it took. -/
structure Conversation (α : Type) where
  result : Except SubstrateFault α
  requests : List Request

/-- The path of all pods. -/
def podsPath : String := "/api/v1/pods"

/-- The path of a pod. -/
def podPath (pod : PodName) : String := s!"/api/v1/namespaces/{pod.space}/pods/{pod.name}"

/-- How many pods a page may hold. -/
def pageSize : Nat := 500

/-- After how many seconds the substrate ends a watch. -/
def watchTimeout : Nat := 300

/-- The body of an answer that means success. The wording without a response stands for any that
those who send requests may use. -/
def check : Answer → Except SubstrateFault Body
  | .broken => .error (.unreachable "no response")
  | .response status body =>
    if isSuccess status then .ok body else .error (.status status body.text)

/-- The page in an answer. The wording for a body that is none stands for any that those who read
it may use. -/
def decodePage (answer : Answer) : Except SubstrateFault PodPage := do
  let body ← check answer
  match body.bytes?.bind PodPage.ofJson? with
  | some page => .ok page
  | none => .error (.undecodable "unexpected body")

/-- The query that asks for a page of the pods with a label. -/
def pageQuery (selector : String) (token : Option String) : List (String × String) :=
  [("labelSelector", selector), ("limit", toString pageSize)] ++
    (token.map fun token => ("continue", token)).toList

/-- The query that asks for a watch. -/
def watchQuery (selector version : String) : List (String × String) :=
  [("labelSelector", selector), ("watch", "true"), ("allowWatchBookmarks", "true"),
    ("resourceVersion", version), ("timeoutSeconds", toString watchTimeout)]

/-- Pages taken together: all their pods, at the version of the last page. -/
def joinPages (pages : List PodPage) : PodPage where
  pods := pages.flatMap (·.pods)
  resourceVersion := pages.getLast?.bind (·.resourceVersion)
  next := none

/-- List the pods with a label. -/
def list (client : Client) (peer : Peer) (selector : String) : Conversation PodPage :=
  let request (token : Option String) : Option Request :=
    client.request? peer.origin .get podsPath (pageQuery selector token)
  let (pages, requests) := collect request decodePage PodPage.continuation peer
  ⟨pages.map joinPages, requests⟩

/-- The chunks of a body as a stream. -/
def chunksOf (body : Body) : List WatchStream.Chunk :=
  body.chunks.map .bytes ++ if body.isWhole then [] else [.lost]

/-- Watch the pods with a label from a version on, to the end of the watch. -/
def watch (client : Client) (peer : Peer) (selector version : String) :
    Conversation (List WatchStream.Item) :=
  let (answer, requests, _) :=
    peer.call (client.request? peer.origin .get podsPath (watchQuery selector version))
  ⟨(check answer).map fun body => WatchStream.read (chunksOf body), requests⟩

/-- Delete a pod. -/
def delete (client : Client) (peer : Peer) (pod : PodName) : Conversation Unit :=
  let (answer, requests, _) := peer.call (client.request? peer.origin .delete (podPath pod) [])
  let result := match answer with
    | .response 404 _ => .ok ()
    | answer => (check answer).map fun _ => ()
  ⟨result, requests⟩

/-- The client for the settings: without an address the service account of the pod would be used,
and that needs the address of the cluster from the environment. -/
def ofSettings (address token : Option String) : Except SubstrateFault Client :=
  match address with
  | some address => .ok (.ofAddress address token)
  | none => .error (.configuration "KUBERNETES_SERVICE_HOST is not set")

end Turnstile.PodClient
