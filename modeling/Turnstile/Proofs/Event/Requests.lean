import Turnstile.Event.Client
import Turnstile.Proofs.Http.Addresses
import Turnstile.Proofs.Http.Form

/-!
# The requests of calls

Each call to the orchestration API has a method and some segments, which stand behind the path of
the base address (`ApiCall.pathBelow`). Identifiers fill one segment each, and the words around them
are the same for all calls of a kind, so that the call can be read back from its method and its path
(`ApiCall.ofPath?_pathBelow`), even for an event that is called `worker` or a job that is called
`start`.

The requests that a client makes for a call have this method and this path, whatever the peer
answers to them (`EventClient.method_and_path_of_mem`), and there is at least one if the address is
of the peer's origin and the token can be sent. So no two calls are mistaken for each other
(`requests_name_their_call`).
-/

set_option autoImplicit false

namespace Turnstile

open Http

namespace ApiCall

/-- The method of a call. -/
def method : ApiCall → Method
  | getEvent _ => .get
  | start _ => .put
  | listProjects => .get

/-- The path that a client puts behind its base address. -/
def path : ApiCall → String
  | getEvent event => EventClient.eventPath event
  | start work => EventClient.startPath work
  | listProjects => EventClient.projectsPath

/-- What the path of a call consists of. -/
def segments : ApiCall → List String
  | getEvent event => ["v2", "events", event.text]
  | start (.worker event) => ["v2", "events", event.text, "worker", "start"]
  | start (.job event name) => ["v2", "events", event.text, "worker", "jobs", name.text, "start"]
  | listProjects => ["v2", "projects"]

/-- The path of a call below a base: the path of the base without its trailing slashes, and the
segments of the call. -/
def pathBelow (base : Url) (call : ApiCall) : List Char :=
  (Url.trim base.path ++ call.segments.map String.toList).flatMap ('/' :: ·)

/-- The call with a method and some segments. -/
def ofSegments? : Method → List String → Option ApiCall
  | .get, ["v2", "events", event] => (Identifier.parse? .event event).map .getEvent
  | .get, ["v2", "projects"] => some .listProjects
  | .put, ["v2", "events", event, "worker", "start"] =>
    (Identifier.parse? .event event).map fun event => .start (.worker event)
  | .put, ["v2", "events", event, "worker", "jobs", name, "start"] => do
    let event ← Identifier.parse? .event event
    let name ← Identifier.parse? .job name
    return .start (.job event name)
  | _, _ => none

/-- The call with a method and a path below a base. -/
def ofPath? (base : Url) (method : Method) (path : List Char) : Option ApiCall :=
  let below := path.drop ((Url.trim base.path).flatMap ('/' :: ·)).length
  ofSegments? method ((Url.segmentsOf below).map String.ofList)

theorem toList_path (call : ApiCall) :
    call.path.toList = (call.segments.map String.toList).flatMap ('/' :: ·) := by
  cases call with
  | getEvent event =>
    show ("/v2/events/" ++ event.text).toList = _
    simp [segments]
  | start work =>
    cases work with
    | worker event =>
      show ("/v2/events/" ++ event.text ++ "/worker/start").toList = _
      simp [segments]
    | job event name =>
      show ("/v2/events/" ++ event.text ++ "/worker/jobs/" ++ name.text ++ "/start").toList = _
      simp [segments]
  | listProjects => decide

/-- The words in a path could be identifiers themselves. -/
theorem valid_of_mem_segments (call : ApiCall) :
    ∀ segment ∈ call.segments, Identifier.IsValid segment := by
  have words : ∀ word ∈ ["v2", "events", "worker", "jobs", "start", "projects"],
      Identifier.IsValid word := by decide
  cases call with
  | getEvent event => simp [segments, words, event.valid]
  | start work =>
    cases work with
    | worker event => simp [segments, words, event.valid]
    | job event name => simp [segments, words, event.valid, name.valid]
  | listProjects => simp [segments, words]

theorem isPlain_of_mem_segments (call : ApiCall) :
    ∀ segment ∈ call.segments.map String.toList, Url.IsPlain segment := by
  intro segment member
  obtain ⟨text, inside, rfl⟩ := List.mem_map.1 member
  exact (call.valid_of_mem_segments text inside).2.2

theorem ofSegments?_segments (call : ApiCall) :
    ofSegments? call.method call.segments = some call := by
  have parsed {kind : IdentifierKind} (identifier : Identifier kind) :
      Identifier.parse? kind identifier.text = some identifier :=
    Identifier.parse?_eq_some_iff.2 rfl
  cases call with
  | getEvent event => simp [method, segments, ofSegments?, parsed]
  | start work =>
    cases work with
    | worker event => simp [method, segments, ofSegments?, parsed]
    | job event name => simp [method, segments, ofSegments?, parsed]
  | listProjects => rfl

/-- **A call is read back from its path**, whatever its identifiers are. -/
theorem ofPath?_pathBelow (base : Url) (call : ApiCall) :
    ofPath? base call.method (call.pathBelow base) = some call := by
  have cut : Url.segmentsOf ((call.segments.map String.toList).flatMap ('/' :: ·)) =
      call.segments.map String.toList :=
    Url.segmentsOf_flatMap fun segment inside character member =>
      (Url.isAllowed_cases (call.isPlain_of_mem_segments segment inside character member)).2.2.1
  have texts : (call.segments.map String.toList).map String.ofList = call.segments := by
    simp
  rw [ofPath?, pathBelow, List.flatMap_append, List.drop_left, cut, texts]
  exact call.ofSegments?_segments

end ApiCall

namespace Http

variable {ε π : Type} {asks : Option String → Option Request} {decode : Answer → Except ε π}
  {continuation : π → Option String} {request : Request}

theorem Peer.requests_call (peer : Peer) (made : Option Request) :
    (peer.call made).2.1 = made.toList := by
  cases made with
  | none => rfl
  | some request => rfl

/-- A page takes the request for its token, and the others follow. -/
theorem exists_collectWithin_succ (asks : Option String → Option Request)
    (decode : Answer → Except ε π) (continuation : π → Option String) (pages : Nat)
    (token : Option String) (peer : Peer) :
    ∃ later, (collectWithin asks decode continuation (pages + 1) token peer).2 =
        (asks token).toList ++ later ∧
      (later = [] ∨ ∃ next after,
        later = (collectWithin asks decode continuation pages (some next) after).2) := by
  have made := peer.requests_call (asks token)
  rcases called : peer.call (asks token) with ⟨answer, requests, after⟩
  rw [called] at made
  obtain rfl : requests = (asks token).toList := made
  rw [collectWithin, called]
  cases decoded : decode answer with
  | error fault => exact ⟨[], by simp [decoded], .inl rfl⟩
  | ok page =>
    cases goesOn : continuation page with
    | none => exact ⟨[], by simp [decoded, goesOn], .inl rfl⟩
    | some next => exact ⟨_, by simp only [decoded, goesOn], .inr ⟨next, after, rfl⟩⟩

/-- Every request of a listing asks for some page. -/
theorem mem_collectWithin {pages : Nat} {token : Option String} {peer : Peer}
    (member : request ∈ (collectWithin asks decode continuation pages token peer).2) :
    ∃ token, asks token = some request := by
  induction pages generalizing token peer with
  | zero => cases member
  | succ pages ih =>
    obtain ⟨later, requests, follows⟩ :=
      exists_collectWithin_succ asks decode continuation pages token peer
    rw [requests] at member
    obtain first | member := List.mem_append.1 member
    · exact ⟨token, by simpa using first⟩
    · obtain rfl | ⟨next, after, rfl⟩ := follows
      · cases member
      · exact ih member

end Http

namespace EventClient

/-- The requests that a client makes for a call. -/
def requests (client : Client) (peer : Peer) : ApiCall → List Request
  | .getEvent event => (getEvent client peer event).requests
  | .start work => (start client peer work).requests
  | .listProjects => (listProjects client peer).requests

variable {client : Client} {peer : Peer} {request : Request}

theorem requests_getEvent (client : Client) (peer : Peer) (event : EventId) :
    (getEvent client peer event).requests =
      (client.request? peer.origin .get (eventPath event) []).toList :=
  peer.requests_call _

theorem requests_start (client : Client) (peer : Peer) (work : Work) :
    (start client peer work).requests =
      (client.request? peer.origin .put (startPath work) []).toList :=
  peer.requests_call _

theorem requests_listProjects (client : Client) (peer : Peer) :
    (listProjects client peer).requests =
      (collectWithin (fun token => client.request? peer.origin .get projectsPath (pageQuery token))
        (decode "projects" ProjectPage.ofJson?) ProjectPage.continuation
        (peer.answers.length + 1) none peer).2 :=
  rfl

/-- The first request of a call has no query. -/
theorem exists_requests (client : Client) (peer : Peer) (call : ApiCall) : ∃ later,
    requests client peer call =
      (client.request? peer.origin call.method call.path []).toList ++ later := by
  cases call with
  | getEvent event =>
    refine ⟨[], ?_⟩
    rw [List.append_nil]
    exact requests_getEvent client peer event
  | start work =>
    refine ⟨[], ?_⟩
    rw [List.append_nil]
    exact requests_start client peer work
  | listProjects =>
    rw [requests, requests_listProjects]
    obtain ⟨later, requests, -⟩ := exists_collectWithin_succ _ _ _ _ none peer
    exact ⟨later, requests⟩

/-- The requests of a call differ in their queries at most. -/
theorem exists_query_of_mem {call : ApiCall} (member : request ∈ requests client peer call) :
    ∃ query, client.request? peer.origin call.method call.path query = some request := by
  cases call with
  | getEvent event =>
    rw [requests, requests_getEvent] at member
    exact ⟨[], Option.mem_toList.1 member⟩
  | start work =>
    rw [requests, requests_start] at member
    exact ⟨[], Option.mem_toList.1 member⟩
  | listProjects =>
    rw [requests, requests_listProjects] at member
    obtain ⟨token, asked⟩ := mem_collectWithin member
    exact ⟨pageQuery token, asked⟩

section Bases

variable {address : String} {base : Url} {call : ApiCall}

/-- The address of a call, as a client reads it. -/
theorem parse_path (isBase : Url.IsBase address base) (token : Option String) (call : ApiCall) :
    Url.parse ((Client.ofAddress address token).base ++ call.path) =
      some ⟨base.origin, Url.trim base.path ++ call.segments.map String.toList, none⟩ := by
  apply Url.parse_below isBase token ?_ call.isPlain_of_mem_segments call.toList_path
  rcases call with _ | ⟨_ | _⟩ | _ <;> exact List.cons_ne_nil _ _

/-- **The requests of a call** have its method, and its path below the base. -/
theorem method_and_path_of_mem (isBase : Url.IsBase address base) {token : Option String}
    (member : request ∈ requests (.ofAddress address token) peer call) :
    request.method = call.method ∧ request.path = call.pathBelow base := by
  obtain ⟨query, made⟩ := exists_query_of_mem member
  obtain ⟨url, parsed, -, -, method, target⟩ := Client.request?_eq_some made
  have plain : ∀ segment ∈ (url.withPairs query).path, '?' ∉ segment := by
    rw [Url.path_withPairs]
    exact Url.notMem_path parsed
  refine ⟨method, ?_⟩
  rw [Request.path, target, (Url.split_target plain).1, Url.path_withPairs]
  rw [parse_path isBase token call] at parsed
  cases parsed
  rfl

/-- There are requests if the peer is the one that the base names and the token can be sent. -/
theorem requests_ne_nil_iff (isBase : Url.IsBase address base) (token : Option String)
    (peer : Peer) (call : ApiCall) :
    requests (.ofAddress address token) peer call ≠ [] ↔
      peer.origin = base.origin ∧ (Client.ofAddress address token).authorization?.isSome := by
  constructor
  · intro some
    obtain ⟨request, member⟩ := List.exists_mem_of_ne_nil _ some
    obtain ⟨query, made⟩ := exists_query_of_mem member
    obtain ⟨url, parsed, here, allowed, -, -⟩ := Client.request?_eq_some made
    rw [parse_path isBase token call] at parsed
    cases parsed
    exact ⟨here.symm, Option.isSome_of_eq_some allowed⟩
  · rintro ⟨here, allowed⟩ none
    obtain ⟨later, first⟩ := exists_requests (.ofAddress address token) peer call
    obtain ⟨authorization, allowed⟩ := Option.isSome_iff_exists.1 allowed
    rw [first] at none
    have refused := Option.toList_eq_nil_iff.1 (List.append_eq_nil_iff.1 none).1
    simp [Client.request?, parse_path isBase token call, allowed, here] at refused

end Bases

end EventClient

open EventClient

/-- **Requests name their call.** For every base address without query, fragment and dot segments,
whatever slashes are at its end, the requests of a call have its method, and for a path that of the
base without these slashes, then `v2` and the segments of the call, with each identifier as it is in
a segment of its own. There are such requests, to the origin of the base and to no other. Method and
path are different for any two calls: the call can be read back from them, with its identifiers. -/
theorem requests_name_their_call {address : String} {base : Url} (isBase : Url.IsBase address base)
    (token : Option String) :
    (∀ peer call, requests (.ofAddress address token) peer call ≠ [] ↔
      peer.origin = base.origin ∧ (Client.ofAddress address token).authorization?.isSome) ∧
    (∀ peer call, ∀ request ∈ requests (.ofAddress address token) peer call,
      request.method = call.method ∧
      request.path =
        (Url.trim base.path ++ call.segments.map String.toList).flatMap ('/' :: ·) ∧
      ApiCall.ofPath? base request.method request.path = some call) ∧
    Function.Injective fun call : ApiCall => (call.method, call.pathBelow base) := by
  refine ⟨requests_ne_nil_iff isBase token, ?requests, ?injective⟩
  case requests =>
    intro peer call request member
    obtain ⟨method, path⟩ := method_and_path_of_mem isBase member
    refine ⟨method, path, ?_⟩
    rw [method, path]
    exact ApiCall.ofPath?_pathBelow base call
  case injective =>
    intro first second same
    obtain ⟨methods, paths⟩ := Prod.mk.inj same
    have read := ApiCall.ofPath?_pathBelow base first
    rw [methods, paths, ApiCall.ofPath?_pathBelow base second] at read
    exact (Option.some.inj read).symm

/-- An address with slashes at its end. -/
def slashedAddress : String := "http://api/brigade//"

/-- What the address is read as. -/
def slashedBase : Url := ⟨⟨.http, "api", 80⟩, ["brigade".toList, [], []], none⟩

theorem isBase_slashedBase : Url.IsBase slashedAddress slashedBase where
  parsed := by decide
  bare := by simp [slashedAddress, Url.endsPath]
  dotless := by decide
  strict := by simp [slashedAddress, Url.isOuterBlank]

/-- The job `start` of the event `worker`. -/
def awkwardCall : ApiCall := .start (.job ⟨"worker", by decide⟩ ⟨"start", by decide⟩)

/-- A call whose identifiers are words of paths is still not mistaken. -/
theorem requests_name_awkwardCall :
    requests (.ofAddress slashedAddress (some "token")) ⟨slashedBase.origin, []⟩ awkwardCall ≠ [] ∧
    ∀ request ∈ requests (.ofAddress slashedAddress (some "token")) ⟨slashedBase.origin, []⟩
        awkwardCall,
      request.method = .put ∧
      request.path = "/brigade/v2/events/worker/worker/jobs/start/start".toList ∧
      ApiCall.ofPath? slashedBase request.method request.path = some awkwardCall := by
  obtain ⟨made, paths, -⟩ := requests_name_their_call isBase_slashedBase (some "token")
  refine ⟨(made ⟨slashedBase.origin, []⟩ awkwardCall).2 ⟨rfl, by decide⟩, ?_⟩
  intro request member
  obtain ⟨method, path, read⟩ := paths ⟨slashedBase.origin, []⟩ awkwardCall request member
  exact ⟨method, path.trans (by decide), read⟩

end Turnstile
