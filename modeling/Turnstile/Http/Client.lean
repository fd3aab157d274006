import Turnstile.Http.Url

/-!
# Requests and their answers

A client has a base address and perhaps a token, and a call names a method, a path below the base
and a query. The request is what the peer gets to see of it. A peer is given by its origin and the
answers that it will give, one to each request; when they are used up it answers with a fault of
its own. Every call is a function from that list, so it can be followed request by request.
-/

set_option autoImplicit false

namespace Turnstile.Http

/-- The methods in use. -/
inductive Method where
  | get
  | put
  | delete
deriving DecidableEq, Repr

/-- The written form of a method. -/
def Method.text : Method → String
  | get => "GET"
  | put => "PUT"
  | delete => "DELETE"

/-- A request as the peer gets it. -/
structure Request where
  method : Method
  target : String
  authorization : Option String
deriving DecidableEq, Repr

/-- The body of an answer in the pieces in which it comes; whether it comes to its end. -/
structure Body where
  chunks : List (List UInt8)
  isWhole : Bool
deriving DecidableEq, Repr

namespace Body

/-- The body without any bytes. -/
def empty : Body := ⟨[], true⟩

/-- The bytes of a body that comes to its end. -/
def bytes? (body : Body) : Option (List UInt8) :=
  if body.isWhole then some body.chunks.flatten else none

/-- The text of a body: broken stretches are replaced, and a body that breaks off has none. -/
def text (body : Body) : String := ((body.bytes?).map Utf8.decodeLossy).getD ""

end Body

/-- What comes of a request, once all redirects have been followed: headers are of no use after
that, so a response has none. -/
inductive Answer where
  | response (status : Nat) (body : Body)
  /-- The connection is closed without a response. -/
  | broken
deriving DecidableEq, Repr

namespace Answer

/-- The answer of a peer that has no other left. -/
def exhausted : Answer := .response 500 ⟨[Utf8.encode "no more responses"], true⟩

/-- The answer as the client takes it: after an interim status the response never comes, and some
statuses have no body. -/
def taken : Answer → Answer
  | .broken => .broken
  | .response status body =>
    if status = 101 ∨ status = 204 ∨ status = 304 then .response status .empty
    else if 200 ≤ status ∧ status < 1000 then .response status body
    else .broken

end Answer

/-- Whether a status means success. -/
def isSuccess (status : Nat) : Bool := 200 ≤ status && status < 300

/-- The peer of a conversation. -/
structure Peer where
  origin : Origin
  answers : List Answer

/-- The answer to the next request, and the peer after it. -/
def Peer.next (peer : Peer) : Answer × Peer :=
  ((peer.answers.head?.getD .exhausted).taken, { peer with answers := peer.answers.tail })

/-- A client. -/
structure Client where
  base : String
  token : Option String
deriving DecidableEq, Repr

namespace Client

/-- A client for an address; slashes at its end do not count. -/
def ofAddress (address : String) (token : Option String) : Client :=
  ⟨String.ofList (address.toList.reverse.dropWhile (· == '/')).reverse, token⟩

/-- Whether a character may stand in a header. -/
def isHeaderChar (character : Char) : Bool :=
  (0x20 ≤ character.toNat && character.toNat ≠ 0x7f) || character == '\t'

/-- The header that carries a token; none if the token cannot stand in one. -/
def bearer? (token : String) : Option String :=
  if token.toList.all isHeaderChar then some ("Bearer " ++ token) else none

/-- The authorization of the requests: none at all without a token. -/
def authorization? (client : Client) : Option (Option String) :=
  match client.token with
  | none => some none
  | some token => (bearer? token).map some

/-- The request of a call, as an origin gets it; none if the address is none of that origin or
the token cannot be sent. -/
def request? (client : Client) (origin : Origin) (method : Method) (path : String)
    (query : List (String × String)) : Option Request := do
  let url ← Url.parse (client.base ++ path)
  let authorization ← client.authorization?
  if url.origin = origin then return ⟨method, (url.withPairs query).target, authorization⟩
  else none

end Client

/-- A call that consists of one request, with what the peer got to see. A request that cannot be
made counts as broken. -/
def Peer.call (peer : Peer) (request : Option Request) : Answer × List Request × Peer :=
  match request with
  | none => (.broken, [], peer)
  | some request =>
    let (answer, peer) := peer.next
    (answer, [request], peer)

/-! ## Pages

A listing asks for one page after the other, each with the continuation token of the one before,
until a page has none. It succeeds only if every page does.
-/

/-- The pages from one on, with the requests for them. -/
def collectWithin {ε π : Type} (request : Option String → Option Request)
    (decode : Answer → Except ε π) (continuation : π → Option String) :
    Nat → Option String → Peer → Except ε (List π) × List Request
  | 0, _, _ => (.ok [], [])
  | pages + 1, token, peer =>
    let (answer, requests, peer) := peer.call (request token)
    match decode answer with
    | .error fault => (.error fault, requests)
    | .ok page =>
      match continuation page with
      | none => (.ok [page], requests)
      | some token =>
        let (rest, more) := collectWithin request decode continuation pages (some token) peer
        (rest.map (page :: ·), requests ++ more)

/-- All pages, with the requests for them. A peer with `n` answers is asked `n + 1` times at most,
because the answer after them is no page. -/
def collect {ε π : Type} (request : Option String → Option Request)
    (decode : Answer → Except ε π) (continuation : π → Option String) (peer : Peer) :
    Except ε (List π) × List Request :=
  collectWithin request decode continuation (peer.answers.length + 1) none peer

end Turnstile.Http
