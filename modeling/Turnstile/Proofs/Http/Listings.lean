import Turnstile.Proofs.Event.RoundTrip
import Turnstile.Proofs.Http.Form
import Turnstile.Proofs.Http.Pages

/-!
# A listing follows its pages

What a listing asks for is determined by the pages that it is given: the first request is for no
token, and each other one for the token of the page before it. A peer that serves some pages with a
token each, and then an answer that is no such page (`Serves`), gets one request for each of them
and one for that answer (`Asks`). If the answer brings a last page the listing comes to all the
pages in their order, and otherwise to the fault of the answer.

The induction is on the pages that are served; the token is carried along. It is done once for the
loop (`collectWithin_of_serves`) and applies to projects and to pods.
-/

set_option autoImplicit false

namespace Turnstile

namespace Http

variable {ε π : Type} {request : Option String → Option Request} {read : List UInt8 → Option π}
  {next : π → Option String} {peer : Peer} {pages : List π} {final : Answer}

/-- The peer answers with pages, each with a token for the next, and then with a final answer. -/
structure Serves (read : List UInt8 → Option π) (next : π → Option String) (peer : Peer)
    (pages : List π) (final : Answer) : Prop where
  answers : ∃ good more, peer.answers = good ++ final :: more ∧
    List.Forall₂ (fun answer page => answer.taken.page? read = some page) good pages
  goesOn : ∀ page ∈ pages, ∃ token, next page = some token ∧ token ≠ ""

/-- The requests ask for the tokens, one after the other, each with the same other parameters, and
are like the bare request in everything else. -/
def Asks (bare : Request) (always : List (String × String)) (tokens : List (Option String))
    (requests : List Request) : Prop :=
  (requests.map (·.parameters) = tokens.map fun token =>
    bare.parameters ++ always ++ (token.map fun token => ("continue", token)).toList) ∧
  ∀ request ∈ requests, request.method = bare.method ∧
    request.authorization = bare.authorization ∧ request.path = bare.path

/-- The requests of a client for the pages of a listing. -/
theorem exists_made {client : Client} {origin : Origin} {method : Method} {path : String}
    {bare : Request} (reaches : client.request? origin method path [] = some bare)
    (always : List (String × String)) :
    ∃ made : Option String → Request,
      (∀ token, client.request? origin method path
        (always ++ (token.map fun token => ("continue", token)).toList) = some (made token)) ∧
      ∀ tokens, Asks bare always tokens (tokens.map made) := by
  have each (token : Option String) := Client.request?_of_bare reaches
    (always ++ (token.map fun token => ("continue", token)).toList)
  choose made carries method authorization path parameters using each
  refine ⟨made, carries, fun tokens => ⟨?_, ?_⟩⟩
  · rw [List.map_map]
    apply List.map_congr_left
    intro token _
    rw [Function.comp_apply, parameters token, List.append_assoc]
  · intro request member
    obtain ⟨token, _, rfl⟩ := List.mem_map.1 member
    exact ⟨method token, authorization token, path token⟩

/-- **The loop follows the pages.** It asks for each page with the token of the one before it, and
comes to all of them with the last, or to the fault of the answer after them. -/
theorem collectWithin_of_serves {decode : Answer → Except ε π} {made : Option String → Request}
    (reaches : ∀ token, request token = some (made token))
    (decodes : ∀ answer page, answer.page? read = some page → decode answer = .ok page)
    {good more : List Answer}
    (brings : List.Forall₂ (fun answer page => answer.taken.page? read = some page) good pages)
    (goesOn : ∀ page ∈ pages, ∃ token, next page = some token ∧ token ≠ "")
    (ends : ∀ last, decode final.taken = .ok last → (next last).filter (· ≠ "") = none)
    (answers : peer.answers = good ++ final :: more) {atMost : Nat}
    (enough : pages.length < atMost) (token : Option String) :
    collectWithin request decode (fun page => (next page).filter (· ≠ "")) atMost token peer =
      ((decode final.taken).map fun last => pages ++ [last],
        (token :: pages.map next).map made) := by
  induction brings generalizing peer token atMost with
  | nil =>
    obtain ⟨atMost, rfl⟩ := Nat.exists_eq_succ_of_ne_zero (Nat.ne_zero_of_lt enough)
    have call : peer.call (request token) =
        (final.taken, [made token], { peer with answers := more }) := by
      simp [Peer.call, Peer.next, reaches, answers]
    simp only [collectWithin, call]
    cases decoded : decode final.taken with
    | error fault => rfl
    | ok last => simp only [ends last decoded]; rfl
  | @cons answer page good pages first _ ih =>
    obtain ⟨atMost, rfl⟩ := Nat.exists_eq_succ_of_ne_zero (Nat.ne_zero_of_lt enough)
    obtain ⟨⟨following, named, filled⟩, others⟩ := List.forall_mem_cons.1 goesOn
    have call : peer.call (request token) =
        (answer.taken, [made token], { peer with answers := good ++ final :: more }) := by
      simp [Peer.call, Peer.next, reaches, answers]
    have goes : (next page).filter (· ≠ "") = some following := by simp [named, filled]
    let later : Peer := { peer with answers := good ++ final :: more }
    have rest : collectWithin request decode _ atMost (some following) later = _ :=
      ih others rfl (Nat.lt_of_succ_lt_succ enough) (some following)
    simp only [collectWithin, call, decodes _ _ first, goes, rest, later]
    cases decode final.taken with
    | error fault => simp [Except.map, named]
    | ok last => simp [Except.map, named]

/-- The pages of a listing, or its fault, and its requests either way. -/
theorem collect_of_serves {decode : Answer → Except ε π} {fault : Answer → ε}
    {continuation : π → Option String} {made : Option String → Request}
    (reaches : ∀ token, request token = some (made token))
    (decodes : ∀ answer page, answer.page? read = some page → decode answer = .ok page)
    (fails : ∀ answer, answer.page? read = none → decode answer = .error (fault answer))
    (continues : continuation = fun page => (next page).filter (· ≠ ""))
    (serves : Serves read next peer pages final) :
    (∀ last, final.taken.page? read = some last → (next last = none ∨ next last = some "") →
      collect request decode continuation peer =
        (.ok (pages ++ [last]), (none :: pages.map next).map made)) ∧
    (final.taken.page? read = none →
      collect request decode continuation peer =
        (.error (fault final.taken), (none :: pages.map next).map made)) := by
  subst continues
  obtain ⟨good, more, answers, brings⟩ := serves.answers
  have enough : pages.length < peer.answers.length + 1 := by
    rw [answers, List.length_append, brings.length_eq]
    omega
  constructor
  · intro last lastBrings ends
    have decoded := decodes final.taken last lastBrings
    have noMore : ∀ page, decode final.taken = .ok page → (next page).filter (· ≠ "") = none := by
      intro page same
      cases decoded.symm.trans same
      rcases ends with ends | ends <;> simp [ends]
    rw [collect, collectWithin_of_serves reaches decodes brings serves.goesOn noMore answers enough,
      decoded]
    rfl
  · intro lastFails
    have failed := fails final.taken lastFails
    have noMore : ∀ page, decode final.taken = .ok page → (next page).filter (· ≠ "") = none := by
      intro page same
      cases failed.symm.trans same
    rw [collect, collectWithin_of_serves reaches decodes brings serves.goesOn noMore answers enough,
      failed]
    rfl

end Http

open Http

/-! ## Projects -/

namespace EventClient

/-- The fault of an answer that does not bring what was asked for. -/
def faultOf (what : String) : Answer → ApiFault
  | .broken => .unreachable "no response"
  | .response status body =>
    if isSuccess status then .undecodable "unexpected body"
    else if status = 404 then .notFound what
    else .status status body.text

theorem decode_of_page? {α : Type} (what : String) (read : List UInt8 → Option α)
    (answer : Answer) (value : α) (brings : answer.page? read = some value) :
    decode what read answer = .ok value := by
  have decoded := toOption_decode what read answer
  rw [brings] at decoded
  cases result : decode what read answer with
  | error fault => simp [result, Except.toOption] at decoded
  | ok other => simpa [result, Except.toOption] using decoded

theorem decode_of_no_page {α : Type} (what : String) (read : List UInt8 → Option α)
    (answer : Answer) (brings : answer.page? read = none) :
    decode what read answer = .error (faultOf what answer) := by
  cases answer with
  | broken => rfl
  | response status body =>
    by_cases succeeds : isSuccess status
    · rw [Answer.page?, if_pos succeeds] at brings
      simp [decode, check, succeeds, brings, faultOf, bind, Except.bind]
    · simp only [decode, check, succeeds, faultOf, Bool.false_eq_true, if_false, bind]
      by_cases missing : status = 404
      · rw [if_pos missing, if_pos missing]
        rfl
      · rw [if_neg missing, if_neg missing]
        rfl

theorem listProjects_of_serves {client : Client} {peer : Peer} {bare : Request}
    {pages : List ProjectPage} {final : Answer}
    (reaches : client.request? peer.origin .get projectsPath [] = some bare)
    (serves : Serves ProjectPage.ofJson? (·.next) peer pages final) :
    (∀ last, final.taken.page? ProjectPage.ofJson? = some last →
      (last.next = none ∨ last.next = some "") →
      (listProjects client peer).result = .ok ((pages ++ [last]).flatMap (·.projects)) ∧
        Asks bare [] (none :: pages.map (·.next)) (listProjects client peer).requests) ∧
    (final.taken.page? ProjectPage.ofJson? = none →
      (listProjects client peer).result = .error (faultOf "projects" final.taken) ∧
        Asks bare [] (none :: pages.map (·.next)) (listProjects client peer).requests) := by
  obtain ⟨made, carries, asks⟩ := exists_made reaches []
  have asksFor (token : Option String) :
      client.request? peer.origin .get projectsPath (pageQuery token) = some (made token) :=
    carries token
  obtain ⟨whole, failed⟩ := collect_of_serves asksFor
    (decode_of_page? "projects" ProjectPage.ofJson?)
    (decode_of_no_page "projects" ProjectPage.ofJson?)
    (rfl : ProjectPage.continuation = _) serves
  have asked := asks (none :: pages.map (·.next))
  constructor
  · intro last brings ends
    simp only [listProjects, whole last brings ends]
    exact ⟨rfl, asked⟩
  · intro brings
    simp only [listProjects, failed brings]
    exact ⟨rfl, asked⟩

end EventClient

/-! ## Pods -/

namespace PodClient

/-- The fault of an answer that brings no page. -/
def faultOf : Answer → SubstrateFault
  | .broken => .unreachable "no response"
  | .response status body =>
    if isSuccess status then .undecodable "unexpected body" else .status status body.text

theorem decodePage_of_page? (answer : Answer) (page : PodPage)
    (brings : answer.page? PodPage.ofJson? = some page) : decodePage answer = .ok page := by
  have decoded := toOption_decodePage answer
  rw [brings] at decoded
  cases result : decodePage answer with
  | error fault => simp [result, Except.toOption] at decoded
  | ok other => simpa [result, Except.toOption] using decoded

theorem decodePage_of_no_page (answer : Answer) (brings : answer.page? PodPage.ofJson? = none) :
    decodePage answer = .error (faultOf answer) := by
  cases answer with
  | broken => rfl
  | response status body =>
    by_cases succeeds : isSuccess status
    · rw [Answer.page?, if_pos succeeds] at brings
      simp [decodePage, check, succeeds, brings, faultOf, bind, Except.bind]
    · simp [decodePage, check, succeeds, faultOf, bind, Except.bind]

theorem joinPages_append (pages : List PodPage) (last : PodPage) :
    joinPages (pages ++ [last]) =
      ⟨(pages ++ [last]).flatMap (·.pods), last.resourceVersion, none⟩ := by
  simp [joinPages]

/-- The parameters that every request for pods with a label has. -/
def alwaysAsked (selector : String) : List (String × String) :=
  [("labelSelector", selector), ("limit", "500")]

theorem list_of_serves {client : Client} {peer : Peer} {selector : String} {bare : Request}
    {pages : List PodPage} {final : Answer}
    (reaches : client.request? peer.origin .get podsPath [] = some bare)
    (serves : Serves PodPage.ofJson? (·.next) peer pages final) :
    (∀ last, final.taken.page? PodPage.ofJson? = some last →
      (last.next = none ∨ last.next = some "") →
      (list client peer selector).result =
          .ok ⟨(pages ++ [last]).flatMap (·.pods), last.resourceVersion, none⟩ ∧
        Asks bare (alwaysAsked selector) (none :: pages.map (·.next))
          (list client peer selector).requests) ∧
    (final.taken.page? PodPage.ofJson? = none →
      (list client peer selector).result = .error (faultOf final.taken) ∧
        Asks bare (alwaysAsked selector) (none :: pages.map (·.next))
          (list client peer selector).requests) := by
  obtain ⟨made, carries, asks⟩ := exists_made reaches (alwaysAsked selector)
  have asksFor (token : Option String) :
      client.request? peer.origin .get podsPath (pageQuery selector token) = some (made token) :=
    carries token
  obtain ⟨whole, failed⟩ := collect_of_serves asksFor decodePage_of_page? decodePage_of_no_page
    (rfl : PodPage.continuation = _) serves
  have asked := asks (none :: pages.map (·.next))
  constructor
  · intro last brings ends
    simp only [list, whole last brings ends]
    exact ⟨congrArg Except.ok (joinPages_append pages last), asked⟩
  · intro brings
    simp only [list, failed brings]
    exact ⟨rfl, asked⟩

end PodClient

/-! ## Both listings -/

/-- **A listing follows its pages exactly.** Whatever pages with tokens a peer serves, and whatever
it answers to the request after them, there is one request for each page and one more: the first
without a token, each other with the token of the page before, and with nothing else that varies.
If the last request brings a page without a token, or with an empty one, the listing is that of all
the items in the order of the pages, for pods at the version of the last page; if it brings none,
the listing fails with the fault of that answer. A client whose address has no question mark sends
no other parameters. -/
theorem listings_follow_pages (client : Client) (peer : Peer) :
    (∀ bare pages final,
      client.request? peer.origin .get EventClient.projectsPath [] = some bare →
      Serves ProjectPage.ofJson? (·.next) peer pages final →
      let listing := EventClient.listProjects client peer
      (∀ last, final.taken.page? ProjectPage.ofJson? = some last →
        (last.next = none ∨ last.next = some "") →
        listing.result = .ok ((pages ++ [last]).flatMap (·.projects)) ∧
          Asks bare [] (none :: pages.map (·.next)) listing.requests) ∧
      (final.taken.page? ProjectPage.ofJson? = none →
        listing.result = .error (EventClient.faultOf "projects" final.taken) ∧
          Asks bare [] (none :: pages.map (·.next)) listing.requests)) ∧
    (∀ selector bare pages final,
      client.request? peer.origin .get PodClient.podsPath [] = some bare →
      Serves PodPage.ofJson? (·.next) peer pages final →
      let always := [("labelSelector", selector), ("limit", "500")]
      let listing := PodClient.list client peer selector
      (∀ last, final.taken.page? PodPage.ofJson? = some last →
        (last.next = none ∨ last.next = some "") →
        listing.result =
            .ok ⟨(pages ++ [last]).flatMap (·.pods), last.resourceVersion, none⟩ ∧
          Asks bare always (none :: pages.map (·.next)) listing.requests) ∧
      (final.taken.page? PodPage.ofJson? = none →
        listing.result = .error (PodClient.faultOf final.taken) ∧
          Asks bare always (none :: pages.map (·.next)) listing.requests)) ∧
    ('?' ∉ client.base.toList → ∀ path ∈ [EventClient.projectsPath, PodClient.podsPath],
      ∀ bare, client.request? peer.origin .get path [] = some bare → bare.parameters = []) := by
  refine ⟨fun bare pages final reaches serves => ?_,
    fun selector bare pages final reaches serves => ?_, fun plain path known bare reaches => ?_⟩
  · exact EventClient.listProjects_of_serves reaches serves
  · exact PodClient.list_of_serves reaches serves
  · have noMark : ∀ path ∈ [EventClient.projectsPath, PodClient.podsPath], '?' ∉ path.toList := by
      decide
    apply Client.parameters_of_notMem reaches
    rw [String.toList_append, List.mem_append, not_or]
    exact ⟨plain, noMark path known⟩

/-! ## Two pages -/

open Json in
/-- The text of a page without items is that of a page of pods as well. -/
theorem PodPage.ofJson?_emptyPage (next : Option String) :
    PodPage.ofJson? (ProjectPage.toJson ⟨[], next⟩) = some ⟨[], none, next⟩ := by
  have metadata : PodPage.metadata? (ProjectPage.nextTree next) = some (none, next) := by
    cases next with
    | none => rfl
    | some token =>
      rw [metadata?, ProjectPage.nextTree, Tree.parts?_ofMembers (by simp) (by simp)]
      simp [Parts.getOr, Table.get?, Table.find?, Tree.optional?_ofText]
  rw [PodPage.ofJson?, ProjectPage.toJson, Tree.read?_print (ProjectPage.isWritable_toTree _),
    Option.bind_some, PodPage.ofTree?, ProjectPage.toTree_eq,
    Tree.parts?_ofMembers (by simp) (by simp)]
  simp [Parts.getOr, Table.get?, Table.find?, metadata, Tree.list?]

theorem Http.Answer.page?_whole {π : Type} (read : List UInt8 → Option π) (bytes : List UInt8) :
    (Answer.response 200 ⟨[bytes], true⟩).taken.page? read = read bytes := by
  simp [Answer.taken, Answer.page?, isSuccess, Body.bytes?]

/-- A peer with two pages: the token of the first has signs that separate parameters, and that of
the second is empty. -/
def twoPages : Peer where
  origin := ⟨.http, "api", 80⟩
  answers := [some "a&b=c", some ""].map fun next =>
    .response 200 ⟨[ProjectPage.toJson ⟨[], next⟩], true⟩

/-- The second answer of the peer. -/
def lastOfTwo : Answer := .response 200 ⟨[ProjectPage.toJson ⟨[], some ""⟩], true⟩

theorem serves_twoPages {π : Type} {read : List UInt8 → Option π} {next : π → Option String}
    {page : π} (brings : read (ProjectPage.toJson ⟨[], some "a&b=c"⟩) = some page)
    (named : next page = some "a&b=c") : Serves read next twoPages [page] lastOfTwo where
  answers := ⟨[_], [], rfl, .cons ((Answer.page?_whole read _).trans brings) .nil⟩
  goesOn := List.forall_mem_singleton.2 ⟨_, named, by decide⟩

theorem listings_follow_pages_twoPages :
    let client : Client := .ofAddress "http://api/" none
    ((EventClient.listProjects client twoPages).result = .ok [] ∧
      (EventClient.listProjects client twoPages).requests.map (·.parameters) =
        [[], [("continue", "a&b=c")]]) ∧
    (PodClient.list client twoPages "kind=job").requests.map (·.parameters) =
      [[("labelSelector", "kind=job"), ("limit", "500")],
        [("labelSelector", "kind=job"), ("limit", "500"), ("continue", "a&b=c")]] := by
  intro client
  obtain ⟨projects, pods, parameters⟩ := listings_follow_pages client twoPages
  have plain : '?' ∉ client.base.toList := by decide
  constructor
  · have reaches : client.request? twoPages.origin .get EventClient.projectsPath [] =
        some ⟨.get, "/v2/projects", none⟩ := by decide
    obtain ⟨result, asks, _⟩ := (projects _ _ lastOfTwo reaches
      (serves_twoPages (ProjectPage.ofJson?_toJson _) rfl)).1 ⟨[], some ""⟩
      ((Answer.page?_whole _ _).trans (ProjectPage.ofJson?_toJson _)) (.inr rfl)
    refine ⟨result, ?_⟩
    rw [asks, parameters plain _ (by decide) _ reaches]
    rfl
  · have reaches : client.request? twoPages.origin .get PodClient.podsPath [] =
        some ⟨.get, "/api/v1/pods", none⟩ := by decide
    obtain ⟨_, asks, _⟩ := (pods "kind=job" _ _ lastOfTwo reaches
      (serves_twoPages (PodPage.ofJson?_emptyPage _) rfl)).1 ⟨[], none, some ""⟩
      ((Answer.page?_whole _ _).trans (PodPage.ofJson?_emptyPage _)) (.inr rfl)
    rw [asks, parameters plain _ (by decide) _ reaches]
    rfl

end Turnstile
