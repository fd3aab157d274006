import Turnstile.Event.Client
import Turnstile.Pod.Client

/-!
# A listing is whole, or it is none

A listing asks its peer for one page after the other. An answer brings a page if its status means
success and its body comes to its end and reads as one (`Answer.page?`). So every peer lets a
listing fetch some pages, however many, until one has no continuation, or until a request brings no
page (`Fetches`).

Each time it is one of the two, and the pages are determined (`exists_fetches`, `Fetches.unique`).
In the first case the listing comes to all the pages together, in the second it fails, and nothing
is left of those before (`toOption_collect`). This goes for projects (`EventClient.Lists`) and for
pods (`PodClient.Lists`).
-/

set_option autoImplicit false

namespace Turnstile

namespace Http

variable {ε π : Type} {request : Option String → Option Request} {read : List UInt8 → Option π}
  {continuation : π → Option String} {token : Option String} {peer : Peer} {pages : List π}
  {isWhole : Bool}

/-- The page that an answer brings, if any. -/
def Answer.page? (read : List UInt8 → Option π) : Answer → Option π
  | broken => none
  | response status body => if isSuccess status then body.bytes?.bind read else none

/-- The pages that a listing fetches from a token on; whether they are all, or the request after
them has brought none. -/
inductive Fetches (request : Option String → Option Request) (read : List UInt8 → Option π)
    (continuation : π → Option String) : Option String → Peer → List π → Bool → Prop where
  | failed {token : Option String} {peer : Peer}
      (brings : (peer.call (request token)).1.page? read = none) :
      Fetches request read continuation token peer [] false
  | last {token : Option String} {peer : Peer} {page : π}
      (brings : (peer.call (request token)).1.page? read = some page)
      (ends : continuation page = none) :
      Fetches request read continuation token peer [page] true
  | more {token : Option String} {peer : Peer} {page : π} {next : String} {pages : List π}
      {isWhole : Bool} (brings : (peer.call (request token)).1.page? read = some page)
      (goesOn : continuation page = some next)
      (rest : Fetches request read continuation (some next) (peer.call (request token)).2.2 pages
        isWhole) :
      Fetches request read continuation token peer (page :: pages) isWhole

/-- A page takes up one of the answers of the peer. -/
theorem length_lt_of_page? {request : Option Request} {page : π}
    (brings : (peer.call request).1.page? read = some page) :
    (peer.call request).2.2.answers.length < peer.answers.length := by
  cases request with
  | none => cases brings
  | some request =>
    cases given : peer.answers with
    | nil =>
      simp [Peer.call, Peer.next, given, Answer.exhausted, Answer.taken, Answer.page?, isSuccess]
        at brings
    | cons answer answers => simp [Peer.call, Peer.next, given]

/-- Every peer comes to the end of its answers. -/
theorem exists_fetches (request : Option String → Option Request) (read : List UInt8 → Option π)
    (continuation : π → Option String) (token : Option String) (peer : Peer) :
    ∃ pages isWhole, Fetches request read continuation token peer pages isWhole := by
  induction answers : peer.answers.length using Nat.strongRecOn generalizing token peer with
  | ind length ih =>
    cases brings : (peer.call (request token)).1.page? read with
    | none => exact ⟨[], false, .failed brings⟩
    | some page =>
      cases goesOn : continuation page with
      | none => exact ⟨[page], true, .last brings goesOn⟩
      | some next =>
        have fewer := length_lt_of_page? brings
        obtain ⟨pages, isWhole, rest⟩ := ih _ (answers ▸ fewer) (some next) _ rfl
        exact ⟨page :: pages, isWhole, .more brings goesOn rest⟩

/-- The answers determine which pages are fetched. -/
theorem Fetches.unique {pages' : List π} {isWhole' : Bool}
    (first : Fetches request read continuation token peer pages isWhole)
    (second : Fetches request read continuation token peer pages' isWhole') :
    pages = pages' ∧ isWhole = isWhole' := by
  induction first generalizing pages' isWhole' with
  | failed brings =>
    cases second with
    | failed => exact ⟨rfl, rfl⟩
    | last brings' => cases brings.symm.trans brings'
    | more brings' => cases brings.symm.trans brings'
  | last brings ends =>
    cases second with
    | failed brings' => cases brings.symm.trans brings'
    | last brings' =>
      cases brings.symm.trans brings'
      exact ⟨rfl, rfl⟩
    | more brings' goesOn =>
      cases brings.symm.trans brings'
      cases ends.symm.trans goesOn
  | more brings goesOn rest ih =>
    cases second with
    | failed brings' => cases brings.symm.trans brings'
    | last brings' ends =>
      cases brings.symm.trans brings'
      cases ends.symm.trans goesOn
    | more brings' goesOn' rest' =>
      cases brings.symm.trans brings'
      cases goesOn.symm.trans goesOn'
      obtain ⟨rfl, rfl⟩ := ih rest'
      exact ⟨rfl, rfl⟩

theorem toOption_map {α β : Type} (change : α → β) (result : Except ε α) :
    (result.map change).toOption = result.toOption.map change := by
  cases result <;> rfl

/-- What comes of a request for a page, and of the requests after it. -/
theorem toOption_collectWithin_succ {decode : Answer → Except ε π}
    (decodes : ∀ answer, (decode answer).toOption = answer.page? read) (atMost : Nat)
    (token : Option String) (peer : Peer) :
    (collectWithin request decode continuation (atMost + 1) token peer).1.toOption =
      ((peer.call (request token)).1.page? read).bind fun page =>
        match continuation page with
        | none => some [page]
        | some next =>
          (collectWithin request decode continuation atMost (some next)
            (peer.call (request token)).2.2).1.toOption.map (page :: ·) := by
  rw [← decodes]
  simp only [collectWithin]
  cases decode (peer.call (request token)).1 with
  | error fault => rfl
  | ok page =>
    show _ = match continuation page with
      | none => _
      | some next => _
    cases goesOn : continuation page with
    | none => simp [goesOn, Except.toOption]
    | some next => simp [goesOn, toOption_map]

/-- A listing comes to the pages that it fetches, if they are all. -/
theorem toOption_collectWithin {decode : Answer → Except ε π}
    (decodes : ∀ answer, (decode answer).toOption = answer.page? read)
    (fetches : Fetches request read continuation token peer pages isWhole) {atMost : Nat}
    (enough : peer.answers.length < atMost) :
    (collectWithin request decode continuation atMost token peer).1.toOption =
      if isWhole then some pages else none := by
  induction fetches generalizing atMost with
  | failed brings =>
    obtain ⟨atMost, rfl⟩ := Nat.exists_eq_succ_of_ne_zero (Nat.ne_zero_of_lt enough)
    rw [toOption_collectWithin_succ decodes, brings]
    rfl
  | last brings ends =>
    obtain ⟨atMost, rfl⟩ := Nat.exists_eq_succ_of_ne_zero (Nat.ne_zero_of_lt enough)
    rw [toOption_collectWithin_succ decodes, brings, Option.bind_some, ends]
    rfl
  | @more _ _ _ _ pages isWhole brings goesOn rest ih =>
    obtain ⟨atMost, rfl⟩ := Nat.exists_eq_succ_of_ne_zero (Nat.ne_zero_of_lt enough)
    have fewer := length_lt_of_page? brings
    rw [toOption_collectWithin_succ decodes, brings, Option.bind_some, goesOn]
    simp only [ih (show _ < atMost by omega)]
    cases isWhole <;> rfl

/-- **A listing is whole, or it is none**: it comes to the pages that it fetches if they are all,
and fails otherwise. -/
theorem toOption_collect {decode : Answer → Except ε π}
    (decodes : ∀ answer, (decode answer).toOption = answer.page? read)
    (fetches : Fetches request read continuation none peer pages isWhole) :
    (collect request decode continuation peer).1.toOption =
      if isWhole then some pages else none :=
  toOption_collectWithin decodes fetches (Nat.lt_succ_self _)

end Http

open Http

/-! ## Projects -/

namespace EventClient

/-- The pages of projects that a listing fetches; whether they are all. -/
def Lists (client : Client) (peer : Peer) : List ProjectPage → Bool → Prop :=
  Fetches (fun token => client.request? peer.origin .get projectsPath (pageQuery token))
    ProjectPage.ofJson? ProjectPage.continuation none peer

theorem exists_lists (client : Client) (peer : Peer) :
    ∃ pages isWhole, Lists client peer pages isWhole :=
  exists_fetches _ _ _ _ _

theorem toOption_decode {α : Type} (what : String) (read : List UInt8 → Option α)
    (answer : Answer) : (decode what read answer).toOption = answer.page? read := by
  cases answer with
  | broken => rfl
  | response status body =>
    by_cases succeeds : isSuccess status
    · simp only [decode, check, succeeds, Answer.page?, if_true, bind, Except.bind]
      cases body.bytes?.bind read <;> rfl
    · simp only [decode, check, succeeds, Answer.page?, Bool.false_eq_true, if_false, bind]
      by_cases missing : status = 404
      · rw [if_pos missing]
        rfl
      · rw [if_neg missing]
        rfl

/-- The projects are listed if all their pages are fetched, and else not at all. -/
theorem toOption_listProjects {client : Client} {peer : Peer} {pages : List ProjectPage}
    {isWhole : Bool} (lists : Lists client peer pages isWhole) :
    (listProjects client peer).result.toOption =
      if isWhole then some (pages.flatMap (·.projects)) else none := by
  rw [listProjects, toOption_map,
    toOption_collect (toOption_decode "projects" ProjectPage.ofJson?) lists]
  cases isWhole <;> rfl

end EventClient

/-! ## Pods -/

namespace PodClient

/-- The pages of pods with a label that a listing fetches; whether they are all. -/
def Lists (client : Client) (selector : String) (peer : Peer) : List PodPage → Bool → Prop :=
  Fetches (fun token => client.request? peer.origin .get podsPath (pageQuery selector token))
    PodPage.ofJson? PodPage.continuation none peer

theorem exists_lists (client : Client) (selector : String) (peer : Peer) :
    ∃ pages isWhole, Lists client selector peer pages isWhole :=
  exists_fetches _ _ _ _ _

theorem toOption_decodePage (answer : Answer) :
    (decodePage answer).toOption = answer.page? PodPage.ofJson? := by
  cases answer with
  | broken => rfl
  | response status body =>
    by_cases succeeds : isSuccess status
    · simp only [decodePage, check, succeeds, Answer.page?, if_true, bind, Except.bind]
      cases body.bytes?.bind PodPage.ofJson? <;> rfl
    · simp only [decodePage, check, succeeds, Answer.page?, Bool.false_eq_true, if_false]
      rfl

/-- The pods are listed if all their pages are fetched, and else not at all. -/
theorem toOption_list {client : Client} {selector : String} {peer : Peer} {pages : List PodPage}
    {isWhole : Bool} (lists : Lists client selector peer pages isWhole) :
    (list client peer selector).result.toOption =
      if isWhole then some (joinPages pages) else none := by
  rw [list, toOption_map, toOption_collect toOption_decodePage lists]
  cases isWhole <;> rfl

end PodClient

end Turnstile
