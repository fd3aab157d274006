import Turnstile.Proofs.Http.Pages
import Turnstile.Proofs.Simulation.Tenure
import Turnstile.Proofs.Synchronizer.Upkeep

/-!
# Only whole listings count

What a scheduler holds on the word of others are the registry of projects, with the loops that run
for them, and the tracker, with the guards and the errands for its pods. Its project manager lists
projects at the orchestration API, its synchronizers list pods at the substrate; both list page by
page, and any request can bring anything (`Holdings.run`). In between the manager ticks, watches
tell about pods, errands go on, and the world changes.

A listing of which any page does not come leaves all this as it is, however many pages came before
it. So no token is cancelled but by a whole listing that does not name the project, and no pod drops
out of what is counted by a listing unless that is whole and does not show the pod as one that uses
capacity (`Holdings.only_whole_listings_count`). To be named is not enough for that: a listing that
shows a pod as finished names it, and drops it (`Holdings.dropped_though_named`).
-/

set_option autoImplicit false

namespace Turnstile.Simulation

open Http Synchronizer
open Tenure.Reached (alpha)

/-- The registry of a project manager and the upkeep of the synchronizers. -/
structure Holdings where
  manager : ProjectManager.Stage
  tenure : Tenure
  upkeep : Upkeep

namespace Holdings

/-- Where the lists come from, how often projects are listed, and where their loops are to run. -/
structure Setting where
  api : Client
  substrate : Client
  period : Nat
  office : Nat
  parent : Nat

/-- What can happen. -/
inductive Action where
  /-- The project manager is told something, other than a list of projects. -/
  | manage (input : ProjectManager.Input)
  /-- The project manager's listing of the projects comes to an end. -/
  | listProjects (peer : Peer)
  /-- Another project manager takes over the registry. -/
  | takeOver
  /-- The world changes, but not the registry. -/
  | meanwhile (world : World)
  /-- Pods are listed before their synchronizer is started. -/
  | firstList (kind : WorkKind) (peer : Peer)
  /-- The listing of a synchronizer comes to an end. -/
  | relist (kind : WorkKind) (peer : Peer)
  /-- Anything else happens to the synchronizers and their errands. -/
  | keep (action : Upkeep.Action)

/-- Whether an input is a list of projects, or the fault of one. -/
def isList : ProjectManager.Input → Bool
  | .listed _ => true
  | _ => false

/-- Whether an action brings a listing of pods, or the fault of one. -/
def isListing : Upkeep.Action → Bool
  | .first _ _ => true
  | .take _ (.listed _) => true
  | _ => false

/-- Tell the project manager something. -/
def tell (setting : Setting) (holdings : Holdings) (input : ProjectManager.Input) : Holdings :=
  match ProjectManager.step setting.period holdings.manager input with
  | none => holdings
  | some (stage, none) => { holdings with manager := stage }
  | some (stage, some wanted) =>
    { holdings with
      manager := stage
      tenure := holdings.tenure.reconcile setting.office setting.parent wanted }

/-- The holdings after an action. -/
def act (setting : Setting) (holdings : Holdings) : Action → Holdings
  | .manage input => if isList input then holdings else holdings.tell setting input
  | .listProjects peer =>
    holdings.tell setting (.listed (EventClient.listProjects setting.api peer).result)
  | .takeOver => { holdings with manager := .idle }
  | .meanwhile world => { holdings with tenure := { holdings.tenure with world } }
  | .firstList kind peer =>
    match (PodClient.list setting.substrate peer kind.selector).result with
    | .ok page => { holdings with upkeep := holdings.upkeep.act (.first kind page) }
    | .error _ => holdings
  | .relist kind peer =>
    let result := (PodClient.list setting.substrate peer kind.selector).result
    { holdings with upkeep := holdings.upkeep.act (.take kind (.listed result)) }
  | .keep action =>
    if isListing action then holdings
    else { holdings with upkeep := holdings.upkeep.act action }

/-- The holdings after a list of actions. -/
def run (setting : Setting) (start : Holdings) (actions : List Action) : Holdings :=
  actions.foldl (act setting) start

variable {setting : Setting} {holdings : Holdings} {kind : WorkKind} {peer : Peer}

/-! ## Projects -/

/-- Only a list of projects is reconciled with. -/
theorem tell_cases (setting : Setting) (holdings : Holdings) (input : ProjectManager.Input) :
    (holdings.tell setting input).upkeep = holdings.upkeep ∧
      ((holdings.tell setting input).tenure = holdings.tenure ∨
        ∃ wanted, input = .listed (.ok wanted) ∧ (holdings.tell setting input).tenure =
          holdings.tenure.reconcile setting.office setting.parent wanted) := by
  unfold tell
  split
  case h_1 => exact ⟨rfl, .inl rfl⟩
  case h_2 => exact ⟨rfl, .inl rfl⟩
  case h_3 stage wanted stepped =>
    refine ⟨rfl, .inr ⟨wanted, ?_, rfl⟩⟩
    unfold ProjectManager.step at stepped
    split at stepped <;> cases stepped
    rfl

/-- A listing of the projects does nothing, or it is whole and its projects are reconciled with. -/
theorem listProjects_cases (setting : Setting) (holdings : Holdings) (peer : Peer) :
    let later := holdings.act setting (.listProjects peer)
    later.upkeep = holdings.upkeep ∧
      (later.tenure = holdings.tenure ∨
        ∃ pages, EventClient.Lists setting.api peer pages true ∧
          later.tenure = holdings.tenure.reconcile setting.office setting.parent
            (pages.flatMap (·.projects))) := by
  intro later
  obtain ⟨same, told⟩ := holdings.tell_cases setting
    (.listed (EventClient.listProjects setting.api peer).result)
  refine ⟨same, told.imp_right ?_⟩
  rintro ⟨wanted, isListed, reconciled⟩
  have given : (EventClient.listProjects setting.api peer).result = .ok wanted :=
    ProjectManager.Input.listed.inj isListed
  obtain ⟨pages, isWhole, lists⟩ := EventClient.exists_lists setting.api peer
  have listed := EventClient.toOption_listProjects lists
  rw [given] at listed
  cases isWhole with
  | false => cases listed
  | true =>
    cases listed
    exact ⟨pages, lists, reconciled⟩

/-- What else happens reconciles with nothing. -/
theorem cancelled_act_of_ne (setting : Setting) (holdings : Holdings) {action : Action}
    (other : ∀ peer, action ≠ .listProjects peer) :
    (holdings.act setting action).tenure.cancelled = holdings.tenure.cancelled := by
  cases action with
  | manage input =>
    simp only [act]
    split
    · rfl
    case isFalse silent =>
      rcases (holdings.tell_cases setting input).2 with same | ⟨wanted, rfl, _⟩
      · rw [same]
      · exact absurd rfl silent
  | listProjects peer => exact absurd rfl (other peer)
  | takeOver => rfl
  | meanwhile world => rfl
  | firstList kind peer =>
    simp only [act]
    split <;> rfl
  | relist kind peer => rfl
  | keep action =>
    simp only [act]
    split <;> rfl

/-- A reconciliation cancels the tokens of projects that are not wanted. -/
theorem exists_of_cancelled (holdings : Holdings) {wanted : List ProjectId} {token : Nat}
    (cancelled : token ∈ (holdings.tenure.reconcile setting.office setting.parent wanted).cancelled)
    (new : token ∉ holdings.tenure.cancelled) :
    ∃ project, holdings.tenure.registry.tokens.get? project = some token ∧ project ∉ wanted := by
  rcases List.mem_append.1 cancelled with old | now
  · exact absurd old new
  · obtain ⟨project, removed, found⟩ := List.mem_filterMap.1 now
    exact ⟨project, found, (Difference.mem_removed.1 removed).2⟩

/-! ## Pods -/

/-- What came of listing pods: nothing, or it is whole and its pods are taken in. -/
def HasListed (setting : Setting) (holdings later : Holdings) (kind : WorkKind) (peer : Peer) :
    Prop :=
  later.tenure = holdings.tenure ∧
    ((later.upkeep.tracker = holdings.upkeep.tracker ∧
        later.upkeep.errands = holdings.upkeep.errands) ∨
      ∃ pages, PodClient.Lists setting.substrate kind.selector peer pages true ∧
        later.upkeep.tracker =
          (takeListing kind holdings.upkeep.tracker (PodClient.joinPages pages)).1)

/-- The pages of a listing that has a result. -/
theorem exists_pages {substrate : Client} {selector : String} {page : PodPage}
    (listed : (PodClient.list substrate peer selector).result = .ok page) :
    ∃ pages, PodClient.Lists substrate selector peer pages true ∧
      page = PodClient.joinPages pages := by
  obtain ⟨pages, isWhole, lists⟩ := PodClient.exists_lists substrate selector peer
  have known := PodClient.toOption_list lists
  rw [listed] at known
  cases isWhole with
  | false => cases known
  | true =>
    cases known
    exact ⟨pages, lists, rfl⟩

theorem hasListed_relist (setting : Setting) (holdings : Holdings) (kind : WorkKind)
    (peer : Peer) :
    HasListed setting holdings (holdings.act setting (.relist kind peer)) kind peer := by
  refine ⟨rfl, ?_⟩
  simp only [act, Upkeep.act]
  split
  case h_1 stage effect stepped =>
    have effect_eq := step_effect stepped
    cases listed : (PodClient.list setting.substrate peer kind.selector).result with
    | error fault =>
      rw [listed] at effect_eq
      subst effect_eq
      exact .inl ⟨rfl, List.append_nil _⟩
    | ok page =>
      rw [listed] at effect_eq
      subst effect_eq
      obtain ⟨pages, lists, rfl⟩ := exists_pages listed
      exact .inr ⟨pages, lists, rfl⟩
  case h_2 => exact .inl ⟨rfl, rfl⟩

theorem hasListed_firstList (setting : Setting) (holdings : Holdings) (kind : WorkKind)
    (peer : Peer) :
    HasListed setting holdings (holdings.act setting (.firstList kind peer)) kind peer := by
  simp only [act]
  split
  case h_1 page listed =>
    refine ⟨rfl, ?_⟩
    simp only [Upkeep.act]
    split
    · obtain ⟨pages, lists, rfl⟩ := exists_pages listed
      exact .inr ⟨pages, lists, rfl⟩
    · exact .inl ⟨rfl, rfl⟩
  case h_2 => exact ⟨rfl, .inl ⟨rfl, rfl⟩⟩

/-- A listing that drops a pod does not show it as one that uses capacity. -/
theorem usesCapacity_of_dropped {tracker : Tracker} {page : PodPage} {other : WorkKind}
    {name : PodName} (counted : name ∈ tracker.counted other)
    (dropped : name ∉ (takeListing kind tracker page).1.counted other) :
    other = kind ∧ ∀ pod ∈ page.pods, pod.name = name → pod.usesCapacity = false := by
  rw [takeListing, Tracker.counted_noticeAll] at dropped
  by_cases same : other = kind
  · subst same
    refine ⟨rfl, fun pod member named => ?_⟩
    rw [Tracker.mem_counted_replace] at dropped
    by_contra uses
    exact dropped ⟨pod, member, named, by simpa using uses⟩
  · have kept : (tracker.replace kind page.pods).counted other = tracker.counted other := by
      rw [Tracker.replace, Tracker.counted_guards, Tracker.counted_setCounted_of_ne _ _ same]
    exact absurd (kept ▸ counted) dropped

/-! ## Runs -/

/-- A token that was cancelled in a run was so by a whole listing that does not name the project. -/
theorem exists_of_cancelled_run (setting : Setting) (start : Holdings) (actions : List Action)
    {token : Nat} (cancelled : token ∈ (run setting start actions).tenure.cancelled)
    (new : token ∉ start.tenure.cancelled) :
    ∃ before peer after pages project, actions = before ++ .listProjects peer :: after ∧
      EventClient.Lists setting.api peer pages true ∧
      (run setting start before).tenure.registry.tokens.get? project = some token ∧
      ∀ page ∈ pages, project ∉ page.projects := by
  induction actions using List.reverseRecOn with
  | nil => exact absurd cancelled new
  | append_singleton earlier action ih =>
    by_cases old : token ∈ (run setting start earlier).tenure.cancelled
    · obtain ⟨before, peer, after, pages, project, split, rest⟩ := ih old
      exact ⟨before, peer, after ++ [action], pages, project, by simp [split], rest⟩
    · -- The token is cancelled by the last action, which then is a listing of the projects.
      rw [run, List.foldl_concat] at cancelled
      by_cases isListing : ∃ peer, action = .listProjects peer
      · obtain ⟨peer, rfl⟩ := isListing
        rcases ((run setting start earlier).listProjects_cases setting peer).2 with
          same | ⟨pages, lists, reconciled⟩
        · exact absurd (same ▸ cancelled) old
        · obtain ⟨project, bound, unwanted⟩ :=
            exists_of_cancelled (run setting start earlier) (reconciled ▸ cancelled) old
          refine ⟨earlier, peer, [], pages, project, rfl, lists, bound, fun page member named => ?_⟩
          exact unwanted (List.mem_flatMap.2 ⟨page, member, named⟩)
      · rw [cancelled_act_of_ne setting _ fun peer same => isListing ⟨peer, same⟩] at cancelled
        exact absurd cancelled old

/-- **Only whole listings count.** After any run, a listing of which some page does not come, be it
of projects or of pods, leaves everything as it is: the registry, the scopes and the loops, what is
counted, the guards and the errands. A token that was cancelled in the run was so by a listing whose
every page came, and which does not name the project. A pod that drops out of what is counted by a
listing does so by one of its kind whose every page came, and which does not show it as one that
uses capacity. -/
theorem only_whole_listings_count (setting : Setting) (start : Holdings) (actions : List Action) :
    let holdings := run setting start actions
    (∀ peer pages, EventClient.Lists setting.api peer pages false →
      let later := holdings.act setting (.listProjects peer)
      later.tenure = holdings.tenure ∧ later.upkeep = holdings.upkeep) ∧
    (∀ kind peer pages, PodClient.Lists setting.substrate kind.selector peer pages false →
      ∀ action ∈ [Action.firstList kind peer, .relist kind peer],
        let later := holdings.act setting action
        later.tenure = holdings.tenure ∧ later.upkeep.tracker = holdings.upkeep.tracker ∧
          later.upkeep.errands = holdings.upkeep.errands) ∧
    (∀ token ∈ holdings.tenure.cancelled, token ∉ start.tenure.cancelled →
      ∃ before peer after pages project, actions = before ++ .listProjects peer :: after ∧
        EventClient.Lists setting.api peer pages true ∧
        (run setting start before).tenure.registry.tokens.get? project = some token ∧
        ∀ page ∈ pages, project ∉ page.projects) ∧
    ∀ kind peer, ∀ action ∈ [Action.firstList kind peer, .relist kind peer],
      ∀ counted name, name ∈ holdings.upkeep.tracker.counted counted →
        name ∉ (holdings.act setting action).upkeep.tracker.counted counted →
        counted = kind ∧ ∃ pages,
          PodClient.Lists setting.substrate kind.selector peer pages true ∧
          ∀ page ∈ pages, ∀ pod ∈ page.pods, pod.name = name → pod.usesCapacity = false := by
  intro holdings
  have listed : ∀ kind peer, ∀ action ∈ [Action.firstList kind peer, .relist kind peer],
      HasListed setting holdings (holdings.act setting action) kind peer := by
    intro kind peer action member
    rcases List.mem_cons.1 member with rfl | member
    · exact hasListed_firstList setting holdings kind peer
    · rw [List.mem_singleton.1 member]
      exact hasListed_relist setting holdings kind peer
  refine ⟨fun peer pages cut => ?_, fun kind peer pages cut action member => ?_, ?_, ?_⟩
  · obtain ⟨upkeep, same | ⟨pages', whole, _⟩⟩ := holdings.listProjects_cases setting peer
    · exact ⟨same, upkeep⟩
    · cases (Fetches.unique cut whole).2
  · obtain ⟨tenure, same | ⟨pages', whole, _⟩⟩ := listed kind peer action member
    · exact ⟨tenure, same⟩
    · cases (Fetches.unique cut whole).2
  · exact fun token cancelled new => exists_of_cancelled_run setting start actions cancelled new
  · intro kind peer action member counted name before dropped
    obtain ⟨_, ⟨same, _⟩ | ⟨pages, whole, taken⟩⟩ := listed kind peer action member
    · exact absurd (same ▸ before) dropped
    · rw [taken] at dropped
      obtain ⟨same, unused⟩ := usesCapacity_of_dropped before dropped
      refine ⟨same, pages, whole, fun page there pod shown => ?_⟩
      exact unused pod (List.mem_flatMap.2 ⟨page, there, shown⟩)

/-! ### Listings that are cut short -/

/-- A setting with an API and a substrate of their own. -/
def sampleSetting : Setting :=
  ⟨.ofAddress "http://api" none, .ofAddress "http://pods" none, 60000, sharedOffice, rootScope⟩

/-- Nothing has happened yet. -/
def sampleStart : Holdings := ⟨.idle, ⟨.fresh .standard, .empty, [], [], ⟨0, 0, 0⟩⟩, .fresh⟩

/-- An answer with a page of one item, and a token that may be empty. -/
def sampleAnswer (item next : String) : Answer :=
  .response 200 ⟨[Utf8.encode ("\x7b\"items\":[" ++ item ++
    "],\"metadata\":\x7b\"continue\":\"" ++ next ++ "\"\x7d\x7d")], true⟩

/-- A page with a project. -/
def projectAnswer (id next : String) : Answer :=
  sampleAnswer ("\x7b\"metadata\":\x7b\"id\":\"" ++ id ++ "\"\x7d\x7d") next

/-- A page with a pod. -/
def podAnswer (name phase next : String) : Answer :=
  sampleAnswer ("\x7b\"metadata\":\x7b\"name\":\"" ++ name ++
    "\"\x7d,\"status\":\x7b\"phase\":\"" ++ phase ++ "\"\x7d\x7d") next

/-- The API with some answers. -/
def apiWith (answers : List Answer) : Peer := ⟨⟨.http, "api", 80⟩, answers⟩

/-- The substrate with some answers. -/
def substrateWith (answers : List Answer) : Peer := ⟨⟨.http, "pods", 80⟩, answers⟩

/-- Two projects are listed, on a page each, and a pod; then the watch of the pods ends, and both
are listed again. -/
def firstDay : List Action :=
  [.manage (.began 0), .manage (.ticked 0),
    .listProjects (apiWith [projectAnswer "alpha" "more", projectAnswer "beta" ""]),
    .firstList .worker (substrateWith [podAnswer "w1" "Running" ""]),
    .keep (.take .worker .began), .keep (.take .worker (.opened (.ok ()))),
    .keep (.take .worker .ended), .keep (.take .worker .rested), .manage (.ticked 60000)]

/-- The second page of the projects does not come, nor does that of the pods, and what the first
pages do not name is kept. When the projects are listed on one page, the one that is not named there
has its token cancelled. -/
theorem cut_listings_change_nothing :
    let projects := apiWith [projectAnswer "alpha" "more", .broken]
    let pods := substrateWith [podAnswer "w0" "Running" "more", .response 503 .empty]
    let later := firstDay ++ [.listProjects (apiWith [projectAnswer "alpha" ""])]
    EventClient.Lists sampleSetting.api projects [⟨[alpha], some "more"⟩] false ∧
    ((run sampleSetting sampleStart firstDay).act sampleSetting (.listProjects projects)).tenure =
      (run sampleSetting sampleStart firstDay).tenure ∧
    (∃ pages, PodClient.Lists sampleSetting.substrate WorkKind.worker.selector pods pages false) ∧
    ((run sampleSetting sampleStart firstDay).act sampleSetting
        (.relist .worker pods)).upkeep.tracker =
      (run sampleSetting sampleStart firstDay).upkeep.tracker ∧
    (run sampleSetting sampleStart later).tenure.cancelled = [2] ∧
    ∃ before peer after pages project, later = before ++ .listProjects peer :: after ∧
      EventClient.Lists sampleSetting.api peer pages true ∧
      (run sampleSetting sampleStart before).tenure.registry.tokens.get? project = some 2 ∧
      ∀ page ∈ pages, project ∉ page.projects := by
  intro projects pods later
  have goesOn : (ProjectPage.mk [alpha] (some "more")).continuation = some "more" := by decide
  have cutProjects :
      EventClient.Lists sampleSetting.api projects [⟨[alpha], some "more"⟩] false := by
    refine .more ?_ goesOn (.failed ?_) <;> decide +kernel
  have cutPods : ∃ pages,
      PodClient.Lists sampleSetting.substrate WorkKind.worker.selector pods pages false := by
    obtain ⟨pages, isWhole, lists⟩ :=
      PodClient.exists_lists sampleSetting.substrate WorkKind.worker.selector pods
    have failed : (PodClient.list sampleSetting.substrate pods
        WorkKind.worker.selector).result.toOption.isNone := by
      decide +kernel
    rw [PodClient.toOption_list lists] at failed
    cases isWhole with
    | false => exact ⟨pages, lists⟩
    | true => cases failed
  have cancelled : (run sampleSetting sampleStart later).tenure.cancelled = [2] := by
    decide +kernel
  have first := only_whole_listings_count sampleSetting sampleStart firstDay
  have second := only_whole_listings_count sampleSetting sampleStart later
  obtain ⟨pages, listsPods⟩ := cutPods
  have member : Action.relist .worker pods ∈
      [Action.firstList .worker pods, .relist .worker pods] :=
    List.mem_cons_of_mem _ List.mem_cons_self
  have isCancelled : 2 ∈ (run sampleSetting sampleStart later).tenure.cancelled := by
    rw [cancelled]
    exact List.mem_cons_self
  refine ⟨cutProjects, (first.1 projects _ cutProjects).1, ⟨pages, listsPods⟩, ?_, cancelled, ?_⟩
  · exact (first.2.1 .worker pods pages listsPods _ member).2.1
  · exact second.2.2.1 2 isCancelled List.not_mem_nil

/-- A pod is named by a whole listing, as finished, and it drops out of what is counted. -/
theorem dropped_though_named :
    let holdings := run sampleSetting sampleStart firstDay
    let peer := substrateWith [podAnswer "w1" "Succeeded" ""]
    let later := holdings.act sampleSetting (.relist .worker peer)
    ⟨"", "w1"⟩ ∈ holdings.upkeep.tracker.counted .worker ∧
      ⟨"", "w1"⟩ ∉ later.upkeep.tracker.counted .worker ∧
      ¬ ∃ pages, PodClient.Lists sampleSetting.substrate WorkKind.worker.selector peer pages true ∧
        ∀ page ∈ pages, ∀ pod ∈ page.pods, pod.name ≠ ⟨"", "w1"⟩ := by
  intro holdings peer later
  refine ⟨by decide +kernel, by decide +kernel, ?_⟩
  rintro ⟨pages, lists, unnamed⟩
  have named : ((PodClient.list sampleSetting.substrate peer
      WorkKind.worker.selector).result.toOption.map fun page => page.pods.map (·.name)) =
      some [⟨"", "w1"⟩] := by
    decide +kernel
  rw [PodClient.toOption_list lists] at named
  have names : (pages.flatMap (·.pods)).map (·.name) = [⟨"", "w1"⟩] := Option.some.inj named
  have member : (⟨"", "w1"⟩ : PodName) ∈ (pages.flatMap (·.pods)).map (·.name) := by
    rw [names]
    exact List.mem_cons_self
  obtain ⟨pod, there, isNamed⟩ := List.mem_map.1 member
  obtain ⟨page, isPage, shown⟩ := List.mem_flatMap.1 there
  exact unnamed page isPage pod shown isNamed

end Holdings

end Turnstile.Simulation
