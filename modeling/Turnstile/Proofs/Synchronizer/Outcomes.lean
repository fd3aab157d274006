import Turnstile.Proofs.Synchronizer.Flights

/-!
# What becomes of finished pods

Every pod that is reported as finished has an errand: one that is sent then, or one that was sent
before and has held the guard of the pod since. Unless it is called back, the errand is in flight or
the substrate has replied to it, once (`Account.finished_pod_has_errand`).

The reply may be that the pod cannot be deleted. That does not release the guard, so no other errand
is sent for the pod until it is reported gone; it stays where it is, finished, with nobody to delete
it (`Account.finished_pod_is_stranded`).

An `Account` is an upkeep with the replies that its errands have got.
-/

set_option autoImplicit false

namespace Turnstile

/-- A deletion ends when it is called back or its call is answered. -/
theorem Deletion.Stage.ends_cases {stage : Deletion.Stage} {input : Deletion.Input}
    (ends : stage.next? input = some .ended) :
    input = .cancelled ∨ ∃ result, stage = .deleting ∧ input = .answered result := by
  cases stage <;> cases input <;> simp_all [next?]

namespace Synchronizer

namespace Upkeep

/-! ## Reports and errands -/

/-- An errand for a pod was sent by some place, and its guard was not released from then on up to
that place. -/
def ServedBy (upkeep : Upkeep) (name : PodName) (place : Nat) : Prop :=
  ∃ sent ∈ upkeep.sentFor name, sent.2 ≤ place ∧
    Told.hasReleased (upkeep.told.take place) name sent = false

variable {upkeep : Upkeep} {name : PodName} {kind : WorkKind} {place : Nat}

/-- What is told later changes nothing about earlier places. -/
theorem ServedBy.tell (served : upkeep.ServedBy name place) (within : place ≤ upkeep.told.length)
    (kind : WorkKind) (input : Input) (stage : Stage) (effect : Effect) :
    (upkeep.tell kind input stage effect).ServedBy name place := by
  obtain ⟨sent, member, before, unreleased⟩ := served
  refine ⟨sent, ?_, before, ?_⟩
  · rw [sentFor_tell]
    exact List.mem_append_left _ member
  · change Told.hasReleased ((upkeep.told ++ [(kind, input)]).take place) name sent = false
    rwa [List.take_append_of_le_length within]

/-- If the guard is held, the pod is served to this day. -/
theorem HasCustody.servedBy (custody : upkeep.HasCustody name)
    (held : upkeep.tracker.holder? name ≠ none) : upkeep.ServedBy name upkeep.told.length := by
  obtain ⟨last, isLast, unreleased⟩ : ∃ last ∈ (upkeep.sentFor name).getLast?,
      ¬Told.hasReleased upkeep.told name last := by
    by_contra released
    push Not at released
    exact held (custody.isNone_iff.2 released)
  have member : last ∈ upkeep.sentFor name := List.mem_of_getLast? isLast
  refine ⟨last, member, (custody.reported last member).le_length, ?_⟩
  rw [List.take_length]
  exact Bool.eq_false_iff.2 unreleased

/-- **Wherever a pod is reported as finished, it is served by an errand.** -/
theorem servedBy_of_reportsFinished (actions : List Action)
    (reports : (run actions).told.ReportsFinished name kind place) :
    (run actions).ServedBy name place := by
  let kept := fun upkeep : Upkeep =>
    upkeep.tracker.guards.keys.Nodup ∧ upkeep.HasCustody name ∧
      ∀ kind place, upkeep.told.ReportsFinished name kind place → upkeep.ServedBy name place
  suffices held : kept (run actions) from held.2.2 kind place reports
  refine run_induction kept ?_ ?_ ?_ actions
  · refine ⟨List.nodup_nil, .start name, ?_⟩
    rintro kind place ⟨before, input, _, before_prefix, _⟩
    simp [fresh] at before_prefix
  · rintro upkeep kind input stage ⟨distinct, custody, served⟩
    have after := custody.tell distinct kind input stage
    refine ⟨nodup_guards_effectOf distinct kind input, after, ?_⟩
    intro kind' place reports
    rcases Told.reportsFinished_snoc.1 reports with earlier | ⟨_, rfl, finished⟩
    -- a report before this input is served as it was, and this one since the guard is held after it
    · exact (served kind' place earlier).tell earlier.le_length kind input stage _
    · have held : (effectOf kind upkeep.tracker input).1.holder? name ≠ none := by
        rw [(holder?_effectOf distinct kind input name).1, finished]
        cases (upkeep.tracker.holder? name).filter _ <;> simp
      simpa [tell] using after.servedBy held
  · rintro upkeep place errand input stage ⟨distinct, custody, served⟩ found _
    refine ⟨distinct, ?_, ?_⟩
    · unfold HasCustody
      rw [sentFor_set found]
      exact custody
    · unfold ServedBy
      rw [sentFor_set found]
      exact served

/-- Whether the errand at a place has ended. -/
def hasEnded (upkeep : Upkeep) (place : Nat) : Bool :=
  upkeep.errands[place]?.any (·.stage = .ended)

/-- An errand that is sent has not ended. -/
theorem hasEnded_tell (upkeep : Upkeep) (kind : WorkKind) (input : Input) (stage : Stage)
    (effect : Effect) (place : Nat) :
    (upkeep.tell kind input stage effect).hasEnded place = upkeep.hasEnded place := by
  unfold hasEnded tell
  rw [List.getElem?_append]
  split
  case isTrue => rfl
  case isFalse beyond =>
    rw [List.getElem?_eq_none (Nat.not_lt.1 beyond), List.getElem?_map, Option.any_map]
    cases effect.2[place - upkeep.errands.length]? <;> rfl

theorem hasEnded_set {here : Nat} {errand : Errand} (found : upkeep.errands[here]? = some errand)
    (told : Nat) (stage : Deletion.Stage) (place : Nat) :
    ({ upkeep with errands := upkeep.errands.set here (errand.enter told stage) } :
      Upkeep).hasEnded place =
        if here = place then decide (stage = .ended) else upkeep.hasEnded place := by
  unfold hasEnded
  by_cases same : here = place
  · subst same
    rw [if_pos rfl, List.getElem?_set_self', found]
    rfl
  · simp [same]

end Upkeep

/-! ## Replies -/

/-- An upkeep with the replies of the substrate to its errands, each with the place of the
errand. -/
structure Account where
  upkeep : Upkeep
  replies : List (Nat × Except SubstrateFault Unit)

namespace Account

/-- The reply that an errand gets by an action, if its call waits for one. -/
def reply? (upkeep : Upkeep) : Upkeep.Action → Option (Nat × Except SubstrateFault Unit)
  | .errand place (.answered result) =>
    if upkeep.errands[place]?.any (·.stage = .deleting) then some (place, result) else none
  | _ => none

/-- The account after an action. -/
def act (account : Account) (action : Upkeep.Action) : Account where
  upkeep := account.upkeep.act action
  replies := account.replies ++ (reply? account.upkeep action).toList

/-- The account after a list of actions. -/
def run (actions : List Upkeep.Action) : Account := actions.foldl act ⟨.fresh, []⟩

theorem run_snoc (earlier : List Upkeep.Action) (action : Upkeep.Action) :
    run (earlier ++ [action]) = (run earlier).act action :=
  List.foldl_concat _ _ _ _

theorem upkeep_run (actions : List Upkeep.Action) : (run actions).upkeep = Upkeep.run actions := by
  induction actions using List.reverseRecOn with
  | nil => rfl
  | append_singleton earlier action ih => rw [run_snoc, Upkeep.run_snoc, act, ih]

/-- The replies to the errand at a place. -/
def repliesTo (account : Account) (place : Nat) : List (Except SubstrateFault Unit) :=
  (account.replies.filter (·.1 = place)).map (·.2)

theorem reply?_eq_some {upkeep : Upkeep} {action : Upkeep.Action} {place : Nat}
    {result : Except SubstrateFault Unit} (reply : reply? upkeep action = some (place, result)) :
    ∃ errand, action = .errand place (.answered result) ∧
      upkeep.errands[place]? = some errand ∧ errand.stage = .deleting := by
  unfold reply? at reply
  split at reply
  case h_1 here result' =>
    cases found : upkeep.errands[here]? with
    | none => simp [found] at reply
    | some errand =>
      simp only [found, Option.any_some, decide_eq_true_eq, Option.ite_none_right_eq_some,
        Option.some.injEq, Prod.mk.injEq] at reply
      obtain ⟨deleting, rfl, rfl⟩ := reply
      exact ⟨errand, rfl, found, deleting⟩
  case h_2 => cases reply

/-- An errand ends when it gets a reply. It had not ended before. -/
theorem hasEnded_act (upkeep : Upkeep) {action : Upkeep.Action}
    (uncalled : ∀ place, action ≠ .errand place .cancelled) (place : Nat) :
    ((upkeep.act action).hasEnded place =
      (upkeep.hasEnded place || (reply? upkeep action).any (·.1 = place))) ∧
    ((reply? upkeep action).any (·.1 = place) → upkeep.hasEnded place = false) := by
  cases reply : reply? upkeep action with
  | some entry =>
    obtain ⟨errand, rfl, found, deleting⟩ := reply?_eq_some reply
    have unended : upkeep.hasEnded entry.1 = false := by simp [Upkeep.hasEnded, found, deleting]
    have acted : upkeep.act (.errand entry.1 (.answered entry.2)) = { upkeep with
        errands := upkeep.errands.set entry.1 (errand.enter upkeep.told.length .ended) } := by
      simp [Upkeep.act, found, deleting, Deletion.Stage.next?]
    rw [acted, Upkeep.hasEnded_set found]
    by_cases here : entry.1 = place
    · subst here
      simp [unended]
    · simp [here]
  | none =>
    suffices same : (upkeep.act action).hasEnded place = upkeep.hasEnded place by simp [same]
    rcases upkeep.act_cases action with
      same | ⟨kind, input, stage, tells⟩ | ⟨here, errand, input, stage, rfl, found, next, moves⟩
    · rw [same]
    · rw [tells, Upkeep.hasEnded_tell]
    · rw [moves, Upkeep.hasEnded_set found]
      split
      case isFalse => rfl
      case isTrue same =>
        subst same
        have before : upkeep.hasEnded here = false := by
          cases stage_eq : errand.stage <;> simp_all [Upkeep.hasEnded, Deletion.Stage.next?]
        rw [before, decide_eq_false_iff_not]
        rintro rfl
        rcases Deletion.Stage.ends_cases next with rfl | ⟨result, deleting, rfl⟩
        · exact uncalled here rfl
        · simp [reply?, found, deleting] at reply

/-- Every errand that has ended has got one reply, and no other has got any. -/
def IsSettled (account : Account) : Prop :=
  ∀ place, (account.repliesTo place).length = if account.upkeep.hasEnded place then 1 else 0

theorem IsSettled.act {account : Account} (settled : account.IsSettled) {action : Upkeep.Action}
    (uncalled : ∀ place, action ≠ .errand place .cancelled) : (account.act action).IsSettled := by
  intro place
  obtain ⟨ended, unended⟩ := hasEnded_act account.upkeep uncalled place
  have length : ((account.act action).repliesTo place).length =
      (account.repliesTo place).length +
        if (reply? account.upkeep action).any (·.1 = place) then 1 else 0 := by
    cases reply : reply? account.upkeep action with
    | none => simp [repliesTo, Account.act, reply]
    | some entry =>
      by_cases here : entry.1 = place <;> simp [repliesTo, Account.act, reply, here]
  change _ = if (account.upkeep.act action).hasEnded place then 1 else 0
  rw [length, settled place, ended]
  cases replied : (reply? account.upkeep action).any (·.1 = place) with
  | false => simp
  | true => simp [unended replied]

theorem isSettled_run (actions : List Upkeep.Action)
    (uncalled : ∀ place, .errand place .cancelled ∉ actions) : (run actions).IsSettled := by
  induction actions using List.reverseRecOn with
  | nil => exact fun _ => rfl
  | append_singleton earlier action ih =>
    rw [run_snoc]
    refine (ih fun place member => uncalled place (List.mem_append_left _ member)).act ?_
    rintro place rfl
    exact uncalled place (List.mem_append_right _ (List.mem_singleton_self _))

/-- **A finished pod has an errand that is in flight or has got a reply.** Unless errands are called
back: wherever a pod is reported as finished, an errand that was sent for it then, or before at
another such report, has held its guard up to there. It is in flight, or the substrate has replied
to its call, once. Whatever the reply is, as long as the guard is not released it stays with the
kind of that errand, and no other one is sent for the pod. -/
theorem finished_pod_has_errand (actions : List Upkeep.Action)
    (uncalled : ∀ place, .errand place .cancelled ∉ actions) {name : PodName} {kind : WorkKind}
    {reportedAt : Nat}
    (reported : (run actions).upkeep.told.ReportsFinished name kind reportedAt) :
    let account := run actions
    let upkeep := account.upkeep
    ∃ place errand, upkeep.errands[place]? = some errand ∧ errand.pod = name ∧
      upkeep.told.ReportsFinished name errand.kind errand.noticed ∧
      errand.noticed ≤ reportedAt ∧
      (errand.stage ≠ .ended ∨ ∃ result, account.repliesTo place = [result]) ∧
      Told.hasReleased (upkeep.told.take reportedAt) name (errand.kind, errand.noticed) = false ∧
      (Told.hasReleased upkeep.told name (errand.kind, errand.noticed) = false →
        upkeep.tracker.holder? name = some errand.kind ∧
          ∀ later other, place < later → upkeep.errands[later]? = some other →
            other.pod ≠ name) := by
  intro account upkeep
  have same : upkeep = Upkeep.run actions := upkeep_run actions
  have custody : upkeep.HasCustody name := same ▸ Upkeep.custody_run actions name
  have served : upkeep.ServedBy name reportedAt := by
    change upkeep.told.ReportsFinished name kind reportedAt at reported
    rw [same] at reported ⊢
    exact Upkeep.servedBy_of_reportsFinished actions reported
  obtain ⟨sent, member, before, unreleased⟩ := served
  obtain ⟨errand, isSent, rfl⟩ := List.mem_map.1 member
  obtain ⟨isErrand, own⟩ := List.mem_filter.1 isSent
  obtain ⟨place, found⟩ := List.mem_iff_getElem?.1 isErrand
  have own : errand.pod = name := of_decide_eq_true own
  refine ⟨place, errand, found, own, custody.reported _ member, before, ?_, unreleased, ?_⟩
  · by_cases ended : errand.stage = .ended
    · have settled := isSettled_run actions uncalled place
      have hasEnded : upkeep.hasEnded place := by simp [Upkeep.hasEnded, found, ended]
      rw [if_pos hasEnded] at settled
      exact .inr (List.length_eq_one_iff.1 settled)
    · exact .inl ended
  · intro still
    refine ⟨custody.holder_eq_of_unreleased member still, ?_⟩
    intro later other isLater foundOther isOwn
    obtain ⟨within, rfl⟩ := List.getElem?_eq_some_iff.1 found
    obtain ⟨withinOther, rfl⟩ := List.getElem?_eq_some_iff.1 foundOther
    have released := List.pairwise_iff_getElem.1 custody.errands_apart place later within
      withinOther isLater own isOwn
    rw [Told.hasReleased_of_take released] at still
    cases still

/-- A worker finishes, and its deletion is refused. Then it is reported as finished again. -/
def refused : List Upkeep.Action :=
  [.first .worker ⟨[], none, none⟩, .take .worker .began, .take .worker (.opened (.ok ())),
    .take .worker (.item (.ok (.added (Follower.sample "w1" .succeeded)))), .errand 0 .began,
    .errand 0 .elapsed, .errand 0 (.answered (.error (.status 403 "forbidden"))),
    .take .worker (.item (.ok (.modified (Follower.sample "w1" .succeeded))))]

theorem refused_is_uncalled : ∀ place, .errand place .cancelled ∉ refused := by
  intro place
  simp [refused]

theorem refused_pod_has_got_a_reply :
    let account := run refused
    account.upkeep.told.ReportsFinished ⟨"brigade", "w1"⟩ .worker 5 ∧
      ∃ place errand, account.upkeep.errands[place]? = some errand ∧ errand.noticed ≤ 5 ∧
        ∃ result, account.repliesTo place = [result] := by
  intro account
  have reported : account.upkeep.told.ReportsFinished ⟨"brigade", "w1"⟩ .worker 5 :=
    ⟨account.upkeep.told.take 4, _, rfl, List.prefix_rfl, by decide⟩
  obtain ⟨place, errand, found, _, _, before, inFlight | replied, _⟩ :=
    finished_pod_has_errand refused refused_is_uncalled reported
  · have ended : ∀ errand ∈ account.upkeep.errands, errand.stage = .ended := by decide
    exact absurd (ended errand (List.mem_of_getElem? found)) inFlight
  · exact ⟨reported, place, errand, found, before, replied⟩

/-- It is seen as finished, no errand for it is in flight, and no call to delete it has
succeeded. -/
theorem finished_pod_is_stranded :
    let account := run refused
    (∀ place, .errand place .cancelled ∉ refused) ∧
      (account.upkeep.told.view .worker ⟨"brigade", "w1"⟩).any Pod.isFinished ∧
      account.upkeep.inFlight ⟨"brigade", "w1"⟩ = [] ∧
      ∀ reply ∈ account.replies, reply.2 ≠ .ok () := by
  refine ⟨refused_is_uncalled, by decide, by decide, ?_⟩
  intro reply member
  obtain rfl : reply = (0, .error (.status 403 "forbidden")) := List.mem_singleton.1 member
  nofun

end Account

end Synchronizer

end Turnstile
