import Mathlib.Data.List.DropRight
import Turnstile.Proofs.Broker.Acknowledgments
import Turnstile.Proofs.Broker.Order
import Turnstile.Proofs.Broker.Sessions

/-!
# What a queue remembers of its acknowledgments

An acknowledgment **takes effect** if its delivery is in hand and the reader of the delivery has
been neither closed nor dropped (`Journal.TakesEffect`). This is said of what has been done, and not
of what the broker has written down about it; so is the sequence of the acknowledgments that took
effect in a history (`Journal.effective`).

An action settles the delivery whose acknowledgment takes effect by it, and nothing else, so the
settled deliveries of a history are that sequence (`Journal.settled_run`). A queue counts those of
its own and remembers the bodies of the last ones: of how many, and of which, whatever readers they
came from, is decided by the sequence alone (`Journal.remembers_latest_acknowledgments`).
-/

set_option autoImplicit false

namespace Turnstile.Journal

variable {α : Type} [DecidableEq α] {actions : List (Action α)} {action : Action α}
  {delivery : Delivery}

/-! ## Acknowledgments that take effect -/

/-- After the history, an acknowledgment of the delivery takes effect: the delivery is in hand, and
its reader has been neither closed nor dropped. -/
def TakesEffect (actions : List (Action α)) (delivery : Delivery) : Prop :=
  delivery ∈ (run actions).inHand ∧ ¬ HasClosed actions delivery.reader

/-- It can be seen from the reader whether it has been closed. -/
theorem takesEffect_iff : TakesEffect actions delivery ↔
    delivery ∈ (run actions).inHand ∧ (run actions).broker.IsOpen delivery.reader := by
  refine and_congr_right fun inHand => ?_
  have given := ((answered_run actions).mem_inHand.1 inHand).1
  exact (isOpen_iff_not_hasClosed given).symm

instance (actions : List (Action α)) (delivery : Delivery) :
    Decidable (TakesEffect actions delivery) :=
  decidable_of_iff' _ takesEffect_iff

/-- The delivery whose acknowledgment takes effect if an action follows a history. -/
def effective? (actions : List (Action α)) : Action α → Option Delivery
  | .acknowledge delivery => if TakesEffect actions delivery then some delivery else none
  | _ => none

theorem effective?_eq_some_iff : effective? actions action = some delivery ↔
    action = .acknowledge delivery ∧ TakesEffect actions delivery := by
  cases action with
  | acknowledge other =>
    by_cases effect : TakesEffect actions other
    · simp only [effective?, if_pos effect, Option.some.injEq, Action.acknowledge.injEq]
      exact ⟨fun same => ⟨same, same ▸ effect⟩, And.left⟩
    · simp only [effective?, if_neg effect, Action.acknowledge.injEq]
      exact ⟨nofun, fun ⟨same, later⟩ => absurd (same ▸ later) effect⟩
  | _ => exact ⟨nofun, fun ⟨same, _⟩ => nomatch same⟩

/-- The deliveries whose acknowledgments take effect in the actions that follow a history. -/
def effectiveAfter (actions : List (Action α)) : List (Action α) → List Delivery
  | [] => []
  | action :: later =>
    (effective? actions action).toList ++ effectiveAfter (actions ++ [action]) later

/-- The deliveries whose acknowledgments took effect in a history, in the order of these
acknowledgments. -/
def effective (actions : List (Action α)) : List Delivery := effectiveAfter [] actions

theorem effectiveAfter_snoc (actions later : List (Action α)) (action : Action α) :
    effectiveAfter actions (later ++ [action]) =
      effectiveAfter actions later ++ (effective? (actions ++ later) action).toList := by
  induction later generalizing actions with
  | nil => simp [effectiveAfter]
  | cons first later ih => simp [effectiveAfter, ih]

theorem effective_snoc (actions : List (Action α)) (action : Action α) :
    effective (actions ++ [action]) = effective actions ++ (effective? actions action).toList :=
  effectiveAfter_snoc [] actions action

/-! ## What takes effect is settled -/

/-- **An action settles the delivery whose acknowledgment takes effect by it, and nothing else.** -/
theorem settled_act (actions : List (Action α)) (action : Action α) :
    ((run actions).act action).settled =
      (run actions).settled ++ (effective? actions action).toList := by
  have consistent := consistent_run actions
  have answered := answered_run actions
  cases found : effective? actions action with
  | some delivery =>
    obtain ⟨rfl, effect⟩ := effective?_eq_some_iff.1 found
    obtain ⟨inHand, isOpen⟩ := takesEffect_iff.1 effect
    rw [act, if_pos inHand]
    exact (settled_acknowledge consistent answered inHand).1 isOpen
  | none =>
    rw [Option.toList_none, List.append_nil]
    rcases (run actions).acknowledged_act action with
      ⟨_, same⟩ | ⟨delivery, inHand, rfl, after⟩
    · exact same
    · have closed : ¬ (run actions).broker.IsOpen delivery.reader := by
        intro isOpen
        have effect := takesEffect_iff.2 ⟨inHand, isOpen⟩
        cases found.symm.trans (effective?_eq_some_iff.2 ⟨rfl, effect⟩)
      rw [after]
      exact (settled_acknowledge consistent answered inHand).2 closed

/-- What is settled in a history is what was acknowledged to effect, in the same order. -/
theorem settled_run (actions : List (Action α)) : (run actions).settled = effective actions := by
  induction actions using List.reverseRecOn with
  | nil => rfl
  | append_singleton earlier action ih => rw [run_snoc, settled_act, ih, effective_snoc]

/-! ## Counting and remembering -/

/-- The bodies acknowledged to effect on a queue, oldest first. -/
def acknowledgedBodies (name : String) (actions : List (Action α)) : List String :=
  ((effective actions).filter fun delivery => delivery.reader.queue = name).map (·.message.body)

/-- An acknowledgment on the queue that takes effect adds its body; all else adds nothing. -/
theorem acknowledgedBodies_cases (name : String) (actions : List (Action α))
    (action : Action α) :
    (∃ delivery, (action = .acknowledge delivery ∧ TakesEffect actions delivery ∧
        delivery.reader.queue = name) ∧
      acknowledgedBodies name (actions ++ [action]) =
        acknowledgedBodies name actions ++ [delivery.message.body]) ∨
    ((¬ ∃ delivery, action = .acknowledge delivery ∧ TakesEffect actions delivery ∧
        delivery.reader.queue = name) ∧
      acknowledgedBodies name (actions ++ [action]) = acknowledgedBodies name actions) := by
  simp only [acknowledgedBodies, effective_snoc]
  cases found : effective? actions action with
  | none =>
    refine .inr ⟨?_, by simp⟩
    rintro ⟨delivery, same, effect, _⟩
    cases found.symm.trans (effective?_eq_some_iff.2 ⟨same, effect⟩)
  | some delivery =>
    obtain ⟨rfl, effect⟩ := effective?_eq_some_iff.1 found
    by_cases here : delivery.reader.queue = name
    · exact .inl ⟨delivery, ⟨rfl, effect, here⟩, by simp [here]⟩
    · refine .inr ⟨?_, by simp [here]⟩
      rintro ⟨_, ⟨⟩, _, there⟩
      exact here there

theorem bodies_settled (name : String) (actions : List (Action α)) :
    ((run actions).ledger name).settled.map (·.message.body) = acknowledgedBodies name actions := by
  rw [ledger, settled_run, acknowledgedBodies]

theorem ackedCount_run (name : String) (actions : List (Action α)) :
    ((run actions).broker.queue name).ackedCount = (acknowledgedBodies name actions).length := by
  rw [← bodies_settled, List.length_map]
  exact ((consistent_run actions).balanced name).counted

theorem remembers_run (name : String) (actions : List (Action α)) :
    ((run actions).ledger name).Remembers := by
  induction actions using List.reverseRecOn with
  | nil => exact .unused
  | append_singleton earlier action ih =>
    rw [run_snoc]
    exact ih.of_change ((run earlier).ledger_change action name)

theorem recentAcks_run (name : String) (actions : List (Action α)) :
    ((run actions).broker.queue name).recentAcks =
      (acknowledgedBodies name actions).rtake
        (min Queue.ackMemory (acknowledgedBodies name actions).length) := by
  have count := congrArg List.length (bodies_settled name actions)
  rw [List.length_map] at count
  have latest : ((run actions).broker.queue name).recentAcks = _ := remembers_run name actions
  rw [bodies_settled, count] at latest
  have cut (length : Nat) : length - min Queue.ackMemory length = length - Queue.ackMemory := by
    omega
  rw [latest, List.rtake, cut]

/-- In a session, too, a queue remembers as much as it can of what it has counted. -/
theorem length_recentAcks_of_session (requests : List Session.Request) (name : String) :
    let queue := (Session.run requests).exchange.broker.queue name
    queue.recentAcks.length = min Queue.ackMemory queue.ackedCount := by
  intro queue
  obtain ⟨actions, broker, _⟩ := Session.exists_history requests
  have left : queue = (run actions).broker.queue name := congrArg (·.queue name) broker
  rw [left, recentAcks_run, ackedCount_run, List.rtake_eq_reverse_take_reverse]
  simp

/-- **A queue remembers the tail of what was acknowledged on it.** After every history a queue has
counted the acknowledgments on it that took effect, and remembers the bodies of the last 256 of
them, or of all if there are no more, the oldest first: whatever readers they came from, and
whatever was closed, delivered anew or acknowledged too late in between. An action changes either
just if it is an acknowledgment on that queue that takes effect. -/
theorem remembers_latest_acknowledgments (actions : List (Action α)) (name : String) :
    let queue := (run actions).broker.queue name
    let bodies := acknowledgedBodies name actions
    queue.recentAcks = bodies.rtake (min 256 queue.ackedCount) ∧
    queue.ackedCount = bodies.length ∧
    ∀ action,
      let after := (run (actions ++ [action])).broker.queue name
      after.recentAcks ≠ queue.recentAcks ∨ after.ackedCount ≠ queue.ackedCount ↔
        ∃ delivery, action = .acknowledge delivery ∧ TakesEffect actions delivery ∧
          delivery.reader.queue = name := by
  intro queue bodies
  have counted : queue.ackedCount = bodies.length := ackedCount_run name actions
  have remembered : queue.recentAcks = _ := recentAcks_run name actions
  refine ⟨counted ▸ remembered, counted, fun action => ?_⟩
  intro after
  have countedThen : after.ackedCount = _ := ackedCount_run name (actions ++ [action])
  have rememberedThen : after.recentAcks = _ := recentAcks_run name (actions ++ [action])
  rcases acknowledgedBodies_cases name actions action with ⟨delivery, effect, more⟩ | ⟨none, same⟩
  · refine iff_of_true (.inr ?_) ⟨delivery, effect⟩
    rw [countedThen, more, counted, List.length_append]
    exact Nat.succ_ne_self _
  · refine iff_of_false ?_ none
    rw [rememberedThen, remembered, countedThen, counted, same]
    exact not_or.2 ⟨fun apart => apart rfl, fun apart => apart rfl⟩

/-- Of two acknowledgments the second is made when the reader has been closed. -/
example :
    let reader : ReaderRef := ⟨"workers", 0⟩
    let actions := [.publish "workers" "a", .publish "workers" "b", .openReader "workers"] ++
      reading reader ++ reading reader ++ [.acknowledge ⟨reader, ⟨0, "a"⟩⟩, .closeReader reader,
        .acknowledge ⟨reader, ⟨1, "b"⟩⟩]
    let queue := (run actions).broker.queue "workers"
    effective actions = [⟨reader, ⟨0, "a"⟩⟩] ∧ queue.recentAcks = ["a"] ∧
      queue.ackedCount = 1 := by
  decide

end Turnstile.Journal
