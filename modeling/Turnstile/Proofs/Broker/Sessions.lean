import Turnstile.Proofs.Broker.Acknowledgments
import Turnstile.Proofs.Broker.Waiting

/-!
# Sessions are histories

Whatever a session is asked for, it does to its broker what some history does
(`Session.exists_history`), so all that holds after every history holds of the brokers of sessions.

A history acknowledges only what is in hand. That a session does so too is because a message has one
name at most, and keeps it until it is acknowledged or let go of. Between its delivery and its
naming a message is **spare**: in hand and without a name. Reading makes messages spare, naming and
acknowledging use them up (`Session.IsMadeBy`).
-/

set_option autoImplicit false

namespace Turnstile

namespace Journal

variable {actions : List (Action Unit)} {action : Action Unit} {delivery : Delivery}

/-- What is in hand is so until it is acknowledged. -/
theorem mem_inHand_snoc (inHand : delivery ∈ (run actions).inHand)
    (unanswered : action ≠ .acknowledge delivery) :
    delivery ∈ (run (actions ++ [action])).inHand := by
  have answered := answered_run actions
  rw [run_snoc]
  rcases (run actions).acknowledged_act action with ⟨acknowledged, _⟩ | ⟨other, there, rfl, _⟩
  · have given := answered.mem_inHand.1 inHand
    refine (answered.act (consistent_run actions) action).mem_inHand.2 ⟨?_, ?_⟩
    · exact mem_delivered_act action given.1
    · rw [acknowledged]
      exact given.2
  · have kept := (inHand_acknowledge (consistent_run actions) answered there).1 delivery
    exact kept.2 ⟨inHand, fun same => unanswered (same ▸ rfl)⟩

/-- A read that begins and has its turn at once. -/
def reading (reader : ReaderRef) : List (Action Unit) :=
  [.beginRead ⟨(), reader⟩, .takeTurn ⟨(), reader⟩]

theorem run_reading (actions : List (Action Unit)) (reader : ReaderRef) :
    let after := run (actions ++ reading reader)
    after.broker = ((run actions).broker.read reader).2 ∧
      after.delivered =
        (run actions).delivered ++ ((run actions).broker.read reader).1.delivery?.toList ∧
      after.acknowledged = (run actions).acknowledged := by
  let begun := (run actions).act (.beginRead ⟨(), reader⟩)
  have woken : (⟨(), reader⟩ : PendingRead Unit) ∈ begun.exchange.woken :=
    List.mem_append_right _ (List.mem_singleton_self _)
  have turn : run (actions ++ reading reader) = begun.takeTurn ⟨(), reader⟩ := by
    rw [reading, List.append_cons, run_snoc, run_snoc]
    exact if_pos woken
  rw [turn]
  exact ⟨broker_takeTurn begun _, delivered_takeTurn begun _, rfl⟩

/-- What is read is in hand, and was not before. -/
theorem inHand_reading {reader : ReaderRef}
    (read : ((run actions).broker.read reader).1.delivery? = some delivery) :
    delivery ∉ (run actions).delivered ∧
      delivery ∈ (run (actions ++ reading reader)).inHand := by
  obtain ⟨_, delivered, acknowledged⟩ := run_reading actions reader
  rw [read] at delivered
  have answered := answered_run (actions ++ reading reader)
  have once := answered.nodup_delivered
  rw [delivered] at once
  have new : delivery ∉ (run actions).delivered := fun old =>
    (List.nodup_append.1 once).2.2 delivery old delivery (List.mem_singleton_self _) rfl
  refine ⟨new, answered.mem_inHand.2 ⟨?_, fun gone => new ?_⟩⟩
  · rw [delivered]
    exact List.mem_append_right _ (List.mem_singleton_self _)
  · exact (answered_run actions).delivered delivery (acknowledged ▸ gone)

end Journal

namespace Session

open Journal (reading)

variable {session later : Session} {spare : List Delivery} {actions : List (Action Unit)}
  {delivery : Delivery} {outcome : ReadOutcome}

/-- A session is made by a history if this has left the broker as it is, and what has a name in the
session is in hand, each under one name. Besides, some messages without a name are in hand. -/
structure IsMadeBy (session : Session) (spare : List Delivery) (actions : List (Action Unit)) :
    Prop where
  broker : session.exchange.broker = (Journal.run actions).broker
  named : ∀ name delivery, session.messages.get? name = some delivery →
    delivery ∈ (Journal.run actions).inHand ∧ delivery ∉ spare
  once : ∀ name other delivery, session.messages.get? name = some delivery →
    session.messages.get? other = some delivery → name = other
  inHand : ∀ delivery ∈ spare, delivery ∈ (Journal.run actions).inHand
  distinct : spare.Nodup

namespace IsMadeBy

theorem fresh : Session.fresh.IsMadeBy [] [] where
  broker := rfl
  named := fun _ _ bound => nomatch bound
  once := fun _ _ _ bound => nomatch bound
  inHand := fun _ member => absurd member List.not_mem_nil
  distinct := .nil

/-- Names can be given up, and so can messages without one. -/
theorem of_fewer {fewer : List Delivery} (made : session.IsMadeBy spare actions)
    (broker : later.exchange.broker = session.exchange.broker)
    (messages : ∀ name delivery, later.messages.get? name = some delivery →
      session.messages.get? name = some delivery)
    (part : fewer.Sublist spare) : later.IsMadeBy fewer actions where
  broker := broker.trans made.broker
  named := fun name delivery bound =>
    have before := made.named name delivery (messages name delivery bound)
    ⟨before.1, fun member => before.2 (part.subset member)⟩
  once := fun name other delivery bound also =>
    made.once name other delivery (messages name delivery bound) (messages other delivery also)
  inHand := fun delivery member => made.inHand delivery (part.subset member)
  distinct := made.distinct.sublist part

/-- Only the broker and the names of messages matter. -/
theorem of_same (made : session.IsMadeBy spare actions)
    (broker : later.exchange.broker = session.exchange.broker)
    (messages : later.messages = session.messages) : later.IsMadeBy spare actions :=
  made.of_fewer broker (fun _ _ bound => messages ▸ bound) (.refl _)

/-- The history goes on, and acknowledges nothing that a session has. -/
theorem goesOn (made : session.IsMadeBy spare actions) {more : List (Action Unit)}
    (kept : ∀ delivery ∈ (Journal.run actions).inHand,
      delivery ∈ (Journal.run (actions ++ more)).inHand)
    (broker : later.exchange.broker = (Journal.run (actions ++ more)).broker)
    (messages : later.messages = session.messages) :
    later.IsMadeBy spare (actions ++ more) where
  broker := broker
  named := fun name delivery bound =>
    (made.named name delivery (messages ▸ bound)).imp_left (kept delivery)
  once := messages ▸ made.once
  inHand := fun delivery member => kept delivery (made.inHand delivery member)
  distinct := made.distinct

theorem act (made : session.IsMadeBy spare actions) (action : Action Unit)
    (unanswering : ∀ delivery, action ≠ .acknowledge delivery)
    (broker : later.exchange.broker = ((Journal.run actions).act action).broker)
    (messages : later.messages = session.messages) :
    later.IsMadeBy spare (actions ++ [action]) := by
  rw [← Journal.run_snoc] at broker
  exact made.goesOn (fun delivery inHand => Journal.mem_inHand_snoc inHand (unanswering delivery))
    broker messages

/-- What is in hand without a name may be spare. -/
theorem spared (made : session.IsMadeBy spare actions)
    (inHand : delivery ∈ (Journal.run actions).inHand)
    (unnamed : ∀ name, session.messages.get? name ≠ some delivery) (unspared : delivery ∉ spare) :
    session.IsMadeBy (spare ++ [delivery]) actions where
  broker := made.broker
  named := by
    intro name other bound
    obtain ⟨inHand, apart⟩ := made.named name other bound
    refine ⟨inHand, fun member => ?_⟩
    rcases List.mem_append.1 member with old | new
    · exact apart old
    · exact unnamed name (List.mem_singleton.1 new ▸ bound)
  once := made.once
  inHand := by
    intro other member
    rcases List.mem_append.1 member with old | new
    · exact made.inHand other old
    · exact List.mem_singleton.1 new ▸ inHand
  distinct := by
    rw [← List.concat_eq_append]
    exact made.distinct.concat unspared

/-- What is read is spare at first. -/
theorem read (made : session.IsMadeBy spare actions) (reader : ReaderRef)
    (broker : later.exchange.broker = (session.exchange.broker.read reader).2)
    (messages : later.messages = session.messages) :
    later.IsMadeBy (spare ++ (session.exchange.broker.read reader).1.delivery?.toList)
      (actions ++ reading reader) := by
  rw [made.broker] at broker ⊢
  have given {delivery : Delivery} (inHand : delivery ∈ (Journal.run actions).inHand) :
      delivery ∈ (Journal.run actions).delivered :=
    ((Journal.answered_run actions).mem_inHand.1 inHand).1
  have kept (delivery : Delivery) (inHand : delivery ∈ (Journal.run actions).inHand) :
      delivery ∈ (Journal.run (actions ++ reading reader)).inHand := by
    rw [reading, List.append_cons]
    exact Journal.mem_inHand_snoc (Journal.mem_inHand_snoc inHand nofun) nofun
  have after : later.IsMadeBy spare (actions ++ reading reader) :=
    made.goesOn kept (broker.trans (Journal.run_reading actions reader).1.symm) messages
  cases outcome : ((Journal.run actions).broker.read reader).1.delivery? with
  | none => simpa using after
  | some new =>
    obtain ⟨isNew, inHand⟩ := Journal.inHand_reading outcome
    refine after.spared inHand (fun name bound => ?_) fun member => ?_
    · exact isNew (given (made.named name new (messages ▸ bound)).1)
    · exact isNew (given (made.inHand new member))

/-- A spare message gets a name. -/
theorem name (made : session.IsMadeBy (delivery :: spare) actions) (name : String)
    (broker : later.exchange.broker = session.exchange.broker)
    (messages : later.messages = session.messages.set name delivery) :
    later.IsMadeBy spare actions := by
  obtain ⟨unspared, distinct⟩ := List.nodup_cons.1 made.distinct
  have unnamed (other : String) : session.messages.get? other ≠ some delivery := fun bound =>
    (made.named other delivery bound).2 List.mem_cons_self
  constructor
  · exact broker.trans made.broker
  · intro other bound found
    rw [messages] at found
    rcases Table.get?_set_cases found with ⟨rfl, rfl⟩ | ⟨_, before⟩
    · exact ⟨made.inHand _ List.mem_cons_self, unspared⟩
    · obtain ⟨inHand, unspared⟩ := made.named other bound before
      exact ⟨inHand, fun member => unspared (List.mem_cons_of_mem _ member)⟩
  · intro first second bound found also
    rw [messages] at found also
    rcases Table.get?_set_cases found with ⟨rfl, rfl⟩ | ⟨_, before⟩
    · rcases Table.get?_set_cases also with ⟨rfl, _⟩ | ⟨_, before'⟩
      · rfl
      · exact absurd before' (unnamed second)
    · rcases Table.get?_set_cases also with ⟨rfl, rfl⟩ | ⟨_, before'⟩
      · exact absurd before (unnamed first)
      · exact made.once first second bound before before'
  · exact fun other member => made.inHand other (List.mem_cons_of_mem _ member)
  · exact distinct

/-- A message that loses its name is spare. -/
theorem unname (made : session.IsMadeBy spare actions) {name : String}
    (found : session.messages.get? name = some delivery)
    (broker : later.exchange.broker = session.exchange.broker)
    (messages : later.messages = session.messages.erase name) :
    later.IsMadeBy (spare ++ [delivery]) actions := by
  obtain ⟨inHand, unspared⟩ := made.named name delivery found
  have others {other : String} {bound : Delivery}
      (still : later.messages.get? other = some bound) :
      other ≠ name ∧ session.messages.get? other = some bound :=
    Table.get?_erase_cases (messages ▸ still)
  have fewer : later.IsMadeBy spare actions :=
    made.of_fewer broker (fun _ _ still => (others still).2) (.refl _)
  refine fewer.spared inHand (fun other still => ?_) unspared
  obtain ⟨different, before⟩ := others still
  exact different (made.once other name delivery before found)

/-- A spare message is acknowledged. -/
theorem acknowledge (made : session.IsMadeBy (delivery :: spare) actions)
    (broker : later.exchange.broker = session.exchange.broker.acknowledge delivery)
    (messages : later.messages = session.messages) :
    later.IsMadeBy spare (actions ++ [.acknowledge delivery]) := by
  obtain ⟨unspared, distinct⟩ := List.nodup_cons.1 made.distinct
  have inHand : delivery ∈ (Journal.run actions).inHand := made.inHand _ List.mem_cons_self
  have still {other : Delivery} (before : other ∈ (Journal.run actions).inHand)
      (apart : other ≠ delivery) :
      other ∈ (Journal.run (actions ++ [.acknowledge delivery])).inHand :=
    Journal.mem_inHand_snoc before fun same => apart (Action.acknowledge.inj same).symm
  constructor
  · rw [broker, made.broker, Journal.run_snoc, Journal.act, if_pos inHand]
    rfl
  · intro other bound found
    obtain ⟨before, apart⟩ := made.named other bound (messages ▸ found)
    obtain ⟨different, unspared⟩ := not_or.1 (mt List.mem_cons.2 apart)
    exact ⟨still before different, unspared⟩
  · exact messages ▸ made.once
  · intro other member
    exact still (made.inHand other (List.mem_cons_of_mem _ member))
      fun same => unspared (same ▸ member)
  · exact distinct

/-! ### What is asked for -/

theorem withdraw (made : session.IsMadeBy spare actions) (reader : String) :
    (session.withdraw reader).IsMadeBy spare actions :=
  made.of_same rfl rfl

theorem see (made : session.IsMadeBy spare actions) (queue : String) :
    (session.see queue).IsMadeBy spare actions := by
  unfold Session.see
  split
  · exact made
  · exact made.of_same rfl rfl

/-- Something is done if a request names what it is done to. -/
theorem getD (made : session.IsMadeBy spare actions) {change : String → Session}
    (changed : ∀ name, (change name).IsMadeBy spare actions) (name? : Option String) :
    ((name?.map change).getD session).IsMadeBy spare actions := by
  cases name? with
  | none => exact made
  | some name => exact changed name

theorem closeReader (made : session.IsMadeBy spare actions) (reader : ReaderRef)
    (exchange : later.exchange = session.exchange.closeReader reader)
    (messages : later.messages = session.messages) :
    later.IsMadeBy spare (actions ++ [.closeReader reader]) := by
  refine made.act (.closeReader reader) nofun ?_ messages
  have closed : ((Journal.run actions).act (.closeReader reader)).broker =
      (Journal.run actions).broker.closeReader reader := Exchange.broker_closeReader _ _
  rw [closed, exchange, Exchange.broker_closeReader, made.broker]

theorem dropReader (made : session.IsMadeBy spare actions) (name : String) :
    ∃ actions, (session.dropReader name).IsMadeBy spare actions := by
  unfold Session.dropReader
  split
  · exact ⟨actions, made⟩
  case h_2 reader _ => exact ⟨_, made.closeReader reader rfl rfl⟩

theorem publish (made : session.IsMadeBy spare actions) (queue body : String) :
    ({ session with exchange := session.exchange.publish queue body } : Session).IsMadeBy spare
      (actions ++ [.publish queue body]) :=
  made.act (.publish queue body) nofun (congrArg (·.publish queue body) made.broker) rfl

theorem interrupt (made : session.IsMadeBy spare actions) (queue : String) :
    ({ session with exchange := session.exchange.interrupt queue } : Session).IsMadeBy spare
      (actions ++ [.interrupt queue]) :=
  made.act (.interrupt queue) nofun (congrArg (·.interrupt queue) made.broker) rfl

theorem setUnavailable (made : session.IsMadeBy spare actions) (isUnavailable : Bool) :
    ({ session with exchange := session.exchange.setUnavailable isUnavailable } : Session).IsMadeBy
      spare (actions ++ [.setUnavailable isUnavailable]) :=
  made.act (.setUnavailable isUnavailable) nofun
    (congrArg (·.setUnavailable isUnavailable) made.broker) rfl

theorem close (made : session.IsMadeBy spare actions) :
    ({ session with exchange := session.exchange.close } : Session).IsMadeBy spare
      (actions ++ [.close]) :=
  made.act .close nofun (congrArg (·.close) made.broker) rfl

theorem openReader (made : session.IsMadeBy spare actions) {queue : String} {reader : ReaderRef}
    {exchange : Exchange Background}
    (opened : session.exchange.openReader queue = .ok (reader, exchange)) :
    ({ session with exchange } : Session).IsMadeBy spare (actions ++ [.openReader queue]) := by
  refine made.act (.openReader queue) nofun ?_ rfl
  unfold Exchange.openReader at opened
  split at opened
  case h_1 => cases opened
  case h_2 broker accepted =>
    cases opened
    rw [made.broker] at accepted
    rw [Journal.act_openReader_of_ok accepted]
    rfl

theorem readNow (made : session.IsMadeBy spare actions) (reader : ReaderRef) :
    (session.readNow reader).2.IsMadeBy
      (spare ++ (session.readNow reader).1.delivery?.toList) (actions ++ reading reader) :=
  made.read reader rfl rfl

theorem cycleOnce (made : session.IsMadeBy [] actions) (reader : ReaderRef) (queue body : String) :
    ∃ actions, (Session.cycleOnce reader queue session body).IsMadeBy [] actions := by
  have read := (made.publish queue body).readNow reader
  simp only [Session.cycleOnce]
  split
  case h_1 delivery after outcome =>
    rw [outcome] at read
    exact ⟨_, read.acknowledge rfl rfl⟩
  case h_2 outcome after undelivered same =>
    rw [same] at read
    cases outcome with
    | delivered delivery => exact absurd rfl (undelivered delivery)
    | failed fault => exact ⟨_, read⟩
    | waits => exact ⟨_, read⟩

theorem cycle (made : session.IsMadeBy [] actions) (reader : ReaderRef) (queue : String)
    (bodies : List String) : ∃ actions,
    (bodies.foldl (Session.cycleOnce reader queue) session).IsMadeBy [] actions := by
  induction bodies generalizing session actions with
  | nil => exact ⟨actions, made⟩
  | cons body bodies ih =>
    obtain ⟨_, once⟩ := made.cycleOnce reader queue body
    exact ih once

/-- A request that is carried out leaves a session that is made by a history. -/
theorem serve (made : session.IsMadeBy [] actions) (request : Request) :
    ∃ actions, (session.serve request).2.IsMadeBy [] actions := by
  cases request with
  | publish queue body => exact ⟨_, made.publish queue body⟩
  | openReader name queue =>
    simp only [Session.serve]
    split
    case h_1 => exact made.dropReader name
    case h_2 reader exchange opened =>
      obtain ⟨actions, dropped⟩ := (made.openReader opened).dropReader name
      exact ⟨actions, dropped.of_same rfl rfl⟩
  | read name message =>
    simp only [Session.serve]
    split
    case h_1 => exact ⟨actions, made⟩
    case h_2 reader _ =>
      have read := made.readNow reader
      split
      case h_1 after outcome =>
        rw [outcome] at read
        exact ⟨_, read⟩
      case h_2 fault after outcome =>
        rw [outcome] at read
        exact ⟨_, read⟩
      case h_3 delivery after outcome =>
        rw [outcome] at read
        exact ⟨_, read.name message rfl rfl⟩
  | readLater name message =>
    simp only [Session.serve]
    split
    · exact ⟨actions, made⟩
    · exact ⟨actions, made.of_same rfl rfl⟩
  | cycle name queue bodies =>
    simp only [Session.serve]
    split
    case h_1 => exact ⟨actions, made⟩
    case h_2 reader _ => exact made.cycle reader queue bodies
  | acknowledge message =>
    simp only [Session.serve]
    split
    case h_1 => exact ⟨actions, made⟩
    case h_2 delivery found =>
      have unnamed : Session.IsMadeBy
          { session with messages := session.messages.erase message } [delivery] actions :=
        made.unname found rfl rfl
      exact ⟨_, unnamed.acknowledge rfl rfl⟩
  | describe message =>
    simp only [Session.serve]
    split <;> exact ⟨actions, made⟩
  | dropMessage message =>
    have unnamed : Session.IsMadeBy
        { session with messages := session.messages.erase message } [] actions :=
      made.of_fewer rfl (fun _ _ bound => (Table.get?_erase_cases bound).2) (.refl _)
    exact ⟨actions, unnamed⟩
  | closeReader name =>
    simp only [Session.serve]
    split
    case h_1 => exact ⟨actions, made⟩
    case h_2 reader _ => exact ⟨_, made.closeReader reader rfl rfl⟩
  | dropReader name => exact made.dropReader name
  | interrupt queue => exact ⟨_, made.interrupt queue⟩
  | setUnavailable isUnavailable => exact ⟨_, made.setUnavailable isUnavailable⟩
  | close => exact ⟨_, made.close⟩

end IsMadeBy

/-! ### Reads in the background -/

/-- What the reads that have ended have delivered. -/
def deliveries (ended : List (PendingRead Background × ReadOutcome)) : List Delivery :=
  ended.flatMap (·.2.delivery?.toList)

theorem turnAfter_eq (sofar : List (PendingRead Background × ReadOutcome) × Exchange Background)
    (read : PendingRead Background) :
    (Exchange.turnAfter sofar read).2.broker = (sofar.2.broker.read read.reader).2 ∧
      deliveries (Exchange.turnAfter sofar read).1 =
        deliveries sofar.1 ++ (sofar.2.broker.read read.reader).1.delivery?.toList := by
  obtain ⟨outcome, broker⟩ := sofar.2.broker_attempt read
  rw [← outcome, ← broker]
  unfold Exchange.turnAfter
  split
  case h_1 later waits => simp [waits, ReadOutcome.delivery?]
  case h_2 outcome later _ ends => simp [ends, deliveries]

/-- The end of one read is noted, after those of others. -/
def completeAfter (sofar : List Completion × Session)
    (ended : PendingRead Background × ReadOutcome) : List Completion × Session :=
  let (session, more) := sofar.2.complete ended.1 ended.2
  (sofar.1 ++ more, session)

namespace IsMadeBy

/-- The turns of reads are some history, and what they deliver is spare. -/
theorem turns (reads : List (PendingRead Background))
    (sofar : List (PendingRead Background × ReadOutcome) × Exchange Background)
    (made : Session.IsMadeBy { session with exchange := sofar.2 } (deliveries sofar.1) actions) :
    let after := reads.foldl Exchange.turnAfter sofar
    ∃ actions, Session.IsMadeBy { session with exchange := after.2 } (deliveries after.1)
      actions := by
  induction reads generalizing sofar actions with
  | nil => exact ⟨actions, made⟩
  | cons read reads ih =>
    obtain ⟨broker, delivered⟩ := turnAfter_eq sofar read
    have turn : Session.IsMadeBy { session with exchange := (Exchange.turnAfter sofar read).2 }
        (deliveries (Exchange.turnAfter sofar read).1) (actions ++ reading read.reader) := by
      rw [delivered]
      exact made.read read.reader broker rfl
    exact ih _ turn

/-- The messages of reads that have ended get the names for which they were asked. -/
theorem complete (made : session.IsMadeBy (outcome.delivery?.toList ++ spare) actions)
    (read : PendingRead Background) : (session.complete read outcome).1.IsMadeBy spare actions := by
  cases outcome with
  | delivered delivery => exact made.name read.owner.message rfl rfl
  | failed fault => exact made
  | waits => exact made

theorem completions (ended : List (PendingRead Background × ReadOutcome))
    (sofar : List Completion × Session) (made : sofar.2.IsMadeBy (deliveries ended) actions) :
    (ended.foldl completeAfter sofar).2.IsMadeBy [] actions := by
  induction ended generalizing sofar with
  | nil => exact made
  | cons first ended ih => exact ih _ (made.complete first.1)

theorem settle (made : session.IsMadeBy [] actions) :
    ∃ actions, session.settle.2.IsMadeBy [] actions := by
  have start : Session.IsMadeBy
      { session with exchange := { session.exchange with woken := [] } } [] actions :=
    made.of_same rfl rfl
  obtain ⟨actions, turned⟩ := turns session.exchange.woken ([], _) start
  exact ⟨actions, completions session.exchange.settle.1 ([], _) turned⟩

/-- What a session does about a request is some history. -/
theorem handle (made : session.IsMadeBy [] actions) (request : Request) :
    ∃ actions, (session.handle request).2.2.IsMadeBy [] actions := by
  have withdrawn := made.getD made.withdraw request.reader?
  obtain ⟨_, served⟩ := (withdrawn.getD withdrawn.see request.queue?).serve request
  exact served.settle

end IsMadeBy

/-- The session after some requests. -/
def run (requests : List Request) : Session :=
  requests.foldl (fun session request => (session.handle request).2.2) Session.fresh

/-- **Sessions are histories.** Whatever is asked of a session, its broker is as some history has
left it, and every message that has a name in the session is in hand after that history. -/
theorem exists_history (requests : List Request) : ∃ actions : List (Action Unit),
    (run requests).exchange.broker = (Journal.run actions).broker ∧
      ∀ name delivery, (run requests).messages.get? name = some delivery →
        delivery ∈ (Journal.run actions).inHand := by
  have made : ∃ actions, (run requests).IsMadeBy [] actions := by
    induction requests using List.reverseRecOn with
    | nil => exact ⟨[], .fresh⟩
    | append_singleton earlier request ih =>
      obtain ⟨_, made⟩ := ih
      rw [run, List.foldl_append]
      exact made.handle request
  obtain ⟨actions, made⟩ := made
  exact ⟨actions, made.broker, fun name delivery bound => (made.named name delivery bound).1⟩

end Session

end Turnstile
