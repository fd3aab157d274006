import Turnstile.Broker.Session
import Turnstile.Proofs.Broker.Conservation
import Turnstile.Proofs.Broker.Readers

/-!
# Stale acknowledgments

A reader that is closed gives back what it held, and the messages are delivered anew. Whoever has
one of its deliveries in hand can still acknowledge it, and must not thereby settle the message for
somebody else who holds it by now.

What an open reader holds are its deliveries that are not settled (`Ledger.Attributed`); a delivery
that was acknowledged while its reader was open is settled (`Journal.Answered`). Since the numbers
of readers are never given out again, a delivery in hand is settled by its acknowledgment just if
its reader has not been closed. Whether readers have broken does not come into it.
-/

set_option autoImplicit false

namespace Turnstile

/-! ## What the readers of a queue hold are their unsettled deliveries -/

namespace Ledger

variable {name : String} {ledger later : Ledger} {reader : ReaderRef} {state : OpenReader}
  {message : Message}

/-- The deliveries of a queue are by its own readers, each of them is another, and an open reader
holds those that it made and that are not settled. -/
structure Attributed (name : String) (ledger : Ledger) : Prop where
  numbered : ∀ delivery ∈ ledger.delivered, delivery.reader.number < ledger.nextReader
  once : ledger.delivered.Nodup
  holds : ∀ number state, ledger.queue.readers.get? number = some state →
    ∀ message, message ∈ state.inFlight ↔
      ⟨⟨name, number⟩, message⟩ ∈ ledger.delivered ∧ ⟨⟨name, number⟩, message⟩ ∉ ledger.settled

namespace Attributed

theorem unused (name : String) : Ledger.unused.Attributed name where
  numbered := fun _ member => absurd member List.not_mem_nil
  once := .nil
  holds := fun _ _ found => nomatch found

/-- A new reader holds nothing, and nothing was delivered under its number. -/
theorem openReader (attributed : ledger.Attributed name) : ledger.openReader.Attributed name where
  numbered := fun delivery member => Nat.lt_succ_of_lt (attributed.numbered delivery member)
  once := attributed.once
  holds := by
    intro number state found message
    rcases Table.get?_set_cases found with ⟨rfl, rfl⟩ | ⟨_, before⟩
    · refine ⟨fun held => absurd held List.not_mem_nil, fun ⟨given, _⟩ => ?_⟩
      exact absurd (attributed.numbered _ given) (Nat.lt_irrefl _)
    · exact attributed.holds number state before message

/-- A message that waits in the queue is in no delivery of an open reader. -/
theorem notMem_delivered (balanced : ledger.Balanced) (attributed : ledger.Attributed name)
    (found : ledger.queue.readers.get? reader.number = some state) (here : reader.queue = name)
    (waits : message ∈ ledger.queue.ready) :
    ⟨reader, message⟩ ∉ ledger.delivered ∧ ⟨reader, message⟩ ∉ ledger.settled := by
  subst here
  obtain ⟨unsettled, _, settledApart⟩ := List.nodup_append.1 balanced.nodup
  have unanswered : ⟨reader, message⟩ ∉ ledger.settled := by
    intro settled
    have again : message ∈ ledger.settled.map (·.message) := List.mem_map.2 ⟨_, settled, rfl⟩
    exact settledApart message (List.mem_append_left _ waits) message again rfl
  refine ⟨fun given => ?_, unanswered⟩
  have held : message ∈ state.inFlight :=
    (attributed.holds _ _ found message).2 ⟨given, unanswered⟩
  exact (List.nodup_append.1 unsettled).2.2 message waits message
    (Queue.mem_inFlight_of_get? found held) rfl

theorem deliver (balanced : ledger.Balanced) (attributed : ledger.Attributed name)
    (here : reader.queue = name) (found : ledger.queue.readers.get? reader.number = some state)
    {ready : List Message} (head : ledger.queue.ready = message :: ready) :
    (ledger.deliver reader state message ready).Attributed name := by
  have waits : message ∈ ledger.queue.ready := head ▸ List.mem_cons_self
  obtain ⟨new, unsettled⟩ := attributed.notMem_delivered balanced found here waits
  subst here
  constructor
  · intro delivery member
    rcases List.mem_append.1 member with old | now
    · exact attributed.numbered delivery old
    · rw [List.mem_singleton.1 now]
      exact balanced.numbered _ (Table.mem_keys_of_get? found)
  · rw [Ledger.deliver, ← List.concat_eq_append]
    exact attributed.once.concat new
  · intro number state' found' other
    rcases Table.get?_set_cases found' with ⟨rfl, rfl⟩ | ⟨different, before⟩
    · have held := attributed.holds _ _ found other
      have inserted : other ∈ message.insertByTag state.inFlight ↔
          other = message ∨ other ∈ state.inFlight :=
        (message.insertByTag_perm state.inFlight).mem_iff.trans List.mem_cons
      simp only [Ledger.deliver, inserted, held, List.mem_append, List.mem_singleton,
        Delivery.mk.injEq, true_and]
      constructor
      · rintro (rfl | ⟨given, unanswered⟩)
        · exact ⟨.inr rfl, unsettled⟩
        · exact ⟨.inl given, unanswered⟩
      · rintro ⟨given | rfl, unanswered⟩
        · exact .inr ⟨given, unanswered⟩
        · exact .inl rfl
    · have apart : (⟨⟨reader.queue, number⟩, other⟩ : Delivery) ≠ ⟨reader, message⟩ :=
        fun equal => different (congrArg (·.reader.number) equal)
      simpa [Ledger.deliver, apart] using attributed.holds number state' before other

/-- What is settled leaves the reader that held it. -/
theorem settle (balanced : ledger.Balanced) (attributed : ledger.Attributed name)
    (here : reader.queue = name) (found : ledger.queue.readers.get? reader.number = some state)
    (held : message ∈ state.inFlight) : (ledger.settle reader state message).Attributed name where
  numbered := attributed.numbered
  once := attributed.once
  holds := by
    subst here
    intro number state' found' other
    rcases Table.get?_set_cases found' with ⟨rfl, rfl⟩ | ⟨elsewhere, before⟩
    · have different (member : other ∈ state.inFlight) :
          other.tag ≠ message.tag ↔ other ≠ message :=
        not_congr ⟨Message.eq_of_tag_eq (balanced.distinct_inFlight found) member held,
          congrArg Message.tag⟩
      have holds := attributed.holds _ _ found other
      simp only [Ledger.settle, List.mem_filter, decide_eq_true_eq, List.mem_append,
        List.mem_singleton, Delivery.mk.injEq, true_and, not_or]
      constructor
      · rintro ⟨member, apart⟩
        obtain ⟨given, unsettled⟩ := holds.1 member
        exact ⟨given, unsettled, (different member).1 apart⟩
      · rintro ⟨given, unsettled, apart⟩
        have member := holds.2 ⟨given, unsettled⟩
        exact ⟨member, (different member).2 apart⟩
    · have apart : (⟨⟨reader.queue, number⟩, other⟩ : Delivery) ≠ ⟨reader, message⟩ :=
        fun equal => elsewhere (congrArg (·.reader.number) equal)
      simpa [Ledger.settle, apart] using attributed.holds number state' before other

theorem closeReader (attributed : ledger.Attributed name) :
    (ledger.closeReader reader state).Attributed name where
  numbered := attributed.numbered
  once := attributed.once
  holds := by
    intro number state' found' message
    obtain ⟨_, before⟩ := Table.get?_erase_cases found'
    exact attributed.holds number state' before message

/-- A reader that breaks keeps what it holds. -/
theorem breakReaders (attributed : ledger.Attributed name) :
    ledger.breakReaders.Attributed name where
  numbered := attributed.numbered
  once := attributed.once
  holds := by
    intro number state' found' message
    obtain ⟨state, found, rfl⟩ := Table.exists_of_get?_mapValues found'
    exact attributed.holds number state found message

/-- **Every change keeps the deliveries of a queue attributed.** -/
theorem of_change (balanced : ledger.Balanced) (attributed : ledger.Attributed name)
    (change : ledger.Change name later) : later.Attributed name := by
  cases change with
  | elsewhere _ moreReaders =>
    exact { attributed with
      numbered := fun delivery member =>
        Nat.lt_of_lt_of_le (attributed.numbered delivery member) moreReaders }
  | publish body => exact { attributed with }
  | openReader => exact attributed.openReader
  | deliver here found _ head => exact attributed.deliver balanced here found head
  | settle here found held => exact attributed.settle balanced here found held
  | closeReader _ _ => exact attributed.closeReader
  | breakReaders => exact attributed.breakReaders

end Attributed

end Ledger

theorem Ledger.Change.nextReader_le {name : String} {ledger later : Ledger}
    (change : ledger.Change name later) : ledger.nextReader ≤ later.nextReader := by
  cases change with
  | elsewhere _ moreReaders => exact moreReaders
  | openReader => exact Nat.le_succ _
  | _ => exact Nat.le_refl _

/-! ## Readers that are open -/

namespace Broker

variable {broker : Broker} {reader other : ReaderRef} {delivery : Delivery}

/-- The reader is open: it has been opened, and neither closed nor dropped since. -/
def IsOpen (broker : Broker) (reader : ReaderRef) : Prop := (broker.openReader? reader).isSome

instance (broker : Broker) (reader : ReaderRef) : Decidable (broker.IsOpen reader) :=
  inferInstanceAs (Decidable (_ = true))

theorem isOpen_iff : broker.IsOpen reader ↔ ∃ state, broker.openReader? reader = some state :=
  Option.isSome_iff_exists

theorem isOpen_iff_isBroken? : broker.IsOpen reader ↔ (broker.isBroken? reader).isSome := by
  rw [IsOpen, isBroken?, Option.isSome_map]

theorem isOpen_acknowledge (broker : Broker) (delivery : Delivery) (reader : ReaderRef) :
    (broker.acknowledge delivery).IsOpen reader ↔ broker.IsOpen reader := by
  rw [isOpen_iff_isBroken?, isBroken?_acknowledge, isOpen_iff_isBroken?]

end Broker

/-! ## Which acknowledgments settle -/

namespace Journal

variable {α : Type} {journal : Journal α} {delivery other : Delivery} {reader : ReaderRef}

theorem mem_ledger_delivered :
    delivery ∈ (journal.ledger delivery.reader.queue).delivered ↔ delivery ∈ journal.delivered := by
  simp [ledger]

theorem mem_ledger_settled :
    delivery ∈ (journal.ledger delivery.reader.queue).settled ↔ delivery ∈ journal.settled := by
  simp [ledger]

/-- Deliveries none of which comes twice on its queue are all different. -/
theorem nodup_of_queues {deliveries : List Delivery}
    (once : ∀ name, (deliveries.filter fun delivery => delivery.reader.queue = name).Nodup) :
    deliveries.Nodup := by
  apply List.nodup_iff_count_le_one.2
  intro delivery
  have count := List.nodup_iff_count_le_one.1 (once delivery.reader.queue) delivery
  rwa [List.count_filter (by simp)] at count

/-- What is acknowledged was delivered, what is settled was acknowledged in the same order, and
every acknowledged delivery of a reader that is open still is settled. -/
structure Answered (journal : Journal α) : Prop where
  attributed : ∀ name, (journal.ledger name).Attributed name
  delivered : ∀ delivery ∈ journal.acknowledged, delivery ∈ journal.delivered
  settled : journal.settled.Sublist journal.acknowledged
  settles : ∀ delivery ∈ journal.acknowledged,
    journal.broker.IsOpen delivery.reader → delivery ∈ journal.settled

namespace Answered

theorem nodup_delivered (answered : journal.Answered) : journal.delivered.Nodup :=
  nodup_of_queues fun name => (answered.attributed name).once

theorem mem_inHand (answered : journal.Answered) :
    delivery ∈ journal.inHand ↔ delivery ∈ journal.delivered ∧ delivery ∉ journal.acknowledged :=
  answered.nodup_delivered.mem_sdiff_iff

theorem number_lt (answered : journal.Answered) (given : delivery ∈ journal.delivered) :
    delivery.reader.number < journal.broker.nextReader :=
  (answered.attributed _).numbered delivery (mem_ledger_delivered.2 given)

/-- An open reader still holds each of its deliveries that is in hand. -/
theorem held?_of_isOpen (consistent : journal.Consistent) (answered : journal.Answered)
    (inHand : delivery ∈ journal.inHand) (isOpen : journal.broker.IsOpen delivery.reader) :
    journal.broker.held? delivery = some delivery.message := by
  obtain ⟨given, unanswered⟩ := answered.mem_inHand.1 inHand
  obtain ⟨state, found⟩ := Broker.isOpen_iff.1 isOpen
  have unsettled : delivery ∉ journal.settled := fun settled =>
    unanswered (answered.settled.subset settled)
  have member : delivery.message ∈ state.inFlight := by
    apply ((answered.attributed delivery.reader.queue).holds _ _ found _).2
    exact ⟨mem_ledger_delivered.2 given, fun settled => unsettled (mem_ledger_settled.1 settled)⟩
  have distinct : (state.inFlight.map (·.tag)).Nodup :=
    (consistent.balanced delivery.reader.queue).distinct_inFlight found
  obtain ⟨message, search⟩ := Option.isSome_iff_exists.1
    (List.find?_isSome.2 ⟨delivery.message, member, by simp⟩ :
      (state.inFlight.find? fun message => message.tag = delivery.message.tag).isSome)
  have sameTag : message.tag = delivery.message.tag := by
    simpa only [decide_eq_true_eq] using List.find?_some search
  rw [Broker.held?, found, Option.bind_some, search,
    Message.eq_of_tag_eq distinct (List.mem_of_find?_eq_some search) member sameTag]

end Answered

theorem held?_of_not_isOpen (closed : ¬ journal.broker.IsOpen delivery.reader) :
    journal.broker.held? delivery = none := by
  rw [Broker.held?, Option.not_isSome_iff_eq_none.1 closed, Option.bind_none]

/-- What acknowledging a delivery in hand settles: the delivery, if its reader is open. -/
theorem settled_acknowledge (consistent : journal.Consistent) (answered : journal.Answered)
    (inHand : delivery ∈ journal.inHand) :
    (journal.broker.IsOpen delivery.reader →
      (journal.acknowledge delivery).settled = journal.settled ++ [delivery]) ∧
    (¬ journal.broker.IsOpen delivery.reader →
      (journal.acknowledge delivery).settled = journal.settled) := by
  constructor
  · intro isOpen
    simp [acknowledge, answered.held?_of_isOpen consistent inHand isOpen]
  · intro closed
    simp [acknowledge, held?_of_not_isOpen closed]

variable [DecidableEq α]

theorem nextReader_le_act (journal : Journal α) (action : Action α) :
    journal.broker.nextReader ≤ (journal.act action).broker.nextReader :=
  (journal.ledger_change action "").nextReader_le

/-- A reader whose number is taken is open after an action if it was before, and was not closed. -/
theorem isOpen_act (action : Action α) (numbered : reader.number < journal.broker.nextReader) :
    (journal.act action).broker.IsOpen reader ↔
      journal.broker.IsOpen reader ∧ action ≠ .closeReader reader := by
  rw [Broker.isOpen_iff_isBroken?, Broker.isOpen_iff_isBroken?,
    isBroken?_act_of_numbered _ numbered, Action.isSome_isBrokenAfter?]

/-- An action delivers one message at most, to a reader that is open and whole. -/
theorem delivered_act (journal : Journal α) (action : Action α) :
    (journal.act action).delivered = journal.delivered ∨
    ∃ delivery, (journal.act action).delivered = journal.delivered ++ [delivery] ∧
      journal.broker.isBroken? delivery.reader = some false ∧
      (journal.act action).broker.isBroken? delivery.reader = some false := by
  cases action with
  | openReader queue =>
    refine .inl ?_
    simp only [act]
    split <;> rfl
  | takeTurn read =>
    simp only [act]
    split
    · rw [delivered_takeTurn, broker_takeTurn]
      rcases journal.broker.read_cases read.reader with
        ⟨nothing, _⟩ | ⟨state, message, _, found, whole, _, success⟩
      · exact .inl (by simp [nothing])
      · have before : journal.broker.isBroken? read.reader = some false := by
          simp [Broker.isBroken?, found, whole]
        refine .inr ⟨⟨read.reader, message⟩, by simp [success, ReadOutcome.delivery?], before, ?_⟩
        exact (journal.broker.isBroken?_read read.reader read.reader).trans before
    · exact .inl rfl
  | acknowledge delivery =>
    refine .inl ?_
    simp only [act]
    split <;> rfl
  | _ => exact .inl rfl

/-- Deliveries are not forgotten. -/
theorem mem_delivered_act (action : Action α) (given : delivery ∈ journal.delivered) :
    delivery ∈ (journal.act action).delivered := by
  rcases journal.delivered_act action with same | ⟨_, added, _⟩
  · rwa [same]
  · exact added ▸ List.mem_append_left _ given

/-- Only the acknowledgment of a delivery in hand is recorded. -/
theorem acknowledged_act (journal : Journal α) (action : Action α) :
    ((journal.act action).acknowledged = journal.acknowledged ∧
      (journal.act action).settled = journal.settled) ∨
    ∃ delivery ∈ journal.inHand, action = .acknowledge delivery ∧
      journal.act action = journal.acknowledge delivery := by
  cases action with
  | openReader queue =>
    refine .inl ?_
    simp only [act]
    split <;> exact ⟨rfl, rfl⟩
  | takeTurn read =>
    refine .inl ?_
    simp only [act]
    split <;> exact ⟨rfl, rfl⟩
  | acknowledge delivery =>
    by_cases inHand : delivery ∈ journal.inHand
    · exact .inr ⟨delivery, inHand, rfl, if_pos inHand⟩
    · rw [act, if_neg inHand]
      exact .inl ⟨rfl, rfl⟩
  | _ => exact .inl ⟨rfl, rfl⟩

namespace Answered

theorem attributed_act (consistent : journal.Consistent) (answered : journal.Answered)
    (action : Action α) (name : String) : ((journal.act action).ledger name).Attributed name :=
  (answered.attributed name).of_change (consistent.balanced name)
    (journal.ledger_change action name)

/-- No reader that has delivered something is opened by an action. -/
theorem isOpen_of_act (answered : journal.Answered) {action : Action α}
    (given : delivery ∈ journal.delivered)
    (isOpen : (journal.act action).broker.IsOpen delivery.reader) :
    journal.broker.IsOpen delivery.reader :=
  ((isOpen_act action (answered.number_lt given)).1 isOpen).1

/-- The acknowledgment of a delivery in hand keeps the acknowledgments answered. -/
theorem act_of_acknowledge (consistent : journal.Consistent) (answered : journal.Answered)
    {action : Action α} {now : Delivery} (inHand : now ∈ journal.inHand)
    (after : journal.act action = journal.acknowledge now) : (journal.act action).Answered := by
  have given := (answered.mem_inHand.1 inHand).1
  obtain ⟨whenOpen, whenClosed⟩ := settled_acknowledge consistent answered inHand
  have acknowledged : (journal.act action).acknowledged = journal.acknowledged ++ [now] :=
    congrArg Journal.acknowledged after
  have settled := congrArg Journal.settled after
  constructor
  · exact answered.attributed_act consistent action
  · intro delivery member
    rw [acknowledged] at member
    rcases List.mem_append.1 member with old | new
    · exact mem_delivered_act action (answered.delivered delivery old)
    · exact List.mem_singleton.1 new ▸ mem_delivered_act action given
  · rw [acknowledged, settled]
    by_cases isOpen : journal.broker.IsOpen now.reader
    · rw [whenOpen isOpen]
      exact answered.settled.append_right [now]
    · rw [whenClosed isOpen]
      exact answered.settled.trans (List.sublist_append_left _ _)
  · intro delivery member isOpen
    rw [acknowledged] at member
    rw [settled]
    rcases List.mem_append.1 member with old | new
    · have before := answered.settles delivery old
        (answered.isOpen_of_act (answered.delivered delivery old) isOpen)
      by_cases nowOpen : journal.broker.IsOpen now.reader
      · rw [whenOpen nowOpen]
        exact List.mem_append_left _ before
      · rw [whenClosed nowOpen]
        exact before
    · obtain rfl := List.mem_singleton.1 new
      rw [whenOpen (answered.isOpen_of_act given isOpen)]
      exact List.mem_append_right _ (List.mem_singleton_self _)

/-- **Every action keeps the acknowledgments answered.** -/
theorem act (consistent : journal.Consistent) (answered : journal.Answered)
    (action : Action α) : (journal.act action).Answered := by
  rcases journal.acknowledged_act action with ⟨acknowledged, settled⟩ | ⟨now, inHand, _, after⟩
  · constructor
    · exact answered.attributed_act consistent action
    · intro delivery member
      rw [acknowledged] at member
      exact mem_delivered_act action (answered.delivered delivery member)
    · rw [acknowledged, settled]
      exact answered.settled
    · intro delivery member isOpen
      rw [acknowledged] at member
      rw [settled]
      have given := answered.delivered delivery member
      exact answered.settles delivery member (answered.isOpen_of_act given isOpen)
  · exact answered.act_of_acknowledge consistent inHand after

end Answered

theorem answered_run (actions : List (Action α)) : (run actions).Answered := by
  have start : (fresh : Journal α).Consistent ∧ (fresh : Journal α).Answered := by
    refine ⟨consistent_run [], fun name => .unused name, ?_, .slnil, ?_⟩
    · exact fun _ member => absurd member List.not_mem_nil
    · exact fun _ member => absurd member List.not_mem_nil
  have step (journal : Journal α) (action : Action α)
      (both : journal.Consistent ∧ journal.Answered) :
      (journal.act action).Consistent ∧ (journal.act action).Answered :=
    ⟨both.1.act action, both.2.act both.1 action⟩
  exact (run_induction start step actions).2

/-! ## Readers that have been closed -/

/-- The reader was closed, or dropped, when it was open. -/
def HasClosed (actions : List (Action α)) (reader : ReaderRef) : Prop :=
  ∃ before after, actions = before ++ .closeReader reader :: after ∧
    (run before).broker.IsOpen reader

theorem run_snoc (actions : List (Action α)) (action : Action α) :
    run (actions ++ [action]) = (run actions).act action := by
  rw [run, List.foldl_append]
  rfl

theorem not_hasClosed_nil : ¬ HasClosed ([] : List (Action α)) reader := by
  rintro ⟨before, after, split, _⟩
  exact absurd split.symm (by simp)

theorem hasClosed_snoc {actions : List (Action α)} {action : Action α} :
    HasClosed (actions ++ [action]) reader ↔ HasClosed actions reader ∨
      (action = .closeReader reader ∧ (run actions).broker.IsOpen reader) := by
  constructor
  · rintro ⟨before, after, split, isOpen⟩
    rcases List.eq_nil_or_concat' after with rfl | ⟨after, last, rfl⟩
    · obtain ⟨rfl, same⟩ := List.append_inj' split rfl
      exact .inr ⟨List.singleton_inj.1 same, isOpen⟩
    · rw [← List.cons_append, ← List.append_assoc] at split
      obtain ⟨rfl, _⟩ := List.append_inj' split rfl
      exact .inl ⟨before, after, rfl, isOpen⟩
  · rintro (⟨before, after, rfl, isOpen⟩ | ⟨rfl, isOpen⟩)
    · exact ⟨before, after ++ [action], by simp, isOpen⟩
    · exact ⟨actions, [], rfl, isOpen⟩

theorem number_lt_of_isOpen {actions : List (Action α)}
    (isOpen : (run actions).broker.IsOpen reader) :
    reader.number < (run actions).broker.nextReader := by
  obtain ⟨state, found⟩ := Broker.isOpen_iff.1 isOpen
  exact ((consistent_run actions).balanced reader.queue).numbered _ (Table.mem_keys_of_get? found)

/-- A reader that was closed is not opened again. -/
theorem not_isOpen_of_hasClosed {actions : List (Action α)} (closed : HasClosed actions reader) :
    reader.number < (run actions).broker.nextReader ∧ ¬ (run actions).broker.IsOpen reader := by
  induction actions using List.reverseRecOn with
  | nil => exact absurd closed not_hasClosed_nil
  | append_singleton actions action ih =>
    rw [run_snoc]
    rcases hasClosed_snoc.1 closed with before | ⟨rfl, isOpen⟩
    · obtain ⟨numbered, notOpen⟩ := ih before
      refine ⟨Nat.lt_of_lt_of_le numbered (nextReader_le_act _ action), fun isOpen => ?_⟩
      exact notOpen ((isOpen_act action numbered).1 isOpen).1
    · have numbered := number_lt_of_isOpen isOpen
      refine ⟨Nat.lt_of_lt_of_le numbered (nextReader_le_act _ _), fun again => ?_⟩
      exact ((isOpen_act _ numbered).1 again).2 rfl

/-- **A reader that has delivered something is open until it is closed.** -/
theorem isOpen_iff_not_hasClosed {actions : List (Action α)}
    (given : delivery ∈ (run actions).delivered) :
    (run actions).broker.IsOpen delivery.reader ↔ ¬ HasClosed actions delivery.reader := by
  refine ⟨fun isOpen closed => (not_isOpen_of_hasClosed closed).2 isOpen, fun unclosed => ?_⟩
  induction actions using List.reverseRecOn with
  | nil => exact absurd given List.not_mem_nil
  | append_singleton actions action ih =>
    rw [run_snoc] at given ⊢
    rw [hasClosed_snoc, not_or] at unclosed
    by_cases old : delivery ∈ (run actions).delivered
    · have isOpen := ih old unclosed.1
      refine (isOpen_act action ((answered_run actions).number_lt old)).2 ⟨isOpen, fun same => ?_⟩
      exact unclosed.2 ⟨same, isOpen⟩
    · rcases (run actions).delivered_act action with same | ⟨_, added, _, whole⟩
      · exact absurd (same ▸ given) old
      · rw [added, List.mem_append, or_iff_right old, List.mem_singleton] at given
        rw [Broker.isOpen_iff_isBroken?, given, whole]
        rfl

/-! ## Acknowledging what is in hand -/

omit [DecidableEq α] in
/-- What an acknowledgment that settles its message does to the places of messages: the message
goes from its reader to what is settled, and nothing else moves. -/
theorem messagesAt_acknowledge (consistent : journal.Consistent) (answered : journal.Answered)
    (inHand : delivery ∈ journal.inHand) (isOpen : journal.broker.IsOpen delivery.reader)
    (place : Place) :
    (journal.acknowledge delivery).messagesAt place =
      if place = .settled delivery.reader.queue then
        journal.messagesAt place ++ [delivery.message]
      else if place = .inFlight delivery.reader then
        (journal.messagesAt place).filter fun held => held ≠ delivery.message
      else journal.messagesAt place := by
  have held := answered.held?_of_isOpen consistent inHand isOpen
  have settled := (settled_acknowledge consistent answered inHand).1 isOpen
  cases place with
  | ready name =>
    rw [if_neg nofun, if_neg nofun]
    exact journal.broker.ready_acknowledge delivery name
  | inFlight reader =>
    rw [if_neg nofun]
    by_cases same : reader = delivery.reader
    · subst same
      obtain ⟨state, found, member, _⟩ := Broker.exists_of_held? held
      have distinct : (state.inFlight.map (·.tag)).Nodup :=
        (consistent.balanced delivery.reader.queue).distinct_inFlight found
      have after : (journal.acknowledge delivery).broker.openReader? delivery.reader = _ :=
        Broker.openReader?_acknowledge_self found held
      rw [if_pos rfl, messagesAt, messagesAt, after, found]
      apply List.filter_congr
      intro other here
      exact decide_eq_decide.2 (not_congr
        ⟨Message.eq_of_tag_eq distinct here member, congrArg Message.tag⟩)
    · have after : (journal.acknowledge delivery).broker.openReader? reader =
          journal.broker.openReader? reader := Broker.openReader?_acknowledge_of_ne _ same
      rw [if_neg fun equal => same (Place.inFlight.inj equal), messagesAt, messagesAt, after]
  | settled name =>
    simp only [messagesAt, ledger, settled, List.filter_append, List.map_append]
    by_cases same : name = delivery.reader.queue
    · subst same
      simp
    · simp [same, Ne.symm same]

/-- An acknowledgment uses up its delivery and leaves what others have in hand as it is. -/
theorem inHand_acknowledge (consistent : journal.Consistent) (answered : journal.Answered)
    (inHand : delivery ∈ journal.inHand) :
    (∀ other, other ∈ (journal.act (.acknowledge delivery)).inHand ↔
      other ∈ journal.inHand ∧ other ≠ delivery) ∧
    ∀ other ∈ (journal.act (.acknowledge delivery)).inHand,
      (journal.act (.acknowledge delivery)).broker.held? other = journal.broker.held? other := by
  have answered' := answered.act consistent (.acknowledge delivery)
  have after : journal.act (.acknowledge delivery) = journal.acknowledge delivery := if_pos inHand
  have others : ∀ other, other ∈ (journal.act (.acknowledge delivery)).inHand ↔
      other ∈ journal.inHand ∧ other ≠ delivery := by
    intro other
    rw [answered'.mem_inHand, answered.mem_inHand, after, acknowledge, List.mem_append,
      List.mem_singleton, not_or, and_assoc]
  refine ⟨others, fun other member => ?_⟩
  have before := ((others other).1 member).1
  have same : (journal.act (.acknowledge delivery)).broker.IsOpen other.reader ↔
      journal.broker.IsOpen other.reader := by
    rw [after]
    exact journal.broker.isOpen_acknowledge delivery other.reader
  by_cases isOpen : journal.broker.IsOpen other.reader
  · rw [answered'.held?_of_isOpen (consistent.act _) member (same.2 isOpen),
      answered.held?_of_isOpen consistent before isOpen]
  · rw [held?_of_not_isOpen (mt same.1 isOpen), held?_of_not_isOpen isOpen]

omit [DecidableEq α] in
/-- No message is settled twice, on whatever queue. -/
theorem nodup_settled (consistent : journal.Consistent) :
    (journal.settled.map (·.message.tag)).Nodup := by
  have distinct (name : String) : ((journal.ledger name).settled.map (·.message)).Nodup :=
    (List.nodup_append.1 (consistent.balanced name).nodup).2.1
  have once : journal.settled.Nodup := nodup_of_queues fun name => .of_map _ (distinct name)
  have published {delivery : Delivery} (member : delivery ∈ journal.settled) :
      ⟨delivery.reader.queue, delivery.message⟩ ∈ journal.published := by
    have here : delivery.message ∈ journal.messagesAt (.settled delivery.reader.queue) :=
      List.mem_map.2 ⟨delivery, mem_ledger_settled.2 member, rfl⟩
    exact consistent.posting_mem here
  apply once.map_on
  intro first here second there sameTag
  have equal := consistent.posting_eq (published here) (published there) sameTag
  have sameQueue : first.reader.queue = second.reader.queue := congrArg Posting.queue equal
  apply List.inj_on_of_nodup_map (distinct first.reader.queue) (mem_ledger_settled.2 here)
  · rw [sameQueue]
    exact mem_ledger_settled.2 there
  · exact congrArg Posting.message equal

/-- **An acknowledgment settles its own delivery or nothing.** A delivery in hand is settled by its
acknowledgment just if its reader has not been closed or dropped, whatever else has happened: then
the message goes from its reader to what is settled on the queue, and everything else stays where
it is. Otherwise the whole exchange stays as it is. Either way the acknowledgment succeeds, the
other deliveries in hand, of whatever message, stay in hand and unsettled, and their readers hold
for them what they held; nothing is settled but by its own acknowledgment, and no message twice. -/
theorem acknowledgment_settles_own (actions : List (Action α))
    (inHand : delivery ∈ (run actions).inHand) :
    let before := run actions
    let after := run (actions ++ [.acknowledge delivery])
    (delivery ∈ after.settled ↔ ¬ HasClosed actions delivery.reader) ∧
    (¬ HasClosed actions delivery.reader →
      after.settled = before.settled ++ [delivery] ∧
      (after.broker.queue delivery.reader.queue).ackedCount =
        (before.broker.queue delivery.reader.queue).ackedCount + 1 ∧
      (after.broker.queue delivery.reader.queue).recentAcks =
        Queue.remember (before.broker.queue delivery.reader.queue).recentAcks
          delivery.message.body ∧
      ∀ place, after.messagesAt place =
        if place = .settled delivery.reader.queue then
          before.messagesAt place ++ [delivery.message]
        else if place = .inFlight delivery.reader then
          (before.messagesAt place).filter fun held => held ≠ delivery.message
        else before.messagesAt place) ∧
    (HasClosed actions delivery.reader →
      after.exchange = before.exchange ∧ after.settled = before.settled) ∧
    (∀ other, other ∈ after.inHand ↔ other ∈ before.inHand ∧ other ≠ delivery) ∧
    (∀ other ∈ after.inHand, other ∉ after.settled ∧
      after.broker.held? other = before.broker.held? other) ∧
    after.settled.Sublist after.acknowledged ∧ (after.settled.map (·.message.tag)).Nodup ∧
    ∀ (session : Session) (name : String), session.exchange.broker = before.broker →
      session.messages.get? name = some delivery →
      (session.serve (.acknowledge name)).1 = .acknowledged ∧
        (session.serve (.acknowledge name)).2.exchange.broker = after.broker := by
  intro before after
  have consistent : before.Consistent := consistent_run actions
  have answered : before.Answered := answered_run actions
  have acted : after = before.act (.acknowledge delivery) := run_snoc actions _
  have acknowledged : after = before.acknowledge delivery := acted.trans (if_pos inHand)
  have answered' : after.Answered := answered_run _
  obtain ⟨given, unanswered⟩ := answered.mem_inHand.1 inHand
  have isOpen_iff := isOpen_iff_not_hasClosed given
  obtain ⟨whenOpen, whenClosed⟩ := settled_acknowledge consistent answered inHand
  rw [← acknowledged] at whenOpen whenClosed
  obtain ⟨others, held⟩ := inHand_acknowledge consistent answered inHand
  rw [← acted] at others held
  refine ⟨?settles, ?whenOpen, ?whenClosed, others, ?others, answered'.settled,
    nodup_settled (consistent_run _), ?replies⟩
  case settles =>
    rw [← isOpen_iff]
    constructor
    · intro settled
      by_contra closed
      rw [whenClosed closed] at settled
      exact unanswered (answered.settled.subset settled)
    · intro isOpen
      rw [whenOpen isOpen]
      exact List.mem_append_right _ (List.mem_singleton_self _)
  case whenOpen =>
    intro unclosed
    have isOpen := isOpen_iff.2 unclosed
    obtain ⟨state, _, _, settling⟩ := Broker.exists_of_held?
      (answered.held?_of_isOpen consistent inHand isOpen)
    have broker : after.broker = _ := (congrArg Journal.broker acknowledged).trans settling
    refine ⟨whenOpen isOpen, ?_, ?_, fun place => ?_⟩
    · rw [broker, Broker.queue_setQueue_self]
    · rw [broker, Broker.queue_setQueue_self]
    · rw [acknowledged]
      exact messagesAt_acknowledge consistent answered inHand isOpen place
  case whenClosed =>
    intro closed
    have notOpen := (not_isOpen_of_hasClosed closed).2
    refine ⟨?_, whenClosed notOpen⟩
    rw [acknowledged]
    exact congrArg (fun broker => { before.exchange with broker })
      (Broker.acknowledge_of_held?_eq_none (held?_of_not_isOpen notOpen))
  case others =>
    intro other member
    refine ⟨fun settled => ?_, held other member⟩
    exact (answered'.mem_inHand.1 member).2 (answered'.settled.subset settled)
  case replies =>
    intro session name same kept
    rw [acknowledged, Session.serve, kept]
    exact ⟨rfl, congrArg (·.acknowledge delivery) same⟩

/-- A history in which a message is in hand twice: its first reader has been closed, and the second
has broken, as has the whole broker. -/
def twiceInHand : List (Action Unit) :=
  let first : ReaderRef := ⟨"workers", 0⟩
  let second : ReaderRef := ⟨"workers", 1⟩
  [.publish "workers" "a", .openReader "workers", .beginRead ⟨(), first⟩, .takeTurn ⟨(), first⟩,
    .closeReader first, .openReader "workers", .beginRead ⟨(), second⟩, .takeTurn ⟨(), second⟩,
    .interrupt "workers", .close]

theorem acknowledgment_settles_own_twiceInHand :
    let stale : Delivery := ⟨⟨"workers", 0⟩, ⟨0, "a"⟩⟩
    let current : Delivery := ⟨⟨"workers", 1⟩, ⟨0, "a"⟩⟩
    (stale ∈ (run twiceInHand).inHand ∧
      stale ∉ (run (twiceInHand ++ [.acknowledge stale])).settled) ∧
    current ∈ (run twiceInHand).inHand ∧
      current ∈ (run (twiceInHand ++ [.acknowledge current])).settled := by
  intro stale current
  have staleInHand : stale ∈ (run twiceInHand).inHand := by decide
  have currentInHand : current ∈ (run twiceInHand).inHand := by decide
  have closed : HasClosed twiceInHand stale.reader :=
    ⟨twiceInHand.take 4, twiceInHand.drop 5, rfl, by decide⟩
  have given : current ∈ (run twiceInHand).delivered := by decide
  have unclosed : ¬ HasClosed twiceInHand current.reader :=
    (isOpen_iff_not_hasClosed given).1 (by decide)
  refine ⟨⟨staleInHand, fun settled => ?_⟩, currentInHand, ?_⟩
  · exact (acknowledgment_settles_own twiceInHand staleInHand).1.1 settled closed
  · exact (acknowledgment_settles_own twiceInHand currentInHand).1.2 unclosed

end Journal

end Turnstile
