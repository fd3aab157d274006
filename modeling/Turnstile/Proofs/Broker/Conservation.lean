import Mathlib.Data.List.Perm.Basic
import Mathlib.Data.List.Perm.Subperm
import Turnstile.Proofs.Broker.History

/-!
# Messages are conserved

Nothing that is done with the broker loses a message, duplicates it, changes it or moves it to
another queue. In every history the messages published to a queue are, up to their order, those
that wait in it, those that its readers hold, and those that were settled
(`Ledger.Balanced`). A delivery, an acknowledgment and the closing of a reader each move
messages from one of these three to another.

Messages are told apart by their tags, which no two messages share. So every message that was
published is in exactly one **place**: it waits in its queue, or one open reader of that queue
holds it, or it is settled (`published_in_one_place`).
-/

set_option autoImplicit false

namespace Turnstile

/-! ## Lists of messages with different tags -/

namespace Message

theorem insertByTag_perm (message : Message) (messages : List Message) :
    (message.insertByTag messages).Perm (message :: messages) := by
  induction messages with
  | nil => exact .refl _
  | cons head tail ih =>
    by_cases earlier : message.tag < head.tag
    · simp [insertByTag, earlier]
    · simp only [insertByTag, earlier, if_false]
      exact (ih.cons head).trans (.swap message head tail)

theorem eq_of_tag_eq {messages : List Message} (distinct : (messages.map (·.tag)).Nodup)
    {first second : Message} (here : first ∈ messages) (there : second ∈ messages)
    (same : first.tag = second.tag) : first = second :=
  List.inj_on_of_nodup_map distinct here there same

theorem filter_tag_eq {messages : List Message} (distinct : (messages.map (·.tag)).Nodup)
    {message : Message} (member : message ∈ messages) :
    messages.filter (fun other => other.tag = message.tag) = [message] := by
  have once : messages.filter (fun other => other.tag = message.tag) =
      messages.filter (fun other => other = message) := by
    refine List.filter_congr fun other there => ?_
    exact decide_eq_decide.2 ⟨eq_of_tag_eq distinct there member, congrArg tag⟩
  rw [once, List.filter_eq, List.count_eq_one_of_mem (List.Nodup.of_map _ distinct) member]
  rfl

/-- A tag above all others is a new one. -/
theorem nodup_append_tag {tags : List Nat} {next : Nat} (distinct : tags.Nodup)
    (used : ∀ tag ∈ tags, tag < next) : (tags ++ [next]).Nodup := by
  rw [← List.concat_eq_append]
  exact distinct.concat fun member => Nat.lt_irrefl next (used next member)

/-- Taking a message out of a list by its tag takes out that message alone. -/
theorem perm_cons_filter_tag_ne {messages : List Message}
    (distinct : (messages.map (·.tag)).Nodup) {message : Message} (member : message ∈ messages) :
    messages.Perm (message :: messages.filter fun other => other.tag ≠ message.tag) := by
  have parts := List.filter_append_perm (fun other : Message => decide (other.tag = message.tag))
    messages
  rw [filter_tag_eq distinct member] at parts
  simpa using parts.symm

end Message

/-! ## What the readers of a queue hold -/

namespace Queue

/-- Replacing a reader, or taking it away, changes what is in flight by what that reader holds. -/
theorem exists_others (queue : Queue) (distinct : queue.readers.keys.Nodup) {number : Nat}
    {state : OpenReader} (found : queue.readers.get? number = some state) :
    ∃ others : List Message, queue.inFlight.Perm (state.inFlight ++ others) ∧
      (∀ state' : OpenReader,
        ({ queue with readers := queue.readers.set number state' } : Queue).inFlight.Perm
          (state'.inFlight ++ others)) ∧
      ({ queue with readers := queue.readers.erase number } : Queue).inFlight.Perm others := by
  obtain ⟨before, after, split, replaced, erased⟩ := Table.exists_split_of_get? found
  let held := fun bindings : List (Nat × OpenReader) => bindings.flatMap (·.2.inFlight)
  have inFlight_eq : ∀ readers : Table Nat OpenReader,
      Queue.inFlight { queue with readers } = held readers.bindings := by
    intro readers
    simp [Queue.inFlight, Table.values, held, List.flatMap_map]
  have middle : ∀ state' : OpenReader, (held (before ++ (number, state') :: after)).Perm
      (state'.inFlight ++ held (before ++ after)) := by
    intro state'
    simpa [held] using List.perm_append_comm_assoc _ _ _
  refine ⟨held (before ++ after), ?_, fun state' => ?_, ?_⟩
  · rw [show queue.inFlight = held queue.readers.bindings from inFlight_eq queue.readers, split]
    exact middle state
  · rw [inFlight_eq, replaced]
    exact middle state'
  · rw [inFlight_eq, erased distinct]

end Queue

/-! ## Balanced ledgers -/

namespace Ledger

variable {name : String} {ledger later : Ledger} {reader : ReaderRef} {state : OpenReader}
  {message : Message}

/-- A ledger is balanced if no message of its queue is missing or there twice. Its messages have
different tags and its readers different numbers, all of them used up. -/
structure Balanced (ledger : Ledger) : Prop where
  conserved : (ledger.queue.ready ++ ledger.queue.inFlight ++
    ledger.settled.map (·.message)).Perm ledger.published
  counted : ledger.queue.ackedCount = ledger.settled.length
  distinct : (ledger.published.map (·.tag)).Nodup
  tagged : ∀ message ∈ ledger.published, message.tag < ledger.nextTag
  separate : ledger.queue.readers.keys.Nodup
  numbered : ∀ number ∈ ledger.queue.readers.keys, number < ledger.nextReader

namespace Balanced

theorem unused : Ledger.unused.Balanced where
  conserved := .refl _
  counted := rfl
  distinct := .nil
  tagged := fun _ member => absurd member List.not_mem_nil
  separate := .nil
  numbered := fun _ member => absurd member List.not_mem_nil

theorem publish (balanced : ledger.Balanced) (body : String) : (ledger.publish body).Balanced where
  conserved := by
    let message : Message := ⟨ledger.nextTag, body⟩
    let rest := ledger.queue.inFlight ++ ledger.settled.map (·.message)
    have conserved : (ledger.queue.ready ++ rest).Perm ledger.published := by
      simpa [rest] using balanced.conserved
    show (ledger.queue.ready ++ [message] ++ ledger.queue.inFlight ++ _).Perm _
    calc ledger.queue.ready ++ [message] ++ ledger.queue.inFlight ++ ledger.settled.map (·.message)
      _ = ledger.queue.ready ++ message :: rest := by simp [rest]
      _ |>.Perm (message :: (ledger.queue.ready ++ rest)) := List.perm_middle
      _ |>.Perm (message :: ledger.published) := conserved.cons message
      _ |>.Perm (ledger.published ++ [message]) := (List.perm_append_singleton _ _).symm
  counted := balanced.counted
  distinct := by
    rw [Ledger.publish, List.map_append]
    exact Message.nodup_append_tag balanced.distinct (List.forall_mem_map.2 balanced.tagged)
  tagged := by
    intro message member
    rcases List.mem_append.1 member with old | new
    · exact Nat.lt_succ_of_lt (balanced.tagged message old)
    · rw [List.mem_singleton.1 new]
      exact Nat.lt_succ_self _
  separate := balanced.separate
  numbered := balanced.numbered

/-- The number of a new reader is not in use, so opening it disturbs no other. -/
theorem openReader (balanced : ledger.Balanced) : ledger.openReader.Balanced where
  conserved := by
    have unused : ledger.queue.readers.get? ledger.nextReader = none := by
      rw [Table.get?_eq_none_iff]
      exact fun member => Nat.lt_irrefl _ (balanced.numbered _ member)
    simpa [Ledger.openReader, Queue.inFlight, Table.values,
      Table.bindings_set_of_get?_eq_none unused] using balanced.conserved
  counted := balanced.counted
  distinct := balanced.distinct
  tagged := balanced.tagged
  separate := Table.nodup_keys_set balanced.separate _ _
  numbered := by
    intro number member
    rcases Table.mem_keys_set.1 member with old | rfl
    · exact Nat.lt_succ_of_lt (balanced.numbered number old)
    · exact Nat.lt_succ_self _

/-- A change at one reader that neither loses nor adds a message keeps the ledger balanced. -/
theorem of_set (balanced : ledger.Balanced)
    (found : ledger.queue.readers.get? reader.number = some state) {state' : OpenReader}
    (readers : later.queue.readers = ledger.queue.readers.set reader.number state')
    (published : later.published = ledger.published) (tags : later.nextTag = ledger.nextTag)
    (numbers : later.nextReader = ledger.nextReader)
    (counted : later.queue.ackedCount = later.settled.length)
    (moved : ∀ others, (later.queue.ready ++ (state'.inFlight ++ others) ++
        later.settled.map (·.message)).Perm
      (ledger.queue.ready ++ (state.inFlight ++ others) ++ ledger.settled.map (·.message))) :
    later.Balanced where
  conserved := by
    obtain ⟨others, before, after, _⟩ := ledger.queue.exists_others balanced.separate found
    have replaced : later.queue.inFlight.Perm (state'.inFlight ++ others) := by
      simpa [Queue.inFlight, readers] using after state'
    have regrouped := (replaced.append_left later.queue.ready).append_right
      (later.settled.map (·.message))
    have original := (before.symm.append_left ledger.queue.ready).append_right
      (ledger.settled.map (·.message))
    rw [published]
    exact regrouped.trans ((moved others).trans (original.trans balanced.conserved))
  counted := counted
  distinct := published ▸ balanced.distinct
  tagged := by
    rw [published, tags]
    exact balanced.tagged
  separate := readers ▸ Table.nodup_keys_set balanced.separate _ _
  numbered := by
    rw [readers, Table.keys_set_of_get? found, numbers]
    exact balanced.numbered

theorem deliver (balanced : ledger.Balanced)
    (found : ledger.queue.readers.get? reader.number = some state) {ready : List Message}
    (head : ledger.queue.ready = message :: ready) :
    (ledger.deliver reader state message ready).Balanced := by
  refine balanced.of_set found rfl rfl rfl rfl balanced.counted fun others => ?_
  let rest := others ++ ledger.settled.map (·.message)
  have inserted := message.insertByTag_perm state.inFlight
  have moved : (ready ++ (message.insertByTag state.inFlight ++ rest)).Perm
      (message :: (ready ++ (state.inFlight ++ rest))) :=
    ((inserted.append_right rest).append_left ready).trans List.perm_middle
  simpa [Ledger.deliver, head, rest] using moved

/-- No message is there twice, in whatever state. -/
theorem nodup (balanced : ledger.Balanced) :
    (ledger.queue.ready ++ ledger.queue.inFlight ++ ledger.settled.map (·.message)).Nodup :=
  balanced.conserved.nodup_iff.2 (.of_map _ balanced.distinct)

/-- What a reader holds has different tags. -/
theorem distinct_inFlight (balanced : ledger.Balanced)
    (found : ledger.queue.readers.get? reader.number = some state) :
    (state.inFlight.map (·.tag)).Nodup := by
  obtain ⟨others, before, _⟩ := ledger.queue.exists_others balanced.separate found
  have all : (ledger.queue.inFlight.map (·.tag)).Nodup := by
    have tags := (balanced.conserved.map (·.tag)).nodup_iff.2 balanced.distinct
    simp only [List.map_append, List.append_assoc] at tags
    exact (List.nodup_append.1 (List.nodup_append.1 tags).2.1).1
  have held := (before.map (·.tag)).nodup_iff.1 all
  rw [List.map_append] at held
  exact (List.nodup_append.1 held).1

theorem settle (balanced : ledger.Balanced)
    (found : ledger.queue.readers.get? reader.number = some state)
    (held : message ∈ state.inFlight) : (ledger.settle reader state message).Balanced := by
  refine balanced.of_set found rfl rfl rfl rfl ?_ fun others => ?_
  · simp [Ledger.settle, balanced.counted]
  · let kept := state.inFlight.filter fun other => other.tag ≠ message.tag
    let settled := ledger.settled.map (·.message)
    have removed : state.inFlight.Perm (message :: kept) :=
      Message.perm_cons_filter_tag_ne (balanced.distinct_inFlight found) held
    have same : (ledger.settle reader state message).settled.map (·.message) =
        settled ++ [message] := by
      simp [Ledger.settle, settled]
    rw [same]
    calc ledger.queue.ready ++ (kept ++ others) ++ (settled ++ [message])
      _ |>.Perm (message :: (ledger.queue.ready ++ (kept ++ others) ++ settled)) := by
        simpa using List.perm_append_singleton message
          (ledger.queue.ready ++ (kept ++ others) ++ settled)
      _ |>.Perm (ledger.queue.ready ++ (message :: kept ++ others) ++ settled) := by
        have middle : (ledger.queue.ready ++ message :: (kept ++ others ++ settled)).Perm _ :=
          List.perm_middle
        simpa using middle.symm
      _ |>.Perm (ledger.queue.ready ++ (state.inFlight ++ others) ++ settled) :=
        ((removed.symm.append_right others).append_left ledger.queue.ready).append_right settled

theorem closeReader (balanced : ledger.Balanced)
    (found : ledger.queue.readers.get? reader.number = some state) :
    (ledger.closeReader reader state).Balanced where
  conserved := by
    obtain ⟨others, before, _, after⟩ := ledger.queue.exists_others balanced.separate found
    let ready := ledger.queue.ready
    let settled := ledger.settled.map (·.message)
    have returned : (ledger.closeReader reader state).queue.inFlight.Perm others := by
      simpa [Ledger.closeReader, Queue.inFlight] using after
    calc state.inFlight ++ ready ++ (ledger.closeReader reader state).queue.inFlight ++ settled
      _ |>.Perm (state.inFlight ++ ready ++ others ++ settled) :=
        (returned.append_left _).append_right _
      _ |>.Perm (ready ++ (state.inFlight ++ others) ++ settled) := by
        simpa using (List.perm_append_comm_assoc state.inFlight ready others).append_right settled
      _ |>.Perm (ready ++ ledger.queue.inFlight ++ settled) :=
        (before.symm.append_left _).append_right _
      _ |>.Perm ledger.published := balanced.conserved
  counted := balanced.counted
  distinct := balanced.distinct
  tagged := balanced.tagged
  separate := Table.nodup_keys_erase balanced.separate _
  numbered := by
    intro number member
    simp only [Ledger.closeReader, Table.keys_erase] at member
    exact balanced.numbered number (List.mem_of_mem_filter member)

theorem breakReaders (balanced : ledger.Balanced) : ledger.breakReaders.Balanced where
  conserved := by
    simpa [Ledger.breakReaders, Queue.breakReaders, Queue.inFlight, Table.values, Table.mapValues,
      List.flatMap_map] using balanced.conserved
  counted := balanced.counted
  distinct := balanced.distinct
  tagged := balanced.tagged
  separate := by simpa [Ledger.breakReaders, Queue.breakReaders] using balanced.separate
  numbered := by simpa [Ledger.breakReaders, Queue.breakReaders] using balanced.numbered

/-- **Every change keeps a ledger balanced.** -/
theorem of_change (balanced : ledger.Balanced) (change : ledger.Change name later) :
    later.Balanced := by
  cases change with
  | elsewhere moreTags moreReaders =>
    exact { balanced with
      tagged := fun message member => Nat.lt_of_lt_of_le (balanced.tagged message member) moreTags
      numbered := fun number member =>
        Nat.lt_of_lt_of_le (balanced.numbered number member) moreReaders }
  | publish body => exact balanced.publish body
  | openReader => exact balanced.openReader
  | deliver here found whole head => exact balanced.deliver found head
  | settle here found held => exact balanced.settle found held
  | closeReader here found => exact balanced.closeReader found
  | breakReaders => exact balanced.breakReaders

end Balanced

end Ledger

/-! ## Places -/

/-- Where a message can be. -/
inductive Place where
  /-- It waits in a queue. -/
  | ready (queue : String)
  /-- An open reader holds it. -/
  | inFlight (reader : ReaderRef)
  /-- An acknowledgment on a queue has settled it. -/
  | settled (queue : String)
deriving DecidableEq, Repr

/-- The queue that a place belongs to. -/
def Place.queue : Place → String
  | ready queue => queue
  | inFlight reader => reader.queue
  | settled queue => queue

theorem Queue.mem_inFlight_of_get? {queue : Queue} {number : Nat} {state : OpenReader}
    (found : queue.readers.get? number = some state) {message : Message}
    (held : message ∈ state.inFlight) : message ∈ queue.inFlight := by
  obtain ⟨before, after, split, _⟩ := Table.exists_split_of_get? found
  simp [Queue.inFlight, Table.values, split, held]

/-- What is in flight is held by an open reader. -/
theorem Queue.exists_reader_of_mem_inFlight {queue : Queue} (distinct : queue.readers.keys.Nodup)
    {message : Message} (held : message ∈ queue.inFlight) : ∃ number state,
    queue.readers.get? number = some state ∧ message ∈ state.inFlight := by
  simp only [Queue.inFlight, Table.values, List.flatMap_map, List.mem_flatMap] at held
  obtain ⟨⟨number, state⟩, binding, held⟩ := held
  exact ⟨number, state, (Table.get?_eq_some_iff distinct).2 binding, held⟩

namespace Journal

variable {α : Type}

/-- The messages in a place. -/
def messagesAt (journal : Journal α) : Place → List Message
  | .ready name => (journal.broker.queue name).ready
  | .inFlight reader => ((journal.broker.openReader? reader).map (·.inFlight)).getD []
  | .settled name => (journal.ledger name).settled.map (·.message)

theorem mem_messagesAt_inFlight {journal : Journal α} {reader : ReaderRef} {message : Message} :
    message ∈ journal.messagesAt (.inFlight reader) ↔
      ∃ state, journal.broker.openReader? reader = some state ∧ message ∈ state.inFlight := by
  cases found : journal.broker.openReader? reader <;> simp [messagesAt, found]

/-- The ledgers of all queues are balanced, and no two messages share a tag. -/
structure Consistent (journal : Journal α) : Prop where
  balanced : ∀ name, (journal.ledger name).Balanced
  distinct : (journal.published.map (·.message.tag)).Nodup
  tagged : ∀ posting ∈ journal.published, posting.message.tag < journal.broker.nextTag

namespace Consistent

variable {journal : Journal α} {place other : Place} {message : Message}

/-- The messages in a place were published to its queue, each as often as it is there. -/
theorem messagesAt_subperm (consistent : journal.Consistent) (place : Place) :
    (journal.messagesAt place).Subperm (journal.ledger place.queue).published := by
  have conserved := (consistent.balanced place.queue).conserved
  refine List.Subperm.trans ?_ conserved.subperm
  cases place with
  | ready name =>
    exact ((List.sublist_append_left _ _).trans (List.sublist_append_left _ _)).subperm
  | inFlight reader =>
    refine List.Subperm.trans ?_
      ((List.sublist_append_right _ _).trans (List.sublist_append_left _ _)).subperm
    cases found : journal.broker.openReader? reader with
    | none => simp [messagesAt, found]
    | some state =>
      obtain ⟨others, before, _⟩ := Queue.exists_others (journal.ledger reader.queue).queue
        (consistent.balanced _).separate found
      simp only [messagesAt, found, Option.map_some, Option.getD_some]
      exact (List.sublist_append_left _ others).subperm.trans before.symm.subperm
  | settled name => exact (List.sublist_append_right _ _).subperm

theorem distinct_messagesAt (consistent : journal.Consistent) (place : Place) :
    ((journal.messagesAt place).map (·.tag)).Nodup := by
  obtain ⟨messages, same, part⟩ := consistent.messagesAt_subperm place
  refine (same.map (·.tag)).nodup_iff.1 ?_
  exact (consistent.balanced place.queue).distinct.sublist (part.map (·.tag))

theorem posting_mem (consistent : journal.Consistent)
    (member : message ∈ journal.messagesAt place) :
    ⟨place.queue, message⟩ ∈ journal.published := by
  have published := (consistent.messagesAt_subperm place).subset member
  obtain ⟨posting, kept, rfl⟩ := List.mem_map.1 published
  obtain ⟨member, here⟩ := List.mem_filter.1 kept
  rw [← of_decide_eq_true here]
  exact member

theorem posting_eq (consistent : journal.Consistent) {first second : Posting}
    (here : first ∈ journal.published) (there : second ∈ journal.published)
    (same : first.message.tag = second.message.tag) : first = second :=
  List.inj_on_of_nodup_map consistent.distinct here there same

/-- A message that is published is somewhere. -/
theorem exists_place (consistent : journal.Consistent) {posting : Posting}
    (member : posting ∈ journal.published) :
    ∃ place : Place, place.queue = posting.queue ∧
      posting.message ∈ journal.messagesAt place := by
  have balanced := consistent.balanced posting.queue
  have published : posting.message ∈ (journal.ledger posting.queue).published :=
    List.mem_map.2 ⟨posting, List.mem_filter.2 ⟨member, decide_eq_true rfl⟩, rfl⟩
  rcases List.mem_append.1 (balanced.conserved.mem_iff.2 published) with unsettled | settled
  · rcases List.mem_append.1 unsettled with ready | held
    · exact ⟨.ready posting.queue, rfl, ready⟩
    · obtain ⟨number, state, reads, held⟩ :=
        Queue.exists_reader_of_mem_inFlight balanced.separate held
      have found : journal.broker.openReader? ⟨posting.queue, number⟩ = some state := reads
      exact ⟨.inFlight ⟨posting.queue, number⟩, rfl, by simpa [messagesAt, found] using held⟩
  · exact ⟨.settled posting.queue, rfl, settled⟩

/-- Two readers of a queue hold no message in common. -/
theorem reader_unique (consistent : journal.Consistent) {name : String} {first second : Nat}
    (here : message ∈ journal.messagesAt (.inFlight ⟨name, first⟩))
    (there : message ∈ journal.messagesAt (.inFlight ⟨name, second⟩)) : first = second := by
  by_contra different
  have balanced := consistent.balanced name
  obtain ⟨state, found, held⟩ := mem_messagesAt_inFlight.1 here
  obtain ⟨state', found', held'⟩ := mem_messagesAt_inFlight.1 there
  obtain ⟨others, before, _, erased⟩ := Queue.exists_others _ balanced.separate found
  have remains := (Table.get?_erase_of_ne _ (Ne.symm different)).trans found'
  have among : message ∈ others := erased.mem_iff.1 (Queue.mem_inFlight_of_get? remains held')
  have once : (state.inFlight ++ others).Nodup :=
    before.nodup_iff.1 (List.nodup_append.1 (List.nodup_append.1 balanced.nodup).1).2.1
  exact (List.nodup_append.1 once).2.2 message held message among rfl

/-- A message is in one place only. -/
theorem place_unique (consistent : journal.Consistent) (here : message ∈ journal.messagesAt place)
    (there : message ∈ journal.messagesAt other) : place = other := by
  have sameQueue : place.queue = other.queue :=
    congrArg Posting.queue (consistent.posting_eq (consistent.posting_mem here)
      (consistent.posting_mem there) rfl)
  have balanced := consistent.balanced place.queue
  obtain ⟨unsettled, _, unsettledApart⟩ := List.nodup_append.1 balanced.nodup
  obtain ⟨_, _, readyApart⟩ := List.nodup_append.1 unsettled
  have inFlight : ∀ {reader}, message ∈ journal.messagesAt (.inFlight reader) →
      message ∈ (journal.broker.queue reader.queue).inFlight := by
    intro reader member
    obtain ⟨state, found, held⟩ := mem_messagesAt_inFlight.1 member
    exact Queue.mem_inFlight_of_get? found held
  cases place with
  | ready name =>
    cases other with
    | ready name' => exact congrArg Place.ready sameQueue
    | inFlight reader =>
      obtain rfl : name = reader.queue := sameQueue
      exact absurd rfl (readyApart message here message (inFlight there))
    | settled name' =>
      obtain rfl : name = name' := sameQueue
      have unsettled := List.mem_append_left (journal.broker.queue name).inFlight here
      exact absurd rfl (unsettledApart message unsettled message there)
  | inFlight reader =>
    cases other with
    | ready name =>
      obtain rfl : reader.queue = name := sameQueue
      exact absurd rfl (readyApart message there message (inFlight here))
    | inFlight reader' =>
      obtain ⟨name, first⟩ := reader
      obtain ⟨name', second⟩ := reader'
      obtain rfl : name = name' := sameQueue
      rw [consistent.reader_unique here there]
    | settled name =>
      obtain rfl : reader.queue = name := sameQueue
      have unsettled :=
        List.mem_append_right (journal.broker.queue reader.queue).ready (inFlight here)
      exact absurd rfl (unsettledApart message unsettled message there)
  | settled name =>
    cases other with
    | ready name' =>
      obtain rfl : name = name' := sameQueue
      have unsettled := List.mem_append_left (journal.broker.queue name).inFlight there
      exact absurd rfl (unsettledApart message unsettled message here)
    | inFlight reader =>
      obtain rfl : name = reader.queue := sameQueue
      have unsettled :=
        List.mem_append_right (journal.broker.queue reader.queue).ready (inFlight there)
      exact absurd rfl (unsettledApart message unsettled message here)
    | settled name' => exact congrArg Place.settled sameQueue

end Consistent

/-- Nothing but publishing adds to what was published. -/
theorem published_act [DecidableEq α] (journal : Journal α) (action : Action α) :
    (journal.act action).published = journal.published ∨
    ∃ queue body, action = .publish queue body := by
  cases action with
  | publish queue body => exact .inr ⟨queue, body, rfl⟩
  | openReader queue =>
    refine .inl ?_
    simp only [act]
    split <;> rfl
  | takeTurn read =>
    refine .inl ?_
    simp only [act]
    split <;> rfl
  | acknowledge delivery =>
    refine .inl ?_
    simp only [act]
    split <;> rfl
  | _ => exact .inl rfl

theorem nextTag_le_act [DecidableEq α] (journal : Journal α) (action : Action α) :
    journal.broker.nextTag ≤ (journal.act action).broker.nextTag :=
  (journal.ledger_change action "").nextTag_le

theorem Consistent.act [DecidableEq α] {journal : Journal α} (consistent : journal.Consistent)
    (action : Action α) : (journal.act action).Consistent where
  balanced := fun name => (consistent.balanced name).of_change (journal.ledger_change action name)
  distinct := by
    rcases journal.published_act action with same | ⟨queue, body, rfl⟩
    · rw [same]
      exact consistent.distinct
    · rw [Journal.act, List.map_append]
      exact Message.nodup_append_tag consistent.distinct (List.forall_mem_map.2 consistent.tagged)
  tagged := by
    rcases journal.published_act action with same | ⟨queue, body, rfl⟩
    · intro posting member
      rw [same] at member
      exact Nat.lt_of_lt_of_le (consistent.tagged posting member) (journal.nextTag_le_act action)
    · intro posting member
      rcases List.mem_append.1 member with old | new
      · exact Nat.lt_succ_of_lt (consistent.tagged posting old)
      · rw [List.mem_singleton.1 new]
        exact Nat.lt_succ_self _

/-- The journal of every history is consistent. -/
theorem consistent_run [DecidableEq α] (actions : List (Action α)) : (run actions).Consistent :=
  run_induction ⟨fun _ => .unused, .nil, fun _ member => absurd member List.not_mem_nil⟩
    (fun _ action consistent => consistent.act action) actions

/-- **Every published message is in exactly one place, and stays what it is.** After every history
there is, for every message published to a queue, one place of that queue where it is, once and
with its body unchanged, and it is in no other place. Nothing else is anywhere. So the messages
published to a queue are as many as wait in it, are in flight from it, and were acknowledged on it,
and as many were acknowledged as were settled. -/
theorem published_in_one_place [DecidableEq α] (actions : List (Action α)) :
    let journal := run actions
    (∀ posting ∈ journal.published, ∃ place : Place, place.queue = posting.queue ∧
      ∀ other, (journal.messagesAt other).filter
          (fun message => message.tag = posting.message.tag) =
        if other = place then [posting.message] else []) ∧
    (∀ place : Place, ∀ message ∈ journal.messagesAt place,
      ⟨place.queue, message⟩ ∈ journal.published) ∧
    ∀ name,
      (journal.published.filter fun posting => posting.queue = name).length =
        (journal.broker.queue name).ready.length + (journal.broker.queue name).inFlight.length +
          (journal.broker.queue name).ackedCount ∧
      (journal.broker.queue name).ackedCount = (journal.messagesAt (.settled name)).length := by
  intro journal
  have consistent : journal.Consistent := consistent_run actions
  refine ⟨fun posting member => ?_, fun place message member => consistent.posting_mem member,
    fun name => ⟨?_, ?_⟩⟩
  · obtain ⟨place, sameQueue, here⟩ := consistent.exists_place member
    refine ⟨place, sameQueue, fun other => ?_⟩
    by_cases same : other = place
    · rw [if_pos same, same]
      exact Message.filter_tag_eq (consistent.distinct_messagesAt place) here
    · rw [if_neg same, List.filter_eq_nil_iff]
      intro message there sameTag
      have equal := consistent.posting_eq (consistent.posting_mem there) member
        (of_decide_eq_true sameTag)
      have again : posting.message ∈ journal.messagesAt other := equal ▸ there
      exact same (consistent.place_unique again here)
  · have lengths := (consistent.balanced name).conserved.length_eq
    rw [List.length_append, List.length_append, List.length_map,
      ← (consistent.balanced name).counted] at lengths
    exact (List.length_map _).symm.trans lengths.symm
  · exact (consistent.balanced name).counted.trans (List.length_map _).symm

/-- A history in which the second of two messages is delivered twice: the reader that holds both is
closed after the first is acknowledged, and the second is acknowledged too late, while another
reader holds it. -/
def redelivery : List (Action Unit) :=
  let first : ReaderRef := ⟨"workers", 0⟩
  let second : ReaderRef := ⟨"workers", 1⟩
  [.publish "workers" "a", .publish "workers" "b", .openReader "workers",
    .beginRead ⟨(), first⟩, .takeTurn ⟨(), first⟩, .beginRead ⟨(), first⟩, .takeTurn ⟨(), first⟩,
    .acknowledge ⟨first, ⟨0, "a"⟩⟩, .closeReader first, .openReader "workers",
    .beginRead ⟨(), second⟩, .takeTurn ⟨(), second⟩, .acknowledge ⟨first, ⟨1, "b"⟩⟩]

theorem redelivered_in_one_place :
    ⟨"workers", ⟨1, "b"⟩⟩ ∈ (run redelivery).published ∧
      (run redelivery).messagesAt (.inFlight ⟨"workers", 1⟩) = [⟨1, "b"⟩] ∧
      ∃ place : Place, place.queue = "workers" ∧ ∀ other,
        ((run redelivery).messagesAt other).filter (fun message => message.tag = 1) =
          if other = place then [⟨1, "b"⟩] else [] := by
  have published : ⟨"workers", ⟨1, "b"⟩⟩ ∈ (run redelivery).published := by decide
  exact ⟨published, by decide, (published_in_one_place redelivery).1 _ published⟩

end Journal

end Turnstile
