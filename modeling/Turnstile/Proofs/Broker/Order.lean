import Turnstile.Proofs.Broker.Conservation

/-!
# Messages that stay in order

A queue is **in order** if what was settled, then what is in flight, then what is ready, is what was
published, in that order, and no two messages are in flight (`Ledger.InOrder`). Whatever happens to
a queue in order leaves it so, a delivery while another message is in flight apart: publishing adds
at the end of both, a delivery and an acknowledgment move the boundaries, and a reader that is
closed gives its message back to the head of the queue, where it came from.

What a queue remembers of its acknowledgments are always the last ones (`Ledger.Remembers`).
-/

set_option autoImplicit false

namespace Turnstile.Ledger

variable {name : String} {ledger later : Ledger} {reader : ReaderRef} {state : OpenReader}
  {message : Message}

/-! ## What is in flight -/

theorem inFlight_openReader (balanced : ledger.Balanced) :
    ledger.openReader.queue.inFlight = ledger.queue.inFlight := by
  have unused : ledger.queue.readers.get? ledger.nextReader = none := by
    rw [Table.get?_eq_none_iff]
    exact fun member => Nat.lt_irrefl _ (balanced.numbered _ member)
  simp [openReader, Queue.inFlight, Table.values, Table.bindings_set_of_get?_eq_none unused]

theorem inFlight_breakReaders (ledger : Ledger) :
    ledger.breakReaders.queue.inFlight = ledger.queue.inFlight := by
  simp [breakReaders, Queue.breakReaders, Queue.inFlight, Table.values, Table.mapValues,
    List.flatMap_map]

/-- What is delivered when nothing is in flight is alone in flight. -/
theorem inFlight_deliver (balanced : ledger.Balanced)
    (found : ledger.queue.readers.get? reader.number = some state)
    (alone : ledger.queue.inFlight = []) (ready : List Message) :
    (ledger.deliver reader state message ready).queue.inFlight = [message] := by
  obtain ⟨others, before, after, _⟩ := ledger.queue.exists_others balanced.separate found
  rw [alone] at before
  obtain ⟨held, rest⟩ := List.append_eq_nil_iff.1 before.nil_eq.symm
  have single : (ledger.deliver reader state message ready).queue.inFlight.Perm [message] := by
    simpa [deliver, Queue.inFlight, held, rest, Message.insertByTag] using
      after { state with inFlight := message.insertByTag state.inFlight }
  exact List.perm_singleton.1 single

/-- If at most one message is in flight and some reader holds it, then the others hold nothing. -/
theorem inFlight_of_held (balanced : ledger.Balanced)
    (found : ledger.queue.readers.get? reader.number = some state)
    (held : state.inFlight = [message]) (atMost : ledger.queue.inFlight.length ≤ 1) :
    ledger.queue.inFlight = [message] ∧
      (∀ state' : OpenReader, state'.inFlight = [] →
        Queue.inFlight { ledger.queue with
          readers := ledger.queue.readers.set reader.number state' } = []) ∧
      Queue.inFlight { ledger.queue with
        readers := ledger.queue.readers.erase reader.number } = [] := by
  obtain ⟨others, before, replaced, erased⟩ :=
    ledger.queue.exists_others balanced.separate found
  have rest : others = [] := by
    have total := before.length_eq
    rw [List.length_append, held, List.length_singleton] at total
    exact List.eq_nil_of_length_eq_zero (by omega)
  subst rest
  refine ⟨?_, fun state' nothing => ?_, erased.eq_nil⟩
  · rw [held] at before
    exact List.perm_singleton.1 before
  · have emptied := replaced state'
    rw [nothing] at emptied
    exact emptied.eq_nil

/-- Where a reader holds nothing it makes no difference to what is in flight, as long as that is one
message at most. -/
theorem inFlight_erase_of_nil (balanced : ledger.Balanced)
    (found : ledger.queue.readers.get? reader.number = some state) (held : state.inFlight = [])
    (atMost : ledger.queue.inFlight.length ≤ 1) :
    Queue.inFlight { ledger.queue with
      readers := ledger.queue.readers.erase reader.number } = ledger.queue.inFlight := by
  obtain ⟨others, before, _, erased⟩ := ledger.queue.exists_others balanced.separate found
  rw [held] at before
  have same := erased.trans before.symm
  match flight : ledger.queue.inFlight, atMost with
  | [], _ => exact (flight ▸ same).eq_nil
  | [message], _ => exact List.perm_singleton.1 (flight ▸ same)

/-! ## Queues in order -/

/-- What was settled, is in flight and is ready follow each other as they were published, and at
most one message is in flight. -/
structure InOrder (ledger : Ledger) : Prop where
  sequence : ledger.settled.map (·.message) ++ ledger.queue.inFlight ++ ledger.queue.ready =
    ledger.published
  single : ledger.queue.inFlight.length ≤ 1

namespace InOrder

theorem unused : Ledger.unused.InOrder := ⟨rfl, Nat.zero_le 1⟩

theorem publish (ordered : ledger.InOrder) (body : String) : (ledger.publish body).InOrder where
  sequence := by
    have sequence := ordered.sequence
    show _ ++ ledger.queue.inFlight ++ (ledger.queue.ready ++ [_]) = ledger.published ++ [_]
    rw [← List.append_assoc, ← sequence]
    rfl
  single := ordered.single

theorem deliver (balanced : ledger.Balanced) (ordered : ledger.InOrder)
    (found : ledger.queue.readers.get? reader.number = some state) {ready : List Message}
    (head : ledger.queue.ready = message :: ready) (alone : ledger.queue.inFlight = []) :
    (ledger.deliver reader state message ready).InOrder where
  sequence := by
    have sequence := ordered.sequence
    rw [alone, head] at sequence
    rw [inFlight_deliver balanced found alone]
    simpa [Ledger.deliver] using sequence
  single := by
    rw [inFlight_deliver balanced found alone]
    exact Nat.le_refl 1

/-- A reader holds nothing, or the one message in flight. -/
theorem held_cases (balanced : ledger.Balanced) (ordered : ledger.InOrder)
    (found : ledger.queue.readers.get? reader.number = some state) :
    state.inFlight = [] ∨ ∃ message, state.inFlight = [message] := by
  obtain ⟨others, before, _⟩ := ledger.queue.exists_others balanced.separate found
  have total := before.length_eq
  have atMost := ordered.single
  rw [List.length_append] at total
  match flight : state.inFlight with
  | [] => exact .inl rfl
  | [message] => exact .inr ⟨message, rfl⟩
  | _ :: _ :: _ =>
    rw [flight, List.length_cons, List.length_cons] at total
    omega

theorem settle (balanced : ledger.Balanced) (ordered : ledger.InOrder)
    (found : ledger.queue.readers.get? reader.number = some state)
    (held : message ∈ state.inFlight) : (ledger.settle reader state message).InOrder := by
  have only : state.inFlight = [message] := by
    rcases ordered.held_cases balanced found with nothing | ⟨other, only⟩
    · rw [nothing] at held
      cases held
    · rw [only, List.mem_singleton] at held
      rw [only, held]
  obtain ⟨before, after, _⟩ := inFlight_of_held balanced found only ordered.single
  have emptied : (ledger.settle reader state message).queue.inFlight = [] :=
    after _ (by simp [only])
  have sequence := ordered.sequence
  rw [before] at sequence
  refine ⟨?_, by simp [emptied]⟩
  rw [emptied]
  simpa [Ledger.settle] using sequence

theorem closeReader (balanced : ledger.Balanced) (ordered : ledger.InOrder)
    (found : ledger.queue.readers.get? reader.number = some state) :
    (ledger.closeReader reader state).InOrder := by
  have sequence := ordered.sequence
  rcases ordered.held_cases balanced found with nothing | ⟨message, only⟩
  · have same : (ledger.closeReader reader state).queue.inFlight = ledger.queue.inFlight :=
      inFlight_erase_of_nil balanced found nothing ordered.single
    refine ⟨?_, same ▸ ordered.single⟩
    rw [same]
    simpa [Ledger.closeReader, nothing] using sequence
  · obtain ⟨before, _, after⟩ := inFlight_of_held balanced found only ordered.single
    have emptied : (ledger.closeReader reader state).queue.inFlight = [] := after
    rw [before] at sequence
    refine ⟨?_, by simp [emptied]⟩
    rw [emptied]
    simpa [Ledger.closeReader, only] using sequence

/-- **Every change keeps a queue in order**, if what is delivered is alone in flight. -/
theorem of_change (balanced : ledger.Balanced) (ordered : ledger.InOrder)
    (change : ledger.Change name later)
    (alone : later.delivered = ledger.delivered ∨ ledger.queue.inFlight = []) :
    later.InOrder := by
  cases change with
  | elsewhere moreTags moreReaders => exact ⟨ordered.sequence, ordered.single⟩
  | publish body => exact ordered.publish body
  | openReader =>
    have same := inFlight_openReader balanced
    exact ⟨same ▸ ordered.sequence, same ▸ ordered.single⟩
  | deliver here found whole head =>
    rcases alone with undelivered | alone
    · simp [Ledger.deliver] at undelivered
    · exact ordered.deliver balanced found head alone
  | settle here found held => exact ordered.settle balanced found held
  | closeReader here found => exact ordered.closeReader balanced found
  | breakReaders =>
    have same := inFlight_breakReaders ledger
    exact ⟨same ▸ ordered.sequence, same ▸ ordered.single⟩

end InOrder

/-! ## The acknowledgments that are remembered -/

/-- The last ones and one more are the last ones again. -/
theorem remember_drop (bodies : List String) (body : String) :
    Queue.remember (bodies.drop (bodies.length - Queue.ackMemory)) body =
      (bodies ++ [body]).drop (bodies.length + 1 - Queue.ackMemory) := by
  have length : (bodies.drop (bodies.length - Queue.ackMemory)).length = _ := List.length_drop
  by_cases full : Queue.ackMemory ≤ bodies.length
  · have count : bodies.length + 1 - Queue.ackMemory = bodies.length - Queue.ackMemory + 1 := by
      omega
    have within : bodies.length - Queue.ackMemory + 1 ≤ bodies.length := by
      simp only [Queue.ackMemory] at full ⊢
      omega
    rw [Queue.remember, if_pos (by omega), count, List.drop_append_of_le_length within,
      List.drop_drop]
  · have nothing : bodies.length + 1 - Queue.ackMemory = 0 := by omega
    rw [Queue.remember, if_neg (by omega), nothing]
    have all : bodies.length - Queue.ackMemory = 0 := by omega
    rw [all, List.drop_zero, List.drop_zero]

/-- The bodies remembered are those of the messages settled last. -/
def Remembers (ledger : Ledger) : Prop :=
  ledger.queue.recentAcks =
    (ledger.settled.map (·.message.body)).drop (ledger.settled.length - Queue.ackMemory)

theorem Remembers.unused : Ledger.unused.Remembers := rfl

theorem Remembers.of_change (remembers : ledger.Remembers) (change : ledger.Change name later) :
    later.Remembers := by
  cases change with
  | settle here found held =>
    have more := remember_drop (ledger.settled.map (·.message.body))
    rw [List.length_map, ← remembers] at more
    simpa [Remembers, settle] using more _
  | _ => exact remembers

end Turnstile.Ledger
