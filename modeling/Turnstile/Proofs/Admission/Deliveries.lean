import Turnstile.Proofs.Admission.Anteroom

/-!
# What becomes of an admission

An offer that is delivered hands an admission to one waiter, and to each waiter at most one is
handed. The waiter has it in hand until it looks or leaves. If it looks first, its wait completes;
if it leaves first, the admission is lost (`lost`), although the offer was reported as delivered and
others stood behind (`first_leaves_with_admission`). So where nobody has an admission in hand any
more, as many waits are complete as offers were delivered, less those that were lost
(`delivered_unless_left`).
-/

set_option autoImplicit false

namespace Turnstile.Anteroom

/-- The entry is an offer that was delivered. -/
def Entry.isDelivery : Entry → Bool
  | .offered isDelivered _ => isDelivered
  | _ => false

/-- How many offers were delivered. -/
def deliveries (record : List Entry) : Nat := record.countP Entry.isDelivery

/-- Those who were admitted and left. -/
def lost (record : List Entry) : List Nat :=
  (admitted record).filter (· ∈ left record)

theorem mem_lost {record : List Entry} {waiter : Nat} :
    waiter ∈ lost record ↔ waiter ∈ admitted record ∧ waiter ∈ left record := by
  simp [lost]

namespace IsHistory

variable {record : List Entry}

theorem nodup_admitted (history : IsHistory record) : (admitted record).Nodup := by
  apply history.nodup_flatMap
  intro before entry isRight
  refine ⟨isRight.nodup_admitted, ?_⟩
  intro waiter admits
  exact (mem_standing.1 (isRight.mem_standing_of_admitted admits)).2.2

theorem nodup_completed (history : IsHistory record) : (completed record).Nodup := by
  apply history.nodup_flatMap
  intro before entry isRight
  constructor
  · rcases entry with _ | _ | _ | _ | ⟨waiter, _ | _ | _⟩ <;> simp [Entry.completes]
  · intro waiter completes
    exact (isRight.of_completed completes).1.2.2

/-- Every offer that was delivered has admitted one. -/
theorem deliveries_eq (history : IsHistory record) :
    deliveries record = (admitted record).length := by
  induction record using List.reverseRecOn with
  | nil => rfl
  | append_singleton record entry ih =>
    obtain ⟨earlier, isRight⟩ := snoc.1 history
    rw [deliveries, List.countP_append, admitted_snoc, List.length_append, ← ih earlier]
    refine congrArg (deliveries record + ·) ?_
    cases entry with
    | offered isDelivered among =>
      obtain ⟨delivered, first⟩ := isRight
      rw [Entry.admits, first]
      cases stands : standing record with
      | nil => simp [Entry.isDelivery, delivered, stands]
      | cons _ _ => simp [Entry.isDelivery, delivered, stands]
    | _ => rfl

/-- Nobody leaves whose wait is complete. -/
theorem not_left_of_completed (history : IsHistory record) {waiter : Nat}
    (complete : waiter ∈ completed record) : waiter ∉ left record := by
  induction record using List.reverseRecOn with
  | nil => exact List.not_mem_nil
  | append_singleton record entry ih =>
    obtain ⟨earlier, isRight⟩ := snoc.1 history
    rw [completed_snoc, List.mem_append] at complete
    rw [left_snoc, List.mem_append, not_or]
    rcases complete with before | now
    · refine ⟨ih earlier before, fun leaves => ?_⟩
      exact (isRight.isThere_of_left leaves).2.2 before
    · refine ⟨(isRight.of_completed now).1.2.1, fun leaves => ?_⟩
      cases entry with
      | looked other sight => cases leaves
      | _ => cases now

/-- **Whoever was admitted has completed its wait, or has left, or still has the admission in
hand.** -/
theorem admitted_perm (history : IsHistory record) :
    (admitted record).Perm (completed record ++ (lost record ++ inHand record)) := by
  have apart : (lost record).Disjoint (inHand record) := by
    intro waiter isLost isInHand
    exact (mem_inHand.1 isInHand).2.1 (mem_lost.1 isLost).2
  have apart' : (completed record).Disjoint (lost record ++ inHand record) := by
    intro waiter complete other
    rcases List.mem_append.1 other with isLost | isInHand
    · exact history.not_left_of_completed complete (mem_lost.1 isLost).2
    · exact (mem_inHand.1 isInHand).2.2 complete
  have once : (completed record ++ (lost record ++ inHand record)).Nodup :=
    List.Nodup.append history.nodup_completed
      (List.Nodup.append (history.nodup_admitted.filter _) (history.nodup_admitted.filter _) apart)
      apart'
  apply (List.perm_ext_iff_of_nodup history.nodup_admitted once).2
  intro waiter
  have complete : waiter ∈ completed record → waiter ∈ admitted record :=
    fun member => history.completed_subset member
  rw [List.mem_append, List.mem_append, mem_lost, mem_inHand]
  tauto

/-- Whoever was admitted and left did so without having looked in between. -/
theorem exists_left_of_lost (history : IsHistory record) {waiter : Nat}
    (isLost : waiter ∈ lost record) : ∃ first second third,
      record = first ++ .offered true [waiter] :: (second ++ .left waiter :: third) ∧
        ∀ sight, .looked waiter sight ∉ second := by
  obtain ⟨isAdmitted, hasLeft⟩ := mem_lost.1 isLost
  obtain ⟨first, later, rfl, stands⟩ := history.exists_offered isAdmitted
  have notBefore : waiter ∉ left first := (mem_standing.1 stands).2.1
  have leavesLater : waiter ∈ left later := by
    rw [left, List.flatMap_append, List.mem_append] at hasLeft
    exact hasLeft.resolve_left notBefore
  obtain ⟨entry, isEntry, leaves⟩ := List.mem_flatMap.1 leavesLater
  obtain ⟨second, third, rfl⟩ := List.append_of_mem isEntry
  cases entry with
  | left other =>
    cases List.mem_singleton.1 leaves
    refine ⟨first, second, third, rfl, fun sight looked => ?_⟩
    -- A look in between would have found the admission, and then nobody leaves.
    obtain ⟨before, after, rfl⟩ := List.append_of_mem looked
    have sees : sight = .admitted := by
      have isRight := @history (first ++ .offered true [waiter] :: before) (.looked waiter sight)
        (after ++ .left waiter :: third) (by simp)
      have isAdmitted : waiter ∈ admitted (first ++ .offered true [waiter] :: before) :=
        List.mem_flatMap.2
          ⟨_, List.mem_append_right _ List.mem_cons_self, List.mem_singleton_self _⟩
      rw [isRight.2, if_pos isAdmitted]
    have isThere : IsThere _ waiter :=
      @history (first ++ .offered true [waiter] :: (before ++ .looked waiter sight :: after))
        (.left waiter) third (by simp)
    refine isThere.2.2 (List.mem_flatMap.2 ⟨.looked waiter sight, by simp, ?_⟩)
    rw [sees]
    exact List.mem_singleton_self _
  | _ => cases leaves

end IsHistory

/-- **An admission is lost only with a waiter who leaves before looking.** The offers that are
delivered admit as many different waiters, and each of these completes its wait, once, or leaves
before it has looked, or still has the admission in hand. Where nobody has one in hand any more,
the offers delivered and the waits completed match one to one just if nobody has left so. -/
theorem delivered_unless_left (actions : List Action) :
    let room := run actions
    deliveries room.record = (admitted room.record).length ∧ (admitted room.record).Nodup ∧
    (admitted room.record).Perm
      (completed room.record ++ (lost room.record ++ room.admission.handed)) ∧
    (∀ waiter ∈ lost room.record, ∃ first second third,
      room.record = first ++ .offered true [waiter] :: (second ++ .left waiter :: third) ∧
        ∀ sight, .looked waiter sight ∉ second) ∧
    (room.admission.handed = [] →
      ((admitted room.record).Perm (completed room.record) ↔ lost room.record = [])) := by
  intro room
  obtain ⟨history, reflects⟩ := isSound_run actions
  have parts := history.admitted_perm
  rw [← reflects.handed] at parts
  refine ⟨history.deliveries_eq, history.nodup_admitted, parts, ?_, ?_⟩
  · intro waiter isLost
    exact history.exists_left_of_lost isLost
  intro nobody
  rw [nobody, List.append_nil] at parts
  constructor
  · intro matched
    have lengths : (completed room.record).length =
        (completed room.record).length + (lost room.record).length := by
      rw [← List.length_append]
      exact (matched.symm.trans parts).length_eq
    exact List.eq_nil_of_length_eq_zero (by omega)
  · intro nobodyLost
    rw [nobodyLost, List.append_nil] at parts
    exact parts

/-- Two offers are delivered, one after the other, and both waits complete. -/
theorem delivered_unless_left_both :
    let room := run [.enter, .enter, .offer, .look 0, .offer, .look 1]
    room.admission.handed = [] ∧ deliveries room.record = 2 ∧
      (admitted room.record).Perm (completed room.record) := by
  have nobody : (run [.enter, .enter, .offer, .look 0, .offer, .look 1]).admission.handed = [] := by
    decide
  refine ⟨nobody, by decide, ?_⟩
  exact ((delivered_unless_left _).2.2.2.2 nobody).2 (by decide)

/-- The first of two leaves with an admission in hand. The offer was delivered, but no wait
completes: the second finds that it is still queued. -/
theorem first_leaves_with_admission :
    let room := run [.enter, .enter, .offer, .leave 0, .look 1]
    room.admission.handed = [] ∧ deliveries room.record = 1 ∧ completed room.record = [] ∧
      0 ∈ left room.record ∧ 0 ∈ admitted room.record ∧ .looked 1 .queued ∈ room.record := by
  decide

end Turnstile.Anteroom
