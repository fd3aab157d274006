import Mathlib.Data.List.Induction
import Mathlib.Data.List.Nodup
import Turnstile.Proofs.Admission.Line

/-!
# The anteroom

An **anteroom** is a line for admission with a record of what has happened there: waiters come and
go, offers are made, somebody asks how many wait, and waiters look whether they have been admitted.
Every wait has a number of its own, given in the order of arrival. Only those who are there can go
or look: they have come, have not left, and have not found themselves admitted.

What a line ought to do can be said of the record alone (`Entry.IsRight`): an offer admits the one
who has stood there longest, if there is one; asking counts those who stand there; a look finds an
admission if there was one, and a place in the line otherwise. The line, with its dead places that
are cleared away now and then, does just that (`offers_admit_in_order`), because its live places are
those who stand there by the record, in their order (`Reflects`).
-/

set_option autoImplicit false

namespace Turnstile

namespace Anteroom

open Admission (Sight)

/-! ## Records -/

/-- What happens in an anteroom, with what comes of it. An offer is delivered or not, and admits
some. -/
inductive Entry where
  | entered (waiter : Nat)
  | left (waiter : Nat)
  | offered (isDelivered : Bool) (admitted : List Nat)
  | asked (count : Nat)
  | looked (waiter : Nat) (sight : Sight)
deriving DecidableEq

namespace Entry

/-- Who comes. -/
def comes : Entry → List Nat
  | .entered waiter => [waiter]
  | _ => []

/-- Who goes. -/
def goes : Entry → List Nat
  | .left waiter => [waiter]
  | _ => []

/-- Who is admitted. -/
def admits : Entry → List Nat
  | .offered _ admitted => admitted
  | _ => []

/-- Whose wait completes: who finds himself admitted. -/
def completes : Entry → List Nat
  | .looked waiter .admitted => [waiter]
  | _ => []

end Entry

/-- All who have come, in the order in which they came. -/
def entered (record : List Entry) : List Nat := record.flatMap Entry.comes

/-- All who have left. -/
def left (record : List Entry) : List Nat := record.flatMap Entry.goes

/-- All who were admitted. -/
def admitted (record : List Entry) : List Nat := record.flatMap Entry.admits

/-- All whose waits are complete. -/
def completed (record : List Entry) : List Nat := record.flatMap Entry.completes

/-- Those who have come, have not left and were not admitted, in the order in which they came. -/
def standing (record : List Entry) : List Nat :=
  (entered record).filter fun waiter => waiter ∉ left record ∧ waiter ∉ admitted record

/-- Those who were admitted, have not left and have not found it out, in the order in which they
were admitted. -/
def inHand (record : List Entry) : List Nat :=
  (admitted record).filter fun waiter => waiter ∉ left record ∧ waiter ∉ completed record

/-- The waiter is there: it has come, has not left, and its wait is not complete. -/
def IsThere (record : List Entry) (waiter : Nat) : Prop :=
  waiter ∈ entered record ∧ waiter ∉ left record ∧ waiter ∉ completed record

instance (record : List Entry) (waiter : Nat) : Decidable (IsThere record waiter) :=
  inferInstanceAs (Decidable (_ ∧ _ ∧ _))

/-- What should come of it, after what has happened before. -/
def Entry.IsRight (before : List Entry) : Entry → Prop
  | .entered waiter => waiter = (Anteroom.entered before).length
  | .left waiter => IsThere before waiter
  | .offered isDelivered admitted =>
    (isDelivered = true ↔ standing before ≠ []) ∧ admitted = (standing before).head?.toList
  | .asked count => count = (standing before).length
  | .looked waiter sight => IsThere before waiter ∧
    sight = if waiter ∈ Anteroom.admitted before then .admitted else .queued

/-- Every entry is right after those before it. -/
def IsHistory (record : List Entry) : Prop :=
  ∀ ⦃before entry after⦄, record = before ++ entry :: after → Entry.IsRight before entry

@[simp] theorem entered_snoc (record : List Entry) (entry : Entry) :
    entered (record ++ [entry]) = entered record ++ entry.comes := by simp [entered]

@[simp] theorem left_snoc (record : List Entry) (entry : Entry) :
    left (record ++ [entry]) = left record ++ entry.goes := by simp [left]

@[simp] theorem admitted_snoc (record : List Entry) (entry : Entry) :
    admitted (record ++ [entry]) = admitted record ++ entry.admits := by simp [admitted]

@[simp] theorem completed_snoc (record : List Entry) (entry : Entry) :
    completed (record ++ [entry]) = completed record ++ entry.completes := by simp [completed]

/-- To stay clear of two records that both grow is to stay clear of them, then of what is added. -/
theorem filter_apart_append (waiters gone gone' done done' : List Nat) :
    (waiters.filter fun waiter => waiter ∉ gone ++ gone' ∧ waiter ∉ done ++ done') =
      (waiters.filter fun waiter => waiter ∉ gone ∧ waiter ∉ done).filter
        fun waiter => waiter ∉ gone' ∧ waiter ∉ done' := by
  rw [List.filter_filter]
  apply List.filter_congr
  intro waiter _
  simp only [List.mem_append, ← Bool.decide_and, decide_eq_decide]
  tauto

/-- Where nobody comes, those who leave or are admitted stand there no longer. -/
theorem standing_snoc (record : List Entry) {entry : Entry} (nobody : entry.comes = []) :
    standing (record ++ [entry]) =
      (standing record).filter fun waiter => waiter ∉ entry.goes ∧ waiter ∉ entry.admits := by
  simp only [standing, entered_snoc, left_snoc, admitted_snoc, nobody, List.append_nil,
    filter_apart_append]

/-- Where nobody is admitted, those who leave or find an admission have none in hand any more. -/
theorem inHand_snoc (record : List Entry) {entry : Entry} (nobody : entry.admits = []) :
    inHand (record ++ [entry]) =
      (inHand record).filter fun waiter => waiter ∉ entry.goes ∧ waiter ∉ entry.completes := by
  simp only [inHand, left_snoc, admitted_snoc, completed_snoc, nobody, List.append_nil,
    filter_apart_append]

theorem mem_inHand {record : List Entry} {waiter : Nat} : waiter ∈ inHand record ↔
    waiter ∈ admitted record ∧ waiter ∉ left record ∧ waiter ∉ completed record := by
  simp [inHand]

theorem mem_standing {record : List Entry} {waiter : Nat} : waiter ∈ standing record ↔
    waiter ∈ entered record ∧ waiter ∉ left record ∧ waiter ∉ admitted record := by
  simp [standing]

namespace IsHistory

theorem nil : IsHistory [] := by
  intro before entry after same
  exact absurd same.symm (List.append_ne_nil_of_right_ne_nil _ (List.cons_ne_nil _ _))

variable {record : List Entry}

theorem of_append {later : List Entry} (history : IsHistory (record ++ later)) :
    IsHistory record := by
  intro before entry after same
  exact @history before entry (after ++ later) (by rw [same, List.append_assoc, List.cons_append])

theorem snoc {entry : Entry} :
    IsHistory (record ++ [entry]) ↔ IsHistory record ∧ entry.IsRight record := by
  constructor
  · intro history
    exact ⟨history.of_append, history rfl⟩
  · rintro ⟨history, isRight⟩ before first after same
    rcases List.eq_nil_or_concat after with rfl | ⟨between, last, rfl⟩
    · obtain ⟨rfl, single⟩ := List.append_inj' same rfl
      cases single
      exact isRight
    · rw [List.concat_eq_append, ← List.cons_append, ← List.append_assoc] at same
      exact history (List.append_inj' same rfl).1

/-- Waiters are numbered as they come. -/
theorem entered_eq (history : IsHistory record) :
    entered record = List.range (entered record).length := by
  induction record using List.reverseRecOn with
  | nil => rfl
  | append_singleton record entry ih =>
    obtain ⟨earlier, isRight⟩ := snoc.1 history
    cases entry with
    | entered waiter =>
      cases isRight
      simp [Entry.comes, List.range_succ, ← ih earlier]
    | _ => simpa [Entry.comes] using ih earlier

/-- The number of the next waiter is new. -/
theorem notMem_entered (history : IsHistory record) :
    (entered record).length ∉ entered record := by
  intro member
  rw [history.entered_eq] at member
  simp at member

/-- What one function tells of an entry, another one told of those before it. -/
theorem flatMap_subset (history : IsHistory record) {first second : Entry → List Nat}
    (told : ∀ before entry, entry.IsRight before → first entry ⊆ before.flatMap second) :
    record.flatMap first ⊆ record.flatMap second := by
  intro waiter member
  obtain ⟨entry, isEntry, isTold⟩ := List.mem_flatMap.1 member
  obtain ⟨before, after, rfl⟩ := List.append_of_mem isEntry
  rw [List.flatMap_append]
  exact List.mem_append_left _ (told before entry (history rfl) isTold)

/-- What a function tells of an entry, it did not tell of those before it. -/
theorem nodup_flatMap (history : IsHistory record) {tell : Entry → List Nat}
    (told : ∀ before entry, entry.IsRight before →
      (tell entry).Nodup ∧ ∀ waiter ∈ tell entry, waiter ∉ before.flatMap tell) :
    (record.flatMap tell).Nodup := by
  induction record using List.reverseRecOn with
  | nil => exact List.nodup_nil
  | append_singleton record entry ih =>
    obtain ⟨earlier, isRight⟩ := snoc.1 history
    obtain ⟨once, new⟩ := told record entry isRight
    rw [List.flatMap_append, List.flatMap_singleton]
    apply List.Nodup.append (ih earlier) once
    intro waiter old again
    exact new waiter again old

end IsHistory

namespace Entry.IsRight

variable {before : List Entry} {entry : Entry} {waiter : Nat}

theorem isThere_of_left (isRight : entry.IsRight before) (leaves : waiter ∈ entry.goes) :
    IsThere before waiter := by
  cases entry with
  | left other =>
    cases List.mem_singleton.1 leaves
    exact isRight
  | _ => cases leaves

/-- Whoever is admitted has stood there. -/
theorem mem_standing_of_admitted (isRight : entry.IsRight before)
    (admitted : waiter ∈ entry.admits) : waiter ∈ standing before := by
  cases entry with
  | offered isDelivered among =>
    rw [admits, isRight.2, Option.mem_toList] at admitted
    exact List.mem_of_mem_head? admitted
  | _ => cases admitted

theorem nodup_admitted (isRight : entry.IsRight before) : entry.admits.Nodup := by
  cases entry with
  | offered isDelivered among =>
    rw [admits, isRight.2]
    cases (standing before).head? with
    | none => exact List.nodup_nil
    | some first => exact List.nodup_singleton first
  | _ => exact List.nodup_nil

/-- Whose wait completes was admitted, and is there. -/
theorem of_completed (isRight : entry.IsRight before) (completes : waiter ∈ entry.completes) :
    IsThere before waiter ∧ waiter ∈ admitted before := by
  cases entry with
  | looked other sight =>
    cases sight with
    | admitted =>
      cases List.mem_singleton.1 completes
      refine ⟨isRight.1, ?_⟩
      by_contra absent
      have seen := isRight.2
      rw [if_neg absent] at seen
      cases seen
    | _ => cases completes
  | _ => cases completes

end Entry.IsRight

namespace IsHistory

variable {record : List Entry}

theorem left_subset (history : IsHistory record) : left record ⊆ entered record := by
  apply history.flatMap_subset
  intro before entry isRight waiter leaves
  exact (isRight.isThere_of_left leaves).1

theorem admitted_subset (history : IsHistory record) : admitted record ⊆ entered record := by
  apply history.flatMap_subset
  intro before entry isRight waiter admits
  exact (mem_standing.1 (isRight.mem_standing_of_admitted admits)).1

theorem completed_subset (history : IsHistory record) : completed record ⊆ admitted record := by
  apply history.flatMap_subset
  intro before entry isRight waiter completes
  exact (isRight.of_completed completes).2

/-- Whoever was admitted was so by an offer that was delivered while it stood there. -/
theorem exists_offered (history : IsHistory record) {waiter : Nat}
    (isAdmitted : waiter ∈ admitted record) : ∃ earlier later,
      record = earlier ++ .offered true [waiter] :: later ∧ waiter ∈ standing earlier := by
  obtain ⟨entry, isEntry, admits⟩ := List.mem_flatMap.1 isAdmitted
  obtain ⟨earlier, later, rfl⟩ := List.append_of_mem isEntry
  have isRight := history rfl
  have stands := isRight.mem_standing_of_admitted admits
  refine ⟨earlier, later, ?_, stands⟩
  cases entry with
  | offered isDelivered among =>
    obtain ⟨delivered, first⟩ := isRight
    have isDelivered' : isDelivered = true := delivered.2 (List.ne_nil_of_mem stands)
    rw [Entry.admits, first, Option.mem_toList] at admits
    rw [first, admits, isDelivered', Option.toList_some]
  | _ => cases admits

end IsHistory

end Anteroom

/-! ## The anteroom -/

/-- A line for admission, and what has happened there, earliest first. -/
structure Anteroom where
  admission : Admission Nat
  record : List Anteroom.Entry

namespace Anteroom

/-- What is done in an anteroom. -/
inductive Action where
  | enter
  | leave (waiter : Nat)
  | offer
  | ask
  | look (waiter : Nat)

/-- Who leaves or looks. -/
def Action.waiter? : Action → Option Nat
  | .leave waiter => some waiter
  | .look waiter => some waiter
  | _ => none

/-- The empty anteroom. -/
def fresh : Anteroom := ⟨.fresh, []⟩

/-- Something has happened to the line. -/
def note (room : Anteroom) (admission : Admission Nat) (entry : Entry) : Anteroom :=
  ⟨admission, room.record ++ [entry]⟩

/-- The anteroom after an action. Whoever is not there can neither leave nor look. -/
def act (room : Anteroom) : Action → Anteroom
  | .enter =>
    let waiter := (entered room.record).length
    room.note (room.admission.wait waiter) (.entered waiter)
  | .leave waiter =>
    if IsThere room.record waiter then
      room.note (room.admission.withdraw waiter) (.left waiter)
    else room
  | .offer =>
    let (isDelivered, admission) := room.admission.offer
    room.note admission
      (.offered isDelivered (admission.handed.drop room.admission.handed.length))
  | .ask =>
    let (count, admission) := room.admission.ask
    room.note admission (.asked count)
  | .look waiter =>
    if IsThere room.record waiter then
      let (sight, admission) := room.admission.look waiter
      room.note admission (.looked waiter sight)
    else room

/-- The anteroom after some actions. -/
def run (actions : List Action) : Anteroom := actions.foldl act fresh

/-! ## What the line shows of the record -/

/-- The live places are those of the waiters who stand there by the record, no place is taken twice,
and the admissions in hand are those of the record. -/
structure Reflects (admission : Admission Nat) (record : List Entry) : Prop where
  standing : admission.standing = standing record
  once : admission.places.Nodup
  handed : admission.handed = inHand record

namespace Reflects

variable {admission : Admission Nat} {record : List Entry}

/-- The waiter who comes has a number that nobody has had. -/
theorem enter (reflects : Reflects admission record) (history : IsHistory record) :
    let waiter := (entered record).length
    Reflects (admission.wait waiter) (record ++ [.entered waiter]) := by
  intro waiter
  have new : waiter ∉ entered record := history.notMem_entered
  have unstanding : waiter ∉ Anteroom.standing record := fun stands => new (mem_standing.1 stands).1
  have notLeft : waiter ∉ left record := fun member => new (history.left_subset member)
  have notAdmitted : waiter ∉ admitted record := fun member => new (history.admitted_subset member)
  constructor
  · rw [admission.standing_wait, reflects.standing]
    simp [Anteroom.standing, Entry.comes, Entry.goes, Entry.admits, notLeft, notAdmitted]
  · have before := reflects.standing ▸ reflects.once.sublist admission.standing_sublist
    rw [admission.places_wait, reflects.standing, ← List.concat_eq_append]
    exact before.concat unstanding
  · rw [inHand_snoc record rfl, ← reflects.handed]
    simp [Entry.goes, Entry.completes, Admission.wait, Admission.tidy]

theorem leave (reflects : Reflects admission record) (waiter : Nat) :
    Reflects (admission.withdraw waiter) (record ++ [.left waiter]) := by
  constructor
  · rw [standing_snoc record rfl, admission.standing_withdraw, reflects.standing]
    simp [Entry.goes, Entry.admits]
  · rw [admission.places_withdraw]
    exact reflects.once
  · rw [inHand_snoc record rfl, ← reflects.handed]
    simp [Entry.goes, Entry.completes, Admission.withdraw]

/-- An offer is right, and leaves the first who stood there with an admission in hand. -/
theorem offer (reflects : Reflects admission record) (history : IsHistory record) :
    let (isDelivered, later) := admission.offer
    let entry := Entry.offered isDelivered (later.handed.drop admission.handed.length)
    entry.IsRight record ∧ Reflects later (record ++ [entry]) := by
  rcases admission.offer_admits_first with ⟨nobody, offered⟩ | ⟨first, line, stands, sub, offered⟩
  · rw [offered]
    have nobody' : Anteroom.standing record = [] := reflects.standing ▸ nobody
    simp only [List.drop_length]
    refine ⟨by simp [Entry.IsRight, nobody'], ?_, List.nodup_nil, ?_⟩
    · rw [standing_snoc record rfl, nobody']
      rfl
    · rw [inHand_snoc record rfl, ← reflects.handed]
      simp [Entry.goes, Entry.completes]
  · rw [offered]
    have stands' : Anteroom.standing record = first :: _ := reflects.standing ▸ stands
    have once := reflects.once.sublist admission.standing_sublist
    rw [stands] at once
    obtain ⟨came, notLeft, notAdmitted⟩ := mem_standing.1 (stands' ▸ List.mem_cons_self)
    have notCompleted : first ∉ completed record := by
      intro member
      exact notAdmitted (history.completed_subset member)
    simp only [List.drop_left]
    refine ⟨by simp [Entry.IsRight, stands'], ?_, reflects.once.sublist (sub.map _), ?_⟩
    · rw [standing_snoc record rfl, stands', List.filter_cons_of_neg (by simp [Entry.admits])]
      symm
      apply List.filter_eq_self.2
      intro other behind
      have different : other ≠ first := fun same => (List.nodup_cons.1 once).1 (same ▸ behind)
      simp [Entry.goes, Entry.admits, different]
    · simp [inHand, reflects.handed, Entry.admits, Entry.goes, Entry.completes, notLeft,
        notCompleted]

theorem ask (reflects : Reflects admission record) :
    Reflects admission.tidy (record ++ [.asked admission.waiting]) := by
  constructor
  · rw [standing_snoc record rfl, admission.standing_tidy, reflects.standing]
    simp [Entry.goes, Entry.admits]
  · rw [admission.places_tidy]
    exact reflects.once.sublist admission.standing_sublist
  · rw [inHand_snoc record rfl, ← reflects.handed]
    simp [Entry.goes, Entry.completes, Admission.tidy]

/-- A look is right, and whoever finds an admission has none in hand any more. -/
theorem look (reflects : Reflects admission record) {waiter : Nat}
    (isThere : IsThere record waiter) :
    let (sight, later) := admission.look waiter
    (Entry.looked waiter sight).IsRight record ∧
      Reflects later (record ++ [.looked waiter sight]) := by
  obtain ⟨came, notLeft, notCompleted⟩ := isThere
  by_cases isAdmitted : waiter ∈ admitted record
  · have has : waiter ∈ admission.handed :=
      reflects.handed ▸ mem_inHand.2 ⟨isAdmitted, notLeft, notCompleted⟩
    rw [Admission.look_of_mem has]
    refine ⟨⟨⟨came, notLeft, notCompleted⟩, (if_pos isAdmitted).symm⟩, ?_, reflects.once, ?_⟩
    · rw [standing_snoc record rfl, ← reflects.standing]
      simp [Entry.goes, Entry.admits, Admission.standing, Admission.tidy]
    · rw [inHand_snoc record rfl, ← reflects.handed]
      simp [Entry.goes, Entry.completes]
  · have absent : waiter ∉ admission.handed := by
      intro member
      exact isAdmitted (mem_inHand.1 (reflects.handed ▸ member)).1
    have stands : waiter ∈ admission.standing :=
      reflects.standing ▸ mem_standing.2 ⟨came, notLeft, isAdmitted⟩
    rw [Admission.look_of_mem_standing absent stands]
    refine ⟨⟨⟨came, notLeft, notCompleted⟩, (if_neg isAdmitted).symm⟩, ?_, reflects.once, ?_⟩
    · rw [standing_snoc record rfl, ← reflects.standing]
      simp [Entry.goes, Entry.admits]
    · rw [inHand_snoc record rfl, ← reflects.handed]
      simp [Entry.goes, Entry.completes]

end Reflects

/-- The line shows what the record tells, and the record is right. -/
structure IsSound (room : Anteroom) : Prop where
  history : IsHistory room.record
  reflects : Reflects room.admission room.record

theorem IsSound.act {room : Anteroom} (sound : room.IsSound) (action : Action) :
    (room.act action).IsSound := by
  obtain ⟨history, reflects⟩ := sound
  cases action with
  | enter => exact ⟨IsHistory.snoc.2 ⟨history, rfl⟩, reflects.enter history⟩
  | leave waiter =>
    rw [Anteroom.act]
    split
    case isTrue isThere => exact ⟨IsHistory.snoc.2 ⟨history, isThere⟩, reflects.leave waiter⟩
    case isFalse => exact ⟨history, reflects⟩
  | offer =>
    obtain ⟨isRight, later⟩ := reflects.offer history
    exact ⟨IsHistory.snoc.2 ⟨history, isRight⟩, later⟩
  | ask =>
    have count : room.admission.waiting = (standing room.record).length := by
      rw [room.admission.waiting_eq, reflects.standing]
    exact ⟨IsHistory.snoc.2 ⟨history, count⟩, reflects.ask⟩
  | look waiter =>
    rw [Anteroom.act]
    split
    case isTrue isThere =>
      obtain ⟨isRight, later⟩ := reflects.look isThere
      exact ⟨IsHistory.snoc.2 ⟨history, isRight⟩, later⟩
    case isFalse => exact ⟨history, reflects⟩

theorem isSound_run (actions : List Action) : (run actions).IsSound := by
  induction actions using List.reverseRecOn with
  | nil => exact ⟨IsHistory.nil, rfl, List.nodup_nil, rfl⟩
  | append_singleton actions action ih =>
    rw [run, List.foldl_append]
    exact ih.act action

/-- What a waiter finds who looks: whether it was admitted. -/
theorem IsSound.look_eq {room : Anteroom} (sound : room.IsSound) {waiter : Nat}
    (isThere : IsThere room.record waiter) : (room.admission.look waiter).1 =
      if waiter ∈ admitted room.record then .admitted else .queued :=
  (sound.reflects.look isThere).1.2

/-- The waiter who comes is there, and not admitted. -/
theorem IsSound.isThere_enter {room : Anteroom} (sound : room.IsSound) :
    let waiter := (entered room.record).length
    IsThere (room.act .enter).record waiter ∧ waiter ∉ admitted (room.act .enter).record := by
  intro waiter
  have new : waiter ∉ entered room.record := sound.history.notMem_entered
  have record : (room.act .enter).record = room.record ++ [.entered waiter] := rfl
  rw [record]
  refine ⟨⟨?_, ?_, ?_⟩, ?_⟩
  · simp [Entry.comes]
  · simpa [Entry.goes] using fun member => new (sound.history.left_subset member)
  · simpa [Entry.completes] using fun member =>
      new (sound.history.admitted_subset (sound.history.completed_subset member))
  · simpa [Entry.admits] using fun member => new (sound.history.admitted_subset member)

/-- Whoever is there stays as long as others come and go and look. -/
theorem isThere_act {room : Anteroom} {waiter : Nat} (isThere : IsThere room.record waiter)
    {action : Action} (other : action.waiter? ≠ some waiter) :
    IsThere (room.act action).record waiter := by
  obtain ⟨came, notLeft, notCompleted⟩ := isThere
  have snoc : ∀ entry : Entry, waiter ∉ entry.goes → waiter ∉ entry.completes →
      IsThere (room.record ++ [entry]) waiter := by
    intro entry stays waits
    refine ⟨?_, ?_, ?_⟩
    · rw [entered_snoc]
      exact List.mem_append_left _ came
    · rw [left_snoc, List.mem_append]
      exact not_or.2 ⟨notLeft, stays⟩
    · rw [completed_snoc, List.mem_append]
      exact not_or.2 ⟨notCompleted, waits⟩
  cases action with
  | enter => exact snoc _ List.not_mem_nil List.not_mem_nil
  | offer => exact snoc _ List.not_mem_nil List.not_mem_nil
  | ask => exact snoc _ List.not_mem_nil List.not_mem_nil
  | leave first =>
    have different : waiter ≠ first := fun same => other (congrArg some same.symm)
    rw [act]
    split
    · exact snoc _ (fun member => different (List.mem_singleton.1 member)) List.not_mem_nil
    · exact ⟨came, notLeft, notCompleted⟩
  | look first =>
    have different : waiter ≠ first := fun same => other (congrArg some same.symm)
    by_cases looks : IsThere room.record first
    · have looked : (room.act (.look first)).record =
          room.record ++ [.looked first (room.admission.look first).1] := by
        rw [act, if_pos looks]
        rfl
      rw [looked]
      refine snoc _ List.not_mem_nil ?_
      cases (room.admission.look first).1 with
      | admitted => exact fun member => different (List.mem_singleton.1 member)
      | queued => exact List.not_mem_nil
      | forgotten => exact List.not_mem_nil
    · rw [act, if_neg looks]
      exact ⟨came, notLeft, notCompleted⟩

/-- **Offers admit in the order of arrival.** Whatever is done, every entry of the record is right:
an offer is delivered just if someone stands there, and admits the one who came first of them; a
number asked for is that of those who stand there; and no waiter who looks finds that it was
forgotten. Whoever finds an admission was admitted by an offer that was delivered while it stood
there. The line has one live place for each of those who stand there, in the order in which they
came, and right after somebody comes it has no dead ones. -/
theorem offers_admit_in_order (actions : List Action) :
    (∀ before entry after, (run actions).record = before ++ entry :: after →
      entry.IsRight before) ∧
    (∀ before waiter after, (run actions).record = before ++ .looked waiter .admitted :: after →
      ∃ earlier later, before = earlier ++ .offered true [waiter] :: later ∧
        waiter ∈ standing earlier) ∧
    (∀ waiter, .looked waiter .forgotten ∉ (run actions).record) ∧
    (run actions).admission.standing = standing (run actions).record ∧
    (run actions).admission.places.Nodup ∧
    (run actions).admission.waiting = (standing (run actions).record).length ∧
    entered (run actions).record = List.range (entered (run actions).record).length ∧
    (run (actions ++ [.enter])).admission.places = standing (run (actions ++ [.enter])).record := by
  obtain ⟨history, reflects⟩ := isSound_run actions
  refine ⟨fun _ _ _ same => history same, ?_, ?_, reflects.standing, reflects.once, ?_,
    history.entered_eq, ?_⟩
  · intro before waiter after same
    have completes := (history same).of_completed (List.mem_singleton_self waiter)
    rw [same] at history
    exact history.of_append.exists_offered completes.2
  · intro waiter looked
    obtain ⟨before, after, same⟩ := List.append_of_mem looked
    obtain ⟨_, sight⟩ := history same
    split at sight <;> cases sight
  · rw [Admission.waiting_eq, reflects.standing]
  · rw [← (isSound_run (actions ++ [Action.enter])).reflects.standing, run, List.foldl_append]
    exact (Admission.places_wait _ _).trans (Admission.standing_wait _ _).symm

/-- The first has left when the offer comes, and the third is still queued. -/
example : (run [.enter, .enter, .enter, .leave 0, .offer, .look 1, .look 2, .ask]).record =
    [.entered 0, .entered 1, .entered 2, .left 0, .offered true [1], .looked 1 .admitted,
      .looked 2 .queued, .asked 1] := by decide

end Anteroom

end Turnstile
