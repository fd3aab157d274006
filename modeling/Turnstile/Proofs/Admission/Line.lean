import Turnstile.Admission

/-!
# The line for admission

Whoever leaves the line stays in it as a dead place until somebody comes by: what counts of a line
are its live places (`Admission.standing`). An offer admits the first of them and passes over the
dead ones before it (`offer_admits_first`), leaving removes one of them (`standing_withdraw`), and
the other operations only clear away dead places or add a live one at the end.
-/

set_option autoImplicit false

namespace Turnstile.Admission

variable {α : Type}

/-- Those whose places are live, in the order of the line. -/
def standing (admission : Admission α) : List α := admission.tidy.line.map (·.id)

/-- All whose places are in the line. -/
def places (admission : Admission α) : List α := admission.line.map (·.id)

theorem waiting_eq (admission : Admission α) : admission.waiting = admission.standing.length :=
  (List.length_map _).symm

theorem tidy_tidy (admission : Admission α) : admission.tidy.tidy = admission.tidy := by
  simp [tidy]

theorem standing_tidy (admission : Admission α) : admission.tidy.standing = admission.standing := by
  rw [standing, tidy_tidy, standing]

theorem places_tidy (admission : Admission α) : admission.tidy.places = admission.standing := rfl

theorem standing_sublist (admission : Admission α) :
    admission.standing.Sublist admission.places := List.filter_sublist.map _

theorem standing_wait (admission : Admission α) (id : α) :
    (admission.wait id).standing = admission.standing ++ [id] := by
  simp [standing, wait, tidy]

theorem places_wait (admission : Admission α) (id : α) :
    (admission.wait id).places = admission.standing ++ [id] := by
  simp [standing, places, wait, tidy]

/-- An offer finds no live place, or the first live one, behind dead ones. -/
theorem admitFirst_cases (line : List (Waiter α)) :
    (line.filter (·.isLive) = [] ∧ admitFirst line = (none, [])) ∨
      ∃ dead waiter rest, line = dead ++ waiter :: rest ∧ dead.filter (·.isLive) = [] ∧
        waiter.isLive = true ∧ admitFirst line = (some waiter.id, rest) := by
  induction line with
  | nil => exact .inl ⟨rfl, rfl⟩
  | cons waiter line ih =>
    by_cases live : waiter.isLive = true
    · exact .inr ⟨[], waiter, line, rfl, rfl, live, by rw [admitFirst, if_pos live]⟩
    · rw [admitFirst, if_neg live, List.filter_cons_of_neg live]
      rcases ih with none | ⟨dead, first, rest, rfl, allDead, isLive, found⟩
      · exact .inl none
      · refine .inr ⟨waiter :: dead, first, rest, rfl, ?_, isLive, found⟩
        rw [List.filter_cons_of_neg live, allDead]

/-- **An offer admits the first who stands in the line**, or nobody if none does. -/
theorem offer_admits_first (admission : Admission α) :
    (admission.standing = [] ∧ admission.offer = (false, ⟨[], admission.handed⟩)) ∨
      ∃ id line, admission.standing = id :: standing ⟨line, admission.handed⟩ ∧
        line.Sublist admission.line ∧
        admission.offer = (true, ⟨line, admission.handed ++ [id]⟩) := by
  rcases admitFirst_cases admission.line with
    ⟨none, found⟩ | ⟨dead, first, rest, isLine, allDead, isLive, found⟩
  · exact .inl ⟨by rw [standing, tidy, none, List.map_nil], by rw [offer, found]⟩
  · refine .inr ⟨first.id, rest, ?_, ?_, by rw [offer, found]⟩
    · simp [standing, tidy, isLine, allDead, isLive]
    · rw [isLine]
      exact (List.sublist_cons_self _ _).trans (List.sublist_append_right _ _)

variable [DecidableEq α]

theorem places_withdraw (admission : Admission α) (id : α) :
    (admission.withdraw id).places = admission.places := by
  simp only [places, withdraw, List.map_map]
  refine List.map_congr_left fun waiter _ => ?_
  by_cases same : waiter.id = id <;> simp [same]

theorem standing_withdraw (admission : Admission α) (id : α) :
    (admission.withdraw id).standing = admission.standing.filter (· ≠ id) := by
  simp only [standing, tidy, withdraw]
  induction admission.line with
  | nil => rfl
  | cons waiter line ih =>
    by_cases same : waiter.id = id <;> by_cases live : waiter.isLive = true <;>
      simp_all

theorem isWaiting_iff {admission : Admission α} {id : α} :
    admission.isWaiting id = true ↔ id ∈ admission.standing := by
  simp [isWaiting, standing]

theorem look_of_mem {admission : Admission α} {id : α} (member : id ∈ admission.handed) :
    admission.look id =
      (.admitted, { admission with handed := admission.handed.filter (· ≠ id) }) := by
  rw [look, take?, if_pos member]

theorem look_of_mem_standing {admission : Admission α} {id : α} (absent : id ∉ admission.handed)
    (member : id ∈ admission.standing) : admission.look id = (.queued, admission) := by
  rw [look, take?, if_neg absent]
  simp [isWaiting_iff.2 member]

end Turnstile.Admission
