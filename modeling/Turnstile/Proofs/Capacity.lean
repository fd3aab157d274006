import Turnstile.Capacity

/-!
# What a tick does

A tick admits one at most, and only below the ceiling. Whoever takes up an admission is no longer
among those who are admitted.
-/

set_option autoImplicit false

namespace Turnstile

variable {α : Type}

/-- Taking up an admission leaves fewer who are admitted. -/
theorem Admission.length_lt_of_take? [DecidableEq α] {admission line : Admission α} {id : α}
    (taken : admission.take? id = some line) : line.handed.length < admission.handed.length := by
  unfold take? at taken
  split at taken
  case isTrue member =>
    cases taken
    exact List.length_filter_lt_length_iff_exists.2 ⟨id, member, by simp⟩
  case isFalse => cases taken

/-- An offer admits one more, or nobody. -/
theorem Admission.offer_cases (admission : Admission α) :
    (∃ line id, admission.offer = (true, ⟨line, admission.handed ++ [id]⟩)) ∨
    ∃ line, admission.offer = (false, ⟨line, admission.handed⟩) := by
  unfold offer
  split
  · exact .inl ⟨_, _, rfl⟩
  · exact .inr ⟨_, rfl⟩

/-- A tick admits one more below the ceiling, or nobody. -/
theorem Tracker.offerBelow_cases (tracker : Tracker) (kind : WorkKind) (ceiling : Nat)
    (admission : Admission α) :
    (∃ line id, tracker.count kind < ceiling ∧
      tracker.offerBelow kind ceiling admission = (true, ⟨line, admission.handed ++ [id]⟩)) ∨
    ∃ line, tracker.offerBelow kind ceiling admission = (false, ⟨line, admission.handed⟩) := by
  unfold offerBelow
  split
  case isTrue below =>
    rcases admission.offer_cases with ⟨line, id, offered⟩ | ⟨line, offered⟩
    · exact .inl ⟨line, id, below, offered⟩
    · exact .inr ⟨line, offered⟩
  case isFalse => exact .inr ⟨_, rfl⟩

end Turnstile
