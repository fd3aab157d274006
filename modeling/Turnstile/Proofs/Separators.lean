import Mathlib.Data.List.Basic
import Mathlib.Data.List.TakeWhile
import Turnstile.Identifier

/-!
# Separators

Texts are put together from parts with a separator between them: a colon in the messages of jobs, a
dot in the names of queues, slashes in the paths of addresses. Cutting such a text at its first
separator gives the first part back, if no separator stands in that part, and two parts without
separators are all there is to a text with exactly one of them (`count_eq_one_iff`). Identifiers are
parts of this sort: they consist of letters, digits, hyphens and underscores
(`Identifier.notMem_text`).
-/

set_option autoImplicit false

namespace Turnstile

section Cuts

variable {α : Type} {separator head : α} {first second text : List α}

/-- A stretch ends where it ended before, unless it reached the end and goes on. -/
theorem span_append {passes : α → Bool} (first : List α)
    (ends : first.dropWhile passes = [] → ∀ next ∈ second.head?, passes next = false) :
    (first ++ second).takeWhile passes = first.takeWhile passes ∧
      (first ++ second).dropWhile passes = first.dropWhile passes ++ second := by
  induction first with
  | nil =>
    cases second with
    | nil => exact ⟨rfl, rfl⟩
    | cons next rest =>
      have stops : passes next = false := ends rfl next rfl
      simp [stops]
  | cons head first ih =>
    cases isIn : passes head with
    | true =>
      rw [List.dropWhile_cons_of_pos isIn] at ends
      obtain ⟨taken, dropped⟩ := ih ends
      simp [isIn, taken, dropped]
    | false => simp [isIn]

variable [DecidableEq α]

theorem takeWhile_ne_append_cons (plain : separator ∉ first) (second : List α) :
    (first ++ separator :: second).takeWhile (· ≠ separator) = first := by
  have passes : ∀ other ∈ first, decide (other ≠ separator) = true := fun other member =>
    decide_eq_true fun same => plain (same ▸ member)
  rw [List.takeWhile_append_of_pos passes]
  simp

theorem dropWhile_ne_append_cons (plain : separator ∉ first) (second : List α) :
    (first ++ separator :: second).dropWhile (· ≠ separator) = separator :: second := by
  have passes : ∀ other ∈ first, decide (other ≠ separator) = true := fun other member =>
    decide_eq_true fun same => plain (same ▸ member)
  rw [List.dropWhile_append_of_pos passes]
  simp

theorem notMem_takeWhile_ne (separator : α) (text : List α) :
    separator ∉ text.takeWhile (· ≠ separator) := by
  intro member
  have passes := List.mem_takeWhile_imp member
  simp at passes

/-- What is left from the first separator on begins with it. -/
theorem eq_of_dropWhile_ne (left : text.dropWhile (· ≠ separator) = head :: second) :
    text = text.takeWhile (· ≠ separator) ++ separator :: second := by
  have boundary := List.head?_dropWhile_not (· ≠ separator) text
  rw [left, List.head?_cons] at boundary
  obtain rfl : head = separator := by simpa using boundary
  have whole := List.takeWhile_append_dropWhile (p := (· ≠ head)) (l := text)
  rw [left] at whole
  exact whole.symm

/-- **A text with one separator** is its two parts. -/
theorem count_eq_one_iff : text.count separator = 1 ↔
    ∃ first second, text = first ++ separator :: second ∧ separator ∉ first ∧
      separator ∉ second := by
  constructor
  · intro once
    have inside : separator ∈ text := List.count_pos_iff.1 (once ▸ Nat.one_pos)
    obtain ⟨first, second, rfl⟩ := List.mem_iff_append.1 inside
    rw [List.count_append, List.count_cons_self] at once
    exact ⟨first, second, rfl, List.count_eq_zero.1 (by omega), List.count_eq_zero.1 (by omega)⟩
  · rintro ⟨first, second, rfl, plain, plain'⟩
    rw [List.count_append, List.count_cons_self, List.count_eq_zero.2 plain,
      List.count_eq_zero.2 plain']

end Cuts

/-- No character stands in an identifier that is not allowed there. -/
theorem Identifier.notMem_text {kind : IdentifierKind} (identifier : Identifier kind)
    {character : Char} (refused : isAllowed character = false) :
    character ∉ identifier.text.toList := by
  intro member
  have allowed := identifier.valid.2.2 character member
  rw [refused] at allowed
  cases allowed

end Turnstile
