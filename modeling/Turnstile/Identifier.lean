import Turnstile.Text.Quoted

/-!
# Identifiers

Projects, events and jobs are named by identifiers: texts of one to 63 bytes, all of them ASCII
letters, digits, `-` or `_`. An identifier is therefore safe in a path segment, in a queue name
(where a dot separates) and in a job message (where a colon separates).

An `Identifier kind` carries the proof that its text is one, so every identifier that exists came
through `Identifier.parse`.
-/

set_option autoImplicit false

namespace Turnstile

/-- What an identifier names. -/
inductive IdentifierKind where
  | project
  | event
  | job
deriving DecidableEq, Repr

/-- How messages call an identifier of the kind. -/
def IdentifierKind.label : IdentifierKind → String
  | .project => "project ID"
  | .event => "event ID"
  | .job => "job name"

namespace Identifier

/-- The greatest number of bytes. -/
def maxLength : Nat := 63

/-- Whether a character may stand in an identifier. -/
def isAllowed (character : Char) : Bool :=
  character.isAlphanum || character == '-' || character == '_'

/-- Whether a text is an identifier. -/
def IsValid (text : String) : Prop :=
  text ≠ "" ∧ text.utf8ByteSize ≤ maxLength ∧ ∀ character ∈ text.toList, isAllowed character

instance (text : String) : Decidable (IsValid text) :=
  -- Character by character; a search through all characters would decide it too, but not soon.
  have : Decidable (∀ character ∈ text.toList, isAllowed character) := List.decidableBAll _ _
  inferInstanceAs (Decidable (_ ∧ _ ∧ _))

/-- Why a text is no identifier. -/
inductive Fault where
  | empty (kind : IdentifierKind)
  | tooLong (kind : IdentifierKind)
  | invalidCharacter (kind : IdentifierKind) (text : String) (character : Char)
deriving DecidableEq, Repr

/-- The wording of the fault. -/
def Fault.message : Fault → String
  | .empty kind => s!"{kind.label} cannot be empty"
  | .tooLong kind => s!"{kind.label} exceeds {maxLength} characters"
  | .invalidCharacter kind text character =>
    s!"invalid character {Text.quoteChar character} in {kind.label} {Text.quote text}"

/-- Whether the fault is an empty text. -/
def Fault.isEmpty : Fault → Bool
  | .empty _ => true
  | _ => false

end Identifier

/-- A checked identifier. -/
structure Identifier (kind : IdentifierKind) where
  text : String
  valid : Identifier.IsValid text

namespace Identifier

variable {kind : IdentifierKind}

theorem ext_text {first second : Identifier kind} (same : first.text = second.text) :
    first = second := by
  cases first; cases second; cases same; rfl

instance : DecidableEq (Identifier kind) := fun first second =>
  if same : first.text = second.text then .isTrue (ext_text same)
  else .isFalse fun equal => same (congrArg text equal)

instance : LT (Identifier kind) := ⟨fun first second => first.text < second.text⟩

instance : DecidableLT (Identifier kind) := fun first second =>
  inferInstanceAs (Decidable (first.text < second.text))

instance : ToString (Identifier kind) := ⟨text⟩

/-- Identifiers in ascending order of their texts, each as often as it was given. -/
def sort (identifiers : List (Identifier kind)) : List (Identifier kind) :=
  identifiers.mergeSort fun first second => decide (first.text ≤ second.text)

theorem sort_perm (identifiers : List (Identifier kind)) : (sort identifiers).Perm identifiers :=
  List.mergeSort_perm identifiers _

theorem sort_ascending (identifiers : List (Identifier kind)) :
    (sort identifiers).Pairwise fun first second => first.text ≤ second.text := by
  have sorted : (sort identifiers).Pairwise fun first second =>
      decide (first.text ≤ second.text) := by
    refine List.pairwise_mergeSort ?_ ?_ identifiers
    · intro first second third before after
      simp only [decide_eq_true_eq] at before after ⊢
      exact String.le_trans before after
    · intro first second
      simp only [Bool.or_eq_true, decide_eq_true_eq]
      exact String.le_total first.text second.text
  exact sorted.imp fun before => of_decide_eq_true before

/-- Check a text. Emptiness is complained about first, then the length in bytes, then the first
character that is not allowed. -/
def parse (kind : IdentifierKind) (text : String) : Except Fault (Identifier kind) :=
  if empty : text = "" then .error (.empty kind)
  else if long : maxLength < text.utf8ByteSize then .error (.tooLong kind)
  else
    match found : text.toList.find? fun character => !isAllowed character with
    | some character => .error (.invalidCharacter kind text character)
    | none =>
      .ok ⟨text, empty, Nat.le_of_not_lt long, by simpa using List.find?_eq_none.1 found⟩

@[simp] theorem parse_text (identifier : Identifier kind) :
    parse kind identifier.text = .ok identifier := by
  obtain ⟨text, notEmpty, short, allowed⟩ := identifier
  unfold parse
  rw [dif_neg notEmpty, dif_neg (Nat.not_lt.2 short)]
  split
  · next character found =>
    have member := List.mem_of_find?_eq_some found
    have refused := List.find?_some found
    simp [allowed character member] at refused
  · rfl

theorem text_of_parse {text : String} {identifier : Identifier kind}
    (parsed : parse kind text = .ok identifier) : identifier.text = text := by
  unfold parse at parsed
  split at parsed
  · cases parsed
  · split at parsed
    · cases parsed
    · split at parsed <;> cases parsed
      rfl

/-- Check a text without asking why it fails. -/
def parse? (kind : IdentifierKind) (text : String) : Option (Identifier kind) :=
  (parse kind text).toOption

theorem parse?_eq_some_iff {text : String} {identifier : Identifier kind} :
    parse? kind text = some identifier ↔ text = identifier.text := by
  constructor
  · intro parsed
    cases outcome : parse kind text with
    | error fault => simp [parse?, outcome, Except.toOption] at parsed
    | ok value =>
      simp only [parse?, outcome, Except.toOption, Option.some.injEq] at parsed
      exact parsed ▸ (text_of_parse outcome).symm
  · intro same
    simp [parse?, same, Except.toOption]

end Identifier

/-- The identifier of a project. -/
abbrev ProjectId := Identifier .project

/-- The identifier of an event. -/
abbrev EventId := Identifier .event

/-- The name of a job, unique within its event. -/
abbrev JobName := Identifier .job

end Turnstile
