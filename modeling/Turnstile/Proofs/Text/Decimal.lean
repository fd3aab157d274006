import Mathlib.Data.List.TakeWhile
import Turnstile.Text.Decimal

/-!
# What decimal texts write

A text **writes** a number if it consists of digits, after a plus sign or none, and these digits
make the number (`Writes`). Reading gives the number that is written, if it is below the limit
(`parse_of_writes`). Every other text is refused (`writes_or_refuses`), and for what comes first:
digits that make too large a number already, or a character that is no digit (`Refuses`,
`parse_of_refuses`).
-/

set_option autoImplicit false

namespace Turnstile.Decimal

variable {limit value number : Nat} {digits rest : List Char} {character : Char} {text : String}
  {fault : Fault}

theorem digit?_eq (character : Char) :
    digit? character = if character.isDigit then some (character.toNat - '0'.toNat) else none := by
  have same : character.isDigit ↔ '0' ≤ character ∧ character ≤ '9' := by
    simp only [Char.isDigit, Bool.and_eq_true, decide_eq_true_eq]
    exact Iff.rfl
  simp only [digit?, same]

/-- More digits make no smaller number. -/
theorem le_ofDigitChars (digits : List Char) (value : Nat) :
    value ≤ Nat.ofDigitChars 10 digits value := by
  induction digits generalizing value with
  | nil => exact Nat.le_refl value
  | cons digit digits ih =>
    rw [Nat.ofDigitChars_cons]
    exact Nat.le_trans (by omega) (ih _)

/-! ## Runs of digits -/

theorem accumulate_cons_of_isDigit (digit : character.isDigit) :
    accumulate limit value (character :: rest) =
      let next := 10 * value + (character.toNat - '0'.toNat)
      if next < limit then accumulate limit next rest else .error .tooLarge := by
  simp only [accumulate, digit?_eq, digit, if_true, Nat.mul_comm 10]

/-- Digits that make a number below the limit are taken up. -/
theorem accumulate_append_of_lt (areDigits : ∀ digit ∈ digits, digit.isDigit)
    (small : Nat.ofDigitChars 10 digits value < limit) (rest : List Char) :
    accumulate limit value (digits ++ rest) =
      accumulate limit (Nat.ofDigitChars 10 digits value) rest := by
  induction digits generalizing value with
  | nil => rfl
  | cons digit digits ih =>
    obtain ⟨isDigit, areDigits⟩ := List.forall_mem_cons.1 areDigits
    rw [Nat.ofDigitChars_cons] at small ⊢
    have below := Nat.lt_of_le_of_lt (le_ofDigitChars digits _) small
    rw [List.cons_append, accumulate_cons_of_isDigit isDigit]
    exact (if_pos below).trans (ih areDigits small)

/-- Digits that make too large a number are refused, whatever comes behind them. -/
theorem accumulate_append_of_le (areDigits : ∀ digit ∈ digits, digit.isDigit)
    (small : value < limit) (large : limit ≤ Nat.ofDigitChars 10 digits value) (rest : List Char) :
    accumulate limit value (digits ++ rest) = .error .tooLarge := by
  induction digits generalizing value with
  | nil => exact absurd small (Nat.not_lt.2 large)
  | cons digit digits ih =>
    obtain ⟨isDigit, areDigits⟩ := List.forall_mem_cons.1 areDigits
    rw [Nat.ofDigitChars_cons] at large
    rw [List.cons_append, accumulate_cons_of_isDigit isDigit]
    refine ite_eq_right_iff.2 fun below => ?_
    exact ih areDigits below large

/-! ## Numbers -/

/-- The characters of a text behind its plus sign, if it begins with one. -/
def unsigned (text : String) : List Char :=
  match text.toList with
  | '+' :: characters => characters
  | characters => characters

/-- A text writes a number. -/
def Writes (text : String) (number : Nat) : Prop :=
  unsigned text ≠ [] ∧ (∀ character ∈ unsigned text, character.isDigit) ∧
    Nat.ofDigitChars 10 (unsigned text) 0 = number

/-- Why a text writes no number below a limit. -/
inductive Refuses (limit : Nat) (text : String) : Fault → Prop
  /-- There is no digit. -/
  | empty (none : unsigned text = []) : Refuses limit text .invalidDigit
  /-- A character is no digit, and those before it do not make too large a number. -/
  | foreign {digits rest : List Char} {character : Char}
      (whole : unsigned text = digits ++ character :: rest)
      (areDigits : ∀ digit ∈ digits, digit.isDigit) (foreign : ¬ character.isDigit)
      (small : Nat.ofDigitChars 10 digits 0 < limit) : Refuses limit text .invalidDigit
  /-- Digits make too large a number, whatever comes behind them. -/
  | large {digits rest : List Char} (whole : unsigned text = digits ++ rest)
      (areDigits : ∀ digit ∈ digits, digit.isDigit)
      (large : limit ≤ Nat.ofDigitChars 10 digits 0) : Refuses limit text .tooLarge

theorem Writes.unique {other : Nat} (writes : Writes text number) (writes' : Writes text other) :
    number = other :=
  writes.2.2.symm.trans writes'.2.2

/-- Behind the sign there have to be digits. -/
theorem parse_eq (limit : Nat) (text : String) :
    parse limit text =
      if unsigned text = [] then .error .invalidDigit else accumulate limit 0 (unsigned text) := by
  unfold parse unsigned
  split
  case h_1 none => simp only [none, if_true]
  case h_2 alone => simp only [alone, if_true]
  case h_3 digits more signed => simp only [signed, if_neg more]
  case h_4 nonempty _ bare =>
    split
    case h_1 digits signed => exact absurd signed (bare digits)
    case h_2 => exact (if_neg nonempty).symm

/-- The number that a text writes is read, if it is below the limit. -/
theorem parse_of_writes (writes : Writes text number) (small : number < limit) :
    parse limit text = .ok number := by
  obtain ⟨nonempty, areDigits, rfl⟩ := writes
  have taken := accumulate_append_of_lt areDigits small []
  rw [List.append_nil] at taken
  rw [parse_eq, if_neg nonempty, taken, accumulate]

/-- A text that writes no number below a positive limit is refused for what is wrong with it. -/
theorem parse_of_refuses (positive : 0 < limit) (refuses : Refuses limit text fault) :
    parse limit text = .error fault := by
  rw [parse_eq]
  cases refuses with
  | empty none => exact if_pos none
  | foreign whole areDigits foreign small =>
    rw [whole, if_neg (by simp), accumulate_append_of_lt areDigits small]
    simp [accumulate, digit?_eq, foreign]
  | @large digits rest whole areDigits large =>
    have nonempty : digits ≠ [] := by
      rintro rfl
      exact Nat.not_lt.2 large positive
    rw [whole, if_neg (by simp [nonempty]), accumulate_append_of_le areDigits positive large]

/-- Every text either writes a number below the limit or is refused. -/
theorem writes_or_refuses (limit : Nat) (text : String) :
    (∃ number < limit, Writes text number) ∨ ∃ fault, Refuses limit text fault := by
  by_cases empty : unsigned text = []
  · exact .inr ⟨_, .empty empty⟩
  -- The digits that come first decide, and if the number they make is small, what follows them.
  have whole := (List.takeWhile_append_dropWhile (p := Char.isDigit) (l := unsigned text)).symm
  have areDigits : ∀ digit ∈ (unsigned text).takeWhile Char.isDigit, digit.isDigit :=
    fun _ member => List.mem_takeWhile_imp member
  have ends := List.head?_dropWhile_not Char.isDigit (unsigned text)
  generalize (unsigned text).takeWhile Char.isDigit = digits at whole areDigits
  generalize (unsigned text).dropWhile Char.isDigit = rest at whole ends
  rcases Nat.lt_or_ge (Nat.ofDigitChars 10 digits 0) limit with small | large
  · cases rest with
    | nil =>
      rw [List.append_nil] at whole
      exact .inl ⟨_, small, empty, whole ▸ areDigits, congrArg (Nat.ofDigitChars 10 · 0) whole⟩
    | cons character rest =>
      exact .inr ⟨_, .foreign whole areDigits (by simpa using ends) small⟩
  · exact .inr ⟨_, .large whole areDigits large⟩

end Turnstile.Decimal
