/-!
# Decimal numbers in text

Whole numbers as settings write them: ASCII digits after an optional plus sign, within the range
of the number that is set.
-/

set_option autoImplicit false

namespace Turnstile.Decimal

/-- Why a text is no number of the wanted range. -/
inductive Fault where
  | invalidDigit
  | tooLarge
deriving DecidableEq, Repr

/-- The wording of the fault. -/
def Fault.message : Fault → String
  | .invalidDigit => "invalid digit found in string"
  | .tooLarge => "number too large to fit in target type"

/-- The value of an ASCII digit. -/
def digit? (character : Char) : Option Nat :=
  if '0' ≤ character ∧ character ≤ '9' then some (character.toNat - '0'.toNat) else none

/-- The number that a run of digits writes, continuing from the digits already read. -/
def accumulate (limit : Nat) : Nat → List Char → Except Fault Nat
  | value, [] => .ok value
  | value, character :: rest =>
    match digit? character with
    | none => .error .invalidDigit
    | some digit =>
      let next := value * 10 + digit
      if next < limit then accumulate limit next rest else .error .tooLarge

/-- Read a number below the limit. The sign is optional and may not stand alone. -/
def parse (limit : Nat) (text : String) : Except Fault Nat :=
  match text.toList with
  | [] => .error .invalidDigit
  | '+' :: [] => .error .invalidDigit
  | '+' :: digits => accumulate limit 0 digits
  | digits => accumulate limit 0 digits

end Turnstile.Decimal
