import Mathlib.Data.List.DropRight
import Turnstile.Json.Reader
import Turnstile.Proofs.Separators

/-!
# Reading numbers

A number is read up to the first byte with which it cannot go on. What is taken up is ASCII, and
nothing behind the next byte matters (`Cuts`); that is shown for each part of a number, and put
together for the whole (`cuts_readNumeral`). So bytes that follow a number do not change it, unless
the number reached the end and they go on with it (`readNumeral_append`), and a number within a text
is a number by itself.
-/

set_option autoImplicit false

namespace Turnstile.Json

variable {bytes rest more : List UInt8}

theorem skipSpace_append (found : skipSpace bytes ≠ []) (more : List UInt8) :
    skipSpace (bytes ++ more) = skipSpace bytes ++ more :=
  (span_append bytes fun ended => absurd ended found).2

/-! ## What follows a number -/

/-- What was read in front of the rest: some ASCII bytes. -/
def Takes (bytes rest : List UInt8) : Prop :=
  ∃ taken, bytes = taken ++ rest ∧ ∀ byte ∈ taken, byte < 0x80

/-- A number does not go on with these bytes. -/
def Stops (more : List UInt8) : Prop :=
  ∀ byte ∈ more.head?, isDigit byte = false ∧ byte ≠ 0x2e ∧ byte ≠ 0x65 ∧ byte ≠ 0x45

/-- These bytes can follow where others followed: they begin with the same byte, or the number does
not go on with them. -/
def Resumes (more rest : List UInt8) : Prop := more.head? = rest.head? ∨ Stops more

theorem Resumes.append (resumes : Resumes more rest) (taken : List UInt8) :
    Resumes (taken ++ more) (taken ++ rest) := by
  cases taken with
  | nil => exact resumes
  | cons byte taken => exact .inl rfl

/-- What is read can be cut off: it is ASCII, and is read again where other bytes follow. -/
def Cuts {α : Type} (read : List UInt8 → Option (α × List UInt8)) : Prop :=
  ∀ ⦃bytes rest value⦄, read bytes = some (value, rest) → ∃ taken, bytes = taken ++ rest ∧
    (∀ byte ∈ taken, byte < 0x80) ∧
      ∀ more, Resumes more rest → read (taken ++ more) = some (value, more)

theorem Cuts.map {α β : Type} {read : List UInt8 → Option (α × List UInt8)} (cuts : Cuts read)
    (change : α → β) : Cuts fun bytes => (read bytes).map (Prod.map change id) := by
  intro bytes rest value reads
  obtain ⟨⟨first, _⟩, found, same⟩ := Option.map_eq_some_iff.1 reads
  cases same
  obtain ⟨taken, whole, ascii, again⟩ := cuts found
  refine ⟨taken, whole, ascii, fun more resumes => ?_⟩
  exact Option.map_eq_some_iff.2 ⟨_, again more resumes, rfl⟩

/-! ## The parts of a number -/

theorem exists_digit_of_readDigits {digits : List UInt8}
    (reads : readDigits bytes = some (digits, rest)) :
    ∃ byte later, bytes = byte :: later ∧ isDigit byte = true := by
  cases bytes with
  | nil => cases reads
  | cons byte later =>
    refine ⟨byte, later, rfl, ?_⟩
    by_contra notDigit
    simp [readDigits, notDigit] at reads

theorem cuts_readDigits : Cuts readDigits := by
  intro bytes rest digits reads
  unfold readDigits at reads
  split at reads
  case h_1 => cases reads
  case h_2 nonempty =>
    cases reads
    have areDigits : ∀ byte ∈ bytes.takeWhile isDigit, isDigit byte = true :=
      fun _ member => List.mem_takeWhile_imp member
    refine ⟨bytes.takeWhile isDigit, List.takeWhile_append_dropWhile.symm, ?_, ?_⟩
    · intro byte member
      have digit := areDigits byte member
      simp only [isDigit, Bool.and_eq_true, decide_eq_true_eq] at digit
      exact UInt8.lt_of_le_of_lt digit.2 (by decide)
    · intro more resumes
      have stops : ∀ byte ∈ more.head?, isDigit byte = false := by
        intro byte first
        obtain same | stops := resumes
        · have boundary := List.head?_dropWhile_not isDigit bytes
          rw [← same, first] at boundary
          exact boundary
        · exact (stops byte first).1
      obtain ⟨taken, dropped⟩ := span_append (bytes.takeWhile isDigit) fun _ => stops
      rw [List.takeWhile_eq_self_iff.2 areDigits] at taken
      rw [List.dropWhile_eq_nil_iff.2 areDigits, List.nil_append] at dropped
      unfold readDigits
      rw [taken, dropped]
      split
      case h_1 none => exact absurd none nonempty
      case h_2 => rfl

theorem cuts_readFraction : Cuts readFraction := by
  intro bytes rest digits reads
  unfold readFraction at reads
  split at reads
  case h_1 =>
    obtain ⟨taken, rfl, ascii, again⟩ := cuts_readDigits reads
    exact ⟨0x2e :: taken, rfl, List.forall_mem_cons.2 ⟨by decide, ascii⟩, again⟩
  case h_2 noPoint =>
    cases reads
    refine ⟨[], rfl, nofun, fun more resumes => ?_⟩
    rw [List.nil_append]
    unfold readFraction
    split
    case h_1 later =>
      obtain same | stops := resumes
      · obtain ⟨others, rfl⟩ := List.head?_eq_some_iff.1 same.symm
        exact absurd rfl (noPoint others)
      · exact absurd rfl (stops 0x2e rfl).2.1
    case h_2 => rfl

/-- What begins with a digit has no sign. -/
theorem readSigned_of_digits {digits : List UInt8}
    (reads : readDigits bytes = some (digits, rest)) :
    readSigned bytes = some (↑(digitsValue digits), rest) := by
  obtain ⟨byte, later, rfl, digit⟩ := exists_digit_of_readDigits reads
  unfold readSigned
  split
  case h_1 plus =>
    cases plus
    exact absurd digit (by decide)
  case h_2 minus =>
    cases minus
    exact absurd digit (by decide)
  case h_3 => exact Option.map_eq_some_iff.2 ⟨_, reads, rfl⟩

theorem cuts_readSigned : Cuts readSigned := by
  intro bytes rest value reads
  unfold readSigned at reads
  split at reads
  case h_1 =>
    obtain ⟨taken, rfl, ascii, again⟩ :=
      cuts_readDigits.map (fun digits => (digitsValue digits : Int)) reads
    exact ⟨0x2b :: taken, rfl, List.forall_mem_cons.2 ⟨by decide, ascii⟩, again⟩
  case h_2 =>
    obtain ⟨taken, rfl, ascii, again⟩ :=
      cuts_readDigits.map (fun digits => -(digitsValue digits : Int)) reads
    exact ⟨0x2d :: taken, rfl, List.forall_mem_cons.2 ⟨by decide, ascii⟩, again⟩
  case h_3 =>
    obtain ⟨⟨digits, _⟩, found, same⟩ := Option.map_eq_some_iff.1 reads
    cases same
    obtain ⟨taken, rfl, ascii, again⟩ := cuts_readDigits found
    exact ⟨taken, rfl, ascii, fun more resumes => readSigned_of_digits (again more resumes)⟩

/-- There is no exponent where a number does not go on. -/
theorem readExponent_of_stops (stops : Stops more) : readExponent more = some (none, more) := by
  cases more with
  | nil => rfl
  | cons byte more =>
    obtain ⟨-, -, notSmall, notLarge⟩ := stops byte rfl
    simp [readExponent, notSmall, notLarge]

theorem cuts_readExponent : Cuts readExponent := by
  intro bytes rest exponent reads
  cases bytes with
  | nil =>
    cases reads
    refine ⟨[], rfl, nofun, fun more resumes => ?_⟩
    obtain none | stops := resumes
    · rw [List.head?_eq_none_iff.1 none]
      rfl
    · exact readExponent_of_stops stops
  | cons letter later =>
    rw [readExponent] at reads
    split at reads
    case isTrue isLetter =>
      obtain ⟨taken, rfl, ascii, again⟩ := cuts_readSigned.map some reads
      have small : letter < 0x80 := by
        rcases (Bool.or_eq_true ..).mp isLetter with small | large
        · rw [eq_of_beq small]
          decide
        · rw [eq_of_beq large]
          decide
      refine ⟨letter :: taken, rfl, List.forall_mem_cons.2 ⟨small, ascii⟩, fun more resumes => ?_⟩
      rw [List.cons_append, readExponent, if_pos isLetter]
      exact again more resumes
    case isFalse notLetter =>
      cases reads
      refine ⟨[], rfl, nofun, fun more resumes => ?_⟩
      obtain same | stops := resumes
      · obtain ⟨others, rfl⟩ := List.head?_eq_some_iff.1 same
        rw [List.nil_append, readExponent, if_neg notLetter]
      · exact readExponent_of_stops stops

/-! ## Whole numbers -/

theorem cuts_readMagnitude (negative : Bool) : Cuts (readMagnitude negative) := by
  intro bytes rest numeral reads
  unfold readMagnitude at reads
  obtain ⟨⟨whole, afterWhole⟩, wholeReads, reads⟩ := Option.bind_eq_some_iff.1 reads
  dsimp only at reads
  split at reads
  case isTrue => cases reads
  case isFalse plain =>
    obtain ⟨⟨fraction, afterFraction⟩, fractionReads, reads⟩ := Option.bind_eq_some_iff.1 reads
    obtain ⟨⟨exponent, _⟩, exponentReads, reads⟩ := Option.bind_eq_some_iff.1 reads
    cases reads
    obtain ⟨first, rfl, firstAscii, wholeAgain⟩ := cuts_readDigits wholeReads
    obtain ⟨second, rfl, secondAscii, fractionAgain⟩ := cuts_readFraction fractionReads
    obtain ⟨third, rfl, thirdAscii, exponentAgain⟩ := cuts_readExponent exponentReads
    have ascii : ∀ byte ∈ first ++ (second ++ third), byte < 0x80 :=
      List.forall_mem_append.2 ⟨firstAscii, List.forall_mem_append.2 ⟨secondAscii, thirdAscii⟩⟩
    refine ⟨first ++ (second ++ third), by simp only [List.append_assoc], ascii, ?_⟩
    intro more resumes
    have fractionResumes := resumes.append third
    have wholeResumes := fractionResumes.append second
    simp only [List.append_assoc, readMagnitude, wholeAgain _ wholeResumes, if_neg plain,
      fractionAgain _ fractionResumes, exponentAgain more resumes, Option.bind_eq_bind,
      Option.bind_some]
    rfl

theorem exists_digit_of_readMagnitude {negative : Bool} {numeral : Numeral}
    (reads : readMagnitude negative bytes = some (numeral, rest)) :
    ∃ byte later, bytes = byte :: later ∧ isDigit byte = true := by
  obtain ⟨_, wholeReads, _⟩ := Option.bind_eq_some_iff.1 reads
  exact exists_digit_of_readDigits wholeReads

theorem readNumeral_of_magnitude {numeral : Numeral}
    (reads : readMagnitude false bytes = some (numeral, rest)) :
    readNumeral bytes = some (numeral, rest) := by
  obtain ⟨byte, later, rfl, digit⟩ := exists_digit_of_readMagnitude reads
  unfold readNumeral
  split
  case h_1 minus =>
    cases minus
    exact absurd digit (by decide)
  case h_2 => exact reads

/-- **A number can be cut off** behind its last byte. -/
theorem cuts_readNumeral : Cuts readNumeral := by
  intro bytes rest numeral reads
  unfold readNumeral at reads
  split at reads
  case h_1 =>
    obtain ⟨taken, rfl, ascii, again⟩ := cuts_readMagnitude true reads
    exact ⟨0x2d :: taken, rfl, List.forall_mem_cons.2 ⟨by decide, ascii⟩, again⟩
  case h_2 =>
    obtain ⟨taken, rfl, ascii, again⟩ := cuts_readMagnitude false reads
    exact ⟨taken, rfl, ascii, fun more resumes => readNumeral_of_magnitude (again more resumes)⟩

variable {numeral : Numeral}

/-- Bytes that follow do not change a number, unless it reached the end and goes on with them. -/
theorem readNumeral_append (reads : readNumeral bytes = some (numeral, rest))
    (stops : rest = [] → Stops more) :
    readNumeral (bytes ++ more) = some (numeral, rest ++ more) := by
  obtain ⟨taken, rfl, -, again⟩ := cuts_readNumeral reads
  rw [List.append_assoc]
  apply again
  cases rest with
  | nil => exact .inr (stops rfl)
  | cons byte rest => exact .inl rfl

/-- All that a number takes up is ASCII. -/
theorem takes_of_readNumeral (reads : readNumeral bytes = some (numeral, rest)) :
    Takes bytes rest := by
  obtain ⟨taken, whole, ascii, -⟩ := cuts_readNumeral reads
  exact ⟨taken, whole, ascii⟩

/-- A number begins with a digit or a minus sign. -/
theorem exists_head_of_readNumeral (reads : readNumeral bytes = some (numeral, rest)) :
    ∃ byte later, bytes = byte :: later ∧ (isDigit byte = true ∨ byte = 0x2d) := by
  unfold readNumeral at reads
  split at reads
  case h_1 later => exact ⟨0x2d, later, rfl, .inr rfl⟩
  case h_2 =>
    obtain ⟨byte, later, same, digit⟩ := exists_digit_of_readMagnitude reads
    exact ⟨byte, later, same, .inl digit⟩

end Turnstile.Json
