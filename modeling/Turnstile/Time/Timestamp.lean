import Turnstile.Text.Blank
import Turnstile.Text.Decimal
import Turnstile.Time.Calendar

/-!
# Timestamps

A timestamp is read from a date, a time of day and an offset from UTC, and written in UTC with
nine digits of a second. The reader is lenient in the width of numbers and about blanks, and
strict about the ranges: there is no hour 24 and no 29 February in a common year, but a sixtieth
second is kept as a leap second.
-/

set_option autoImplicit false

namespace Turnstile.Time

/-- An instant: whole seconds since 1970-01-01T00:00:00Z, and nanoseconds on top. From a billion
nanoseconds on they lie in the leap second after that second. -/
structure Timestamp where
  seconds : Int
  nanoseconds : Nat
deriving DecidableEq, Repr

namespace Timestamp

/-- A reader of a part: what it says and the rest of the text. -/
abbrev Reader (α : Type) := List Char → Option (α × List Char)

/-- Read ASCII digits, at least one and at most the given number: their value and how many. -/
def readDigits (width : Nat) : Reader (Nat × Nat) := fun text =>
  let digits := ((text.take width).takeWhile fun character =>
    (Decimal.digit? character).isSome).filterMap Decimal.digit?
  if digits.isEmpty then none
  else
    some ((digits.foldl (fun value digit => value * 10 + digit) 0, digits.length),
      text.drop digits.length)

/-- Read a number after blanks and check its range. -/
def readNumber (low high : Nat) : Reader Nat := fun text => do
  let ((value, _), rest) ← readDigits 2 (Text.skipBlank text)
  if low ≤ value ∧ value ≤ high then return (value, rest) else none

/-- Read a year: four digits at most, or any number of them after a sign. -/
def readYear : Reader Int := fun text =>
  match Text.skipBlank text with
  | '-' :: rest =>
    (readDigits rest.length rest).map fun ((value, _), rest) => (-(value : Int), rest)
  | '+' :: rest => (readDigits rest.length rest).map fun ((value, _), rest) => (value, rest)
  | rest => (readDigits 4 rest).map fun ((value, _), rest) => (value, rest)

/-- Read a given character. -/
def expect (wanted : Char) : Reader Unit := fun text =>
  match text with
  | character :: rest => if character = wanted then some ((), rest) else none
  | [] => none

/-- Read a date. -/
def readDate : Reader Date := fun text => do
  let (year, rest) ← readYear text
  let ((), rest) ← expect '-' (Text.skipBlank rest)
  let (month, rest) ← readNumber 1 12 rest
  let ((), rest) ← expect '-' (Text.skipBlank rest)
  let (day, rest) ← readNumber 1 31 rest
  let date : Date := ⟨year, month, day⟩
  if date.IsValid then return (date, rest) else none

/-- Read the nanoseconds after a point, if there is one; digits after the ninth are dropped. -/
def readFraction : Reader Nat := fun text =>
  match text with
  | '.' :: rest => do
    let ((value, count), rest) ← readDigits 9 rest
    return (value * Nat.pow 10 (9 - count), rest.dropWhile fun character =>
      (Decimal.digit? character).isSome)
  | rest => some (0, rest)

/-- Read a time of day: seconds since midnight and nanoseconds. -/
def readTime : Reader (Nat × Nat) := fun text => do
  let (hour, rest) ← readNumber 0 23 text
  let ((), rest) ← expect ':' (Text.skipBlank rest)
  let (minute, rest) ← readNumber 0 59 rest
  let ((), rest) ← expect ':' (Text.skipBlank rest)
  let (second, rest) ← readNumber 0 60 rest
  let (nanoseconds, rest) ← readFraction rest
  if second = 60 then
    return ((hour * 3600 + minute * 60 + 59, 1000000000 + nanoseconds), rest)
  else return ((hour * 3600 + minute * 60 + second, nanoseconds), rest)

/-- Read exactly two digits. -/
def readPair : Reader Nat := fun text => do
  let ((value, count), rest) ← readDigits 2 text
  if count = 2 then return (value, rest) else none

/-- Read hours and minutes of an offset, in seconds. -/
def readOffsetAmount : Reader Nat := fun text => do
  let (hours, rest) ← readPair text
  let (minutes, rest) ← readPair (rest.dropWhile fun character =>
    character == ':' || Text.isBlank character)
  if minutes < 60 then return (hours * 3600 + minutes * 60, rest) else none

/-- Read an offset from UTC in seconds. -/
def readOffset : Reader Int := fun text =>
  match text with
  | 'Z' :: rest => some (0, rest)
  | 'z' :: rest => some (0, rest)
  | '+' :: rest => (readOffsetAmount rest).map fun (amount, rest) => ((amount : Int), rest)
  | '-' :: rest => (readOffsetAmount rest).map fun (amount, rest) => (-(amount : Int), rest)
  | '\u2212' :: rest => (readOffsetAmount rest).map fun (amount, rest) => (-(amount : Int), rest)
  | u :: t :: c :: rest =>
    if u.toUpper = 'U' ∧ t.toUpper = 'T' ∧ c.toUpper = 'C' then some (0, rest) else none
  | _ => none

/-- The instant of a date and a time of day at an offset. -/
def assemble (date : Date) (time : Nat × Nat) (offset : Int) : Option Timestamp :=
  if -86400 < offset ∧ offset < 86400 then
    let seconds := date.toDays * 86400 + time.1 - offset
    let day := Date.ofDays (seconds / 86400)
    if Date.minYear ≤ day.year ∧ day.year ≤ Date.maxYear then some ⟨seconds, time.2⟩ else none
  else none

/-- Read a timestamp. -/
def parse (text : String) : Option Timestamp := do
  let (date, rest) ← readDate text.toList
  match rest with
  | separator :: rest =>
    if separator = 'T' ∨ separator = 't' ∨ separator = ' ' then
      let (time, rest) ← readTime rest
      let (offset, rest) ← readOffset (Text.skipBlank rest)
      if (Text.skipBlank rest).isEmpty then assemble date time offset else none
    else none
  | [] => none

/-! ## Writing -/

/-- A number with zeros in front up to the given width. -/
def padded (width number : Nat) : String :=
  let digits := Nat.toDigits 10 number
  String.ofList (List.replicate (width - digits.length) '0' ++ digits)

/-- A year: four digits, and with a sign outside of the years 0 to 9999. -/
def yearText (year : Int) : String :=
  if 0 ≤ year ∧ year ≤ 9999 then padded 4 year.toNat
  else if year < 0 then "-" ++ padded 4 year.natAbs
  else "+" ++ padded 4 year.natAbs

/-- The timestamp in UTC. -/
def text (timestamp : Timestamp) : String :=
  let date := Date.ofDays (timestamp.seconds / 86400)
  let time := (timestamp.seconds % 86400).toNat
  let isLeap := 1000000000 ≤ timestamp.nanoseconds
  let second := if isLeap then time % 60 + 1 else time % 60
  let fraction := if isLeap then timestamp.nanoseconds - 1000000000 else timestamp.nanoseconds
  s!"{yearText date.year}-{padded 2 date.month}-{padded 2 date.day}T" ++
    s!"{padded 2 (time / 3600)}:{padded 2 (time / 60 % 60)}:{padded 2 second}." ++
    s!"{padded 9 fraction}Z"

end Timestamp

end Turnstile.Time
