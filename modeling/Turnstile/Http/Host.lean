import Turnstile.Http.Form
import Turnstile.Text.Utf8

/-!
# Hosts

A host is a name, an address of four bytes, or, in brackets, an address of eight groups of sixteen
bits. Addresses can be written in many ways, and are kept as they are commonly written: four decimal
bytes, or eight hexadecimal groups with the longest run of zeros left out. Names are kept in lower
case and without percent encoding. A name that ends in a number has to be an address.

A name with other characters than ASCII is kept as it is; on its way to a name server it would be
translated.
-/

set_option autoImplicit false

namespace Turnstile.Http.Host

/-- The number that digits write in a base. -/
def readDigits (base : Nat) (digits : List Char) : Option Nat :=
  digits.foldlM (fun value digit =>
    ((hexValue? digit).filter (· < base)).map (value * base + ·)) 0

/-! ## Four bytes -/

/-- A number: hexadecimal after `0x`, octal after another zero, or decimal. -/
def readNumber : List Char → Option Nat
  | [] => none
  | '0' :: 'x' :: digits => readDigits 16 digits
  | '0' :: 'X' :: digits => readDigits 16 digits
  | '0' :: digits => readDigits 8 digits
  | digits => readDigits 10 digits

/-- The parts of a name between its dots; a dot at its end does not count. -/
def labels (name : List Char) : List (List Char) :=
  let parts := name.splitOn '.'
  if parts.getLast? = some [] then parts.dropLast else parts

/-- Whether the last part of a name is a number. Digits are one, even if they cannot be read. -/
def endsInNumber (name : List Char) : Bool :=
  match (labels name).getLast? with
  | some last => !last.isEmpty && last.all Char.isDigit || (readNumber last).isSome
  | none => false

/-- An address of four bytes, as one number. The last of its numbers stands for all bytes that are
not given before. -/
def readFour (name : List Char) : Option Nat := do
  let numbers ← (labels name).mapM readNumber
  let last ← numbers.getLast?
  let bytes := numbers.dropLast
  let rest := Nat.pow 256 (4 - bytes.length)
  if bytes.length < 4 ∧ (∀ byte ∈ bytes, byte < 256) ∧ last < rest then
    some (bytes.foldl (· * 256 + ·) 0 * rest + last)
  else none

/-- The four bytes of an address. -/
def writeFour (address : Nat) : String :=
  ".".intercalate ([3, 2, 1, 0].map fun place => toString (address / Nat.pow 256 place % 256))

/-! ## Eight groups -/

/-- A group: up to four hexadecimal digits. -/
def readGroup (digits : List Char) : Option Nat :=
  if digits.isEmpty || 4 < digits.length then none else readDigits 16 digits

/-- A byte: decimal, without leading zeros. -/
def readByte (digits : List Char) : Option Nat :=
  if digits.isEmpty || (digits.head? = some '0' && 1 < digits.length) then none
  else (readDigits 10 digits).filter (· < 256)

/-- The end of an address: a group, or two of them as four bytes. -/
def readEnd (text : List Char) : Option (List Nat) :=
  if '.' ∈ text then
    match (text.splitOn '.').mapM readByte with
    | some [first, second, third, fourth] => some [first * 256 + second, third * 256 + fourth]
    | _ => none
  else (readGroup text).map ([·])

/-- Groups with colons between them, the last of which `readLast` reads; nothing stands for
none. -/
def readGroups (readLast : List Char → Option (List Nat)) (text : List Char) :
    Option (List Nat) := do
  if text.isEmpty then return []
  let parts := text.splitOn ':'
  let groups ← parts.dropLast.mapM readGroup
  return groups ++ (← readLast (parts.getLast?.getD []))

/-- The text before and behind the first two colons in succession. -/
def cutAtGap : List Char → Option (List Char × List Char)
  | ':' :: ':' :: rest => some ([], rest)
  | character :: rest =>
    (cutAtGap rest).map fun (before, behind) => (character :: before, behind)
  | [] => none

/-- An address of eight groups. Two colons in succession stand for as many groups of zeros as are
missing, and at least for one. -/
def readEight (text : List Char) : Option (List Nat) :=
  match cutAtGap text with
  | none => (readGroups readEnd text).filter (·.length = 8)
  | some (before, behind) => do
    let before ← readGroups (fun last => (readGroup last).map ([·])) before
    let behind ← readGroups readEnd behind
    let given := before.length + behind.length
    if given < 8 then some (before ++ List.replicate (8 - given) 0 ++ behind) else none

/-- Where the first of the longest runs of zeros begins, and how long it is. -/
def longestRun (groups : List Nat) : Nat × Nat :=
  (List.range groups.length).foldl
    (fun longest start =>
      let length := ((groups.drop start).takeWhile (· = 0)).length
      if longest.2 < length then (start, length) else longest)
    (0, 0)

/-- The groups of an address. A single zero is not left out. -/
def writeEight (groups : List Nat) : String :=
  let write (groups : List Nat) : String :=
    ":".intercalate (groups.map fun group => String.ofList (Nat.toDigits 16 group))
  let (start, length) := longestRun groups
  if length < 2 then write groups
  else write (groups.take start) ++ "::" ++ write (groups.drop (start + length))

/-! ## Hosts -/

/-- Whether a character may not stand in a name. -/
def isForbidden (character : Char) : Bool :=
  character.toNat ≤ 0x20 || character.toNat == 0x7f ||
    character ∈ ['#', '/', ':', '<', '>', '?', '@', '[', '\\', ']', '^', '|', '%']

/-- A name or an address of four bytes. -/
def readName (text : List Char) : Option String := do
  let plain ← if '%' ∈ text then Utf8.decode? (percentDecode text) else some (String.ofList text)
  let name := plain.toList.map Char.toLower
  if name.isEmpty || name.any isForbidden then none
  else if endsInNumber name then (readFour name).map writeFour
  else some (String.ofList name)

/-- Read a host. -/
def read : List Char → Option String
  | '[' :: rest =>
    if rest.getLast? = some ']' then
      (readEight rest.dropLast).map fun groups => "[" ++ writeEight groups ++ "]"
    else none
  | text => readName text

/-- A text up to the colon that ends a host, and from there on: a colon in brackets does not. -/
def cut : Bool → List Char → List Char × List Char
  | _, [] => ([], [])
  | isInside, character :: rest =>
    if character = ':' && !isInside then ([], character :: rest)
    else
      let (host, behind) := cut (character = '[' || isInside && character ≠ ']') rest
      (character :: host, behind)

end Turnstile.Http.Host
