import Turnstile.Json.Tree

/-!
# Reading JSON

`read?` turns the bytes of a JSON text into its tree. It accepts exactly one value with blanks
around it: no comments, no trailing commas, no leading zeros, no control characters in strings.
Bytes of strings are not checked here, because a string whose text nobody asks for may hold any.
-/

set_option autoImplicit false

namespace Turnstile.Json

/-- Whether a byte may stand between the parts of a text. -/
def isSpace (byte : UInt8) : Bool :=
  byte == 0x20 || byte == 0x09 || byte == 0x0a || byte == 0x0d

/-- The bytes from the first that is not blank. -/
def skipSpace (bytes : List UInt8) : List UInt8 := bytes.dropWhile isSpace

/-! ## Numbers -/

/-- Whether a byte is an ASCII digit. -/
def isDigit (byte : UInt8) : Bool := 0x30 ≤ byte && byte ≤ 0x39

/-- The number that ASCII digits write. -/
def digitsValue (digits : List UInt8) : Nat :=
  digits.foldl (fun value digit => value * 10 + (digit.toNat - 0x30)) 0

/-- At least one digit, as many as there are. -/
def readDigits (bytes : List UInt8) : Option (List UInt8 × List UInt8) :=
  match bytes.takeWhile isDigit with
  | [] => none
  | digits => some (digits, bytes.dropWhile isDigit)

/-- The digits after a point, if there is one. -/
def readFraction : List UInt8 → Option (List UInt8 × List UInt8)
  | 0x2e :: rest => readDigits rest
  | bytes => some ([], bytes)

/-- A whole number that may have a sign. -/
def readSigned : List UInt8 → Option (Int × List UInt8)
  | 0x2b :: rest => (readDigits rest).map fun (digits, rest) => (digitsValue digits, rest)
  | 0x2d :: rest => (readDigits rest).map fun (digits, rest) => (-digitsValue digits, rest)
  | bytes => (readDigits bytes).map fun (digits, rest) => (digitsValue digits, rest)

/-- The exponent after its letter, if there is one. -/
def readExponent : List UInt8 → Option (Option Int × List UInt8)
  | [] => some (none, [])
  | letter :: rest =>
    if letter == 0x65 || letter == 0x45 then
      (readSigned rest).map fun (exponent, rest) => (some exponent, rest)
    else some (none, letter :: rest)

/-- A number without its sign. -/
def readMagnitude (negative : Bool) (bytes : List UInt8) : Option (Numeral × List UInt8) := do
  let (whole, rest) ← readDigits bytes
  if whole.head? = some 0x30 ∧ whole.length ≠ 1 then none
  else
    let (fraction, rest') ← readFraction rest
    let (exponent, rest'') ← readExponent rest'
    let numeral := {
      negative
      digits := digitsValue (whole ++ fraction)
      scale := exponent.getD 0 - fraction.length
      isInteger := fraction.isEmpty && exponent.isNone : Numeral }
    return (numeral, rest'')

/-- A number. -/
def readNumeral : List UInt8 → Option (Numeral × List UInt8)
  | 0x2d :: rest => readMagnitude true rest
  | bytes => readMagnitude false bytes

/-! ## Strings -/

/-- The value of a hexadecimal digit. -/
def hexDigit? (byte : UInt8) : Option Nat :=
  if isDigit byte then some (byte.toNat - 0x30)
  else if 0x61 ≤ byte && byte ≤ 0x66 then some (byte.toNat - 0x61 + 10)
  else if 0x41 ≤ byte && byte ≤ 0x46 then some (byte.toNat - 0x41 + 10)
  else none

/-- The unit that four hexadecimal digits write. -/
def hexUnit? (first second third fourth : UInt8) : Option Nat := do
  let a ← hexDigit? first
  let b ← hexDigit? second
  let c ← hexDigit? third
  let d ← hexDigit? fourth
  return ((a * 16 + b) * 16 + c) * 16 + d

/-- The unit that an escape of one letter writes. -/
def shortEscape? (letter : UInt8) : Option Nat :=
  if letter == 0x22 || letter == 0x5c || letter == 0x2f then some letter.toNat
  else if letter == 0x62 then some 0x08
  else if letter == 0x66 then some 0x0c
  else if letter == 0x6e then some 0x0a
  else if letter == 0x72 then some 0x0d
  else if letter == 0x74 then some 0x09
  else none

/-- A string up to and with its closing quote, the opening one being read. -/
def readToken : List UInt8 → Option (Token × List UInt8)
  | [] => none
  | 0x22 :: rest => some ([], rest)
  | 0x5c :: 0x75 :: a :: b :: c :: d :: rest => do
    let value ← hexUnit? a b c d
    let (pieces, rest) ← readToken rest
    return (.unit value :: pieces, rest)
  | 0x5c :: letter :: rest => do
    let value ← shortEscape? letter
    let (pieces, rest) ← readToken rest
    return (.unit value :: pieces, rest)
  | byte :: rest =>
    if byte < 0x20 ∨ byte = 0x5c then none
    else do
      let (pieces, rest) ← readToken rest
      return (.byte byte :: pieces, rest)

/-! ## Values

The budget bounds the number of nested calls; `read?` gives one that no text can use up, since
every two calls read at least one byte.
-/

mutual

/-- A value, with blanks before it. -/
def readTree : Nat → List UInt8 → Option (Tree × List UInt8)
  | 0, _ => none
  | budget + 1, bytes =>
    match skipSpace bytes with
    | 0x6e :: 0x75 :: 0x6c :: 0x6c :: rest => some (.null, rest)
    | 0x74 :: 0x72 :: 0x75 :: 0x65 :: rest => some (.boolean true, rest)
    | 0x66 :: 0x61 :: 0x6c :: 0x73 :: 0x65 :: rest => some (.boolean false, rest)
    | 0x22 :: rest => (readToken rest).map fun (token, rest) => (.text token, rest)
    | 0x5b :: rest =>
      match skipSpace rest with
      | 0x5d :: rest => some (.list [], rest)
      | rest => (readItems budget rest).map fun (items, rest) => (.list items, rest)
    | 0x7b :: rest =>
      match skipSpace rest with
      | 0x7d :: rest => some (.record [], rest)
      | rest => (readMembers budget rest).map fun (members, rest) => (.record members, rest)
    | rest => (readNumeral rest).map fun (numeral, rest) => (.number numeral, rest)

/-- One item or more, up to and with the closing bracket. -/
def readItems : Nat → List UInt8 → Option (List Tree × List UInt8)
  | 0, _ => none
  | budget + 1, bytes => do
    let (item, rest) ← readTree budget bytes
    match skipSpace rest with
    | 0x5d :: rest => return ([item], rest)
    | 0x2c :: rest =>
      let (items, rest) ← readItems budget rest
      return (item :: items, rest)
    | _ => none

/-- One member or more, up to and with the closing brace. -/
def readMembers : Nat → List UInt8 → Option (List (Token × Tree) × List UInt8)
  | 0, _ => none
  | budget + 1, bytes =>
    match skipSpace bytes with
    | 0x22 :: rest => do
      let (key, rest) ← readToken rest
      match skipSpace rest with
      | 0x3a :: rest =>
        let (value, rest) ← readTree budget rest
        match skipSpace rest with
        | 0x7d :: rest => return ([(key, value)], rest)
        | 0x2c :: rest =>
          let (members, rest) ← readMembers budget rest
          return ((key, value) :: members, rest)
        | _ => none
      | _ => none
    | _ => none

end

/-- The tree of a JSON text. -/
def read? (bytes : List UInt8) : Option Tree := do
  let (tree, rest) ← readTree (2 * bytes.length + 2) bytes
  if (skipSpace rest).isEmpty then return tree else none

end Turnstile.Json
