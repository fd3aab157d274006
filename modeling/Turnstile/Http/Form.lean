import Turnstile.Text.Utf8

/-!
# Percent encoding and form data

A byte that may not stand in a place is written there as a percent sign and two upper-case
hexadecimal digits; when it is read, their case does not matter. In form data letters, digits and
the signs `*`, `-`, `.` and `_` stand for themselves, and a plus sign stands for a space.
-/

set_option autoImplicit false

namespace Turnstile.Http

/-- An upper-case hexadecimal digit. -/
def hexDigit (value : Nat) : Char :=
  if value < 10 then Char.ofNat (0x30 + value) else Char.ofNat (0x41 + (value - 10))

/-- A byte in percent encoding. -/
def percent (byte : UInt8) : List Char :=
  ['%', hexDigit (byte.toNat / 16), hexDigit (byte.toNat % 16)]

/-- The percent encoding of a character. -/
def percentChar (character : Char) : List Char :=
  (String.utf8EncodeChar character).flatMap percent

/-- The value of a hexadecimal digit. -/
def hexValue? (digit : Char) : Option Nat :=
  if '0' ≤ digit ∧ digit ≤ '9' then some (digit.toNat - 0x30)
  else if 'A' ≤ digit ∧ digit ≤ 'F' then some (digit.toNat - 0x37)
  else if 'a' ≤ digit ∧ digit ≤ 'f' then some (digit.toNat - 0x57)
  else none

/-- The bytes of a text whose percent encodings are undone. -/
def percentDecode : List Char → List UInt8
  | '%' :: high :: low :: rest =>
    match hexValue? high, hexValue? low with
    | some high, some low => .ofNat (16 * high + low) :: percentDecode rest
    | _, _ => 0x25 :: percentDecode (high :: low :: rest)
  | character :: rest => String.utf8EncodeChar character ++ percentDecode rest
  | [] => []

namespace Form

/-- Whether a byte stands for itself in form data. -/
def isPlain (byte : UInt8) : Bool :=
  (0x30 ≤ byte && byte ≤ 0x39) || (0x41 ≤ byte && byte ≤ 0x5a) || (0x61 ≤ byte && byte ≤ 0x7a) ||
    byte == 0x2a || byte == 0x2d || byte == 0x2e || byte == 0x5f

/-- A byte of form data. -/
def encodeByte (byte : UInt8) : List Char :=
  if isPlain byte then [Char.ofNat byte.toNat]
  else if byte = 0x20 then ['+']
  else percent byte

/-- A text as form data. -/
def encodeText (text : String) : List Char := (Utf8.encode text).flatMap encodeByte

/-- A name with its value. -/
def encodePair (pair : String × String) : List Char :=
  encodeText pair.1 ++ ['='] ++ encodeText pair.2

/-- Names with their values, as a query. -/
def encode (pairs : List (String × String)) : List Char :=
  ['&'].intercalate (pairs.map encodePair)

end Form

end Turnstile.Http
