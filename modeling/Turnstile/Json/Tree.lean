import Turnstile.Text.Utf8

/-!
# JSON trees

A tree is what a JSON text says before anybody asks what it means: members of records stand in
their order and may repeat, numbers keep their digits, and strings keep their escapes. A string
is therefore a token, and has a text only if its bytes are UTF-8 and its escapes are not halves
of a surrogate pair (`Token.text?`).
-/

set_option autoImplicit false

namespace Turnstile.Json

/-- A piece of a string: a byte written as it is, or a UTF-16 unit written as an escape. -/
inductive Piece where
  | byte (value : UInt8)
  | unit (value : Nat)
deriving DecidableEq, Repr

/-- A string as it is written between its quotes. -/
abbrev Token := List Piece

namespace Token

/-- Whether a UTF-16 unit is the first half of a pair. -/
def isHigh (value : Nat) : Bool := 0xd800 ≤ value && value < 0xdc00

/-- Whether a UTF-16 unit is the second half of a pair. -/
def isLow (value : Nat) : Bool := 0xdc00 ≤ value && value < 0xe000

/-- The bytes that a token stands for; none if half of a surrogate pair stands alone. -/
def bytes? : Token → Option (List UInt8)
  | [] => some []
  | .byte value :: rest => (bytes? rest).map (value :: ·)
  | .unit first :: .unit second :: rest =>
    if isHigh first then
      if isLow second then
        (bytes? rest).map
          (String.utf8EncodeChar (Char.ofNat
            (0x10000 + (first - 0xd800) * 0x400 + (second - 0xdc00))) ++ ·)
      else none
    else if isLow first then none
    else (bytes? (.unit second :: rest)).map (String.utf8EncodeChar (Char.ofNat first) ++ ·)
  | .unit value :: rest =>
    if isHigh value || isLow value then none
    else (bytes? rest).map (String.utf8EncodeChar (Char.ofNat value) ++ ·)

/-- The text that a token stands for. -/
def text? (token : Token) : Option String := (bytes? token).bind Utf8.decode?

end Token

/-- A number: its digits read as one whole number, and the power of ten that scales them. -/
structure Numeral where
  negative : Bool
  digits : Nat
  scale : Int
  /-- Written without point and exponent. -/
  isInteger : Bool
deriving DecidableEq, Repr

/-- A JSON value as written. -/
inductive Tree where
  | null
  | boolean (value : Bool)
  | number (numeral : Numeral)
  | text (token : Token)
  | list (items : List Tree)
  | record (members : List (Token × Tree))

/-! ## Numbers that fit a double -/

/-- The number of decimal digits. -/
def decimalLength (number : Nat) : Nat := (Nat.toDigits 10 number).length

/-- The least whole number that is rounded to infinity. -/
def doubleLimit : Nat := Nat.pow 2 1024 - Nat.pow 2 970

/-- Whether the number has a finite value as a double. The magnitude is settled by the position
of the first digit unless it is next to the limit. -/
def Numeral.fitsDouble (numeral : Numeral) : Bool :=
  if numeral.digits = 0 then true
  else
    let magnitude : Int := decimalLength numeral.digits + numeral.scale
    if magnitude < 309 then true
    else if 309 < magnitude then false
    else if 0 ≤ numeral.scale then numeral.digits * Nat.pow 10 numeral.scale.toNat < doubleLimit
    else numeral.digits < doubleLimit * Nat.pow 10 (-numeral.scale).toNat

end Turnstile.Json
