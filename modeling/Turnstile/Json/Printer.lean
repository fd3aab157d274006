import Turnstile.Json.Tree

/-!
# Writing JSON

The compact form of a tree: no blanks, and escapes only where a string cannot do without.
-/

set_option autoImplicit false

namespace Turnstile.Json

/-- The token of a text: its bytes as they are, save quotes, backslashes and control characters. -/
def Token.ofText (text : String) : Token :=
  (Utf8.encode text).map fun byte =>
    if byte < 0x20 ∨ byte = 0x22 ∨ byte = 0x5c then .unit byte.toNat else .byte byte

/-- The tree of a text. -/
def Tree.ofText (text : String) : Tree := .text (Token.ofText text)

/-- A record with the given members. -/
def Tree.ofMembers (members : List (String × Tree)) : Tree :=
  .record (members.map fun member => (Token.ofText member.1, member.2))

/-- The ASCII bytes of a text. -/
def ascii (text : String) : List UInt8 := text.toList.map fun character => character.toUInt8

/-- A lower-case hexadecimal digit. -/
def hexByte (value : Nat) : UInt8 :=
  if value < 10 then (0x30 + value).toUInt8 else (0x61 + (value - 10)).toUInt8

/-- A piece of a string. -/
def Piece.print : Piece → List UInt8
  | .byte value => [value]
  | .unit value =>
    if value = 0x22 then ascii "\\\""
    else if value = 0x5c then ascii "\\\\"
    else if value = 0x08 then ascii "\\b"
    else if value = 0x0c then ascii "\\f"
    else if value = 0x0a then ascii "\\n"
    else if value = 0x0d then ascii "\\r"
    else if value = 0x09 then ascii "\\t"
    else ascii "\\u" ++ [hexByte (value / 4096 % 16), hexByte (value / 256 % 16),
      hexByte (value / 16 % 16), hexByte (value % 16)]

/-- A string with its quotes. -/
def Token.print (token : Token) : List UInt8 := [0x22] ++ token.flatMap Piece.print ++ [0x22]

/-- A number, with an exponent unless it is written as an integer. -/
def Numeral.print (numeral : Numeral) : List UInt8 :=
  (if numeral.negative then [0x2d] else []) ++ ascii (toString numeral.digits) ++
    (if numeral.isInteger then [] else ascii ("e" ++ toString numeral.scale))

namespace Tree

mutual

/-- The compact form of a tree. -/
def print : Tree → List UInt8
  | .null => ascii "null"
  | .boolean true => ascii "true"
  | .boolean false => ascii "false"
  | .number numeral => numeral.print
  | .text token => token.print
  | .list items => [0x5b] ++ printItems items ++ [0x5d]
  | .record members => [0x7b] ++ printMembers members ++ [0x7d]

/-- Values separated by commas. -/
def printItems : List Tree → List UInt8
  | [] => []
  | [item] => print item
  | item :: rest => print item ++ [0x2c] ++ printItems rest

/-- Members separated by commas. -/
def printMembers : List (Token × Tree) → List UInt8
  | [] => []
  | [(token, value)] => token.print ++ [0x3a] ++ print value
  | (token, value) :: rest => token.print ++ [0x3a] ++ print value ++ [0x2c] ++ printMembers rest

end

end Tree

end Turnstile.Json
