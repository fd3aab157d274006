import Turnstile.Text.Hidden

/-!
# Quoted text

Messages quote the values they complain about, so that a stray blank or control character can be
seen. A text stands in double quotes and a character in single quotes. The quote in use and the
backslash are escaped by a backslash; tab, newline, carriage return and NUL have letters; every
other hidden character is written by its code point in braces.
-/

set_option autoImplicit false

namespace Turnstile.Text

/-- The lower-case hexadecimal digits of a number, without leading zeros. -/
def hexDigits (number : Nat) : List Char :=
  Nat.toDigits 16 number

/-- One character inside the given quote. -/
def escapeChar (quote : Char) (character : Char) : List Char :=
  if character = '\x00' then ['\\', '0']
  else if character = '\t' then ['\\', 't']
  else if character = '\n' then ['\\', 'n']
  else if character = '\r' then ['\\', 'r']
  else if character = '\\' ∨ character = quote then ['\\', character]
  else if character.toNat < 0x20 ∨ isHidden character then
    ['\\', 'u', '\x7b'] ++ hexDigits character.toNat ++ ['\x7d']
  else [character]

/-- A text in double quotes. -/
def quote (text : String) : String :=
  String.ofList (['"'] ++ text.toList.flatMap (escapeChar '"') ++ ['"'])

/-- A character in single quotes. -/
def quoteChar (character : Char) : String :=
  String.ofList (['\''] ++ escapeChar '\'' character ++ ['\''])

/-- Nothing but the quotes is added to a text of plain letters and digits. -/
example : quote "jobs-1" = "\"jobs-1\"" := by decide +kernel

end Turnstile.Text
