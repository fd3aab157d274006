/-!
# Blank characters

The characters with the Unicode property White_Space. They may stand around the parts of a
timestamp.
-/

set_option autoImplicit false

namespace Turnstile.Text

/-- Whether a character has the Unicode property White_Space. -/
def isBlank (character : Char) : Bool :=
  let code := character.toNat
  (0x09 ≤ code && code ≤ 0x0d) || code == 0x20 || code == 0x85 || code == 0xa0 ||
    code == 0x1680 || (0x2000 ≤ code && code ≤ 0x200a) || code == 0x2028 || code == 0x2029 ||
    code == 0x202f || code == 0x205f || code == 0x3000

/-- The text from its first character that is not blank. -/
def skipBlank (text : List Char) : List Char :=
  text.dropWhile isBlank

end Turnstile.Text
