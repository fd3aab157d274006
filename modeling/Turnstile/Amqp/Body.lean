import Turnstile.Text.Utf8

/-!
# Bodies of AMQP messages

The text of a message is in its data sections, taken together, or in a single value that is a
string or binary. Bytes have a text if they are valid UTF-8. A body without text is delivered as
the empty text, so that whoever reads it can settle it.
-/

set_option autoImplicit false

namespace Turnstile.Amqp

/-- A value in a body. -/
inductive Value where
  | null
  | boolean (value : Bool)
  | integer (value : Int)
  | symbol (name : String)
  | text (text : String)
  | binary (bytes : List UInt8)
  /-- Of any other kind, such as a fraction, an instant or a list: nothing looks into it. -/
  | other
deriving DecidableEq, Repr

/-- The body of a message. -/
inductive Body where
  | data (sections : List (List UInt8))
  | value (value : Value)
  | sequence (items : List Value)
  | empty
deriving Repr

namespace Body

/-- The text of a body. Data sections are joined before they are decoded, for a character may
straddle them. -/
def text? : Body → Option String
  | .data sections => Utf8.decode? sections.flatten
  | .value (.text text) => some text
  | .value (.binary bytes) => Utf8.decode? bytes
  | .value _ => none
  | .sequence _ => none
  | .empty => none

/-- The text that a reader delivers. -/
def delivered (body : Body) : String := body.text?.getD ""

end Body

end Turnstile.Amqp
