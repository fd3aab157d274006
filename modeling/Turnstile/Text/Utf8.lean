/-!
# UTF-8

Bytes are read as a sequence of symbols: a symbol is a character, or a broken stretch, which is
the longest beginning of a character at that place, and at least one byte. `decode?` accepts a
byte sequence without broken stretches; `decodeLossy` puts U+FFFD for each of them.
-/

set_option autoImplicit false

namespace Turnstile.Utf8

/-- The bytes of a text. -/
def encode (text : String) : List UInt8 :=
  text.toList.flatMap String.utf8EncodeChar

/-- What a leading byte announces: how many bytes follow it, the range of the first of these, and
the leading byte's own bits. -/
structure Lead where
  following : Nat
  low : UInt8
  high : UInt8
  bits : Nat

/-- The meaning of a byte at the start of a character; none if no character starts with it. -/
def lead? (byte : UInt8) : Option Lead :=
  if byte < 0x80 then some ⟨0, 0x80, 0xbf, byte.toNat⟩
  else if byte < 0xc2 then none
  else if byte < 0xe0 then some ⟨1, 0x80, 0xbf, byte.toNat - 0xc0⟩
  else if byte = 0xe0 then some ⟨2, 0xa0, 0xbf, 0⟩
  else if byte = 0xed then some ⟨2, 0x80, 0x9f, 0x0d⟩
  else if byte < 0xf0 then some ⟨2, 0x80, 0xbf, byte.toNat - 0xe0⟩
  else if byte = 0xf0 then some ⟨3, 0x90, 0xbf, 0⟩
  else if byte < 0xf4 then some ⟨3, 0x80, 0xbf, byte.toNat - 0xf0⟩
  else if byte = 0xf4 then some ⟨3, 0x80, 0x8f, 4⟩
  else none

/-- Take the announced bytes; the code point if all are there, and what remains in either case. -/
def follow : Nat → UInt8 → UInt8 → Nat → List UInt8 → Option Nat × List UInt8
  | 0, _, _, bits, rest => (some bits, rest)
  | _ + 1, _, _, _, [] => (none, [])
  | following + 1, low, high, bits, byte :: rest =>
    if low ≤ byte ∧ byte ≤ high then
      follow following 0x80 0xbf (bits * 64 + (byte.toNat - 0x80)) rest
    else (none, byte :: rest)

theorem length_follow_le (following : Nat) (low high : UInt8) (bits : Nat) (bytes : List UInt8) :
    (follow following low high bits bytes).2.length ≤ bytes.length := by
  induction following generalizing low high bits bytes with
  | zero => simp [follow]
  | succ following ih =>
    cases bytes with
    | nil => simp [follow]
    | cons byte rest =>
      rw [follow]
      split
      · exact Nat.le_trans (ih _ _ _ _) (by simp)
      · simp

/-- The symbols of a byte sequence: characters, and `none` for each broken stretch. -/
def symbols : List UInt8 → List (Option Char)
  | [] => []
  | byte :: rest =>
    match lead? byte with
    | none => none :: symbols rest
    | some lead =>
      let taken := follow lead.following lead.low lead.high lead.bits rest
      taken.1.map Char.ofNat :: symbols taken.2
  termination_by bytes => bytes.length
  decreasing_by
    · simp
    · exact Nat.lt_succ_of_le (length_follow_le _ _ _ _ _)

/-- The text that the bytes encode, if they are valid. -/
def decode? (bytes : List UInt8) : Option String :=
  ((symbols bytes).mapM id).map String.ofList

/-- The text of the bytes with U+FFFD for every broken stretch. -/
def decodeLossy (bytes : List UInt8) : String :=
  String.ofList ((symbols bytes).map (·.getD '\ufffd'))

end Turnstile.Utf8
