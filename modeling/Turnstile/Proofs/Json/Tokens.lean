import Turnstile.Proofs.Json.PlainData
import Turnstile.Proofs.Json.Reader
import Turnstile.Proofs.Text.Utf8

/-!
# The strings of a text

Not every sequence of bytes and escapes between quotes stands for a text: the bytes may break off
within a character, and an escape may be half of a surrogate pair. In a JSON text that is a text
itself only the second can happen. Its strings are cut out of it at quotes and backslashes, which
are ASCII, and so never within a character (`ReadsToken.isWhole`, `Reads.isWhole`). A string of a
text whose escapes are paired therefore has a text (`text?_isSome_of_read?`).
-/

set_option autoImplicit false

namespace Turnstile.Json

open Utf8

namespace Token

/-! ## Strings without escapes -/

/-- A text written without escapes. -/
def plain (text : String) : Token := (encode text).map .byte

theorem bytes?_append (bytes : List UInt8) (token : Token) :
    bytes? (bytes.map .byte ++ token) = (bytes? token).map (bytes ++ ·) := by
  induction bytes with
  | nil => simp
  | cons byte bytes ih =>
    rw [List.map_cons, List.cons_append, bytes?, ih, Option.map_map]
    rfl

@[simp] theorem bytes?_plain (text : String) : (plain text).bytes? = some (encode text) := by
  have appended := bytes?_append (encode text) []
  rw [List.append_nil] at appended
  rw [plain, appended]
  simp [bytes?]

@[simp] theorem text?_plain (text : String) : (plain text).text? = some text := by
  rw [text?, bytes?_plain]
  exact decode?_encode text

/-! ## Strings of whole characters -/

/-- The bytes that are written as they are make up whole characters. -/
inductive IsWhole : Token → Prop where
  | nil : IsWhole []
  | character {token : Token} (character : Char) (rest : IsWhole token) :
    IsWhole ((String.utf8EncodeChar character).map .byte ++ token)
  | unit {token : Token} (value : Nat) (rest : IsWhole token) : IsWhole (.unit value :: token)

theorem IsWhole.of_unit {value : Nat} {token : Token} (whole : IsWhole (.unit value :: token)) :
    IsWhole token := by
  generalize same : Piece.unit value :: token = written at whole
  cases whole with
  | nil => cases same
  | character character rest =>
    obtain ⟨byte, bytes, split⟩ := List.exists_cons_of_ne_nil (encodeChar_ne_nil character)
    rw [split] at same
    cases same
  | unit value rest =>
    cases same
    exact rest

/-- A unit stands for a character, or together with the unit after it. -/
theorem bytes?_unit {first : Nat} {token : Token} {bytes : List UInt8}
    (meant : bytes? (.unit first :: token) = some bytes) :
    ∃ character rest, bytes = String.utf8EncodeChar character ++ rest ∧
      (bytes? token = some rest ∨
        ∃ second later, token = .unit second :: later ∧ bytes? later = some rest) := by
  unfold bytes? at meant
  split at meant
  case h_1 same => cases same
  case h_2 same => cases same
  case h_3 first second later same =>
    cases same
    split at meant
    case isTrue =>
      split at meant
      case isTrue =>
        obtain ⟨rest, found, rfl⟩ := Option.map_eq_some_iff.1 meant
        exact ⟨_, rest, rfl, .inr ⟨second, later, rfl, found⟩⟩
      case isFalse => cases meant
    case isFalse =>
      split at meant
      case isTrue => cases meant
      case isFalse =>
        obtain ⟨rest, found, rfl⟩ := Option.map_eq_some_iff.1 meant
        exact ⟨_, rest, rfl, .inl found⟩
  case h_4 value later _ same =>
    cases same
    split at meant
    case isTrue => cases meant
    case isFalse =>
      obtain ⟨rest, found, rfl⟩ := Option.map_eq_some_iff.1 meant
      exact ⟨_, rest, rfl, .inl found⟩

/-- Whole characters and units that are paired make up a text. -/
theorem IsWhole.isText {token : Token} (whole : IsWhole token) {bytes : List UInt8}
    (meant : bytes? token = some bytes) : IsText bytes := by
  -- a pair takes two units at once, so the induction is over the length
  induction length : token.length using Nat.strong_induction_on generalizing token bytes with
  | _ length ih =>
    subst length
    cases whole with
    | nil =>
      cases meant
      exact ⟨[], rfl⟩
    | @character token character rest =>
      rw [bytes?_append] at meant
      obtain ⟨later, found, rfl⟩ := Option.map_eq_some_iff.1 meant
      refine isText_append (isText_encodeChar character) (ih _ ?_ rest found rfl)
      rw [List.length_append, List.length_map]
      exact Nat.lt_add_of_pos_left (List.length_pos_iff.2 (encodeChar_ne_nil character))
    | @unit token value rest =>
      obtain ⟨character, later, rfl, found | ⟨second, others, rfl, found⟩⟩ := bytes?_unit meant
      · exact isText_append (isText_encodeChar character)
          (ih _ (Nat.lt_succ_self _) rest found rfl)
      · exact isText_append (isText_encodeChar character)
          (ih _ (Nat.lt_of_succ_lt (Nat.lt_succ_self _)) rest.of_unit found rfl)

theorem IsWhole.text? {token : Token} (whole : IsWhole token) (paired : token.bytes?.isSome) :
    token.text?.isSome := by
  obtain ⟨bytes, meant⟩ := Option.isSome_iff_exists.1 paired
  obtain ⟨characters, rfl⟩ := whole.isText meant
  rw [Token.text?, meant, Option.bind_some, decode?_encodeAll]
  rfl

end Token

/-! ## The strings of a text -/

theorem Takes.isText {bytes rest : List UInt8} (takes : Takes bytes rest)
    (isText : IsText bytes) : IsText rest := by
  obtain ⟨taken, rfl, ascii⟩ := takes
  induction taken with
  | nil => exact isText
  | cons byte taken ih =>
    obtain ⟨first, others⟩ := List.forall_mem_cons.1 ascii
    exact ih others (isText.tail first)

theorem takes_skipSpace (bytes : List UInt8) : Takes bytes (skipSpace bytes) := by
  refine ⟨bytes.takeWhile isSpace, List.takeWhile_append_dropWhile.symm, fun byte member => ?_⟩
  have space := List.all_eq_true.1 List.all_takeWhile byte member
  simp only [isSpace, Bool.or_eq_true, beq_iff_eq] at space
  rcases space with ((rfl | rfl) | rfl) | rfl <;> decide

/-- What stands behind an ASCII byte that was found in a text is a text. Every bracket, comma,
colon and quote is such a byte. -/
theorem isText_behind {bytes rest : List UInt8} {byte : UInt8} (isText : IsText bytes)
    (found : skipSpace bytes = byte :: rest) (ascii : byte < 0x80) : IsText rest := by
  have skipped := (takes_skipSpace bytes).isText isText
  rw [found] at skipped
  exact skipped.tail ascii

theorem ascii_of_hexDigit? {byte : UInt8} {value : Nat} (digit : hexDigit? byte = some value) :
    byte < 0x80 := by
  have within {low high : UInt8} (range : (decide (low ≤ byte) && decide (byte ≤ high)) = true)
      (small : high < 0x80) : byte < 0x80 := by
    rw [Bool.and_eq_true, decide_eq_true_eq, decide_eq_true_eq] at range
    exact UInt8.lt_of_le_of_lt range.2 small
  unfold hexDigit? isDigit at digit
  split at digit
  case isTrue range => exact within range (by decide)
  case isFalse =>
    split at digit
    case isTrue range => exact within range (by decide)
    case isFalse =>
      split at digit
      case isTrue range => exact within range (by decide)
      case isFalse => cases digit

theorem ascii_of_hexUnit? {a b c d : UInt8} {value : Nat}
    (written : hexUnit? a b c d = some value) : a < 0x80 ∧ b < 0x80 ∧ c < 0x80 ∧ d < 0x80 := by
  obtain ⟨_, first, written⟩ := Option.bind_eq_some_iff.1 written
  obtain ⟨_, second, written⟩ := Option.bind_eq_some_iff.1 written
  obtain ⟨_, third, written⟩ := Option.bind_eq_some_iff.1 written
  obtain ⟨_, fourth, _⟩ := Option.bind_eq_some_iff.1 written
  exact ⟨ascii_of_hexDigit? first, ascii_of_hexDigit? second, ascii_of_hexDigit? third,
    ascii_of_hexDigit? fourth⟩

theorem ascii_of_shortEscape? {letter : UInt8} {value : Nat}
    (written : shortEscape? letter = some value) : letter < 0x80 := by
  unfold shortEscape? at written
  simp only [Bool.or_eq_true, beq_iff_eq] at written
  split_ifs at written with quote b f n r t
  · rcases quote with (rfl | rfl) | rfl <;> decide
  · exact b ▸ by decide
  · exact f ▸ by decide
  · exact n ▸ by decide
  · exact r ▸ by decide
  · exact t ▸ by decide

/-- A byte that is not ASCII is read as it is. -/
theorem ReadsToken.of_large {byte : UInt8} {later rest : List UInt8} {token : Token}
    (large : 0x80 ≤ byte) (reads : ReadsToken (byte :: later) token rest) :
    ∃ others, token = .byte byte :: others ∧ ReadsToken later others rest := by
  cases reads with
  | close => exact absurd large (by decide)
  | unit => exact absurd large (by decide)
  | short => exact absurd large (by decide)
  | byte _ _ reads => exact ⟨_, rfl, reads⟩

theorem ReadsToken.of_append {bytes later rest : List UInt8} {token : Token}
    (large : ∀ byte ∈ bytes, 0x80 ≤ byte) (reads : ReadsToken (bytes ++ later) token rest) :
    ∃ others, token = bytes.map .byte ++ others ∧ ReadsToken later others rest := by
  induction bytes generalizing token with
  | nil => exact ⟨token, rfl, reads⟩
  | cons byte bytes ih =>
    obtain ⟨first, rest⟩ := List.forall_mem_cons.1 large
    obtain ⟨_, rfl, laterReads⟩ := reads.of_large first
    obtain ⟨others, rfl, othersRead⟩ := ih rest laterReads
    exact ⟨others, rfl, othersRead⟩

/-- **The strings of a text are made up of whole characters**, and what follows them is a text. -/
theorem ReadsToken.isWhole {bytes rest : List UInt8} {token : Token}
    (reads : ReadsToken bytes token rest) (isText : IsText bytes) :
    token.IsWhole ∧ IsText rest := by
  -- a character can be written in several bytes, so the induction is over the length
  induction length : bytes.length using Nat.strong_induction_on generalizing bytes token with
  | _ length ih =>
    subst length
    rcases isText.cases with rfl | ⟨character, later, rfl, others⟩
    · cases reads
    · rcases encodeChar_cases character with ⟨byte, _, single⟩ | ⟨nonempty, large⟩
      · have written : [Piece.byte byte] = (String.utf8EncodeChar character).map .byte := by
          rw [single]
          rfl
        rw [single] at reads ih
        cases reads with
        | close => exact ⟨.nil, others⟩
        | unit hex reads =>
          obtain ⟨first, second, third, fourth⟩ := ascii_of_hexUnit? hex
          have isText :=
            ((((others.tail (by decide)).tail first).tail second).tail third).tail fourth
          obtain ⟨whole, last⟩ := ih _ (by simp [Nat.add_assoc]) reads isText rfl
          exact ⟨.unit _ whole, last⟩
        | short letter reads =>
          have isText := others.tail (ascii_of_shortEscape? letter)
          obtain ⟨whole, last⟩ := ih _ (by simp [Nat.add_assoc]) reads isText rfl
          exact ⟨.unit _ whole, last⟩
        | @byte _ _ _ token _ _ reads =>
          obtain ⟨whole, last⟩ := ih _ (Nat.lt_succ_self _) reads others rfl
          have same : Piece.byte byte :: token =
              (String.utf8EncodeChar character).map .byte ++ token := written ▸ rfl
          exact ⟨same ▸ .character character whole, last⟩
      · obtain ⟨token, rfl, laterReads⟩ := reads.of_append large
        have shorter := List.length_pos_iff.2 nonempty
        obtain ⟨whole, last⟩ := ih _ (by rw [List.length_append]; omega) laterReads others rfl
        exact ⟨.character character whole, last⟩

/-- A token is written in a part. -/
def Part.Writes (token : Token) : Part → Prop
  | tree value => Tree.Writes token value
  | items values => ∃ item ∈ values, Tree.Writes token item
  | members pairs => ∃ pair ∈ pairs, pair.1 = token ∨ Tree.Writes token pair.2

/-- **All strings of a text are made up of whole characters**, keys among them. -/
theorem Reads.isWhole {part : Part} {bytes rest : List UInt8} (reads : Reads part bytes rest)
    (isText : IsText bytes) : (∀ token, part.Writes token → token.IsWhole) ∧ IsText rest := by
  induction reads with
  | null found | yes found =>
    have first := isText_behind isText found (by decide)
    have second := first.tail (by decide)
    have third := second.tail (by decide)
    exact ⟨nofun, third.tail (by decide)⟩
  | no found =>
    have first := isText_behind isText found (by decide)
    have second := first.tail (by decide)
    have third := second.tail (by decide)
    have fourth := third.tail (by decide)
    exact ⟨nofun, fourth.tail (by decide)⟩
  | text found reads =>
    obtain ⟨whole, last⟩ := reads.isWhole (isText_behind isText found (by decide))
    refine ⟨fun token writes => ?_, last⟩
    cases Tree.writes_text.1 writes
    exact whole
  | number reads =>
    exact ⟨nofun, (takes_of_readNumeral reads).isText ((takes_skipSpace _).isText isText)⟩
  | emptyList found closed | emptyRecord found closed =>
    have inside := isText_behind isText found (by decide)
    exact ⟨by simp [Part.Writes], isText_behind inside closed (by decide)⟩
  | list found _ ih =>
    have inside := isText_behind isText found (by decide)
    obtain ⟨whole, last⟩ := ih ((takes_skipSpace _).isText inside)
    exact ⟨fun token writes => whole token (Tree.writes_list.1 writes), last⟩
  | record found _ ih =>
    have inside := isText_behind isText found (by decide)
    obtain ⟨whole, last⟩ := ih ((takes_skipSpace _).isText inside)
    exact ⟨fun token writes => whole token (Tree.writes_record.1 writes), last⟩
  | lastItem _ closed ih =>
    obtain ⟨whole, last⟩ := ih isText
    refine ⟨?_, isText_behind last closed (by decide)⟩
    rintro token ⟨item, member, writes⟩
    cases List.mem_singleton.1 member
    exact whole token writes
  | item _ goesOn _ ih others =>
    obtain ⟨whole, later⟩ := ih isText
    obtain ⟨wholeOthers, last⟩ := others (isText_behind later goesOn (by decide))
    refine ⟨?_, last⟩
    rintro token ⟨item, member, writes⟩
    rcases List.mem_cons.1 member with rfl | member
    · exact whole token writes
    · exact wholeOthers token ⟨item, member, writes⟩
  | lastMember found names means _ closed ih =>
    obtain ⟨wholeKey, named⟩ := names.isWhole (isText_behind isText found (by decide))
    obtain ⟨whole, later⟩ := ih (isText_behind named means (by decide))
    refine ⟨?_, isText_behind later closed (by decide)⟩
    rintro token ⟨member, isMember, writes⟩
    cases List.mem_singleton.1 isMember
    rcases writes with rfl | writes
    · exact wholeKey
    · exact whole token writes
  | member found names means _ goesOn _ ih others =>
    obtain ⟨wholeKey, named⟩ := names.isWhole (isText_behind isText found (by decide))
    obtain ⟨whole, later⟩ := ih (isText_behind named means (by decide))
    obtain ⟨wholeOthers, last⟩ := others (isText_behind later goesOn (by decide))
    refine ⟨?_, last⟩
    rintro token ⟨member, isMember, writes⟩
    rcases List.mem_cons.1 isMember with rfl | isMember
    · rcases writes with rfl | writes
      · exact wholeKey
      · exact whole token writes
    · exact wholeOthers token ⟨member, isMember, writes⟩

/-- **A string of a text has a text itself**, unless half of a surrogate pair stands alone in it. -/
theorem text?_isSome_of_read? {text : String} {tree : Tree}
    (isText : read? (encode text) = some tree) {token : Token} (writes : Tree.Writes token tree)
    (paired : token.bytes?.isSome) : token.text?.isSome := by
  obtain ⟨rest, reads, _⟩ := read?_eq_some_iff.1 isText
  exact ((reads.isWhole (isText_encode text)).1 token writes).text? paired

end Turnstile.Json
