import Mathlib.Data.List.Basic
import Turnstile.Text.Utf8

/-!
# The bytes of a text

A leading byte tells how many bytes follow it and in which range the first of them is, and these
ranges leave out what could be written shorter and the halves of surrogate pairs. So the bytes of
a character are read as this character, whatever follows (`symbols_encodeChar`), and the bytes of a
text as this text (`decode?_encode`). The same ranges leave nothing in that is not the beginning of
a character, so no other bytes are read as that text (`decode?_eq_some_iff`).

Bytes that make up a text are taken apart character by character (`IsText.cases`). A character is
one ASCII byte or holds none (`encodeChar_cases`), so a text may be cut behind any ASCII byte
(`IsText.tail`).
-/

set_option autoImplicit false

namespace Turnstile.Utf8

/-! ## Single characters -/

/-- The range of a byte that follows a leading byte. -/
theorem follow_cons {following low high bits byte : Nat} {rest : List UInt8}
    (small : byte < 256) (smallHigh : high < 256) (above : low ≤ byte) (below : byte ≤ high) :
    follow (following + 1) (.ofNat low) (.ofNat high) bits (.ofNat byte :: rest) =
      follow following 0x80 0xbf (bits * 64 + (byte - 0x80)) rest := by
  have smallLow : low < 256 := by omega
  rw [follow, if_pos]
  · simp [Nat.mod_eq_of_lt small]
  · simp [UInt8.le_iff_toNat_le, Nat.mod_eq_of_lt, *]

theorem follow_tail {following bits byte : Nat} (small : byte < 64) (rest : List UInt8) :
    follow (following + 1) 0x80 0xbf bits (.ofNat (byte + 128) :: rest) =
      follow following 0x80 0xbf (bits * 64 + byte) rest := by
  have followed := @follow_cons following 0x80 0xbf bits (byte + 128) rest (by omega) (by omega)
    (by omega) (by omega)
  rwa [show byte + 128 - 0x80 = byte by omega] at followed

theorem lead?_ofNat {byte : Nat} (small : byte < 256) :
    lead? (.ofNat byte) =
      if byte < 0x80 then some ⟨0, 0x80, 0xbf, byte⟩
      else if byte < 0xc2 then none
      else if byte < 0xe0 then some ⟨1, 0x80, 0xbf, byte - 0xc0⟩
      else if byte = 0xe0 then some ⟨2, 0xa0, 0xbf, 0⟩
      else if byte = 0xed then some ⟨2, 0x80, 0x9f, 0x0d⟩
      else if byte < 0xf0 then some ⟨2, 0x80, 0xbf, byte - 0xe0⟩
      else if byte = 0xf0 then some ⟨3, 0x90, 0xbf, 0⟩
      else if byte < 0xf4 then some ⟨3, 0x80, 0xbf, byte - 0xf0⟩
      else if byte = 0xf4 then some ⟨3, 0x80, 0x8f, 4⟩
      else none := by
  simp [lead?, UInt8.lt_iff_toNat_lt, ← UInt8.toNat_inj, Nat.mod_eq_of_lt small]

/-- Symbols that begin with a character: a leading byte announces it, and its bytes follow. -/
theorem symbols_of_lead {byte following low high bits code : Nat} {bytes rest : List UInt8}
    (announced : lead? (.ofNat byte) = some ⟨following, .ofNat low, .ofNat high, bits⟩)
    (followed : follow following (.ofNat low) (.ofNat high) bits bytes = (some code, rest)) :
    symbols (.ofNat byte :: bytes) = some (.ofNat code) :: symbols rest := by
  rw [symbols]
  simp only [announced, followed, Option.map_some]

variable {code : Nat} (rest : List UInt8)

theorem symbols_one (small : code ≤ 0x7f) :
    symbols (.ofNat code :: rest) = some (.ofNat code) :: symbols rest := by
  have announced : lead? (.ofNat code) = some ⟨0, .ofNat 0x80, .ofNat 0xbf, code⟩ := by
    rw [lead?_ofNat (by omega), if_pos (by omega)]
    rfl
  exact symbols_of_lead announced rfl

theorem symbols_two (large : 0x7f < code) (small : code ≤ 0x7ff) :
    symbols (.ofNat (code / 64 % 32 + 192) :: .ofNat (code % 64 + 128) :: rest) =
      some (.ofNat code) :: symbols rest := by
  have announced : lead? (.ofNat (code / 64 % 32 + 192)) =
      some ⟨1, .ofNat 0x80, .ofNat 0xbf, code / 64⟩ := by
    rw [lead?_ofNat (by omega), if_neg (by omega), if_neg (by omega), if_pos (by omega),
      show code / 64 % 32 + 192 - 0xc0 = code / 64 by omega]
    rfl
  refine symbols_of_lead announced ?_
  rw [follow_cons (by omega) (by omega) (by omega) (by omega)]
  exact congrArg (some ·, rest) (by omega)

/-- A leading byte of three leaves out what would be too short, and the surrogates. -/
theorem lead?_three (large : 0x7ff < code) (small : code ≤ 0xffff)
    (valid : code < 0xd800 ∨ 0xdfff < code) :
    ∃ low high, lead? (.ofNat (code / 4096 % 16 + 224)) =
        some ⟨2, .ofNat low, .ofNat high, code / 4096⟩ ∧
      low ≤ code / 64 % 64 + 128 ∧ code / 64 % 64 + 128 ≤ high ∧ high < 256 := by
  rw [lead?_ofNat (by omega), if_neg (by omega), if_neg (by omega), if_neg (by omega)]
  by_cases first : code / 4096 = 0
  · refine ⟨0xa0, 0xbf, ?_, by omega, by omega, by omega⟩
    rw [if_pos (by omega), first]
    rfl
  · rw [if_neg (by omega)]
    by_cases surrogate : code / 4096 = 13
    · refine ⟨0x80, 0x9f, ?_, by omega, by omega, by omega⟩
      rw [if_pos (by omega), surrogate]
      rfl
    · refine ⟨0x80, 0xbf, ?_, by omega, by omega, by omega⟩
      rw [if_neg (by omega), if_pos (by omega),
        show code / 4096 % 16 + 224 - 0xe0 = code / 4096 by omega]
      rfl

theorem symbols_three (large : 0x7ff < code) (small : code ≤ 0xffff)
    (valid : code < 0xd800 ∨ 0xdfff < code) :
    symbols (.ofNat (code / 4096 % 16 + 224) :: .ofNat (code / 64 % 64 + 128) ::
        .ofNat (code % 64 + 128) :: rest) = some (.ofNat code) :: symbols rest := by
  obtain ⟨low, high, announced, above, below, byte⟩ := lead?_three large small valid
  refine symbols_of_lead announced ?_
  rw [follow_cons (by omega) byte above below, follow_tail (by omega)]
  exact congrArg (some ·, rest) (by omega)

/-- A leading byte of four leaves out what would be too short, and what is no character. -/
theorem lead?_four (large : 0xffff < code) (valid : code < 0x110000) :
    ∃ low high, lead? (.ofNat (code / 262144 % 8 + 240)) =
        some ⟨3, .ofNat low, .ofNat high, code / 262144⟩ ∧
      low ≤ code / 4096 % 64 + 128 ∧ code / 4096 % 64 + 128 ≤ high ∧ high < 256 := by
  rw [lead?_ofNat (by omega), if_neg (by omega), if_neg (by omega), if_neg (by omega),
    if_neg (by omega), if_neg (by omega), if_neg (by omega)]
  by_cases first : code / 262144 = 0
  · refine ⟨0x90, 0xbf, ?_, by omega, by omega, by omega⟩
    rw [if_pos (by omega), first]
    rfl
  · rw [if_neg (by omega)]
    by_cases last : code / 262144 = 4
    · refine ⟨0x80, 0x8f, ?_, by omega, by omega, by omega⟩
      rw [if_neg (by omega), if_pos (by omega), last]
      rfl
    · refine ⟨0x80, 0xbf, ?_, by omega, by omega, by omega⟩
      rw [if_pos (by omega), show code / 262144 % 8 + 240 - 0xf0 = code / 262144 by omega]
      rfl

theorem symbols_four (large : 0xffff < code) (valid : code < 0x110000) :
    symbols (.ofNat (code / 262144 % 8 + 240) :: .ofNat (code / 4096 % 64 + 128) ::
        .ofNat (code / 64 % 64 + 128) :: .ofNat (code % 64 + 128) :: rest) =
      some (.ofNat code) :: symbols rest := by
  obtain ⟨low, high, announced, above, below, byte⟩ := lead?_four large valid
  refine symbols_of_lead announced ?_
  rw [follow_cons (by omega) byte above below, follow_tail (by omega), follow_tail (by omega)]
  exact congrArg (some ·, rest) (by omega)

/-- **The bytes of a character are one symbol**, whatever follows them. -/
theorem symbols_encodeChar (character : Char) (rest : List UInt8) :
    symbols (String.utf8EncodeChar character ++ rest) = some character :: symbols rest := by
  have back : Char.ofNat character.val.toNat = character := Char.ofNat_toNat character
  have valid : character.val.toNat < 0xd800 ∨
      0xdfff < character.val.toNat ∧ character.val.toNat < 0x110000 := character.valid
  unfold String.utf8EncodeChar
  generalize character.val.toNat = code at back valid ⊢
  subst back
  dsimp only
  split
  case isTrue small => exact symbols_one rest small
  case isFalse =>
    split
    case isTrue small => exact symbols_two rest (by omega) small
    case isFalse =>
      split
      case isTrue small => exact symbols_three rest (by omega) small (by omega)
      case isFalse => exact symbols_four rest (by omega) (by omega)

/-! ## Texts -/

/-- The bytes of some characters. -/
def encodeAll (characters : List Char) : List UInt8 := characters.flatMap String.utf8EncodeChar

@[simp] theorem encodeAll_nil : encodeAll [] = [] := rfl

@[simp] theorem encodeAll_cons (character : Char) (characters : List Char) :
    encodeAll (character :: characters) =
      String.utf8EncodeChar character ++ encodeAll characters := rfl

theorem symbols_encodeAll (characters : List Char) :
    symbols (encodeAll characters) = characters.map some := by
  induction characters with
  | nil => simp [symbols]
  | cons character characters ih => simp [symbols_encodeChar, ih]

theorem encode_eq (text : String) : encode text = encodeAll text.toList := rfl

/-- **A text is read as it was written.** -/
theorem decode?_encodeAll (characters : List Char) :
    decode? (encodeAll characters) = some (String.ofList characters) := by
  have whole : (characters.map some).mapM id = some characters := by
    rw [List.mapM_map]
    exact (List.mapM_pure (m := Option) (f := id) (l := characters)).trans (by simp)
  rw [decode?, symbols_encodeAll, whole]
  rfl

theorem decode?_encode (text : String) : decode? (encode text) = some text := by
  rw [encode_eq, decode?_encodeAll, String.ofList_toList]

/-! ## Nothing else is read as a text -/

/-- What a byte within its range goes on to. -/
theorem exists_of_follow {following bits code : Nat} {low high : UInt8} {bytes rest : List UInt8}
    (followed : follow (following + 1) low high bits bytes = (some code, rest)) :
    ∃ byte later, bytes = .ofNat byte :: later ∧ byte < 256 ∧
      low.toNat ≤ byte ∧ byte ≤ high.toNat ∧
      follow following 0x80 0xbf (bits * 64 + (byte - 0x80)) later = (some code, rest) := by
  cases bytes with
  | nil => cases followed
  | cons byte later =>
    rw [follow] at followed
    split at followed
    case isTrue within =>
      exact ⟨byte.toNat, later, by rw [UInt8.ofNat_toNat], byte.toNat_lt, within.1, within.2,
        followed⟩
    case isFalse => cases followed

/-- The bytes that a character may begin with, and what each announces. -/
theorem lead?_cases {byte : Nat} {lead : Lead} (small : byte < 256)
    (announced : lead? (.ofNat byte) = some lead) :
    (byte < 0x80 ∧ lead.following = 0 ∧ lead.bits = byte) ∨
    (0xc2 ≤ byte ∧ byte < 0xe0 ∧ lead.following = 1 ∧ lead.bits = byte - 0xc0 ∧
      lead.low = 0x80 ∧ lead.high = 0xbf) ∨
    (0xe0 ≤ byte ∧ byte < 0xf0 ∧ lead.following = 2 ∧ lead.bits = byte - 0xe0 ∧
      0x80 ≤ lead.low.toNat ∧ lead.high.toNat ≤ 0xbf ∧
      (byte = 0xe0 → 0xa0 ≤ lead.low.toNat) ∧ (byte = 0xed → lead.high.toNat ≤ 0x9f)) ∨
    (0xf0 ≤ byte ∧ byte ≤ 0xf4 ∧ lead.following = 3 ∧ lead.bits = byte - 0xf0 ∧
      0x80 ≤ lead.low.toNat ∧ lead.high.toNat ≤ 0xbf ∧
      (byte = 0xf0 → 0x90 ≤ lead.low.toNat) ∧ (byte = 0xf4 → lead.high.toNat ≤ 0x8f)) := by
  rw [lead?_ofNat small] at announced
  split_ifs at announced <;> cases announced <;> simp <;> omega

theorem encodeChar_ofNat {code : Nat} (valid : code < 0xd800 ∨ 0xdfff < code ∧ code < 0x110000) :
    String.utf8EncodeChar (.ofNat code) =
      if code ≤ 0x7f then [.ofNat code]
      else if code ≤ 0x7ff then [.ofNat (code / 64 % 32 + 192), .ofNat (code % 64 + 128)]
      else if code ≤ 0xffff then
        [.ofNat (code / 4096 % 16 + 224), .ofNat (code / 64 % 64 + 128), .ofNat (code % 64 + 128)]
      else
        [.ofNat (code / 262144 % 8 + 240), .ofNat (code / 4096 % 64 + 128),
          .ofNat (code / 64 % 64 + 128), .ofNat (code % 64 + 128)] := by
  have same : (Char.ofNat code).val.toNat = code := by
    rw [Char.ofNat, dif_pos valid]
    rfl
  unfold String.utf8EncodeChar
  rw [same]

theorem exists_of_follow_tail {following bits code : Nat} {bytes rest : List UInt8}
    (followed : follow (following + 1) 0x80 0xbf bits bytes = (some code, rest)) :
    ∃ byte later, bytes = .ofNat (byte + 128) :: later ∧ byte < 64 ∧
      follow following 0x80 0xbf (bits * 64 + byte) later = (some code, rest) := by
  obtain ⟨byte, later, rfl, _, above, below, next⟩ := exists_of_follow followed
  have above : 128 ≤ byte := above
  have below : byte ≤ 191 := below
  exact ⟨byte - 128, later, by rw [Nat.sub_add_cancel above], by omega, next⟩

/-- **A symbol that is a character is made of the bytes of this character.** -/
theorem encodeChar_of_follow {byte code : Nat} {lead : Lead} {bytes rest : List UInt8}
    (small : byte < 256) (announced : lead? (.ofNat byte) = some lead)
    (followed : follow lead.following lead.low lead.high lead.bits bytes = (some code, rest)) :
    .ofNat byte :: bytes = String.utf8EncodeChar (.ofNat code) ++ rest := by
  rcases lead?_cases small announced with
    ⟨ascii, following, bits⟩ | ⟨low, high, following, bits, first, last⟩ |
    ⟨low, high, following, bits, first, last, shortest, plain⟩ |
    ⟨low, high, following, bits, first, last, shortest, greatest⟩
  · rw [following, bits] at followed
    cases followed
    rw [encodeChar_ofNat (by omega), if_pos (by omega)]
    rfl
  · rw [following, bits, first, last] at followed
    obtain ⟨second, later, rfl, tail, followed⟩ := exists_of_follow_tail followed
    cases followed
    rw [encodeChar_ofNat (by omega), if_neg (by omega), if_pos (by omega)]
    simp only [List.cons_append, List.nil_append, List.cons.injEq, and_true]
    exact ⟨congrArg _ (by omega), congrArg _ (by omega)⟩
  · rw [following, bits] at followed
    obtain ⟨second, later, rfl, _, above, below, followed⟩ := exists_of_follow followed
    obtain ⟨third, later, rfl, tail, followed⟩ := exists_of_follow_tail followed
    cases followed
    rw [encodeChar_ofNat (by omega), if_neg (by omega), if_neg (by omega), if_pos (by omega)]
    simp only [List.cons_append, List.nil_append, List.cons.injEq, and_true]
    exact ⟨congrArg _ (by omega), congrArg _ (by omega), congrArg _ (by omega)⟩
  · rw [following, bits] at followed
    obtain ⟨second, later, rfl, _, above, below, followed⟩ := exists_of_follow followed
    obtain ⟨third, later, rfl, tail, followed⟩ := exists_of_follow_tail followed
    obtain ⟨fourth, later, rfl, tail', followed⟩ := exists_of_follow_tail followed
    cases followed
    rw [encodeChar_ofNat (by omega), if_neg (by omega), if_neg (by omega), if_neg (by omega)]
    simp only [List.cons_append, List.nil_append, List.cons.injEq, and_true]
    exact ⟨congrArg _ (by omega), congrArg _ (by omega), congrArg _ (by omega),
      congrArg _ (by omega)⟩

/-- Bytes without broken stretches are those of the characters that are read. -/
theorem eq_encodeAll_of_symbols {bytes : List UInt8} {characters : List Char}
    (read : symbols bytes = characters.map some) : bytes = encodeAll characters := by
  induction characters generalizing bytes with
  | nil =>
    cases bytes with
    | nil => rfl
    | cons byte bytes =>
      rw [symbols] at read
      split at read <;> cases read
  | cons character characters ih =>
    cases bytes with
    | nil => simp [symbols] at read
    | cons byte bytes =>
      rw [symbols] at read
      split at read
      case h_1 => cases read
      case h_2 lead announced =>
        obtain ⟨first, rest⟩ := List.cons.inj read
        obtain ⟨code, found, rfl⟩ := Option.map_eq_some_iff.1 first
        rw [encodeAll_cons, ← ih rest]
        have announced' : lead? (.ofNat byte.toNat) = some lead := by rwa [UInt8.ofNat_toNat]
        have whole := encodeChar_of_follow byte.toNat_lt announced' (Prod.ext found rfl)
        rwa [UInt8.ofNat_toNat] at whole

theorem eq_map_some_of_mapM {α : Type} {items : List (Option α)} {values : List α}
    (whole : items.mapM id = some values) : items = values.map some := by
  induction items generalizing values with
  | nil =>
    cases whole
    rfl
  | cons item items ih =>
    rw [List.mapM_cons] at whole
    obtain ⟨value, rfl, rest⟩ := Option.bind_eq_some_iff.1 whole
    obtain ⟨values, wholeRest, same⟩ := Option.bind_eq_some_iff.1 rest
    cases same
    rw [ih wholeRest, List.map_cons]

/-- **Bytes are read as a text just if they are the bytes of this text.** -/
theorem decode?_eq_some_iff {bytes : List UInt8} {text : String} :
    decode? bytes = some text ↔ bytes = encode text := by
  constructor
  · intro read
    obtain ⟨characters, whole, rfl⟩ := Option.map_eq_some_iff.1 read
    rw [encode_eq, String.toList_ofList]
    exact eq_encodeAll_of_symbols (eq_map_some_of_mapM whole)
  · rintro rfl
    exact decode?_encode text

theorem toByteArray_encode (text : String) : (encode text).toByteArray = text.toByteArray :=
  String.utf8Encode_toList

/-- The bytes of a text are those that it has in memory. -/
theorem decode?_eq_some_iff_toByteArray {bytes : List UInt8} {text : String} :
    decode? bytes = some text ↔ bytes.toByteArray = text.toByteArray := by
  rw [decode?_eq_some_iff, ← toByteArray_encode]
  constructor
  · exact congrArg List.toByteArray
  · intro same
    simpa using congrArg (·.data.toList) same

/-! ## Texts within bytes -/

/-- The bytes are those of a text. -/
def IsText (bytes : List UInt8) : Prop := ∃ characters, bytes = encodeAll characters

theorem isText_encode (text : String) : IsText (encode text) := ⟨text.toList, rfl⟩

theorem isText_append {first second : List UInt8} (isText : IsText first)
    (isText' : IsText second) : IsText (first ++ second) := by
  obtain ⟨characters, rfl⟩ := isText
  obtain ⟨characters', rfl⟩ := isText'
  exact ⟨characters ++ characters', List.flatMap_append.symm⟩

theorem isText_encodeChar (character : Char) : IsText (String.utf8EncodeChar character) :=
  ⟨[character], by simp⟩

theorem ofNat_lt {byte : Nat} (small : byte < 0x80) : UInt8.ofNat byte < 0x80 := by
  simp [UInt8.lt_iff_toNat_lt]
  omega

theorem le_ofNat {byte : Nat} (large : 0x80 ≤ byte) (small : byte < 256) :
    0x80 ≤ UInt8.ofNat byte := by
  simp [UInt8.le_iff_toNat_le]
  omega

/-- A character is written as one ASCII byte, or as bytes of which none is ASCII. -/
theorem encodeChar_cases (character : Char) :
    (∃ byte : UInt8, byte < 0x80 ∧ String.utf8EncodeChar character = [byte]) ∨
    (String.utf8EncodeChar character ≠ [] ∧
      ∀ byte ∈ String.utf8EncodeChar character, 0x80 ≤ byte) := by
  unfold String.utf8EncodeChar
  dsimp only
  split_ifs with one two three
  · exact .inl ⟨_, ofNat_lt (by omega), rfl⟩
  · refine .inr ⟨nofun, ?_⟩
    simp only [List.forall_mem_cons, List.not_mem_nil, false_implies, implies_true, and_true]
    refine ⟨?_, ?_⟩ <;> exact le_ofNat (by omega) (by omega)
  · refine .inr ⟨nofun, ?_⟩
    simp only [List.forall_mem_cons, List.not_mem_nil, false_implies, implies_true, and_true]
    refine ⟨?_, ?_, ?_⟩ <;> exact le_ofNat (by omega) (by omega)
  · refine .inr ⟨nofun, ?_⟩
    simp only [List.forall_mem_cons, List.not_mem_nil, false_implies, implies_true, and_true]
    refine ⟨?_, ?_, ?_, ?_⟩ <;> exact le_ofNat (by omega) (by omega)

theorem encodeChar_ne_nil (character : Char) : String.utf8EncodeChar character ≠ [] := by
  rcases encodeChar_cases character with ⟨byte, _, single⟩ | ⟨nonempty, _⟩
  · exact single ▸ List.cons_ne_nil byte []
  · exact nonempty

/-- A text that is not empty begins with a character. -/
theorem IsText.cases {bytes : List UInt8} (isText : IsText bytes) :
    bytes = [] ∨
      ∃ character rest, bytes = String.utf8EncodeChar character ++ rest ∧ IsText rest := by
  obtain ⟨characters, rfl⟩ := isText
  cases characters with
  | nil => exact .inl rfl
  | cons character characters => exact .inr ⟨character, _, encodeAll_cons .., characters, rfl⟩

/-- What follows an ASCII byte in a text is a text. -/
theorem IsText.tail {byte : UInt8} {bytes : List UInt8} (isText : IsText (byte :: bytes))
    (ascii : byte < 0x80) : IsText bytes := by
  rcases isText.cases with none | ⟨character, rest, same, others⟩
  · cases none
  · rcases encodeChar_cases character with ⟨only, _, single⟩ | ⟨nonempty, large⟩
    · rw [single] at same
      cases same
      exact others
    · obtain ⟨first, later, split⟩ := List.exists_cons_of_ne_nil nonempty
      have notAscii := large first (split ▸ List.mem_cons_self)
      rw [split] at same
      cases same
      exact absurd notAscii (UInt8.not_le.2 ascii)

end Turnstile.Utf8
