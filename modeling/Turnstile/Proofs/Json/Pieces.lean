import Mathlib.Data.List.Forall2
import Turnstile.Proofs.Json.Reader

/-!
# The pieces of a text

The text of a record is a frame with a piece for each of its members, and commas between them. A
piece is a key with its colon and a text for the value; the text of a list has a text for each of
its items in the same way. Texts that are put together so are read piece by piece
(`Frame.read?_record`, `Frame.read?_list`), and every text of a record or a list is put together so
(`exists_pieces_of_read?`, `exists_items_of_read?`). What one piece holds has no effect on what the
others are read as.

The second direction says that a value within a longer text is a text by itself. That is shown by
an induction over the reading (`Reads.isCut`): a value can be cut off behind its last byte, and the
rest of a list or a record can be cut into its texts.
-/

set_option autoImplicit false

namespace Turnstile.Json

/-! ## Blanks -/

/-- All bytes are blanks. -/
def AreBlank (bytes : List UInt8) : Prop := ∀ byte ∈ bytes, isSpace byte = true

variable {bytes rest before after : List UInt8}

theorem AreBlank.nil : AreBlank [] := List.forall_mem_nil _

theorem skipSpace_append_of_blank (blank : AreBlank before) (bytes : List UInt8) :
    skipSpace (before ++ bytes) = skipSpace bytes :=
  List.dropWhile_append_of_pos blank

theorem exists_blank (bytes : List UInt8) : ∃ before, bytes = before ++ skipSpace bytes ∧
    AreBlank before :=
  ⟨bytes.takeWhile isSpace, List.takeWhile_append_dropWhile.symm,
    fun _ member => List.mem_takeWhile_imp member⟩

/-- Blanks and then a byte that is none. -/
theorem exists_blank_of_skipSpace {byte : UInt8} (found : skipSpace bytes = byte :: rest) :
    ∃ before, bytes = before ++ byte :: rest ∧ AreBlank before := by
  obtain ⟨before, split, blank⟩ := exists_blank bytes
  exact ⟨before, found ▸ split, blank⟩

theorem skipSpace_eq_nil_iff : skipSpace bytes = [] ↔ AreBlank bytes :=
  List.dropWhile_eq_nil_iff

/-- A blank byte goes on with no number. -/
theorem AreBlank.stops (blank : AreBlank after) : Stops after := by
  intro byte first
  have isBlank := blank byte (List.mem_of_mem_head? first)
  simp only [isSpace, Bool.or_eq_true, beq_iff_eq] at isBlank
  rcases isBlank with ((rfl | rfl) | rfl) | rfl <;> decide

/-- Blanks behind a text make no difference. -/
theorem read?_append_blank {tree : Tree} (isText : read? bytes = some tree)
    (blank : AreBlank after) : read? (bytes ++ after) = some tree := by
  obtain ⟨rest, reads, ended⟩ := read?_eq_some_iff.1 isText
  refine read?_eq_some_iff.2 ⟨rest ++ after, reads.append fun _ => blank.stops, ?_⟩
  rw [skipSpace_append_of_blank (skipSpace_eq_nil_iff.1 ended)]
  exact skipSpace_eq_nil_iff.2 blank

/-- Blanks in front of a text make no difference. -/
theorem read?_append_of_blank {tree : Tree} (blank : AreBlank before)
    (isText : read? bytes = some tree) : read? (before ++ bytes) = some tree := by
  obtain ⟨rest, reads, ended⟩ := read?_eq_some_iff.1 isText
  have same := skipSpace_append_of_blank blank bytes
  exact read?_eq_some_iff.2 ⟨rest, reads.of_skipSpace_eq same, ended⟩

/-! ## Pieces -/

/-- The key of a member with its colon. -/
inductive IsKey : List UInt8 → Token → Prop where
  | intro {before quoted after : List UInt8} {token : Token} (blank : AreBlank before)
    (reads : ReadsToken quoted token []) (blank' : AreBlank after) :
    IsKey (before ++ 0x22 :: (quoted ++ (after ++ [0x3a]))) token

/-- The text of a member: a key and a text for the value. -/
inductive IsPiece : List UInt8 → Token × Tree → Prop where
  | intro {key value : List UInt8} {member : Token × Tree} (isKey : IsKey key member.1)
    (isText : read? value = some member.2) : IsPiece (key ++ value) member

/-- Blanks in front of a piece make no difference. -/
theorem IsPiece.append_of_blank {piece : List UInt8} {member : Token × Tree}
    (isPiece : IsPiece piece member) (blank : AreBlank before) :
    IsPiece (before ++ piece) member := by
  obtain ⟨⟨blank', reads, blankAfter⟩, isText⟩ := isPiece
  have key := IsKey.intro (List.forall_mem_append.2 ⟨blank, blank'⟩) reads blankAfter
  simpa [List.append_assoc] using IsPiece.intro key isText

/-- The blanks around the brackets of a list or a record. -/
structure Frame where
  before : List UInt8
  inside : List UInt8
  after : List UInt8
  areBlank : AreBlank before ∧ AreBlank inside ∧ AreBlank after

namespace Frame

/-- No blanks. -/
def tight : Frame := ⟨[], [], [], .nil, .nil, .nil⟩

/-- The text with an opening and a closing bracket, and some texts between them. -/
def enclose (frame : Frame) (opening closing : UInt8) (texts : List (List UInt8)) : List UInt8 :=
  frame.before ++ opening :: (frame.inside ++ ([0x2c].intercalate texts ++ closing :: frame.after))

/-- The text of a record with some members. -/
def record (frame : Frame) (pieces : List (List UInt8)) : List UInt8 :=
  frame.enclose 0x7b 0x7d pieces

/-- The text of a list with some items. -/
def list (frame : Frame) (items : List (List UInt8)) : List UInt8 := frame.enclose 0x5b 0x5d items

end Frame

/-! ## Reading pieces -/

/-- A key is read up to its colon. -/
theorem IsKey.exists_reads {key : List UInt8} {token : Token} (isKey : IsKey key token)
    (more : List UInt8) : ∃ quoted named, skipSpace (key ++ more) = 0x22 :: quoted ∧
      ReadsToken quoted token named ∧ skipSpace named = 0x3a :: more := by
  cases isKey with
  | @intro before quoted after _ blank reads blank' =>
    refine ⟨quoted ++ (after ++ 0x3a :: more), after ++ 0x3a :: more, ?_, reads.append _, ?_⟩
    · rw [List.append_assoc, skipSpace_append_of_blank blank]
      simp [skipSpace, isSpace]
    · rw [skipSpace_append_of_blank blank']
      rfl

section Reading

variable {pieces items : List (List UInt8)} {members : List (Token × Tree)} {trees : List Tree}

/-- **Members are read piece by piece**, up to the closing brace. -/
theorem Reads.of_pieces (some : pieces ≠ []) (arePieces : List.Forall₂ IsPiece pieces members)
    (more : List UInt8) :
    Reads (.members members) ([0x2c].intercalate pieces ++ 0x7d :: more) more := by
  induction arePieces with
  | nil => exact absurd rfl some
  | @cons piece member pieces members isPiece others ih =>
    obtain ⟨token, tree⟩ := member
    cases isPiece with
    | @intro key value _ isKey isText =>
      cases others with
      | nil =>
        obtain ⟨later, reads, closed⟩ := exists_reads_append isText (.inr (.inr rfl)) more
        obtain ⟨quoted, named, found, names, means⟩ := isKey.exists_reads (value ++ 0x7d :: more)
        rw [List.intercalate_singleton, List.append_assoc]
        exact .lastMember found names means reads closed
      | @cons next _ pieces _ _ _ =>
        have rest := ih (List.cons_ne_nil _ _)
        obtain ⟨later, reads, goesOn⟩ := exists_reads_append isText (.inl rfl)
          ([0x2c].intercalate (next :: pieces) ++ 0x7d :: more)
        obtain ⟨quoted, named, found, names, means⟩ := isKey.exists_reads
          (value ++ 0x2c :: ([0x2c].intercalate (next :: pieces) ++ 0x7d :: more))
        rw [List.intercalate_cons_cons]
        simp only [List.append_assoc, List.cons_append]
        exact .member found names means reads goesOn rest

/-- **Items are read text by text**, up to the closing bracket. -/
theorem Reads.of_items (some : items ≠ [])
    (areTexts : List.Forall₂ (fun item tree => read? item = .some tree) items trees)
    (more : List UInt8) : Reads (.items trees) ([0x2c].intercalate items ++ 0x5d :: more) more := by
  induction areTexts with
  | nil => exact absurd rfl some
  | @cons item tree items trees isText others ih =>
    cases others with
    | nil =>
      obtain ⟨later, reads, closed⟩ := exists_reads_append isText (.inr (.inl rfl)) more
      rw [List.intercalate_singleton]
      exact .lastItem reads closed
    | @cons next _ items _ _ _ =>
      have rest := ih (List.cons_ne_nil _ _)
      obtain ⟨later, reads, goesOn⟩ := exists_reads_append isText (.inl rfl)
        ([0x2c].intercalate (next :: items) ++ 0x5d :: more)
      rw [List.intercalate_cons_cons]
      simp only [List.append_assoc, List.cons_append]
      exact .item reads goesOn rest

namespace Frame

variable (frame : Frame)

theorem skipSpace_enclose {opening : UInt8} (noSpace : isSpace opening = false) (closing : UInt8)
    (texts : List (List UInt8)) : skipSpace (frame.enclose opening closing texts) =
      opening :: (frame.inside ++ ([0x2c].intercalate texts ++ closing :: frame.after)) := by
  rw [enclose, skipSpace_append_of_blank frame.areBlank.1]
  exact List.dropWhile_cons_of_neg (by simp [noSpace])

/-- The text of a record as it is read behind its opening brace. -/
theorem reads_record (arePieces : List.Forall₂ IsPiece pieces members) :
    Reads (.tree (.record members)) (frame.record pieces) frame.after := by
  have found := frame.skipSpace_enclose (by decide : isSpace 0x7b = false) 0x7d pieces
  cases arePieces with
  | nil =>
    refine .emptyRecord found ?_
    rw [skipSpace_append_of_blank frame.areBlank.2.1]
    rfl
  | cons isPiece others =>
    have reads := Reads.of_pieces (List.cons_ne_nil _ _) (.cons isPiece others) frame.after
    refine .record found (reads.of_skipSpace_eq ?_)
    rw [skipSpace_skipSpace, skipSpace_append_of_blank frame.areBlank.2.1]

theorem reads_list
    (areTexts : List.Forall₂ (fun item tree => read? item = some tree) items trees) :
    Reads (.tree (.list trees)) (frame.list items) frame.after := by
  have found := frame.skipSpace_enclose (by decide : isSpace 0x5b = false) 0x5d items
  cases areTexts with
  | nil =>
    refine .emptyList found ?_
    rw [skipSpace_append_of_blank frame.areBlank.2.1]
    rfl
  | cons isText others =>
    have reads := Reads.of_items (List.cons_ne_nil _ _) (.cons isText others) frame.after
    refine .list found (reads.of_skipSpace_eq ?_)
    rw [skipSpace_skipSpace, skipSpace_append_of_blank frame.areBlank.2.1]

/-- **A record is read piece by piece.** -/
theorem read?_record (arePieces : List.Forall₂ IsPiece pieces members) :
    read? (frame.record pieces) = some (.record members) :=
  read?_eq_some_iff.2 ⟨frame.after, frame.reads_record arePieces,
    skipSpace_eq_nil_iff.2 frame.areBlank.2.2⟩

/-- **A list is read item by item.** -/
theorem read?_list
    (areTexts : List.Forall₂ (fun item tree => read? item = some tree) items trees) :
    read? (frame.list items) = some (.list trees) :=
  read?_eq_some_iff.2 ⟨frame.after, frame.reads_list areTexts,
    skipSpace_eq_nil_iff.2 frame.areBlank.2.2⟩

end Frame

end Reading

/-! ## Cutting texts -/

/-- A string can be cut off behind its closing quote. -/
theorem ReadsToken.exists_cut {token : Token} (reads : ReadsToken bytes token rest) :
    ∃ quoted, bytes = quoted ++ rest ∧ ReadsToken quoted token [] := by
  induction reads with
  | close => exact ⟨[0x22], rfl, .close⟩
  | @unit a b c d value later rest token written _ ih =>
    obtain ⟨quoted, rfl, reads⟩ := ih
    exact ⟨0x5c :: 0x75 :: a :: b :: c :: d :: quoted, rfl, .unit written reads⟩
  | @short letter value later rest token written _ ih =>
    obtain ⟨quoted, rfl, reads⟩ := ih
    exact ⟨0x5c :: letter :: quoted, rfl, .short written reads⟩
  | @byte byte later rest token noQuote plain _ ih =>
    obtain ⟨quoted, rfl, reads⟩ := ih
    exact ⟨byte :: quoted, rfl, .byte noQuote plain reads⟩

/-- A part is a text, or is put together from the texts of items or members. -/
def Part.IsCut (bytes rest : List UInt8) : Part → Prop
  | tree value => ∃ text, bytes = text ++ rest ∧ read? text = some value
  | items values => ∃ texts, texts ≠ [] ∧ bytes = [0x2c].intercalate texts ++ 0x5d :: rest ∧
    List.Forall₂ (fun item tree => read? item = some tree) texts values
  | members pairs => ∃ pieces, pieces ≠ [] ∧ bytes = [0x2c].intercalate pieces ++ 0x7d :: rest ∧
    List.Forall₂ IsPiece pieces pairs

theorem intercalate_cons {first : List UInt8} {texts : List (List UInt8)} (some : texts ≠ []) :
    [0x2c].intercalate (first :: texts) = first ++ 0x2c :: [0x2c].intercalate texts := by
  obtain ⟨next, others, rfl⟩ := List.exists_cons_of_ne_nil some
  rw [List.intercalate_cons_cons, List.append_assoc]
  rfl

/-- Bytes without blanks in front of them can be cut off with the blanks in front of them. -/
theorem exists_cut_of_skipSpace (word : List UInt8) (found : skipSpace bytes = word ++ rest)
    (begins : skipSpace word = word) : ∃ text, bytes = text ++ rest ∧ skipSpace text = word := by
  obtain ⟨before, split, blank⟩ := exists_blank bytes
  refine ⟨before ++ word, ?_, ?_⟩
  · rw [List.append_assoc, ← found]
    exact split
  · rw [skipSpace_append_of_blank blank, begins]

/-- A text between brackets has a frame. -/
theorem exists_frame {opening closing : UInt8} {later : List UInt8} (texts : List (List UInt8))
    (found : skipSpace bytes = opening :: later)
    (cut : skipSpace later = [0x2c].intercalate texts ++ closing :: rest) {tail after : List UInt8}
    (isTail : rest = after ++ tail) (blank : AreBlank after) :
    ∃ frame : Frame, bytes = frame.enclose opening closing texts ++ tail ∧ frame.after = after := by
  obtain ⟨before, split, blankBefore⟩ := exists_blank_of_skipSpace found
  obtain ⟨inside, split', blankInside⟩ := exists_blank later
  refine ⟨⟨before, inside, after, blankBefore, blankInside, blank⟩, ?_, rfl⟩
  rw [split, split', cut, isTail]
  simp [Frame.enclose]

/-- The bytes up to a comma or a bracket, as a text. -/
theorem read?_append_of_skipSpace {text later : List UInt8} {tree : Tree} {byte : UInt8}
    (isText : read? text = some tree) (found : skipSpace later = byte :: rest) :
    ∃ longer, text ++ later = longer ++ byte :: rest ∧ read? longer = some tree := by
  obtain ⟨after, split, blank⟩ := exists_blank_of_skipSpace found
  exact ⟨text ++ after, by rw [split, List.append_assoc], read?_append_blank isText blank⟩

/-- A key that was read, up to its colon. -/
theorem exists_key {quoted named value : List UInt8} {token : Token}
    (found : skipSpace bytes = 0x22 :: quoted) (names : ReadsToken quoted token named)
    (means : skipSpace named = 0x3a :: value) : ∃ key, bytes = key ++ value ∧ IsKey key token := by
  obtain ⟨before, rfl, blank⟩ := exists_blank_of_skipSpace found
  obtain ⟨after, rfl, blank'⟩ := exists_blank_of_skipSpace means
  obtain ⟨quoted, rfl, reads⟩ := names.exists_cut
  exact ⟨_, by simp, .intro blank reads blank'⟩

/-- A number does not begin with blanks. -/
theorem skipSpace_of_readNumeral {numeral : Numeral}
    (reads : readNumeral bytes = some (numeral, rest)) : skipSpace bytes = bytes := by
  obtain ⟨byte, later, rfl, head⟩ := exists_head_of_readNumeral reads
  apply List.dropWhile_cons_of_neg
  intro isBlank
  simp only [isSpace, Bool.or_eq_true, beq_iff_eq] at isBlank
  rcases isBlank with ((rfl | rfl) | rfl) | rfl <;> exact absurd head (by decide)

/-- **What is read can be cut into texts.** -/
theorem Reads.isCut {part : Part} (reads : Reads part bytes rest) : part.IsCut bytes rest := by
  induction reads with
  | @null bytes rest found =>
    obtain ⟨text, rfl, alone⟩ := exists_cut_of_skipSpace [0x6e, 0x75, 0x6c, 0x6c] found rfl
    exact ⟨text, rfl, read?_eq_some_iff.2 ⟨[], .null alone, rfl⟩⟩
  | @yes bytes rest found =>
    obtain ⟨text, rfl, alone⟩ := exists_cut_of_skipSpace [0x74, 0x72, 0x75, 0x65] found rfl
    exact ⟨text, rfl, read?_eq_some_iff.2 ⟨[], .yes alone, rfl⟩⟩
  | @no bytes rest found =>
    obtain ⟨text, rfl, alone⟩ :=
      exists_cut_of_skipSpace [0x66, 0x61, 0x6c, 0x73, 0x65] found rfl
    exact ⟨text, rfl, read?_eq_some_iff.2 ⟨[], .no alone, rfl⟩⟩
  | @text bytes later rest token found reads =>
    obtain ⟨quoted, rfl, names⟩ := reads.exists_cut
    obtain ⟨text, rfl, alone⟩ := exists_cut_of_skipSpace (0x22 :: quoted) found rfl
    exact ⟨text, rfl, read?_eq_some_iff.2 ⟨[], .text alone names, rfl⟩⟩
  | @number bytes rest numeral reads =>
    obtain ⟨taken, found, -, again⟩ := cuts_readNumeral reads
    have numeral := again [] (.inr nofun)
    rw [List.append_nil] at numeral
    obtain ⟨text, rfl, alone⟩ := exists_cut_of_skipSpace _ found (skipSpace_of_readNumeral numeral)
    rw [← alone] at numeral
    exact ⟨text, rfl, read?_eq_some_iff.2 ⟨[], .number numeral, rfl⟩⟩
  | emptyList found closed =>
    obtain ⟨frame, rfl, -⟩ := exists_frame [] found closed (List.nil_append _).symm .nil
    exact ⟨frame.list [], rfl, frame.read?_list .nil⟩
  | list found _ ih =>
    obtain ⟨items, -, cut, areTexts⟩ := ih
    obtain ⟨frame, rfl, -⟩ := exists_frame _ found cut (List.nil_append _).symm .nil
    exact ⟨frame.list items, rfl, frame.read?_list areTexts⟩
  | emptyRecord found closed =>
    obtain ⟨frame, rfl, -⟩ := exists_frame [] found closed (List.nil_append _).symm .nil
    exact ⟨frame.record [], rfl, frame.read?_record .nil⟩
  | record found _ ih =>
    obtain ⟨pieces, -, cut, arePieces⟩ := ih
    obtain ⟨frame, rfl, -⟩ := exists_frame _ found cut (List.nil_append _).symm .nil
    exact ⟨frame.record pieces, rfl, frame.read?_record arePieces⟩
  | lastItem _ closed ih =>
    obtain ⟨text, rfl, isText⟩ := ih
    obtain ⟨longer, split, isText⟩ := read?_append_of_skipSpace isText closed
    refine ⟨[longer], List.cons_ne_nil _ _, ?_, .cons isText .nil⟩
    rw [split, List.intercalate_singleton]
  | item _ goesOn _ ih others =>
    obtain ⟨text, rfl, isText⟩ := ih
    obtain ⟨texts, some, rfl, areTexts⟩ := others
    obtain ⟨longer, split, isText⟩ := read?_append_of_skipSpace isText goesOn
    refine ⟨longer :: texts, List.cons_ne_nil _ _, ?_, .cons isText areTexts⟩
    rw [split, intercalate_cons some, List.append_assoc]
    rfl
  | lastMember found names means _ closed ih =>
    obtain ⟨text, rfl, isText⟩ := ih
    obtain ⟨longer, split, isText⟩ := read?_append_of_skipSpace isText closed
    obtain ⟨key, rfl, isKey⟩ := exists_key found names means
    refine ⟨[key ++ longer], List.cons_ne_nil _ _, ?_, .cons (.intro isKey isText) .nil⟩
    rw [split, List.intercalate_singleton, List.append_assoc]
  | member found names means _ goesOn _ ih others =>
    obtain ⟨text, rfl, isText⟩ := ih
    obtain ⟨pieces, some, rfl, arePieces⟩ := others
    obtain ⟨longer, split, isText⟩ := read?_append_of_skipSpace isText goesOn
    obtain ⟨key, rfl, isKey⟩ := exists_key found names means
    refine ⟨(key ++ longer) :: pieces, List.cons_ne_nil _ _, ?_,
      .cons (.intro isKey isText) arePieces⟩
    rw [split, intercalate_cons some]
    simp only [List.append_assoc, List.cons_append]

/-- **The text of a record is put together from pieces.** -/
theorem exists_pieces_of_read? {members : List (Token × Tree)}
    (isText : read? bytes = some (.record members)) :
    ∃ (frame : Frame) (pieces : List (List UInt8)), bytes = frame.record pieces ∧
      List.Forall₂ IsPiece pieces members := by
  obtain ⟨rest, reads, ended⟩ := read?_eq_some_iff.1 isText
  have blank := skipSpace_eq_nil_iff.1 ended
  have whole : rest = rest ++ [] := (List.append_nil rest).symm
  cases reads with
  | emptyRecord found closed =>
    obtain ⟨frame, same, -⟩ := exists_frame [] found closed whole blank
    exact ⟨frame, [], same.trans (List.append_nil _), .nil⟩
  | record found reads =>
    obtain ⟨pieces, -, cut, arePieces⟩ := reads.isCut
    obtain ⟨frame, same, -⟩ := exists_frame _ found cut whole blank
    exact ⟨frame, pieces, same.trans (List.append_nil _), arePieces⟩

/-- **The text of a list is put together from the texts of its items.** -/
theorem exists_items_of_read? {trees : List Tree} (isText : read? bytes = some (.list trees)) :
    ∃ (frame : Frame) (items : List (List UInt8)), bytes = frame.list items ∧
      List.Forall₂ (fun item tree => read? item = some tree) items trees := by
  obtain ⟨rest, reads, ended⟩ := read?_eq_some_iff.1 isText
  have blank := skipSpace_eq_nil_iff.1 ended
  have whole : rest = rest ++ [] := (List.append_nil rest).symm
  cases reads with
  | emptyList found closed =>
    obtain ⟨frame, same, -⟩ := exists_frame [] found closed whole blank
    exact ⟨frame, [], same.trans (List.append_nil _), .nil⟩
  | list found reads =>
    obtain ⟨items, -, cut, areTexts⟩ := reads.isCut
    obtain ⟨frame, same, -⟩ := exists_frame _ found cut whole blank
    exact ⟨frame, items, same.trans (List.append_nil _), areTexts⟩

end Turnstile.Json
