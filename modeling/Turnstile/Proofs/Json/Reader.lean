import Turnstile.Proofs.Json.Numbers

/-!
# How JSON is read

A text is read by a recursion with a budget. What it amounts to is a relation between the bytes, the
part that is read there, and the bytes after it (`Reads`): the budget never runs out
(`Reads.isRead`), and nothing else is read (`Reads.of_isRead`). So whatever is shown about reading
is shown by induction over this relation, with one case for each form that a value can have.

In particular a part is read in the same way where more bytes follow (`Reads.append`), and a text
that stands within a longer one is read as it is alone (`exists_reads_append`).
-/

set_option autoImplicit false

namespace Turnstile.Json

variable {bytes rest more : List UInt8}

/-! ## Strings -/

/-- How a string is read: the bytes, the token that they write, and the bytes after it. -/
inductive ReadsToken : List UInt8 → Token → List UInt8 → Prop where
  | close {rest : List UInt8} : ReadsToken (0x22 :: rest) [] rest
  | unit {a b c d : UInt8} {value : Nat} {later rest : List UInt8} {token : Token}
    (written : hexUnit? a b c d = some value) (reads : ReadsToken later token rest) :
    ReadsToken (0x5c :: 0x75 :: a :: b :: c :: d :: later) (.unit value :: token) rest
  | short {letter : UInt8} {value : Nat} {later rest : List UInt8} {token : Token}
    (written : shortEscape? letter = some value) (reads : ReadsToken later token rest) :
    ReadsToken (0x5c :: letter :: later) (.unit value :: token) rest
  | byte {byte : UInt8} {later rest : List UInt8} {token : Token}
    (noQuote : byte ≠ 0x22) (plain : ¬(byte < 0x20 ∨ byte = 0x5c))
    (reads : ReadsToken later token rest) : ReadsToken (byte :: later) (.byte byte :: token) rest

variable {token : Token}

/-- **Strings are read in these ways only.** -/
theorem ReadsToken.of_readToken (reads : readToken bytes = some (token, rest)) :
    ReadsToken bytes token rest := by
  fun_induction readToken bytes generalizing token rest with
  | case1 => cases reads
  | case2 later =>
    cases reads
    exact .close
  | case3 a b c d later ih =>
    obtain ⟨value, written, reads⟩ := Option.bind_eq_some_iff.1 reads
    obtain ⟨⟨pieces, _⟩, laterReads, same⟩ := Option.bind_eq_some_iff.1 reads
    cases same
    exact .unit written (ih laterReads)
  | case4 letter later _ ih =>
    obtain ⟨value, written, reads⟩ := Option.bind_eq_some_iff.1 reads
    obtain ⟨⟨pieces, _⟩, laterReads, same⟩ := Option.bind_eq_some_iff.1 reads
    cases same
    exact .short written (ih laterReads)
  | case5 => cases reads
  | case6 byte later noQuote _ _ plain ih =>
    obtain ⟨⟨pieces, _⟩, laterReads, same⟩ := Option.bind_eq_some_iff.1 reads
    cases same
    exact .byte noQuote plain (ih laterReads)

theorem ReadsToken.readToken (reads : ReadsToken bytes token rest) :
    readToken bytes = some (token, rest) := by
  induction reads with
  | close => rfl
  | unit written _ ih => simp [Json.readToken, written, ih]
  | @short letter value later rest token written _ ih =>
    unfold Json.readToken
    split
    case h_1 none => cases none
    case h_2 quote => simp at quote
    case h_3 unit =>
      cases unit
      cases written
    case h_4 short =>
      cases short
      simp [written, ih]
    case h_5 notShort byte =>
      cases byte
      exact (notShort letter later rfl rfl).elim
  | @byte byte later rest token noQuote plain _ ih =>
    unfold Json.readToken
    split
    case h_5 same =>
      cases same
      simp [plain, ih]
    all_goals simp_all

theorem ReadsToken.append (reads : ReadsToken bytes token rest) (more : List UInt8) :
    ReadsToken (bytes ++ more) token (rest ++ more) := by
  induction reads with
  | close => exact .close
  | unit written _ ih => exact .unit written ih
  | short written _ ih => exact .short written ih
  | byte noQuote plain _ ih => exact .byte noQuote plain ih

theorem ReadsToken.length_lt (reads : ReadsToken bytes token rest) :
    rest.length < bytes.length := by
  induction reads with
  | close => exact Nat.lt_succ_self _
  | unit _ _ ih => exact Nat.lt_add_right 6 ih
  | short _ _ ih => exact Nat.lt_add_right 2 ih
  | byte _ _ _ ih => exact Nat.lt_succ_of_lt ih

/-! ## Values -/

/-- What is read at a place: a value, or the rest of a list or of a record with its bracket. -/
inductive Part where
  | tree (tree : Tree)
  | items (items : List Tree)
  | members (members : List (Token × Tree))

/-- How a part is read: the bytes, and those after it. -/
inductive Reads : Part → List UInt8 → List UInt8 → Prop where
  | null {bytes rest : List UInt8}
    (found : skipSpace bytes = 0x6e :: 0x75 :: 0x6c :: 0x6c :: rest) :
    Reads (.tree .null) bytes rest
  | yes {bytes rest : List UInt8}
    (found : skipSpace bytes = 0x74 :: 0x72 :: 0x75 :: 0x65 :: rest) :
    Reads (.tree (.boolean true)) bytes rest
  | no {bytes rest : List UInt8}
    (found : skipSpace bytes = 0x66 :: 0x61 :: 0x6c :: 0x73 :: 0x65 :: rest) :
    Reads (.tree (.boolean false)) bytes rest
  | text {bytes later rest : List UInt8} {token : Token} (found : skipSpace bytes = 0x22 :: later)
    (reads : ReadsToken later token rest) : Reads (.tree (.text token)) bytes rest
  | number {bytes rest : List UInt8} {numeral : Numeral}
    (reads : readNumeral (skipSpace bytes) = some (numeral, rest)) :
    Reads (.tree (.number numeral)) bytes rest
  | emptyList {bytes later rest : List UInt8} (found : skipSpace bytes = 0x5b :: later)
    (closed : skipSpace later = 0x5d :: rest) : Reads (.tree (.list [])) bytes rest
  | list {bytes later rest : List UInt8} {items : List Tree}
    (found : skipSpace bytes = 0x5b :: later)
    (reads : Reads (.items items) (skipSpace later) rest) :
    Reads (.tree (.list items)) bytes rest
  | emptyRecord {bytes later rest : List UInt8} (found : skipSpace bytes = 0x7b :: later)
    (closed : skipSpace later = 0x7d :: rest) : Reads (.tree (.record [])) bytes rest
  | record {bytes later rest : List UInt8} {members : List (Token × Tree)}
    (found : skipSpace bytes = 0x7b :: later)
    (reads : Reads (.members members) (skipSpace later) rest) :
    Reads (.tree (.record members)) bytes rest
  | lastItem {bytes later rest : List UInt8} {item : Tree} (reads : Reads (.tree item) bytes later)
    (closed : skipSpace later = 0x5d :: rest) : Reads (.items [item]) bytes rest
  | item {bytes later next rest : List UInt8} {item : Tree} {items : List Tree}
    (reads : Reads (.tree item) bytes later) (goesOn : skipSpace later = 0x2c :: next)
    (others : Reads (.items items) next rest) : Reads (.items (item :: items)) bytes rest
  | lastMember {bytes quoted named value later rest : List UInt8} {key : Token} {tree : Tree}
    (found : skipSpace bytes = 0x22 :: quoted) (names : ReadsToken quoted key named)
    (means : skipSpace named = 0x3a :: value) (reads : Reads (.tree tree) value later)
    (closed : skipSpace later = 0x7d :: rest) : Reads (.members [(key, tree)]) bytes rest
  | member {bytes quoted named value later next rest : List UInt8} {key : Token} {tree : Tree}
    {members : List (Token × Tree)} (found : skipSpace bytes = 0x22 :: quoted)
    (names : ReadsToken quoted key named) (means : skipSpace named = 0x3a :: value)
    (reads : Reads (.tree tree) value later) (goesOn : skipSpace later = 0x2c :: next)
    (others : Reads (.members members) next rest) :
    Reads (.members ((key, tree) :: members)) bytes rest

/-- The part is read with a budget. -/
def Part.IsRead (budget : Nat) (bytes rest : List UInt8) : Part → Prop
  | tree value => readTree budget bytes = some (value, rest)
  | items values => readItems budget bytes = some (values, rest)
  | members pairs => readMembers budget bytes = some (pairs, rest)

theorem Reads.of_isRead {budget : Nat} {part : Part} (isRead : part.IsRead budget bytes rest) :
    Reads part bytes rest := by
  induction budget generalizing part bytes rest with
  | zero => cases part <;> cases isRead
  | succ budget ih =>
    have tree {bytes rest : List UInt8} {tree : Tree}
        (reads : readTree budget bytes = some (tree, rest)) : Reads (.tree tree) bytes rest :=
      ih reads
    cases part with
    | tree tree =>
      change readTree (budget + 1) bytes = _ at isRead
      unfold readTree at isRead
      split at isRead
      case h_1 found =>
        cases isRead
        exact .null found
      case h_2 found =>
        cases isRead
        exact .yes found
      case h_3 found =>
        cases isRead
        exact .no found
      case h_4 later found =>
        obtain ⟨⟨token, _⟩, reads, same⟩ := Option.map_eq_some_iff.1 isRead
        cases same
        exact .text found (.of_readToken reads)
      case h_5 later found =>
        split at isRead
        case h_1 closed =>
          cases isRead
          exact .emptyList found closed
        case h_2 =>
          obtain ⟨⟨items, _⟩, reads, same⟩ := Option.map_eq_some_iff.1 isRead
          cases same
          have others : (Part.items items).IsRead budget (skipSpace later) _ := reads
          exact .list found (ih others)
      case h_6 later found =>
        split at isRead
        case h_1 closed =>
          cases isRead
          exact .emptyRecord found closed
        case h_2 =>
          obtain ⟨⟨members, _⟩, reads, same⟩ := Option.map_eq_some_iff.1 isRead
          cases same
          have others : (Part.members members).IsRead budget (skipSpace later) _ := reads
          exact .record found (ih others)
      case h_7 =>
        obtain ⟨⟨numeral, _⟩, reads, same⟩ := Option.map_eq_some_iff.1 isRead
        cases same
        exact .number reads
    | items items =>
      change readItems (budget + 1) bytes = _ at isRead
      rw [readItems] at isRead
      obtain ⟨⟨item, later⟩, reads, isRead⟩ := Option.bind_eq_some_iff.1 isRead
      dsimp only at isRead
      split at isRead
      case h_1 closed =>
        cases isRead
        exact .lastItem (tree reads) closed
      case h_2 next goesOn =>
        obtain ⟨⟨items, _⟩, others, same⟩ := Option.bind_eq_some_iff.1 isRead
        cases same
        have others : (Part.items items).IsRead budget next _ := others
        exact .item (tree reads) goesOn (ih others)
      case h_3 => cases isRead
    | members members =>
      change readMembers (budget + 1) bytes = _ at isRead
      rw [readMembers] at isRead
      split at isRead
      case h_1 quoted found =>
        obtain ⟨⟨key, named⟩, names, isRead⟩ := Option.bind_eq_some_iff.1 isRead
        dsimp only at isRead
        split at isRead
        case h_1 value means =>
          obtain ⟨⟨value, later⟩, reads, isRead⟩ := Option.bind_eq_some_iff.1 isRead
          dsimp only at isRead
          split at isRead
          case h_1 closed =>
            cases isRead
            exact .lastMember found (.of_readToken names) means (tree reads) closed
          case h_2 next goesOn =>
            obtain ⟨⟨members, _⟩, others, same⟩ := Option.bind_eq_some_iff.1 isRead
            cases same
            have others : (Part.members members).IsRead budget next _ := others
            exact .member found (.of_readToken names) means (tree reads) goesOn (ih others)
          case h_3 => cases isRead
        case h_2 => cases isRead
      case h_2 => cases isRead

theorem length_skipSpace_le (bytes : List UInt8) : (skipSpace bytes).length ≤ bytes.length :=
  (List.dropWhile_suffix _).length_le

/-- Behind a byte that was found there is less than there was. -/
theorem length_lt_of_skipSpace {byte : UInt8} (found : skipSpace bytes = byte :: rest) :
    rest.length < bytes.length := by
  have shorter := length_skipSpace_le bytes
  rw [found] at shorter
  exact shorter

theorem Takes.length_le (takes : Takes bytes rest) : rest.length ≤ bytes.length := by
  obtain ⟨taken, rfl, _⟩ := takes
  rw [List.length_append]
  exact Nat.le_add_left ..

theorem Reads.length_le {part : Part} (reads : Reads part bytes rest) :
    rest.length ≤ bytes.length := by
  induction reads with
  | null found | yes found | no found =>
    have first := length_lt_of_skipSpace found
    simp only [List.length_cons] at first
    omega
  | text found reads =>
    have first := length_lt_of_skipSpace found
    have second := reads.length_lt
    omega
  | @number bytes rest numeral reads =>
    have first := length_skipSpace_le bytes
    have second := (takes_of_readNumeral reads).length_le
    omega
  | emptyList found closed | emptyRecord found closed =>
    have first := length_lt_of_skipSpace found
    have second := length_lt_of_skipSpace closed
    omega
  | @list bytes later _ _ found _ ih | @record bytes later _ _ found _ ih =>
    have first := length_lt_of_skipSpace found
    have second := length_skipSpace_le later
    omega
  | lastItem _ closed ih =>
    have last := length_lt_of_skipSpace closed
    omega
  | item _ goesOn _ ih others =>
    have last := length_lt_of_skipSpace goesOn
    omega
  | lastMember found names means _ closed ih =>
    have first := length_lt_of_skipSpace found
    have second := names.length_lt
    have third := length_lt_of_skipSpace means
    have last := length_lt_of_skipSpace closed
    omega
  | member found names means _ goesOn _ ih others =>
    have first := length_lt_of_skipSpace found
    have second := names.length_lt
    have third := length_lt_of_skipSpace means
    have last := length_lt_of_skipSpace goesOn
    omega

/-- The budget with which a part is read, however it is made up. -/
def Part.need (bytes : List UInt8) : Part → Nat
  | tree _ => 2 * bytes.length + 1
  | items _ => 2 * bytes.length + 2
  | members _ => 2 * bytes.length + 2

theorem Part.exists_budget {part : Part} {budget : Nat} (enough : part.need bytes ≤ budget) :
    ∃ smaller, budget = smaller + 1 := by
  refine Nat.exists_eq_add_one.2 (Nat.lt_of_lt_of_le ?_ enough)
  cases part <;> exact Nat.succ_pos _

@[simp] theorem skipSpace_skipSpace (bytes : List UInt8) :
    skipSpace (skipSpace bytes) = skipSpace bytes :=
  List.dropWhile_idempotent isSpace bytes

/-- A list that is not empty does not begin with its closing bracket. -/
theorem Reads.items_head_ne {items : List Tree} (reads : Reads (.items items) bytes rest)
    (later : List UInt8) : skipSpace bytes ≠ 0x5d :: later := by
  have noTree {tree : Tree} {rest : List UInt8} (reads : Reads (.tree tree) bytes rest) :
      skipSpace bytes ≠ 0x5d :: later := by
    intro closed
    cases reads with
    | number reads =>
      obtain ⟨byte, _, same, head⟩ := exists_head_of_readNumeral reads
      cases closed.symm.trans same
      exact absurd head (by decide)
    | null found | yes found | no found | text found | emptyList found | list found
    | emptyRecord found | record found => cases closed.symm.trans found
  cases reads with
  | lastItem reads => exact noTree reads
  | item reads => exact noTree reads

/-- A record that is not empty does not begin with its closing brace. -/
theorem Reads.members_head_ne {members : List (Token × Tree)}
    (reads : Reads (.members members) bytes rest) (later : List UInt8) :
    skipSpace bytes ≠ 0x7d :: later := by
  intro closed
  cases reads with
  | lastMember found => cases closed.symm.trans found
  | member found => cases closed.symm.trans found

/-- **A budget that no text uses up.** -/
theorem Reads.isRead {part : Part} (reads : Reads part bytes rest) {budget : Nat}
    (enough : part.need bytes ≤ budget) : part.IsRead budget bytes rest := by
  induction reads generalizing budget with
  | null found | yes found | no found =>
    obtain ⟨budget, rfl⟩ := Part.exists_budget enough
    change readTree (budget + 1) _ = _
    simp [readTree, found]
  | text found reads =>
    obtain ⟨budget, rfl⟩ := Part.exists_budget enough
    change readTree (budget + 1) _ = _
    simp [readTree, found, reads.readToken]
  | @number bytes rest numeral reads =>
    obtain ⟨budget, rfl⟩ := Part.exists_budget enough
    obtain ⟨byte, later, same, head⟩ := exists_head_of_readNumeral reads
    change readTree (budget + 1) _ = _
    unfold readTree
    split
    case h_7 => exact Option.map_eq_some_iff.2 ⟨_, reads, rfl⟩
    all_goals
      rename_i found
      cases same.symm.trans found
      exact absurd head (by decide)
  | emptyList found closed =>
    obtain ⟨budget, rfl⟩ := Part.exists_budget enough
    change readTree (budget + 1) _ = _
    simp [readTree, found, closed]
  | emptyRecord found closed =>
    obtain ⟨budget, rfl⟩ := Part.exists_budget enough
    change readTree (budget + 1) _ = _
    simp [readTree, found, closed]
  | @list bytes later rest items found reads ih =>
    obtain ⟨budget, rfl⟩ := Part.exists_budget enough
    have isOpen : ∀ closed, skipSpace later ≠ 0x5d :: closed := fun closed =>
      skipSpace_skipSpace later ▸ reads.items_head_ne closed
    have smaller : (Part.items items).need (skipSpace later) ≤ budget := by
      have first := length_lt_of_skipSpace found
      have second := length_skipSpace_le later
      simp only [Part.need] at enough ⊢
      omega
    have others : readItems budget (skipSpace later) = some (items, rest) := ih smaller
    change readTree (budget + 1) _ = _
    simp [readTree, found, others]
  | @record bytes later rest members found reads ih =>
    obtain ⟨budget, rfl⟩ := Part.exists_budget enough
    have isOpen : ∀ closed, skipSpace later ≠ 0x7d :: closed := fun closed =>
      skipSpace_skipSpace later ▸ reads.members_head_ne closed
    have smaller : (Part.members members).need (skipSpace later) ≤ budget := by
      have first := length_lt_of_skipSpace found
      have second := length_skipSpace_le later
      simp only [Part.need] at enough ⊢
      omega
    have others : readMembers budget (skipSpace later) = some (members, rest) := ih smaller
    change readTree (budget + 1) _ = _
    simp [readTree, found, others]
  | @lastItem bytes later rest item reads closed ih =>
    obtain ⟨budget, rfl⟩ := Part.exists_budget enough
    have head : readTree budget bytes = some (item, later) := ih (Nat.le_of_succ_le_succ enough)
    change readItems (budget + 1) _ = _
    simp [readItems, head, closed]
  | @item bytes later next rest item items reads goesOn _ ih others =>
    obtain ⟨budget, rfl⟩ := Part.exists_budget enough
    have head : readTree budget bytes = some (item, later) := ih (Nat.le_of_succ_le_succ enough)
    have smaller : (Part.items items).need next ≤ budget := by
      have first := reads.length_le
      have second := length_lt_of_skipSpace goesOn
      simp only [Part.need] at enough ⊢
      omega
    have others : readItems budget next = some (items, rest) := others smaller
    change readItems (budget + 1) _ = _
    simp [readItems, head, goesOn, others]
  | @lastMember bytes quoted named value later rest key tree found names means reads closed ih =>
    obtain ⟨budget, rfl⟩ := Part.exists_budget enough
    have smaller : (Part.tree tree).need value ≤ budget := by
      have first := length_lt_of_skipSpace found
      have second := names.length_lt
      have third := length_lt_of_skipSpace means
      simp only [Part.need] at enough ⊢
      omega
    have head : readTree budget value = some (tree, later) := ih smaller
    change readMembers (budget + 1) _ = _
    simp [readMembers, found, names.readToken, means, head, closed]
  | @member bytes quoted named value later next rest key tree members found names means reads
      goesOn _ ih others =>
    obtain ⟨budget, rfl⟩ := Part.exists_budget enough
    have inside : value.length < bytes.length := by
      have first := length_lt_of_skipSpace found
      have second := names.length_lt
      have third := length_lt_of_skipSpace means
      omega
    have smaller : (Part.tree tree).need value ≤ budget := by
      simp only [Part.need] at enough ⊢
      omega
    have smaller' : (Part.members members).need next ≤ budget := by
      have first := reads.length_le
      have second := length_lt_of_skipSpace goesOn
      simp only [Part.need] at enough ⊢
      omega
    have head : readTree budget value = some (tree, later) := ih smaller
    have others : readMembers budget next = some (members, rest) := others smaller'
    change readMembers (budget + 1) _ = _
    simp [readMembers, found, names.readToken, means, head, goesOn, others]

/-! ## Longer texts -/

theorem skipSpace_append_of_found {found : List UInt8} {byte : UInt8}
    (isFound : skipSpace bytes = byte :: found) (more : List UInt8) :
    skipSpace (bytes ++ more) = byte :: (found ++ more) := by
  rw [skipSpace_append (isFound ▸ List.cons_ne_nil byte found), isFound, List.cons_append]

theorem ne_nil_of_skipSpace {byte : UInt8} (found : skipSpace bytes = byte :: rest) :
    bytes ≠ [] := by
  rintro rfl
  cases found

theorem Reads.skipSpace_ne_nil {part : Part} (reads : Reads part bytes rest) :
    skipSpace bytes ≠ [] := by
  induction reads with
  | number reads =>
    obtain ⟨byte, later, same, _⟩ := exists_head_of_readNumeral reads
    exact same ▸ List.cons_ne_nil byte later
  | null found | yes found | no found | text found | emptyList found | list found
  | emptyRecord found | record found | lastMember found | member found =>
    exact found ▸ List.cons_ne_nil _ _
  | lastItem _ _ ih => exact ih
  | item _ _ _ ih => exact ih

/-- **A part is read in the same way where more bytes follow**, unless a number goes on with
them. -/
theorem Reads.append {part : Part} (reads : Reads part bytes rest)
    (stops : rest = [] → Stops more) : Reads part (bytes ++ more) (rest ++ more) := by
  have skips {bytes found : List UInt8} {byte : UInt8}
      (isFound : skipSpace bytes = byte :: found) :=
    skipSpace_append_of_found isFound more
  induction reads with
  | null found => exact .null (skips found)
  | yes found => exact .yes (skips found)
  | no found => exact .no (skips found)
  | text found reads => exact .text (skips found) (reads.append more)
  | number reads =>
    obtain ⟨byte, later, same, _⟩ := exists_head_of_readNumeral reads
    refine .number ?_
    rw [skipSpace_append (same ▸ List.cons_ne_nil byte later)]
    exact readNumeral_append reads stops
  | emptyList found closed => exact .emptyList (skips found) (skips closed)
  | list found reads ih =>
    refine .list (skips found) ?_
    rw [skipSpace_append (skipSpace_skipSpace _ ▸ reads.skipSpace_ne_nil)]
    exact ih stops
  | emptyRecord found closed => exact .emptyRecord (skips found) (skips closed)
  | record found reads ih =>
    refine .record (skips found) ?_
    rw [skipSpace_append (skipSpace_skipSpace _ ▸ reads.skipSpace_ne_nil)]
    exact ih stops
  | lastItem _ closed ih =>
    exact .lastItem (ih fun ended => absurd ended (ne_nil_of_skipSpace closed)) (skips closed)
  | item _ goesOn _ ih others =>
    exact .item (ih fun ended => absurd ended (ne_nil_of_skipSpace goesOn)) (skips goesOn)
      (others stops)
  | lastMember found names means _ closed ih =>
    exact .lastMember (skips found) (names.append more) (skips means)
      (ih fun ended => absurd ended (ne_nil_of_skipSpace closed)) (skips closed)
  | member found names means _ goesOn _ ih others =>
    exact .member (skips found) (names.append more) (skips means)
      (ih fun ended => absurd ended (ne_nil_of_skipSpace goesOn)) (skips goesOn) (others stops)

/-- **A text is read as the one value that stands in it with blanks around it.** -/
theorem read?_eq_some_iff {tree : Tree} :
    read? bytes = some tree ↔ ∃ rest, Reads (.tree tree) bytes rest ∧ skipSpace rest = [] := by
  have enough : (Part.tree tree).need bytes ≤ 2 * bytes.length + 2 := by
    rw [Part.need]
    omega
  constructor
  · intro reads
    obtain ⟨⟨other, rest⟩, isRead, reads⟩ := Option.bind_eq_some_iff.1 reads
    dsimp only at reads
    split at reads
    case isTrue ended =>
      cases reads
      have isRead : (Part.tree tree).IsRead (2 * bytes.length + 2) bytes rest := isRead
      exact ⟨rest, .of_isRead isRead, List.isEmpty_iff.1 ended⟩
    case isFalse => cases reads
  · rintro ⟨rest, reads, ended⟩
    have isRead : readTree (2 * bytes.length + 2) bytes = some (tree, rest) := reads.isRead enough
    simp [read?, isRead, ended]

/-- Blanks in front of a part make no difference. -/
theorem Reads.of_skipSpace_eq {part : Part} (reads : Reads part bytes rest) {other : List UInt8}
    (same : skipSpace other = skipSpace bytes) : Reads part other rest := by
  induction reads generalizing other with
  | null found => exact .null (same.trans found)
  | yes found => exact .yes (same.trans found)
  | no found => exact .no (same.trans found)
  | text found reads => exact .text (same.trans found) reads
  | number reads => exact .number (same ▸ reads)
  | emptyList found closed => exact .emptyList (same.trans found) closed
  | list found reads => exact .list (same.trans found) reads
  | emptyRecord found closed => exact .emptyRecord (same.trans found) closed
  | record found reads => exact .record (same.trans found) reads
  | lastItem _ closed ih => exact .lastItem (ih same) closed
  | item _ goesOn others ih => exact .item (ih same) goesOn others
  | lastMember found names means reads closed =>
    exact .lastMember (same.trans found) names means reads closed
  | member found names means reads goesOn others =>
    exact .member (same.trans found) names means reads goesOn others

/-- **A text within a longer one** is read as it is alone, where a comma or a closing bracket
follows. -/
theorem exists_reads_append {tree : Tree} (isText : read? bytes = some tree) {byte : UInt8}
    (follows : byte = 0x2c ∨ byte = 0x5d ∨ byte = 0x7d) (more : List UInt8) :
    ∃ rest, Reads (.tree tree) (bytes ++ byte :: more) rest ∧ skipSpace rest = byte :: more := by
  obtain ⟨rest, reads, ended⟩ := read?_eq_some_iff.1 isText
  have stops : Stops (byte :: more) := by
    rintro _ ⟨⟩
    rcases follows with rfl | rfl | rfl <;> decide
  have noSpace : isSpace byte = false := by
    rcases follows with rfl | rfl | rfl <;> decide
  refine ⟨rest ++ byte :: more, reads.append fun _ => stops, ?_⟩
  have skipped : skipSpace (rest ++ byte :: more) = skipSpace rest ++ byte :: more :=
    (span_append rest fun _ => by simp [noSpace]).2
  rw [skipped, ended, List.nil_append]

/-- A string without escapes is read byte by byte. -/
theorem readsToken_of_plain {text : List UInt8}
    (plain : ∀ byte ∈ text, byte ≠ 0x22 ∧ ¬(byte < 0x20 ∨ byte = 0x5c)) (rest : List UInt8) :
    ReadsToken (text ++ 0x22 :: rest) (text.map .byte) rest := by
  induction text with
  | nil => exact .close
  | cons byte text ih =>
    obtain ⟨first, others⟩ := List.forall_mem_cons.1 plain
    exact .byte first.1 first.2 (ih others)

end Turnstile.Json
