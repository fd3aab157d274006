import Turnstile.Json.Printer
import Turnstile.Proofs.Json.Pieces
import Turnstile.Proofs.Json.Tokens
import Turnstile.Proofs.Table

/-!
# What is written is read

The compact form of a tree has no blanks and no second spelling, so reading it gives the tree back
(`read?_print`). That needs two things of the tree: bytes that stand in a string as they are must
not be such as end it, and units must be those of UTF-16. Every string that is made from a text has
both, whatever its characters (`isWritable_ofText`), and stands for that text (`text?_ofText`).
Numbers are left out here: no resource that is written holds one.

Records are written from members with a name each. Where the names are different they are the parts
of the record, in their order (`parts?_ofMembers`), and the bindings of a table
(`table?_ofMembers`).
-/

set_option autoImplicit false

namespace Turnstile.Json

open Utf8

/-! ## Strings -/

/-- The piece can stand in a string that is written. -/
def Piece.IsWritable : Piece → Prop
  | .byte value => value ≠ 0x22 ∧ ¬(value < 0x20 ∨ value = 0x5c)
  | .unit value => value < 0x10000

/-- All pieces of the token can be written. -/
def Token.IsWritable (token : Token) : Prop := ∀ piece ∈ token, piece.IsWritable

theorem hexDigit?_hexByte {value : Nat} (small : value < 16) :
    hexDigit? (hexByte value) = some value := by
  have digits : ∀ digit : Fin 16, hexDigit? (hexByte digit) = some digit.val := by decide
  exact digits ⟨value, small⟩

/-- Four digits write a unit. -/
theorem hexUnit?_hexByte {value : Nat} (small : value < 0x10000) :
    hexUnit? (hexByte (value / 4096 % 16)) (hexByte (value / 256 % 16)) (hexByte (value / 16 % 16))
      (hexByte (value % 16)) = some value := by
  have digit (part : Nat) : hexDigit? (hexByte (part % 16)) = some (part % 16) :=
    hexDigit?_hexByte (Nat.mod_lt _ (by decide))
  simp only [hexUnit?, digit, Option.bind_eq_bind, Option.bind_some, Option.pure_def]
  exact congrArg some (by omega)

/-- A piece that was written is read as it is. -/
theorem ReadsToken.print {piece : Piece} {later rest : List UInt8} {token : Token}
    (writable : piece.IsWritable) (reads : ReadsToken later token rest) :
    ReadsToken (piece.print ++ later) (piece :: token) rest := by
  cases piece with
  | byte value => exact .byte writable.1 writable.2 reads
  | unit value =>
    simp only [Piece.print]
    split_ifs with quote backslash b f n r t
    · exact quote ▸ .short rfl reads
    · exact backslash ▸ .short rfl reads
    · exact b ▸ .short rfl reads
    · exact f ▸ .short rfl reads
    · exact n ▸ .short rfl reads
    · exact r ▸ .short rfl reads
    · exact t ▸ .short rfl reads
    · exact .unit (hexUnit?_hexByte writable) reads

theorem readsToken_print {token : Token} (writable : token.IsWritable) (rest : List UInt8) :
    ReadsToken (token.flatMap Piece.print ++ 0x22 :: rest) token rest := by
  induction token with
  | nil => exact .close
  | cons piece token ih =>
    obtain ⟨first, others⟩ := List.forall_mem_cons.1 writable
    rw [List.flatMap_cons, List.append_assoc]
    exact (ih others).print first

namespace Token

theorem isWritable_ofText (text : String) : (ofText text).IsWritable := by
  intro piece member
  obtain ⟨byte, _, rfl⟩ := List.mem_map.1 member
  split_ifs with escaped
  · exact Nat.lt_trans byte.toNat_lt (by decide)
  · simp only [not_or] at escaped
    exact ⟨escaped.2.1, by simp [escaped]⟩

/-- The unit of an ASCII byte stands for it. -/
theorem bytes?_unit_of_ascii {byte : UInt8} (ascii : byte < 0x80) (token : Token) :
    bytes? (.unit byte.toNat :: token) = (bytes? token).map (byte :: ·) := by
  have small : byte.toNat < 0x80 := UInt8.lt_iff_toNat_lt.1 ascii
  have high : isHigh byte.toNat = false := by simp [isHigh]; omega
  have low : isLow byte.toNat = false := by simp [isLow]; omega
  have single : String.utf8EncodeChar (Char.ofNat byte.toNat) = [byte] := by
    have valid : byte.toNat.isValidChar := .inl (by omega)
    have value : (Char.ofNat byte.toNat).val.toNat = byte.toNat := by
      rw [Char.ofNat, dif_pos valid]
      rfl
    unfold String.utf8EncodeChar
    rw [value, if_pos (by omega)]
    simp
  rcases token with _ | ⟨_ | second, token⟩ <;> simp [bytes?, high, low, single]

theorem bytes?_ofText (text : String) : (ofText text).bytes? = some (encode text) := by
  unfold ofText
  induction encode text with
  | nil => rfl
  | cons byte bytes ih =>
    rw [List.map_cons]
    split_ifs with escaped
    · have ascii : byte < 0x80 := by
        rcases escaped with control | rfl | rfl
        · exact UInt8.lt_trans control (by decide)
        · decide
        · decide
      rw [bytes?_unit_of_ascii ascii, ih, Option.map_some]
    · rw [bytes?, ih, Option.map_some]

@[simp] theorem text?_ofText (text : String) : (ofText text).text? = some text := by
  rw [text?, bytes?_ofText]
  exact decode?_encode text

end Token

/-! ## Values -/

namespace Tree

/-- The tree can be written: it has no numbers, and its strings can be written. -/
structure IsWritable (tree : Tree) : Prop where
  tokens : ∀ token, Writes token tree → token.IsWritable
  numberless : ∀ numeral, ¬Within (.number numeral) tree

theorem isWritable_text {token : Token} (writable : token.IsWritable) :
    (Tree.text token).IsWritable where
  tokens _ writes := writes_text.1 writes ▸ writable
  numberless _ within := nomatch within_text.1 within

theorem isWritable_list {items : List Tree} :
    (Tree.list items).IsWritable ↔ ∀ item ∈ items, item.IsWritable := by
  constructor
  · intro writable item member
    exact ⟨fun token writes => writable.tokens token (.item member writes),
      fun numeral within => writable.numberless numeral (.item member within)⟩
  · intro writable
    refine ⟨fun token writes => ?_, fun numeral within => ?_⟩
    · obtain ⟨item, member, writes⟩ := writes_list.1 writes
      exact (writable item member).tokens token writes
    · obtain same | ⟨item, member, within⟩ := within_list.1 within
      · cases same
      · exact (writable item member).numberless numeral within

theorem isWritable_record {members : List (Token × Tree)} :
    (Tree.record members).IsWritable ↔
      ∀ member ∈ members, member.1.IsWritable ∧ member.2.IsWritable := by
  constructor
  · intro writable member isMember
    exact ⟨writable.tokens _ (.key isMember),
      fun token writes => writable.tokens token (.value isMember writes),
      fun numeral within => writable.numberless numeral (.value isMember within)⟩
  · intro writable
    refine ⟨fun token writes => ?_, fun numeral within => ?_⟩
    · obtain ⟨member, isMember, rfl | writes⟩ := writes_record.1 writes
      · exact (writable member isMember).1
      · exact (writable member isMember).2.tokens token writes
    · obtain same | ⟨member, isMember, within⟩ := within_record.1 within
      · cases same
      · exact (writable member isMember).2.numberless numeral within

/-- A member as it is written. -/
def printMember (member : Token × Tree) : List UInt8 :=
  member.1.print ++ [0x3a] ++ member.2.print

/-- What puts a comma between each two elements writes them with commas between them. -/
theorem eq_intercalate_map {α : Type} {write : α → List UInt8} {join : List α → List UInt8}
    (none : join [] = []) (one : ∀ first, join [first] = write first)
    (more : ∀ first next others,
      join (first :: next :: others) = write first ++ 0x2c :: join (next :: others))
    (elements : List α) : join elements = [0x2c].intercalate (elements.map write) := by
  induction elements with
  | nil => exact none
  | cons first others ih =>
    cases others with
    | nil => rw [one, List.map_singleton, List.intercalate_singleton]
    | cons next others =>
      have some : (next :: others).map write ≠ [] := by simp
      rw [more, ih, ← intercalate_cons some]
      rfl

theorem print_list (items : List Tree) :
    (Tree.list items).print = Frame.tight.list (items.map print) := by
  have commas : printItems items = [0x2c].intercalate (items.map print) :=
    eq_intercalate_map rfl (by simp [printItems]) (by simp [printItems]) items
  rw [print, commas]
  simp [Frame.list, Frame.enclose, Frame.tight]

theorem print_record (members : List (Token × Tree)) :
    (Tree.record members).print = Frame.tight.record (members.map printMember) := by
  have commas : printMembers members = [0x2c].intercalate (members.map printMember) :=
    eq_intercalate_map rfl (by simp [printMembers, printMember])
      (by simp [printMembers, printMember]) members
  rw [print, commas]
  simp [Frame.record, Frame.enclose, Frame.tight]

theorem isPiece_printMember {member : Token × Tree} (writable : member.1.IsWritable)
    (isText : read? member.2.print = some member.2) : IsPiece (printMember member) member := by
  have key : IsKey ([] ++ 0x22 :: (_ ++ ([] ++ [0x3a]))) member.1 :=
    .intro .nil (readsToken_print writable []) .nil
  have piece := IsPiece.intro key isText
  simpa [printMember, Token.print] using piece

/-- **What is written is read back.** -/
theorem read?_print {tree : Tree} (writable : tree.IsWritable) :
    read? tree.print = some tree := by
  induction tree using nested with
  | null => rfl
  | boolean value => cases value <;> rfl
  | number numeral => exact absurd .self (writable.numberless numeral)
  | text token =>
    have reads := readsToken_print (writable.tokens token .text) []
    have print : (Tree.text token).print = 0x22 :: (token.flatMap Piece.print ++ [0x22]) := by
      simp [print, Token.print]
    exact read?_eq_some_iff.2 ⟨[], .text (by rw [print]; rfl) reads, rfl⟩
  | list items ih =>
    rw [print_list]
    have areTexts : ∀ item ∈ items, read? item.print = some item := fun item member =>
      ih item member (isWritable_list.1 writable item member)
    exact Frame.tight.read?_list (List.forall₂_map_left_iff.2 (List.forall₂_same.2 areTexts))
  | record members ih =>
    rw [print_record]
    have arePieces : ∀ member ∈ members, IsPiece (printMember member) member := by
      intro member isMember
      obtain ⟨key, value⟩ := isWritable_record.1 writable member isMember
      exact isPiece_printMember key (ih member isMember value)
    exact Frame.tight.read?_record (List.forall₂_map_left_iff.2 (List.forall₂_same.2 arePieces))

/-! ## Texts and records -/

@[simp] theorem text?_ofText (text : String) : (Tree.ofText text).text? = some text :=
  Token.text?_ofText text

@[simp] theorem variant?_ofText (text : String) : (Tree.ofText text).variant? = some text :=
  Token.text?_ofText text

theorem isWritable_ofText (text : String) : (Tree.ofText text).IsWritable :=
  isWritable_text (Token.isWritable_ofText text)

theorem isWritable_ofMembers {members : List (String × Tree)}
    (values : ∀ member ∈ members, member.2.IsWritable) : (ofMembers members).IsWritable := by
  refine isWritable_record.2 fun written isWritten => ?_
  obtain ⟨member, isMember, rfl⟩ := List.mem_map.1 isWritten
  exact ⟨Token.isWritable_ofText _, values member isMember⟩

end Tree

theorem collectParts_ofText {names : List String} {parts : Parts} {members : List (String × Tree)}
    (distinct : (parts.keys ++ members.map (·.1)).Nodup)
    (known : ∀ member ∈ members, member.1 ∈ names) :
    collectParts names parts (members.map fun member => (Token.ofText member.1, member.2)) =
      some ⟨parts.bindings ++ members⟩ := by
  induction members generalizing parts with
  | nil => simp [collectParts]
  | cons member members ih =>
    obtain ⟨name, value⟩ := member
    obtain ⟨first, others⟩ := List.forall_mem_cons.1 known
    have free : parts.get? name = none := by
      refine Table.get?_eq_none_iff.2 fun taken => ?_
      exact (List.nodup_append.1 distinct).2.2 name taken name List.mem_cons_self rfl
    have bindings := Table.bindings_set_of_get?_eq_none free value
    have keys := Table.keys_set_of_get?_eq_none free value
    have later : ((parts.set name value).keys ++ members.map (·.1)).Nodup := by
      rw [keys, List.append_assoc]
      exact distinct
    simp [collectParts, first, Table.contains, free, ih later others, bindings]

/-- **The members of a record are its parts**, where their names are different. -/
theorem Tree.parts?_ofMembers {names : List String} {members : List (String × Tree)}
    (distinct : (members.map (·.1)).Nodup) (known : ∀ member ∈ members, member.1 ∈ names) :
    (ofMembers members).parts? names = some ⟨members⟩ :=
  @collectParts_ofText names .empty members distinct known

/-- **The members of a record are the bindings of a table**, where their names are different and
their values are read back. -/
theorem Tree.table?_ofMembers {α : Type} {table : Table String α} {write : α → Tree}
    {decode : Tree → Option α} (distinct : table.keys.Nodup)
    (readBack : ∀ value, decode (write value) = some value) :
    (ofMembers (table.bindings.map fun binding => (binding.1, write binding.2))).table? decode =
      some table := by
  have members : ofMembers (table.bindings.map fun binding => (binding.1, write binding.2)) =
      .record (table.bindings.map fun binding => (Token.ofText binding.1, write binding.2)) := by
    simp [ofMembers]
  have bindings : (table.bindings.map fun binding =>
      (Token.ofText binding.1, write binding.2)).mapM (fun member => do
        return ((← member.1.text?), (← decode member.2))) = some table.bindings := by
    rw [List.mapM_map]
    exact mapM_of_forall fun binding _ => by simp [readBack]
  rw [members, table?, bindings]
  exact congrArg some (Table.ofList_bindings distinct)

end Turnstile.Json
