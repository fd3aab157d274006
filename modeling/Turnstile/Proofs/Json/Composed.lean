import Turnstile.Proofs.Json.Pieces
import Turnstile.Proofs.Json.Tokens

/-!
# Texts that are put together

A list or a record can be written from texts that are written already. It is read as the list or
the record of what these are read as (`read?_listOf`, `read?_recordOf`), whatever blanks, numbers
or escapes they hold.
-/

set_option autoImplicit false

namespace Turnstile.Json

open Utf8

/-! ## Writing -/

/-- A string. -/
def quoted (text : String) : String := "\"" ++ text ++ "\""

/-- The list of items. -/
def listOf (items : List String) : String := "[" ++ ", ".intercalate items ++ "]"

/-- A member of a record. -/
def memberOf (member : String × String) : String := quoted member.1 ++ ": " ++ member.2

/-- The record of members. -/
def recordOf (members : List (String × String)) : String :=
  "\x7b" ++ ", ".intercalate (members.map memberOf) ++ "\x7d"

/-- The text can stand between quotes as it is. -/
def IsPlain (text : String) : Prop :=
  ∀ byte ∈ encode text, byte ≠ 0x22 ∧ ¬(byte < 0x20 ∨ byte = 0x5c)

instance (text : String) : Decidable (IsPlain text) := List.decidableBAll _ _

/-! ## Reading -/

theorem readsToken_plain {text : String} (plain : IsPlain text) (rest : List UInt8) :
    ReadsToken (encode text ++ 0x22 :: rest) (Token.plain text) rest :=
  readsToken_of_plain plain rest

theorem read?_quoted {text : String} (plain : IsPlain text) :
    read? (encode (quoted text)) = some (.text (Token.plain text)) := by
  have written : encode (quoted text) = 0x22 :: (encode text ++ [0x22]) := by
    simp [quoted, encode, String.utf8EncodeChar]
  rw [written]
  exact read?_eq_some_iff.2 ⟨[], .text rfl (readsToken_plain plain []), rfl⟩

/-- The texts as they stand between commas, with a blank in front of each but the first. -/
def spaced : List String → List (List UInt8)
  | [] => []
  | first :: others => encode first :: others.map fun text => 0x20 :: encode text

theorem encode_intercalate (texts : List String) :
    encode (", ".intercalate texts) = [0x2c].intercalate (spaced texts) := by
  cases texts with
  | nil => rfl
  | cons first others =>
    induction others generalizing first with
    | nil => simp [spaced]
    | cons next others ih =>
      have spread : encode (", ".intercalate (first :: next :: others)) =
          encode first ++ 0x2c :: 0x20 :: encode (", ".intercalate (next :: others)) := by
        simp [String.intercalate_cons_cons, encode, String.utf8EncodeChar]
      rw [spread, ih]
      cases others <;> simp [spaced, List.intercalate_cons_cons]

/-- What holds of texts with and without a blank in front of them holds of them between commas. -/
theorem forall₂_spaced {α : Type} {relation : List UInt8 → α → Prop} {texts : List String}
    {values : List α} (blank : ∀ text value, relation text value → relation (0x20 :: text) value)
    (related : List.Forall₂ (fun text value => relation (encode text) value) texts values) :
    List.Forall₂ relation (spaced texts) values := by
  cases related with
  | nil => exact .nil
  | cons first others =>
    exact .cons first (List.forall₂_map_left_iff.2 (others.imp fun _ _ => blank _ _))

theorem areBlank_single : AreBlank [0x20] := by simp [AreBlank, isSpace]

/-- Texts between brackets, with a comma and a blank between each two of them. -/
theorem encode_enclosed {opening closing : String} {first last : UInt8} (texts : List String)
    (opens : encode opening = [first]) (closes : encode closing = [last]) :
    encode (opening ++ ", ".intercalate texts ++ closing) =
      Frame.tight.enclose first last (spaced texts) := by
  have spread : encode (opening ++ ", ".intercalate texts ++ closing) =
      encode opening ++ (encode (", ".intercalate texts) ++ encode closing) := by simp [encode]
  rw [spread, opens, closes, encode_intercalate]
  rfl

/-- **A list is read item by item.** -/
theorem read?_listOf {items : List String} {trees : List Tree}
    (areTexts : List.Forall₂ (fun item tree => read? (encode item) = some tree) items trees) :
    read? (encode (listOf items)) = some (.list trees) := by
  have written : encode (listOf items) = Frame.tight.list (spaced items) :=
    encode_enclosed items rfl rfl
  rw [written]
  exact Frame.tight.read?_list (forall₂_spaced (fun _ _ => read?_append_of_blank areBlank_single)
    areTexts)

/-- How a member is written that is read as a member. -/
structure IsMember (member : String × String) (tree : Token × Tree) : Prop where
  plain : IsPlain member.1
  key : tree.1 = Token.plain member.1
  value : read? (encode member.2) = some tree.2

theorem isKey_quoted {name : String} (plain : IsPlain name) :
    IsKey (encode (quoted name ++ ":")) (Token.plain name) := by
  have key : IsKey ([] ++ 0x22 :: (_ ++ ([] ++ [0x3a]))) (Token.plain name) :=
    .intro .nil (readsToken_plain plain []) .nil
  simpa [quoted, encode, String.utf8EncodeChar] using key

theorem IsMember.isPiece {member : String × String} {tree : Token × Tree}
    (isMember : IsMember member tree) : IsPiece (encode (memberOf member)) tree := by
  obtain ⟨name, value⟩ := member
  obtain ⟨token, meant⟩ := tree
  obtain ⟨plain, rfl, isText⟩ := isMember
  have written : encode (memberOf (name, value)) =
      encode (quoted name ++ ":") ++ ([0x20] ++ encode value) := by
    simp [memberOf, encode, String.utf8EncodeChar]
  rw [written]
  exact .intro (isKey_quoted plain) (read?_append_of_blank areBlank_single isText)

/-- **A record is read member by member.** -/
theorem read?_recordOf {members : List (String × String)} {trees : List (Token × Tree)}
    (areMembers : List.Forall₂ IsMember members trees) :
    read? (encode (recordOf members)) = some (.record trees) := by
  have written : encode (recordOf members) = Frame.tight.record (spaced (members.map memberOf)) :=
    encode_enclosed _ rfl rfl
  have arePieces : List.Forall₂ (fun text tree => IsPiece (encode text) tree)
      (members.map memberOf) trees :=
    List.forall₂_map_left_iff.2 (areMembers.imp fun _ _ isMember => isMember.isPiece)
  rw [written]
  exact Frame.tight.read?_record
    (forall₂_spaced (fun _ _ isPiece => isPiece.append_of_blank areBlank_single) arePieces)

end Turnstile.Json
