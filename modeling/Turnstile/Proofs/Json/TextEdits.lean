import Turnstile.Proofs.Json.Edits
import Turnstile.Proofs.Json.Pieces

/-!
# Edits of texts

An edit of a text inserts the text of a member into the text of a record, or permutes the texts of
its members, with a comma between each two of them as before. The record may be the whole text, or
stand within it: in the value of a field, in an item of a list or in an entry of a table. All else
remains as it is written, down to the blanks.

The tree of a text that was edited is the tree of the text, edited in the same way
(`TextEdit.exists_edit`). So what a decoder overlooks in trees it overlooks in texts
(`Overlooks.read?_edits`).
-/

set_option autoImplicit false

namespace Turnstile.Json

/-- All texts are texts of members. -/
def AreMembers (texts : List (List UInt8)) : Prop := ∀ text ∈ texts, ∃ member, IsPiece text member

/-- All texts are texts of values. -/
def AreValues (texts : List (List UInt8)) : Prop := ∀ text ∈ texts, ∃ tree, read? text = some tree

/-- The text of a member with an unknown name is inserted into the text of a record of the shape, or
the texts of the members of such a record are permuted. -/
inductive TextEdit : Shape → List UInt8 → List UInt8 → Prop where
  | insert {fields : List (String × Shape)} {frame : Frame} {left right : List (List UInt8)}
    {piece : List UInt8} {token : Token} {name : String} {value : Tree}
    (siblings : AreMembers (left ++ right)) (isPiece : IsPiece piece (token, value))
    (named : token.text? = some name) (unknown : name ∉ namesOf fields) :
    TextEdit (.record fields) (frame.record (left ++ right))
      (frame.record (left ++ piece :: right))
  | permute {fields : List (String × Shape)} {frame : Frame} {pieces permuted : List (List UInt8)}
    (areMembers : AreMembers pieces) (perm : pieces.Perm permuted) :
    TextEdit (.record fields) (frame.record pieces) (frame.record permuted)
  | field {fields : List (String × Shape)} {frame : Frame} {left right : List (List UInt8)}
    {key value edited : List UInt8} {token : Token} {name : String} {shape : Shape}
    (siblings : AreMembers (left ++ right)) (isKey : IsKey key token)
    (named : token.text? = some name) (known : (name, shape) ∈ fields)
    (edit : TextEdit shape value edited) :
    TextEdit (.record fields) (frame.record (left ++ (key ++ value) :: right))
      (frame.record (left ++ (key ++ edited) :: right))
  | element {fields : List (String × Shape)} {frame : Frame} {left right : List (List UInt8)}
    {value edited : List UInt8} {name : String} {shape : Shape}
    (siblings : AreValues (left ++ right)) (known : fields[left.length]? = some (name, shape))
    (edit : TextEdit shape value edited) :
    TextEdit (.record fields) (frame.list (left ++ value :: right))
      (frame.list (left ++ edited :: right))
  | item {frame : Frame} {left right : List (List UInt8)} {value edited : List UInt8}
    {shape : Shape} (siblings : AreValues (left ++ right)) (edit : TextEdit shape value edited) :
    TextEdit (.list shape) (frame.list (left ++ value :: right))
      (frame.list (left ++ edited :: right))
  | entry {frame : Frame} {left right : List (List UInt8)} {key value edited : List UInt8}
    {token : Token} {shape : Shape} (siblings : AreMembers (left ++ right))
    (isKey : IsKey key token) (edit : TextEdit shape value edited) :
    TextEdit (.table shape) (frame.record (left ++ (key ++ value) :: right))
      (frame.record (left ++ (key ++ edited) :: right))

/-! ## The trees of edited texts -/

theorem exists_forall₂ {α β : Type} {relation : α → β → Prop} {elements : List α}
    (each : ∀ element ∈ elements, ∃ image, relation element image) :
    ∃ images, List.Forall₂ relation elements images := by
  induction elements with
  | nil => exact ⟨[], .nil⟩
  | cons element elements ih =>
    obtain ⟨⟨image, related⟩, others⟩ := List.forall_mem_cons.1 each
    obtain ⟨images, othersRelated⟩ := ih others
    exact ⟨image :: images, .cons related othersRelated⟩

/-- What the texts around a place stand for. -/
theorem exists_around {α β : Type} {relation : α → β → Prop} {left right : List α}
    (siblings : ∀ element ∈ left ++ right, ∃ image, relation element image) :
    ∃ before after, List.Forall₂ relation left before ∧ List.Forall₂ relation right after := by
  obtain ⟨first, second⟩ := List.forall_mem_append.1 siblings
  obtain ⟨before, areBefore⟩ := exists_forall₂ first
  obtain ⟨after, areAfter⟩ := exists_forall₂ second
  exact ⟨before, after, areBefore, areAfter⟩

variable {left right : List (List UInt8)}

/-- A record with a member more at a place, and nothing else changed. -/
theorem Frame.read?_record_around (frame : Frame) {before after : List (Token × Tree)}
    {piece : List UInt8} {member : Token × Tree} (areBefore : List.Forall₂ IsPiece left before)
    (isPiece : IsPiece piece member) (areAfter : List.Forall₂ IsPiece right after) :
    read? (frame.record (left ++ piece :: right)) = some (.record (before ++ member :: after)) :=
  frame.read?_record (List.rel_append areBefore (.cons isPiece areAfter))

theorem Frame.read?_list_around (frame : Frame) {before after : List Tree} {text : List UInt8}
    {tree : Tree}
    (areBefore : List.Forall₂ (fun text tree => read? text = some tree) left before)
    (isText : read? text = some tree)
    (areAfter : List.Forall₂ (fun text tree => read? text = some tree) right after) :
    read? (frame.list (left ++ text :: right)) = some (.list (before ++ tree :: after)) :=
  frame.read?_list (List.rel_append areBefore (.cons isText areAfter))

/-- **The tree of an edited text is the edited tree.** -/
theorem TextEdit.exists_edit {shape : Shape} {text edited : List UInt8}
    (edit : TextEdit shape text edited) : ∃ tree tree',
      read? text = some tree ∧ read? edited = some tree' ∧ Edit shape tree tree' := by
  induction edit with
  | @insert _ frame left right piece token name value siblings isPiece named unknown =>
    obtain ⟨before, after, areBefore, areAfter⟩ := exists_around siblings
    exact ⟨_, _, frame.read?_record (List.rel_append areBefore areAfter),
      frame.read?_record_around areBefore isPiece areAfter, .insert named unknown⟩
  | @permute _ frame pieces permuted areMembers perm =>
    obtain ⟨members, arePieces⟩ := exists_forall₂ areMembers
    obtain ⟨members', arePieces', perm'⟩ := List.perm_comp_forall₂ perm.symm arePieces
    exact ⟨_, _, frame.read?_record arePieces, frame.read?_record arePieces', .permute perm'.symm⟩
  | @field _ frame left right key value edited token name shape siblings isKey named known _ ih =>
    obtain ⟨before, after, areBefore, areAfter⟩ := exists_around siblings
    obtain ⟨tree, tree', isText, isText', edit⟩ := ih
    have isPiece : IsPiece (key ++ value) (token, tree) := .intro isKey isText
    have isPiece' : IsPiece (key ++ edited) (token, tree') := .intro isKey isText'
    exact ⟨_, _, frame.read?_record_around areBefore isPiece areAfter,
      frame.read?_record_around areBefore isPiece' areAfter, .field named known edit⟩
  | @element _ frame left right value edited name shape siblings known _ ih =>
    obtain ⟨before, after, areBefore, areAfter⟩ := exists_around siblings
    obtain ⟨tree, tree', isText, isText', edit⟩ := ih
    rw [areBefore.length_eq] at known
    exact ⟨_, _, frame.read?_list_around areBefore isText areAfter,
      frame.read?_list_around areBefore isText' areAfter, .element known edit⟩
  | @item frame left right value edited shape siblings _ ih =>
    obtain ⟨before, after, areBefore, areAfter⟩ := exists_around siblings
    obtain ⟨tree, tree', isText, isText', edit⟩ := ih
    exact ⟨_, _, frame.read?_list_around areBefore isText areAfter,
      frame.read?_list_around areBefore isText' areAfter, .item edit⟩
  | @entry frame left right key value edited token shape siblings isKey _ ih =>
    obtain ⟨before, after, areBefore, areAfter⟩ := exists_around siblings
    obtain ⟨tree, tree', isText, isText', edit⟩ := ih
    have isPiece : IsPiece (key ++ value) (token, tree) := .intro isKey isText
    have isPiece' : IsPiece (key ++ edited) (token, tree') := .intro isKey isText'
    exact ⟨_, _, frame.read?_record_around areBefore isPiece areAfter,
      frame.read?_record_around areBefore isPiece' areAfter, .entry edit⟩

/-- **What is overlooked in trees is overlooked in texts**, after any number of edits. -/
theorem Overlooks.read?_edits {α : Type} {shape : Shape} {decode : Tree → Option α}
    (overlooks : Overlooks shape decode) {text edited : List UInt8}
    (edits : Relation.ReflTransGen (TextEdit shape) text edited) :
    (read? edited).bind decode = (read? text).bind decode := by
  induction edits with
  | refl => rfl
  | tail _ edit ih =>
    obtain ⟨tree, tree', isText, isText', edit⟩ := edit.exists_edit
    rw [← ih, isText, isText']
    exact overlooks tree tree' edit

end Turnstile.Json
