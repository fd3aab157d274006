import Mathlib.Logic.Relation
import Turnstile.Proofs.Json.Parts

/-!
# Edits that are overlooked

A decoder knows some records and the fields that it looks for in them. Which ones these are at which
places of a tree is its shape (`Shape`), and an edit of a tree inserts a member with a name that is
no field into one of these records, or permutes the members of one (`Edit`). Such a record can stand
anywhere: in a field of another one, however it is written, in a list or in a table.

A decoder overlooks the edits of a shape if they change nothing for it, neither what it decodes nor
that it decodes nothing (`Overlooks`). That is proved once for each way of putting decoders
together: for records (`overlooks_record`), lists, tables and values that may be null. For a record
it comes down to its parts, of which an edit leaves all as they are but one, where it is an edit
again (`Edit.parts?`).
-/

set_option autoImplicit false

namespace Turnstile.Json

/-! ## Shapes -/

/-- What a decoder looks for in a tree: the fields of a record with a shape for each, the items of a
list or the values of a table; nothing but the tree itself, where it has no records. -/
inductive Shape where
  | leaf
  | record (fields : List (String × Shape))
  | list (item : Shape)
  | table (entry : Shape)

/-- The names of some fields. -/
def namesOf (fields : List (String × Shape)) : List String := fields.map (·.1)

/-- A member with an unknown name is inserted into a record of the shape, or the members of such a
record are permuted. A record can be written as the list of its fields. -/
inductive Edit : Shape → Tree → Tree → Prop where
  | insert {fields : List (String × Shape)} {left right : List (Token × Tree)} {token : Token}
    {name : String} {value : Tree} (named : token.text? = some name)
    (unknown : name ∉ namesOf fields) :
    Edit (.record fields) (.record (left ++ right)) (.record (left ++ (token, value) :: right))
  | permute {fields : List (String × Shape)} {members permuted : List (Token × Tree)}
    (perm : members.Perm permuted) : Edit (.record fields) (.record members) (.record permuted)
  | field {fields : List (String × Shape)} {left right : List (Token × Tree)} {token : Token}
    {name : String} {shape : Shape} {value edited : Tree} (named : token.text? = some name)
    (known : (name, shape) ∈ fields) (edit : Edit shape value edited) :
    Edit (.record fields) (.record (left ++ (token, value) :: right))
      (.record (left ++ (token, edited) :: right))
  | element {fields : List (String × Shape)} {left right : List Tree} {name : String}
    {shape : Shape} {value edited : Tree} (known : fields[left.length]? = some (name, shape))
    (edit : Edit shape value edited) :
    Edit (.record fields) (.list (left ++ value :: right)) (.list (left ++ edited :: right))
  | item {left right : List Tree} {shape : Shape} {value edited : Tree}
    (edit : Edit shape value edited) :
    Edit (.list shape) (.list (left ++ value :: right)) (.list (left ++ edited :: right))
  | entry {left right : List (Token × Tree)} {token : Token} {shape : Shape} {value edited : Tree}
    (edit : Edit shape value edited) :
    Edit (.table shape) (.record (left ++ (token, value) :: right))
      (.record (left ++ (token, edited) :: right))

/-- Edits make no difference to a decoder. -/
def Overlooks {α : Type} (shape : Shape) (decode : Tree → Option α) : Prop :=
  ∀ tree edited, Edit shape tree edited → decode edited = decode tree

/-! ## Parts of edited records -/

/-- The parts of a record before and after an edit: each is the same, or is edited itself. -/
def SameParts (fields : List (String × Shape)) (parts edited : Parts) : Prop :=
  ∀ name shape, (name, shape) ∈ fields →
    Option.Rel (Relation.ReflGen (Edit shape)) (parts.get? name) (edited.get? name)

variable {fields : List (String × Shape)} {left right members members' : List (Token × Tree)}
  {token : Token} {name : String} {value edited : Tree} {names : List String}

theorem areNamed_insert_iff (named : token.text? = some name) :
    AreNamed (left ++ (token, value) :: right) ↔ AreNamed (left ++ right) := by
  simp [AreNamed, or_imp, forall_and, named]

theorem namesAmong_insert (named : token.text? = some name) (unknown : name ∉ names) :
    namesAmong names (left ++ (token, value) :: right) = namesAmong names (left ++ right) := by
  simp [namesAmong, named, unknown]

theorem areNamed_replace_iff : AreNamed (left ++ (token, edited) :: right) ↔
    AreNamed (left ++ (token, value) :: right) := by
  simp [AreNamed, or_imp, forall_and]

theorem namesAmong_replace : namesAmong names (left ++ (token, edited) :: right) =
    namesAmong names (left ++ (token, value) :: right) := by
  simp [namesAmong, List.filterMap_cons]

theorem AreNamed.perm (perm : members.Perm members') : AreNamed members' ↔ AreNamed members :=
  forall_congr' fun _ => imp_congr_left perm.mem_iff.symm

theorem namesAmong_perm (perm : members.Perm members') :
    (namesAmong names members').Perm (namesAmong names members) :=
  ((perm.filterMap _).filter _).symm

/-- Members that are named alike, and have names that are alike as far as they are asked for, have
parts together or not at all. -/
theorem rel_parts?_record {relation : Parts → Parts → Prop}
    (named : AreNamed members' ↔ AreNamed members)
    (among : (namesAmong names members').Perm (namesAmong names members))
    (related : ∀ parts edited, (Tree.record members).parts? names = some parts →
      (Tree.record members').parts? names = some edited → relation parts edited) :
    Option.Rel relation ((Tree.record members).parts? names)
      ((Tree.record members').parts? names) := by
  have together : ((Tree.record members').parts? names).isSome ↔
      ((Tree.record members).parts? names).isSome := by
    rw [Tree.isSome_parts?_record_iff, Tree.isSome_parts?_record_iff, named, among.nodup_iff]
  cases before : (Tree.record members).parts? names with
  | none =>
    cases after : (Tree.record members').parts? names with
    | none => exact .none
    | some edited => simp [before, after] at together
  | some parts =>
    cases after : (Tree.record members').parts? names with
    | none => simp [before, after] at together
    | some edited => exact .some (related parts edited before after)

/-- Parts that have the same values are the same. -/
theorem rel_get?_of_hasPart {parts edited : Parts} {relation : Tree → Tree → Prop}
    (given : (Tree.record members).parts? names = some parts)
    (given' : (Tree.record members').parts? names = some edited)
    (same : ∀ value, HasPart names members' name value ↔ HasPart names members name value) :
    Option.Rel (Relation.ReflGen relation) (parts.get? name) (edited.get? name) := by
  have equal : edited.get? name = parts.get? name := by
    apply Option.ext
    intro value
    rw [Tree.get?_parts?_record_iff given', Tree.get?_parts?_record_iff given]
    exact same value
  rw [equal]
  cases parts.get? name with
  | none => exact .none
  | some value => exact .some .refl

theorem hasPart_insert_iff {part : String} {other : Tree} (named : token.text? = some name)
    (unknown : name ∉ names) : HasPart names (left ++ (token, value) :: right) part other ↔
      HasPart names (left ++ right) part other := by
  constructor
  · rintro ⟨known, written, named', member⟩
    refine ⟨known, written, named', ?_⟩
    obtain member | member := List.mem_append.1 member
    · exact List.mem_append_left _ member
    · obtain same | member := List.mem_cons.1 member
      · cases same
        cases named.symm.trans named'
        exact absurd known unknown
      · exact List.mem_append_right _ member
  · rintro ⟨known, written, named', member⟩
    have later : (left ++ right).Sublist (left ++ (token, value) :: right) :=
      (List.sublist_cons_self _ right).append_left left
    exact ⟨known, written, named', later.subset member⟩

theorem hasPart_replace_iff {part : String} {other : Tree} (named : token.text? = some name)
    (different : part ≠ name) : HasPart names (left ++ (token, edited) :: right) part other ↔
      HasPart names (left ++ (token, value) :: right) part other := by
  have elsewhere {value : Tree} {written : Token} (named' : written.text? = some part) :
      (written, other) ∈ left ++ (token, value) :: right ↔ (written, other) ∈ left ++ right := by
    have notSame : written ≠ token := fun same =>
      different (Option.some.inj (named'.symm.trans (same ▸ named)))
    simp [notSame]
  refine and_congr_right fun _ => exists_congr fun written => and_congr_right fun named' => ?_
  rw [elsewhere named', elsewhere named']

/-- A field has one shape. -/
theorem shape_unique (distinct : (namesOf fields).Nodup) {shape shape' : Shape}
    (known : (name, shape) ∈ fields) (known' : (name, shape') ∈ fields) : shape = shape' :=
  (Prod.mk.inj (List.inj_on_of_nodup_map distinct known known' rfl)).2

/-- The parts of a record that is written as a list, around one of them. -/
theorem exists_zip_eq {left : List Tree} {shape : Shape}
    (known : fields[left.length]? = some (name, shape)) :
    ∃ before after, fields = before ++ (name, shape) :: after ∧ ∀ value right,
      (namesOf fields).zip (left ++ value :: right) =
        (namesOf before).zip left ++ (name, value) :: (namesOf after).zip right := by
  obtain ⟨inside, found⟩ := List.getElem?_eq_some_iff.1 known
  have split :
      fields = fields.take left.length ++ (name, shape) :: fields.drop (left.length + 1) := by
    rw [← found, List.getElem_cons_drop, List.take_append_drop]
  refine ⟨_, _, split, fun value right => ?_⟩
  have names : namesOf fields = namesOf (fields.take left.length) ++
      name :: namesOf (fields.drop (left.length + 1)) := by
    conv_lhs => rw [split]
    simp [namesOf]
  have length : (namesOf (fields.take left.length)).length = left.length := by
    simp [namesOf, Nat.le_of_lt inside]
  rw [names, List.zip_append length, List.zip_cons_cons]

/-- An edited element of a record that is written as a list is one of its parts. -/
theorem sameParts_of_element {left right : List Tree} {shape : Shape}
    (distinct : (namesOf fields).Nodup) (known : fields[left.length]? = some (name, shape))
    (edit : Edit shape value edited) : SameParts fields
      ⟨(namesOf fields).zip (left ++ value :: right)⟩
      ⟨(namesOf fields).zip (left ++ edited :: right)⟩ := by
  obtain ⟨before, after, split, zipped⟩ := exists_zip_eq known
  intro part shape' isField
  rw [zipped, zipped]
  simp only [Table.get?]
  by_cases same : part = name
  · subst same
    obtain rfl := shape_unique distinct isField (List.mem_of_getElem? known)
    have absent : ∀ binding ∈ (namesOf before).zip left, binding.1 ≠ part := by
      rintro ⟨earlier, _⟩ member rfl
      have inside := (List.of_mem_zip member).1
      rw [split, namesOf, List.map_append, List.map_cons, List.nodup_append] at distinct
      exact distinct.2.2 earlier inside earlier List.mem_cons_self rfl
    rw [Table.find?_append_of_forall_ne absent, Table.find?_append_of_forall_ne absent]
    simp only [Table.find?, if_true]
    exact .some (.single edit)
  · rw [Table.find?_append_cons_of_ne same, Table.find?_append_cons_of_ne same]
    cases Table.find? part ((namesOf before).zip left ++ (namesOf after).zip right) with
    | none => exact .none
    | some value => exact .some .refl

/-- **An edit leaves the parts of a record as they are**, or edits one of them, and never changes
whether there are any. -/
theorem Edit.parts? {tree edited : Tree} (distinct : (namesOf fields).Nodup)
    (edit : Edit (.record fields) tree edited) :
    Option.Rel (SameParts fields) (tree.parts? (namesOf fields))
      (edited.parts? (namesOf fields)) := by
  cases edit with
  | insert named unknown =>
    apply rel_parts?_record (areNamed_insert_iff named)
    · rw [namesAmong_insert named unknown]
    · intro parts edited given given' name shape _
      exact rel_get?_of_hasPart given given' fun value => hasPart_insert_iff named unknown
  | permute perm =>
    apply rel_parts?_record (AreNamed.perm perm) (namesAmong_perm perm)
    intro parts edited given given' name shape _
    refine rel_get?_of_hasPart given given' fun value => ?_
    exact and_congr_right fun _ => exists_congr fun token => and_congr_right fun _ =>
      perm.mem_iff.symm
  | @field _ left right token name shape value edited named known edit =>
    apply rel_parts?_record areNamed_replace_iff (by rw [namesAmong_replace])
    intro parts edited' given given' part shape' isField
    by_cases same : part = name
    · subst same
      obtain rfl := shape_unique distinct known isField
      have asked : part ∈ namesOf fields := List.mem_map_of_mem known
      have before : parts.get? part = some value :=
        (Tree.get?_parts?_record_iff given).2 ⟨asked, token, named, by simp⟩
      have after : edited'.get? part = some edited :=
        (Tree.get?_parts?_record_iff given').2 ⟨asked, token, named, by simp⟩
      rw [before, after]
      exact .some (.single edit)
    · exact rel_get?_of_hasPart given given' fun _ => hasPart_replace_iff named same
  | @element _ left right name shape value edited known edit =>
    have length : (left ++ edited :: right).length = (left ++ value :: right).length := by simp
    rw [Tree.parts?, Tree.parts?, length]
    split
    · exact .some (sameParts_of_element distinct known edit)
    · exact .none

/-! ## Decoders -/

section Decoders

variable {α : Type} {shape : Shape} {decode : Tree → Option α}

/-- There are no records of which a leaf is looked at member by member. -/
theorem overlooks_leaf (decode : Tree → Option α) : Overlooks .leaf decode := by
  intro tree edited edit
  cases edit

theorem Parts.getOr_eq (parts : Parts) (name : String) (default : α) :
    parts.getOr name default decode = ((parts.get? name).map decode).getD (some default) := by
  unfold Parts.getOr
  cases parts.get? name with
  | none => rfl
  | some tree => rfl

theorem Parts.required_eq (parts : Parts) (name : String) :
    parts.required name decode = ((parts.get? name).map decode).join := by
  unfold Parts.required
  cases parts.get? name with
  | none => rfl
  | some tree => rfl

namespace SameParts

variable {parts edited : Parts}

/-- A part is decoded as before, if it is there, and is not there if it was not. -/
theorem get? (same : SameParts fields parts edited) (overlooks : Overlooks shape decode)
    (isField : (name, shape) ∈ fields) :
    (edited.get? name).map decode = (parts.get? name).map decode := by
  have related := same name shape isField
  revert related
  generalize parts.get? name = before
  generalize edited.get? name = after
  rintro (related | _)
  · cases related with
    | refl => rfl
    | single edit => exact congrArg some (overlooks _ _ edit)
  · rfl

theorem getOr (same : SameParts fields parts edited) (overlooks : Overlooks shape decode)
    (isField : (name, shape) ∈ fields) (default : α) :
    edited.getOr name default decode = parts.getOr name default decode := by
  rw [Parts.getOr_eq, Parts.getOr_eq, same.get? overlooks isField]

theorem required (same : SameParts fields parts edited) (overlooks : Overlooks shape decode)
    (isField : (name, shape) ∈ fields) :
    edited.required name decode = parts.required name decode := by
  rw [Parts.required_eq, Parts.required_eq, same.get? overlooks isField]

end SameParts

/-- **A record is overlooked** where its parts are. -/
theorem overlooks_record (distinct : (namesOf fields).Nodup) {build : Parts → Option α}
    (builds : ∀ parts edited, SameParts fields parts edited → build edited = build parts) :
    Overlooks (.record fields) fun tree => (tree.parts? (namesOf fields)).bind build := by
  intro tree edited edit
  have related := edit.parts? distinct
  revert related
  dsimp only
  generalize tree.parts? (namesOf fields) = before
  generalize edited.parts? (namesOf fields) = after
  rintro (same | _)
  · exact builds _ _ same
  · rfl

theorem Overlooks.list? (overlooks : Overlooks shape decode) :
    Overlooks (.list shape) (Tree.list? decode) := by
  intro tree edited edit
  cases edit with
  | item edit => simp only [Tree.list?, List.mapM_append, List.mapM_cons, overlooks _ _ edit]

theorem Overlooks.table? (overlooks : Overlooks shape decode) :
    Overlooks (.table shape) (Tree.table? decode) := by
  intro tree edited edit
  cases edit with
  | entry edit => simp only [Tree.table?, List.mapM_append, List.mapM_cons, overlooks _ _ edit]

/-- An edit makes nothing of null, and null of nothing. -/
theorem Edit.ne_null {tree edited : Tree} (edit : Edit shape tree edited) :
    tree ≠ .null ∧ edited ≠ .null := by
  cases edit <;> exact ⟨nofun, nofun⟩

theorem Overlooks.optional? (overlooks : Overlooks shape decode) :
    Overlooks shape (Tree.optional? decode) := by
  intro tree edited edit
  have given {tree : Tree} (notNull : tree ≠ .null) :
      Tree.optional? decode tree = (decode tree).map some := by
    cases tree <;> first | exact absurd rfl notNull | rfl
  obtain ⟨before, after⟩ := edit.ne_null
  rw [given before, given after, overlooks tree edited edit]

end Decoders

end Turnstile.Json
