import Mathlib.Data.List.Basic
import Turnstile.Json.Record

/-!
# Trees that are plain data

A tree can be taken as plain data before anybody asks what it means. That drops repeated keys but
the last, and refuses numbers that do not fit a double, strings that have no text and values that
are nested too deep. A tree without repeated keys loses nothing by it: if it is accepted at all, it
is itself the data (`eq_of_generic?`), and it is accepted unless one of the three refusals applies
(`generic?_of_plain`).

What holds of everything in a tree is said by `Within` and `Writes`, and shown by induction over
the tree with the trees in its lists and records (`nested`).
-/

set_option autoImplicit false

namespace Turnstile.Json.Tree

/-! ## What stands in a tree -/

/-- Induction over a tree, the items of its lists and the values of its records. -/
theorem nested {motive : Tree → Prop} (null : motive .null)
    (boolean : ∀ value, motive (.boolean value)) (number : ∀ numeral, motive (.number numeral))
    (text : ∀ token, motive (.text token))
    (list : ∀ items, (∀ item ∈ items, motive item) → motive (.list items))
    (record : ∀ members : List (Token × Tree), (∀ member ∈ members, motive member.2) →
      motive (.record members)) (tree : Tree) : motive tree := by
  refine @Tree.rec motive (fun items => ∀ item ∈ items, motive item)
    (fun members => ∀ member ∈ members, motive member.2) (fun member => motive member.2)
    null boolean number text list record ?_ ?_ ?_ ?_ ?_ tree
  · exact nofun
  · exact fun item items first others => List.forall_mem_cons.2 ⟨first, others⟩
  · exact nofun
  · exact fun member members first others => List.forall_mem_cons.2 ⟨first, others⟩
  · exact fun _ _ value => value

/-- A tree stands in a tree. -/
inductive Within (part : Tree) : Tree → Prop where
  | self : Within part part
  | item {items : List Tree} {item : Tree} (member : item ∈ items) (within : Within part item) :
    Within part (.list items)
  | value {members : List (Token × Tree)} {member : Token × Tree} (isMember : member ∈ members)
    (within : Within part member.2) : Within part (.record members)

section Within

variable {part : Tree}

@[simp] theorem within_number {numeral : Numeral} :
    Within part (.number numeral) ↔ part = .number numeral := by
  constructor
  · rintro ⟨⟩
    rfl
  · rintro rfl
    exact .self

@[simp] theorem within_text {token : Token} : Within part (.text token) ↔ part = .text token := by
  constructor
  · rintro ⟨⟩
    rfl
  · rintro rfl
    exact .self

@[simp] theorem within_list {items : List Tree} :
    Within part (.list items) ↔ part = .list items ∨ ∃ item ∈ items, Within part item := by
  constructor
  · intro within
    cases within with
    | self => exact .inl rfl
    | item member within => exact .inr ⟨_, member, within⟩
  · rintro (rfl | ⟨item, member, within⟩)
    · exact .self
    · exact .item member within

@[simp] theorem within_record {members : List (Token × Tree)} :
    Within part (.record members) ↔
      part = .record members ∨ ∃ member ∈ members, Within part member.2 := by
  constructor
  · intro within
    cases within with
    | self => exact .inl rfl
    | value isMember within => exact .inr ⟨_, isMember, within⟩
  · rintro (rfl | ⟨member, isMember, within⟩)
    · exact .self
    · exact .value isMember within

end Within

/-- A token is written in a tree, as a text or as a key. -/
inductive Writes (token : Token) : Tree → Prop where
  | text : Writes token (.text token)
  | item {items : List Tree} {item : Tree} (member : item ∈ items) (writes : Writes token item) :
    Writes token (.list items)
  | key {members : List (Token × Tree)} {value : Tree} (member : (token, value) ∈ members) :
    Writes token (.record members)
  | value {members : List (Token × Tree)} {member : Token × Tree} (isMember : member ∈ members)
    (writes : Writes token member.2) : Writes token (.record members)

section Writes

variable {token : Token}

@[simp] theorem writes_text {other : Token} : Writes token (.text other) ↔ other = token := by
  constructor
  · rintro ⟨⟩
    rfl
  · rintro rfl
    exact .text

@[simp] theorem writes_list {items : List Tree} :
    Writes token (.list items) ↔ ∃ item ∈ items, Writes token item := by
  constructor
  · intro writes
    cases writes with
    | item member writes => exact ⟨_, member, writes⟩
  · rintro ⟨item, member, writes⟩
    exact .item member writes

@[simp] theorem writes_record {members : List (Token × Tree)} :
    Writes token (.record members) ↔
      ∃ member ∈ members, member.1 = token ∨ Writes token member.2 := by
  constructor
  · intro writes
    cases writes with
    | key isMember => exact ⟨_, isMember, .inl rfl⟩
    | value isMember writes => exact ⟨_, isMember, .inr writes⟩
  · rintro ⟨member, isMember, rfl | writes⟩
    · exact .key isMember
    · exact .value isMember writes

end Writes

/-- No record in the tree has two keys with the same text. -/
def HasDistinctKeys (tree : Tree) : Prop :=
  ∀ members, Within (.record members) tree → (members.filterMap (·.1.text?)).Nodup

/-- All numbers in the tree fit a double. -/
def FitsDoubles (tree : Tree) : Prop :=
  ∀ numeral, Within (.number numeral) tree → numeral.fitsDouble

/-- No half of a surrogate pair stands alone. -/
def HasWholePairs (tree : Tree) : Prop :=
  ∀ token, Writes token tree → token.bytes?.isSome

mutual

/-- How deep lists and records are nested. -/
def depth : Tree → Nat
  | .list items => depthOfItems items + 1
  | .record members => depthOfMembers members + 1
  | _ => 0

/-- How deep lists and records are nested in the items of a list. -/
def depthOfItems : List Tree → Nat
  | [] => 0
  | item :: items => max (depth item) (depthOfItems items)

/-- How deep lists and records are nested in the values of a record. -/
def depthOfMembers : List (Token × Tree) → Nat
  | [] => 0
  | (_, value) :: members => max (depth value) (depthOfMembers members)

end

theorem depthOfItems_le {items : List Tree} {bound : Nat} :
    depthOfItems items ≤ bound ↔ ∀ item ∈ items, item.depth ≤ bound := by
  induction items with
  | nil => simp [depthOfItems]
  | cons item items ih => rw [depthOfItems, Nat.max_le, ih, List.forall_mem_cons]

theorem depthOfMembers_le {members : List (Token × Tree)} {bound : Nat} :
    depthOfMembers members ≤ bound ↔ ∀ member ∈ members, member.2.depth ≤ bound := by
  induction members with
  | nil => simp [depthOfMembers]
  | cons member members ih => rw [depthOfMembers, Nat.max_le, ih, List.forall_mem_cons]

/-! ## Plain data -/

theorem genericItems_eq (depth : Nat) (items : List Tree) :
    genericItems depth items = items.mapM (generic? depth) := by
  induction items with
  | nil => rfl
  | cons item items ih => simp [genericItems, ih, List.mapM_cons]

theorem genericMembers_eq (depth : Nat) (members : List (Token × Tree)) :
    genericMembers depth members =
      members.mapM fun member => (generic? depth member.2).map (member.1, ·) := by
  induction members with
  | nil => rfl
  | cons member members ih =>
    rw [genericMembers, ih, List.mapM_cons]
    cases generic? depth member.2 <;> rfl

section Lists

variable {α : Type} {f : α → Option α} {list : List α}

theorem eq_of_mapM (same : ∀ element ∈ list, ∀ image, f element = some image → image = element)
    {images : List α} (found : list.mapM f = some images) : images = list := by
  induction list generalizing images with
  | nil =>
    cases found
    rfl
  | cons element list ih =>
    rw [List.mapM_cons] at found
    obtain ⟨image, first, found⟩ := Option.bind_eq_some_iff.1 found
    obtain ⟨others, rest, same'⟩ := Option.bind_eq_some_iff.1 found
    cases same'
    obtain ⟨head, tail⟩ := List.forall_mem_cons.1 same
    rw [head image first, ih tail rest]

theorem mapM_of_forall (same : ∀ element ∈ list, f element = some element) :
    list.mapM f = some list := by
  induction list with
  | nil => rfl
  | cons element list ih =>
    obtain ⟨head, tail⟩ := List.forall_mem_cons.1 same
    rw [List.mapM_cons, head, ih tail]
    rfl

end Lists

variable {members : List (Token × Tree)}

/-- A record without repeated keys keeps all its members. -/
theorem eq_of_lastMembers (distinct : (members.filterMap (·.1.text?)).Nodup)
    {kept : List (Token × Tree)} (found : lastMembers members = some kept) : kept = members := by
  induction members generalizing kept with
  | nil =>
    cases found
    rfl
  | cons member members ih =>
    obtain ⟨token, value⟩ := member
    obtain ⟨name, named, rest⟩ := Option.bind_eq_some_iff.1 found
    obtain ⟨later, others, last⟩ := Option.bind_eq_some_iff.1 rest
    have names := @List.filterMap_cons_some _ _ (fun member => member.1.text?) (token, value)
      members name named
    rw [names, List.nodup_cons] at distinct
    obtain rfl := ih distinct.2 others
    split at last
    case isTrue repeated =>
      obtain ⟨other, isMember, same⟩ := List.any_eq_true.1 repeated
      exact absurd (List.mem_filterMap.2 ⟨other, isMember, eq_of_beq same⟩) distinct.1
    case isFalse =>
      cases last
      rfl

theorem lastMembers_of_texts (distinct : (members.filterMap (·.1.text?)).Nodup)
    (texts : ∀ member ∈ members, member.1.text?.isSome) : lastMembers members = some members := by
  have total : ∃ kept, lastMembers members = some kept := by
    clear distinct
    induction members with
    | nil => exact ⟨[], rfl⟩
    | cons member members ih =>
      obtain ⟨token, value⟩ := member
      obtain ⟨first, others⟩ := List.forall_mem_cons.1 texts
      obtain ⟨name, named⟩ := Option.isSome_iff_exists.1 first
      obtain ⟨kept, found⟩ := ih others
      simp only [lastMembers, named, found, Option.bind_eq_bind, Option.bind_some]
      split <;> exact ⟨_, rfl⟩
  obtain ⟨kept, found⟩ := total
  rw [found, eq_of_lastMembers distinct found]

variable {tree : Tree}

theorem HasDistinctKeys.within (distinct : tree.HasDistinctKeys) {part : Tree}
    (holds : ∀ inner, Within inner part → Within inner tree) : part.HasDistinctKeys :=
  fun members within => distinct members (holds _ within)

/-- **Plain data without repeated keys is the tree itself.** -/
theorem eq_of_generic? (distinct : tree.HasDistinctKeys) {depth : Nat} {data : Tree}
    (found : generic? depth tree = some data) : data = tree := by
  induction tree using nested generalizing depth data with
  | null =>
    cases found
    rfl
  | boolean value =>
    cases found
    rfl
  | number numeral =>
    rw [generic?] at found
    split at found
    case isTrue =>
      cases found
      rfl
    case isFalse => cases found
  | text token =>
    rw [generic?] at found
    split at found
    case isTrue =>
      cases found
      rfl
    case isFalse => cases found
  | list items ih =>
    cases depth with
    | zero => cases found
    | succ depth =>
      obtain ⟨images, imagesFound, same⟩ := Option.map_eq_some_iff.1 found
      cases same
      rw [genericItems_eq] at imagesFound
      refine congrArg _ (eq_of_mapM (fun item member image isImage => ?_) imagesFound)
      exact ih item member (distinct.within fun _ => .item member) isImage
  | record members ih =>
    cases depth with
    | zero => cases found
    | succ depth =>
      obtain ⟨images, imagesFound, found⟩ := Option.bind_eq_some_iff.1 found
      obtain ⟨kept, last, same⟩ := Option.bind_eq_some_iff.1 found
      cases same
      rw [genericMembers_eq] at imagesFound
      have same : images = members := by
        refine eq_of_mapM (fun member isMember image isImage => ?_) imagesFound
        obtain ⟨value, found, rfl⟩ := Option.map_eq_some_iff.1 isImage
        exact congrArg _ (ih member isMember (distinct.within fun _ => .value isMember) found)
      subst same
      exact congrArg _ (eq_of_lastMembers (distinct images .self) last)

/-- **A tree without repeated keys is plain data**, if it is not nested too deep, its numbers fit
and its strings are texts. -/
theorem generic?_of_plain (distinct : tree.HasDistinctKeys) (fits : tree.FitsDoubles)
    (texts : ∀ token, Writes token tree → token.text?.isSome) {bound : Nat}
    (deep : tree.depth ≤ bound) : generic? bound tree = some tree := by
  induction tree using nested generalizing bound with
  | null => rfl
  | boolean value => rfl
  | number numeral => exact if_pos (fits numeral .self)
  | text token => exact if_pos (texts token .text)
  | list items ih =>
    rw [Tree.depth] at deep
    obtain ⟨bound, rfl⟩ := Nat.exists_eq_add_one.2 (Nat.lt_of_lt_of_le (Nat.succ_pos _) deep)
    have shallow := depthOfItems_le.1 (Nat.le_of_succ_le_succ deep)
    rw [generic?, genericItems_eq, mapM_of_forall fun item member => ?_]
    · rfl
    · exact ih item member (distinct.within fun _ => .item member)
        (fun numeral within => fits numeral (.item member within))
        (fun token writes => texts token (.item member writes)) (shallow item member)
  | record members ih =>
    rw [Tree.depth] at deep
    obtain ⟨bound, rfl⟩ := Nat.exists_eq_add_one.2 (Nat.lt_of_lt_of_le (Nat.succ_pos _) deep)
    have shallow := depthOfMembers_le.1 (Nat.le_of_succ_le_succ deep)
    have images : genericMembers bound members = some members := by
      rw [genericMembers_eq]
      refine mapM_of_forall fun member isMember => ?_
      rw [ih member isMember (distinct.within fun _ => .value isMember)
        (fun numeral within => fits numeral (.value isMember within))
        (fun token writes => texts token (.value isMember writes)) (shallow member isMember)]
      rfl
    have kept : lastMembers members = some members :=
      lastMembers_of_texts (distinct members .self) fun member isMember => texts _ (.key isMember)
    simp [generic?, images, kept]

end Turnstile.Json.Tree
