import Mathlib.Data.List.Nodup
import Mathlib.Data.List.Perm.Basic
import Turnstile.Json.Record
import Turnstile.Proofs.Table

/-!
# The parts of a record

The members of a record are collected one after the other, but what comes of them does not depend
on that. A record has parts if the names of all its members are texts and those that are asked for
are different (`isSome_collectParts_iff`), and then a part is the value of the member that has its
name (`get?_collectParts_iff`). So members whose names are not asked for do not matter, and neither
does the order of the members.
-/

set_option autoImplicit false

namespace Turnstile.Json

/-- The names of members that are asked for, in their order and as often as they stand there. -/
def namesAmong (names : List String) (members : List (Token × Tree)) : List String :=
  (members.filterMap (·.1.text?)).filter (· ∈ names)

/-- A member has a name that is asked for, and a value. -/
def HasPart (names : List String) (members : List (Token × Tree)) (name : String) (value : Tree) :
    Prop :=
  name ∈ names ∧ ∃ token : Token, token.text? = some name ∧ (token, value) ∈ members

/-- The names of all members are texts. -/
def AreNamed (members : List (Token × Tree)) : Prop := ∀ member ∈ members, member.1.text?.isSome

variable {names : List String} {members : List (Token × Tree)} {token : Token} {name : String}
  {value : Tree}

theorem namesAmong_cons_of_mem (named : token.text? = some name) (known : name ∈ names) :
    namesAmong names ((token, value) :: members) = name :: namesAmong names members := by
  simp [namesAmong, named, known]

theorem namesAmong_cons_of_notMem (named : token.text? = some name) (unknown : name ∉ names) :
    namesAmong names ((token, value) :: members) = namesAmong names members := by
  simp [namesAmong, named, unknown]

theorem areNamed_cons_iff :
    AreNamed ((token, value) :: members) ↔ token.text?.isSome ∧ AreNamed members :=
  List.forall_mem_cons

theorem hasPart_cons_iff {other : Tree} (named : token.text? = some name) {part : String} :
    HasPart names ((token, value) :: members) part other ↔
      (part ∈ names ∧ part = name ∧ other = value) ∨ HasPart names members part other := by
  constructor
  · rintro ⟨known, written, named', member⟩
    obtain same | member := List.mem_cons.1 member
    · cases same
      exact .inl ⟨known, Option.some.inj (named'.symm.trans named), rfl⟩
    · exact .inr ⟨known, written, named', member⟩
  · rintro (⟨known, rfl, rfl⟩ | ⟨known, written, named', member⟩)
    · exact ⟨known, token, named, List.mem_cons_self⟩
    · exact ⟨known, written, named', List.mem_cons_of_mem _ member⟩

/-- A part more is bound where it was not before. -/
theorem get?_set_eq_some_iff {parts : Parts} (free : parts.get? name = none) {part : String}
    {other : Tree} : (parts.set name value).get? part = some other ↔
      parts.get? part = some other ∨ (part = name ∧ other = value) := by
  by_cases same : part = name
  · subst same
    rw [Table.get?_set_self, free]
    simp [eq_comm]
  · rw [Table.get?_set_of_ne parts value same]
    simp [same]

/-- When members can be collected beside the parts collected before. -/
theorem isSome_collectParts_iff (parts : Parts) (members : List (Token × Tree)) :
    (collectParts names parts members).isSome ↔ AreNamed members ∧
      (namesAmong names members).Nodup ∧
        ∀ name ∈ namesAmong names members, parts.get? name = none := by
  induction members generalizing parts with
  | nil => simp [collectParts, AreNamed, namesAmong]
  | cons member members ih =>
    obtain ⟨token, value⟩ := member
    rw [collectParts, areNamed_cons_iff]
    cases named : token.text? with
    | none => simp
    | some name =>
      by_cases known : name ∈ names
      · rw [namesAmong_cons_of_mem named known, List.nodup_cons, List.forall_mem_cons]
        cases bound : parts.get? name with
        | some other => simp [known, Table.contains, bound]
        | none =>
          have free : (∀ part ∈ namesAmong names members, (parts.set name value).get? part = none) ↔
              name ∉ namesAmong names members ∧
                ∀ part ∈ namesAmong names members, parts.get? part = none := by
            constructor
            · intro free
              have absent : name ∉ namesAmong names members := fun member => by
                simpa using free name member
              refine ⟨absent, fun part member => ?_⟩
              rw [← Table.get?_set_of_ne parts value (ne_of_mem_of_not_mem member absent)]
              exact free part member
            · rintro ⟨absent, free⟩ part member
              rw [Table.get?_set_of_ne parts value (ne_of_mem_of_not_mem member absent)]
              exact free part member
          simp [known, Table.contains, bound, ih, free, and_assoc, and_left_comm]
      · rw [namesAmong_cons_of_notMem named known]
        simp [known, ih]

/-- What is collected is what was collected before, and the parts of the members. -/
theorem get?_collectParts_iff {parts collected : Parts}
    (collects : collectParts names parts members = some collected) {name : String} {value : Tree} :
    collected.get? name = some value ↔
      parts.get? name = some value ∨ HasPart names members name value := by
  induction members generalizing parts with
  | nil =>
    cases collects
    simp [HasPart]
  | cons member members ih =>
    obtain ⟨token, first⟩ := member
    rw [collectParts] at collects
    obtain ⟨head, named, collects⟩ := Option.bind_eq_some_iff.1 collects
    rw [hasPart_cons_iff named]
    by_cases known : head ∈ names
    · rw [if_pos known] at collects
      cases bound : parts.get? head with
      | some other => simp [Table.contains, bound] at collects
      | none =>
        simp only [Table.contains, bound, Option.isSome_none, Bool.false_eq_true, if_false]
          at collects
        rw [ih collects, get?_set_eq_some_iff bound, or_assoc]
        have same : (name ∈ names ∧ name = head ∧ value = first) ↔ name = head ∧ value = first :=
          and_iff_right_of_imp fun equal => equal.1 ▸ known
        rw [same]
    · rw [if_neg known] at collects
      rw [ih collects]
      have never : ¬(name ∈ names ∧ name = head ∧ value = first) := by
        rintro ⟨inside, rfl, -⟩
        exact known inside
      rw [or_iff_right never]

namespace Tree

/-- **A record has parts** if its members have names and those asked for are different. -/
theorem isSome_parts?_record_iff : ((Tree.record members).parts? names).isSome ↔
    AreNamed members ∧ (namesAmong names members).Nodup := by
  rw [parts?, isSome_collectParts_iff]
  simp

/-- **A part of a record** is the value of its member with that name. -/
theorem get?_parts?_record_iff {parts : Parts}
    (given : (Tree.record members).parts? names = some parts) {name : String} {value : Tree} :
    parts.get? name = some value ↔ HasPart names members name value := by
  rw [get?_collectParts_iff given]
  simp

end Tree

end Turnstile.Json
