import Turnstile.Json.Tree
import Turnstile.Table

/-!
# Meaning of JSON trees

What a tree says about a resource. A record may name its parts, in any order and with unknown
members among them, or list their values in the order of declaration. A part that is named twice
is refused; unknown members are skipped whatever they hold.

`Tree.generic?` is the reading by which a tree is taken as plain data before its meaning is asked
for: there a repeated member keeps its last value, every string must have a text, numbers must
fit a double and the nesting is limited.
-/

set_option autoImplicit false

namespace Turnstile.Json

/-- The parts of a record that are given. -/
abbrev Parts := Table String Tree

/-- Collect named parts; none if a name has no text or a part is given twice. -/
def collectParts (names : List String) : Parts → List (Token × Tree) → Option Parts
  | parts, [] => some parts
  | parts, (token, value) :: rest => do
    let name ← token.text?
    if name ∈ names then
      if parts.contains name then none else collectParts names (parts.set name value) rest
    else collectParts names parts rest

namespace Parts

/-- A part that must be given. -/
def required {α : Type} (parts : Parts) (name : String) (decode : Tree → Option α) : Option α :=
  (parts.get? name).bind decode

/-- A part with a default for its absence. -/
def getOr {α : Type} (parts : Parts) (name : String) (default : α) (decode : Tree → Option α) :
    Option α :=
  match parts.get? name with
  | none => some default
  | some tree => decode tree

end Parts

namespace Tree

/-- The parts of a record with the given names. -/
def parts? (names : List String) : Tree → Option Parts
  | .record members => collectParts names .empty members
  | .list items => if items.length ≤ names.length then some ⟨names.zip items⟩ else none
  | _ => none

/-- A string. -/
def text? : Tree → Option String
  | .text token => token.text?
  | _ => none

/-- A value or null. -/
def optional? {α : Type} (decode : Tree → Option α) : Tree → Option (Option α)
  | .null => some none
  | tree => (decode tree).map some

/-- A list of values. -/
def list? {α : Type} (decode : Tree → Option α) : Tree → Option (List α)
  | .list items => items.mapM decode
  | _ => none

/-- A table from texts to values; of equal keys the last one holds. -/
def table? {α : Type} (decode : Tree → Option α) : Tree → Option (Table String α)
  | .record members => do
    let bindings ← members.mapM fun member => do
      return (← member.1.text?, ← decode member.2)
    return .ofList bindings
  | _ => none

/-- A whole number between two bounds, written without point and exponent. The minus sign does
not go with zero. -/
def integer? (low high : Int) : Tree → Option Int
  | .number numeral =>
    let value : Int := if numeral.negative then -numeral.digits else numeral.digits
    if numeral.isInteger ∧ ¬(numeral.negative ∧ numeral.digits = 0) ∧ low ≤ value ∧ value ≤ high
    then some value else none
  | _ => none

/-- The name of a variant: a string, or a record whose only member has it as key and null as
value. -/
def variant? : Tree → Option String
  | .text token => token.text?
  | .record [(token, .null)] => token.text?
  | _ => none

/-! ## Plain data -/

/-- The members with, of those with equal keys, only the last; none if a key has no text. -/
def lastMembers : List (Token × Tree) → Option (List (Token × Tree))
  | [] => some []
  | (token, value) :: rest => do
    let name ← token.text?
    let later ← lastMembers rest
    if later.any fun member => member.1.text? == some name then return later
    else return (token, value) :: later

mutual

/-- The tree as plain data, in which values may be nested as deep as given. -/
def generic? : Nat → Tree → Option Tree
  | _, .null => some .null
  | _, .boolean value => some (.boolean value)
  | _, .number numeral => if numeral.fitsDouble then some (.number numeral) else none
  | _, .text token => if token.text?.isSome then some (.text token) else none
  | 0, .list _ => none
  | depth + 1, .list items => (genericItems depth items).map .list
  | 0, .record _ => none
  | depth + 1, .record members => do
    return .record (← lastMembers (← genericMembers depth members))

/-- Every item as plain data. -/
def genericItems (depth : Nat) : List Tree → Option (List Tree)
  | [] => some []
  | item :: rest => do
    let head ← generic? depth item
    return head :: (← genericItems depth rest)

/-- Every member with its value as plain data. -/
def genericMembers (depth : Nat) : List (Token × Tree) → Option (List (Token × Tree))
  | [] => some []
  | (token, value) :: rest => do
    let head ← generic? depth value
    return (token, head) :: (← genericMembers depth rest)

end

end Tree

end Turnstile.Json
