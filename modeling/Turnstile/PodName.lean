import Turnstile.Text.Quoted

/-!
# Names of pods

A pod is named by its namespace and its name in it, written `namespace/name`. Names that come
from the substrate are taken as they are; `PodName.parse` checks a text.
-/

set_option autoImplicit false

namespace Turnstile

/-- The identity of a pod across all namespaces. -/
structure PodName where
  space : String
  name : String
deriving DecidableEq, Repr

namespace PodName

/-- The written form. -/
def text (pod : PodName) : String := s!"{pod.space}/{pod.name}"

instance : ToString PodName := ⟨text⟩

/-- Pods are ordered by namespace, and by name within one. -/
def Precedes (first second : PodName) : Prop :=
  first.space < second.space ∨ (first.space = second.space ∧ first.name < second.name)

instance : LT PodName := ⟨Precedes⟩

instance : DecidableLT PodName := fun first second =>
  inferInstanceAs (Decidable (first.space < second.space ∨
    (first.space = second.space ∧ first.name < second.name)))

/-- A text that is not of the form `namespace/name`. -/
structure Malformed where
  text : String
deriving DecidableEq, Repr

/-- The wording of the complaint. -/
def Malformed.message (malformed : Malformed) : String :=
  s!"invalid namespaced pod name: {Text.quote malformed.text}"

/-- Read a text that consists of two parts, neither empty, around its only slash. -/
def parse (text : String) : Except Malformed PodName :=
  let space := text.toList.takeWhile (· ≠ '/')
  match text.toList.dropWhile (· ≠ '/') with
  | _ :: name =>
    if space ≠ [] ∧ name ≠ [] ∧ '/' ∉ name then
      .ok ⟨String.ofList space, String.ofList name⟩
    else .error ⟨text⟩
  | [] => .error ⟨text⟩

end PodName

end Turnstile
