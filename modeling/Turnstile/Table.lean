/-!
# Finite tables

A `Table` is a finite map kept as a list of bindings in the order in which their keys were first
set. Setting a key that is bound replaces its value in place, so a key has one binding
(`get?_set_self`, `get?_set_of_ne`).
-/

set_option autoImplicit false

namespace Turnstile

universe u v

/-- A finite map from keys to values. -/
structure Table (κ : Type u) (ν : Type v) where
  bindings : List (κ × ν)

namespace Table

variable {κ : Type u} {ν : Type v}

/-- The table without bindings. -/
def empty : Table κ ν := ⟨[]⟩

instance : Inhabited (Table κ ν) := ⟨empty⟩

/-- The keys in the order in which they were first set. -/
def keys (table : Table κ ν) : List κ := table.bindings.map (·.1)

/-- The values in the order of their keys. -/
def values (table : Table κ ν) : List ν := table.bindings.map (·.2)

/-- The number of bindings. -/
def size (table : Table κ ν) : Nat := table.bindings.length

/-- Apply a function to every value. -/
def mapValues (change : ν → ν) (table : Table κ ν) : Table κ ν :=
  ⟨table.bindings.map fun binding => (binding.1, change binding.2)⟩

variable [DecidableEq κ]

/-- The value first bound to a key in a list of bindings. -/
def find? (key : κ) : List (κ × ν) → Option ν
  | [] => none
  | binding :: rest => if binding.1 = key then some binding.2 else find? key rest

/-- The bindings with a key bound to a value: in its place if it is there, at the end if not. -/
def insertBinding (key : κ) (value : ν) : List (κ × ν) → List (κ × ν)
  | [] => [(key, value)]
  | binding :: rest =>
    if binding.1 = key then (key, value) :: rest else binding :: insertBinding key value rest

/-- The value of a key. -/
def get? (table : Table κ ν) (key : κ) : Option ν := find? key table.bindings

/-- Whether a key is bound. -/
def contains (table : Table κ ν) (key : κ) : Bool := (table.get? key).isSome

/-- Bind a key to a value. -/
def set (table : Table κ ν) (key : κ) (value : ν) : Table κ ν :=
  ⟨insertBinding key value table.bindings⟩

/-- Remove the binding of a key. -/
def erase (table : Table κ ν) (key : κ) : Table κ ν :=
  ⟨table.bindings.filter fun binding => binding.1 ≠ key⟩

/-- The table with the given bindings; of several bindings of a key the last one holds. -/
def ofList (bindings : List (κ × ν)) : Table κ ν :=
  bindings.foldl (fun table binding => table.set binding.1 binding.2) empty

@[simp] theorem get?_empty (key : κ) : (empty : Table κ ν).get? key = none := rfl

@[simp] theorem get?_set_self (table : Table κ ν) (key : κ) (value : ν) :
    (table.set key value).get? key = some value := by
  obtain ⟨bindings⟩ := table
  simp only [get?, set]
  induction bindings with
  | nil => simp [insertBinding, find?]
  | cons binding rest ih =>
    by_cases same : binding.1 = key
    · simp [insertBinding, find?, same]
    · simpa [insertBinding, find?, same] using ih

theorem get?_set_of_ne (table : Table κ ν) {key other : κ} (value : ν) (different : other ≠ key) :
    (table.set key value).get? other = table.get? other := by
  obtain ⟨bindings⟩ := table
  simp only [get?, set]
  induction bindings with
  | nil => simp [insertBinding, find?, different.symm]
  | cons binding rest ih =>
    by_cases same : binding.1 = key
    · simp [insertBinding, find?, same, different.symm]
    · by_cases found : binding.1 = other
      · simp [insertBinding, find?, found, different]
      · simpa [insertBinding, find?, same, found] using ih

end Table

end Turnstile
