import Mathlib.Data.List.Induction
import Mathlib.Data.List.Nodup
import Turnstile.Table

/-!
# The bindings of a table

What the operations on a table do to its bindings and to its keys. A binding that is found splits
the bindings in two; setting its key replaces it in place, and erasing its key leaves the two parts
(`exists_split_of_get?`). Tables whose keys are all different are kept by every operation, and in
such a table looking up a key and holding a binding are the same (`get?_eq_some_iff`).
-/

set_option autoImplicit false

namespace Turnstile.Table

universe u v

variable {κ : Type u} {ν : Type v} {table : Table κ ν} {key other : κ} {value : ν}

/-! ## Looking up -/

@[simp] theorem keys_mapValues (change : ν → ν) (table : Table κ ν) :
    (table.mapValues change).keys = table.keys := by
  simp [mapValues, keys, Function.comp_def]

variable [DecidableEq κ]

theorem find?_map_values (change : ν → ν) (key : κ) (bindings : List (κ × ν)) :
    find? key (bindings.map fun binding => (binding.1, change binding.2)) =
      (find? key bindings).map change := by
  induction bindings with
  | nil => rfl
  | cons binding rest ih =>
    by_cases same : binding.1 = key
    · simp [find?, same]
    · simpa [find?, same] using ih

/-- The same for a change that looks at the key. -/
theorem find?_map_bindings (change : κ → ν → ν) (key : κ) (bindings : List (κ × ν)) :
    find? key (bindings.map fun binding => (binding.1, change binding.1 binding.2)) =
      (find? key bindings).map (change key) := by
  induction bindings with
  | nil => rfl
  | cons binding rest ih =>
    by_cases same : binding.1 = key
    · simp [find?, same]
    · simpa [find?, same] using ih

@[simp] theorem get?_mapValues (change : ν → ν) (table : Table κ ν) (key : κ) :
    (table.mapValues change).get? key = (table.get? key).map change :=
  find?_map_values change key table.bindings

theorem find?_append_of_forall_ne {before : List (κ × ν)}
    (absent : ∀ binding ∈ before, binding.1 ≠ key) (after : List (κ × ν)) :
    find? key (before ++ after) = find? key after := by
  induction before with
  | nil => rfl
  | cons binding rest ih =>
    have here : binding.1 ≠ key := absent binding List.mem_cons_self
    have later : ∀ binding ∈ rest, binding.1 ≠ key :=
      fun binding member => absent binding (List.mem_cons_of_mem _ member)
    simpa [find?, here] using ih later

theorem find?_append_cons_of_ne (different : other ≠ key) (value : ν)
    (before after : List (κ × ν)) :
    find? other (before ++ (key, value) :: after) = find? other (before ++ after) := by
  induction before with
  | nil => exact if_neg different.symm
  | cons binding before ih => simp only [List.cons_append, find?, ih]

/-- A binding that is found is the first one of its key. -/
theorem exists_prefix_of_find? {bindings : List (κ × ν)} (found : find? key bindings = some value) :
    ∃ before after, bindings = before ++ (key, value) :: after ∧
      ∀ binding ∈ before, binding.1 ≠ key := by
  induction bindings with
  | nil => cases found
  | cons binding rest ih =>
    by_cases same : binding.1 = key
    · simp only [find?, if_pos same, Option.some.injEq] at found
      exact ⟨[], rest, by rw [← same, ← found]; rfl, by simp⟩
    · simp only [find?, same, if_false] at found
      obtain ⟨before, after, rfl, absent⟩ := ih found
      exact ⟨binding :: before, after, rfl, List.forall_mem_cons.2 ⟨same, absent⟩⟩

theorem insertBinding_append_of_forall_ne {before : List (κ × ν)}
    (absent : ∀ binding ∈ before, binding.1 ≠ key) (value : ν) (after : List (κ × ν)) :
    insertBinding key value (before ++ after) = before ++ insertBinding key value after := by
  induction before with
  | nil => rfl
  | cons binding rest ih =>
    have here : binding.1 ≠ key := absent binding List.mem_cons_self
    have later : ∀ binding ∈ rest, binding.1 ≠ key :=
      fun binding member => absent binding (List.mem_cons_of_mem _ member)
    simp [insertBinding, here, ih later]

theorem find?_eq_none_iff {bindings : List (κ × ν)} :
    find? key bindings = none ↔ ∀ binding ∈ bindings, binding.1 ≠ key := by
  induction bindings with
  | nil => simp [find?]
  | cons binding rest ih =>
    by_cases same : binding.1 = key
    · simp [find?, same]
    · simp [find?, same, ih]

theorem get?_eq_none_iff : table.get? key = none ↔ key ∉ table.keys := by
  simp only [get?, find?_eq_none_iff, keys, List.mem_map, not_exists, not_and]

theorem mem_keys_of_get? (found : table.get? key = some value) : key ∈ table.keys := by
  by_contra absent
  rw [get?_eq_none_iff.2 absent] at found
  cases found

/-! ## Setting and erasing -/

/-- A key that is not bound is bound at the end. -/
theorem bindings_set_of_get?_eq_none (absent : table.get? key = none) (value : ν) :
    (table.set key value).bindings = table.bindings ++ [(key, value)] := by
  have unbound := find?_eq_none_iff.1 absent
  simpa [set, insertBinding] using insertBinding_append_of_forall_ne unbound value []

/-- A binding that is found stands between those that setting its key, and in a table of different
keys also erasing it, leaves alone. -/
theorem exists_split_of_get? (found : table.get? key = some value) :
    ∃ before after, table.bindings = before ++ (key, value) :: after ∧
      (∀ value', (table.set key value').bindings = before ++ (key, value') :: after) ∧
      (table.keys.Nodup → (table.erase key).bindings = before ++ after) := by
  obtain ⟨before, after, split, absent⟩ := exists_prefix_of_find? found
  refine ⟨before, after, split, fun value' => ?_, fun distinct => ?_⟩
  · simp [set, split, insertBinding_append_of_forall_ne absent, insertBinding]
  · have later : ∀ binding ∈ after, binding.1 ≠ key := by
      intro binding member same
      simp only [keys, split, List.map_append, List.map_cons, List.nodup_append,
        List.nodup_cons] at distinct
      exact distinct.2.1.1 (List.mem_map.2 ⟨binding, member, same⟩)
    have keptBefore : before.filter (fun binding => binding.1 ≠ key) = before :=
      List.filter_eq_self.2 fun binding member => decide_eq_true (absent binding member)
    have keptAfter : after.filter (fun binding => binding.1 ≠ key) = after :=
      List.filter_eq_self.2 fun binding member => decide_eq_true (later binding member)
    have gone : decide ((key, value).1 ≠ key) = false := decide_eq_false fun apart => apart rfl
    rw [erase, split, List.filter_append, List.filter_cons, gone, keptBefore, keptAfter]
    rfl

theorem keys_set_of_get? (found : table.get? key = some value) (value' : ν) :
    (table.set key value').keys = table.keys := by
  obtain ⟨before, after, split, replaced, _⟩ := exists_split_of_get? found
  simp [keys, split, replaced]

theorem keys_set_of_get?_eq_none (absent : table.get? key = none) (value : ν) :
    (table.set key value).keys = table.keys ++ [key] := by
  simp [keys, bindings_set_of_get?_eq_none absent]

theorem mem_keys_set : other ∈ (table.set key value).keys ↔ other ∈ table.keys ∨ other = key := by
  cases found : table.get? key with
  | none => simp [keys_set_of_get?_eq_none found]
  | some old =>
    have member := mem_keys_of_get? found
    rw [keys_set_of_get? found]
    exact ⟨.inl, fun either => either.elim id fun same => same ▸ member⟩

theorem nodup_keys_set (distinct : table.keys.Nodup) (key : κ) (value : ν) :
    (table.set key value).keys.Nodup := by
  cases found : table.get? key with
  | none =>
    rw [keys_set_of_get?_eq_none found, ← List.concat_eq_append]
    exact distinct.concat (get?_eq_none_iff.1 found)
  | some old => rwa [keys_set_of_get? found]

theorem keys_erase (table : Table κ ν) (key : κ) :
    (table.erase key).keys = table.keys.filter fun bound => bound ≠ key := by
  simp [keys, erase, List.filter_map, Function.comp_def]

theorem nodup_keys_erase (distinct : table.keys.Nodup) (key : κ) :
    (table.erase key).keys.Nodup := by
  rw [keys_erase]
  exact distinct.filter _

@[simp] theorem get?_erase_self (table : Table κ ν) (key : κ) :
    (table.erase key).get? key = none := by
  simp [get?_eq_none_iff, keys_erase]

theorem get?_erase_of_ne (table : Table κ ν) (different : other ≠ key) :
    (table.erase key).get? other = table.get? other := by
  obtain ⟨bindings⟩ := table
  simp only [get?, erase]
  induction bindings with
  | nil => rfl
  | cons binding rest ih =>
    by_cases erased : binding.1 = key
    · have apart : binding.1 ≠ other := erased ▸ different.symm
      rw [List.filter_cons_of_neg (by simpa using erased), ih, find?, if_neg apart]
    · rw [List.filter_cons_of_pos (by simpa using erased), find?, find?, ih]

/-- What is found after setting a key is the value set, or was found before. -/
theorem get?_set_cases {found : ν} (after : (table.set key value).get? other = some found) :
    (other = key ∧ value = found) ∨ (other ≠ key ∧ table.get? other = some found) := by
  by_cases same : other = key
  · subst same
    exact .inl ⟨rfl, Option.some.inj ((get?_set_self _ _ _).symm.trans after)⟩
  · exact .inr ⟨same, (get?_set_of_ne _ _ same).symm.trans after⟩

/-- What is found after a key is erased was found before, and under another key. -/
theorem get?_erase_cases (after : (table.erase key).get? other = some value) :
    other ≠ key ∧ table.get? other = some value := by
  by_cases same : other = key
  · subst same
    exact nomatch (get?_erase_self _ _).symm.trans after
  · exact ⟨same, (get?_erase_of_ne _ same).symm.trans after⟩

theorem exists_of_get?_mapValues {change : ν → ν}
    (after : (table.mapValues change).get? key = some value) :
    ∃ before, table.get? key = some before ∧ change before = value := by
  rw [get?_mapValues] at after
  exact Option.map_eq_some_iff.1 after

/-- A table with one binding at most has none but the one that is found. -/
theorem bindings_of_size_le_one (single : table.size ≤ 1) (found : table.get? key = some value) :
    table.bindings = [(key, value)] := by
  obtain ⟨before, after, split, _⟩ := exists_split_of_get? found
  have size : before.length + (after.length + 1) ≤ 1 := by simpa [size, split] using single
  rw [split, List.eq_nil_of_length_eq_zero (by omega : before.length = 0),
    List.eq_nil_of_length_eq_zero (by omega : after.length = 0), List.nil_append]

theorem eq_of_size_le_one {value' : ν} (single : table.size ≤ 1)
    (found : table.get? key = some value) (found' : table.get? other = some value') :
    key = other := by
  have only := (bindings_of_size_le_one single found).symm.trans
    (bindings_of_size_le_one single found')
  exact congrArg Prod.fst (List.cons.inj only).1

theorem get?_of_size_eq_zero (empty : table.size = 0) (key : κ) : table.get? key = none := by
  rw [get?_eq_none_iff, keys, List.eq_nil_of_length_eq_zero empty]
  exact List.not_mem_nil

theorem size_erase_of_size_le_one (single : table.size ≤ 1) (found : table.get? key = some value) :
    (table.erase key).size = 0 := by
  simp [size, erase, bindings_of_size_le_one single found]

theorem get?_erase_of_size_le_one (single : table.size ≤ 1) (found : table.get? key = some value)
    (other : κ) : (table.erase key).get? other = none :=
  get?_of_size_eq_zero (size_erase_of_size_le_one single found) other

/-! ## Tables of different keys -/

/-- In a table of different keys a key has the value of its binding. -/
theorem get?_eq_some_iff (distinct : table.keys.Nodup) :
    table.get? key = some value ↔ (key, value) ∈ table.bindings := by
  constructor
  · intro found
    obtain ⟨before, after, split, _⟩ := exists_prefix_of_find? found
    simp [split]
  · intro member
    obtain ⟨before, after, split⟩ := List.append_of_mem member
    have absent : ∀ binding ∈ before, binding.1 ≠ key := by
      intro binding earlier same
      simp only [keys, split, List.map_append, List.map_cons, List.nodup_append] at distinct
      exact distinct.2.2 binding.1 (List.mem_map_of_mem earlier) key List.mem_cons_self same
    simp [get?, split, find?_append_of_forall_ne absent, find?]

/-- A key keeps its value if its binding passes a test. -/
theorem get?_filter (distinct : table.keys.Nodup) (test : κ × ν → Bool) (key : κ) :
    (⟨table.bindings.filter test⟩ : Table κ ν).get? key =
      (table.get? key).filter fun value => test (key, value) := by
  have distinct' : (⟨table.bindings.filter test⟩ : Table κ ν).keys.Nodup :=
    distinct.sublist (List.filter_sublist.map _)
  refine Option.ext fun value => ?_
  rw [get?_eq_some_iff distinct', List.mem_filter, Option.filter_eq_some_iff,
    get?_eq_some_iff distinct]

/-! ## Tables from lists -/

/-- A table is made from its bindings, as long as their keys are different. -/
theorem ofList_bindings (distinct : table.keys.Nodup) : ofList table.bindings = table := by
  obtain ⟨bindings⟩ := table
  induction bindings using List.reverseRecOn with
  | nil => rfl
  | append_singleton bindings binding ih =>
    simp only [keys, List.map_append, List.map_cons, List.map_nil, List.nodup_append] at distinct
    have unbound : (⟨bindings⟩ : Table κ ν).get? binding.1 = none := by
      refine get?_eq_none_iff.2 fun bound => ?_
      exact distinct.2.2 binding.1 bound binding.1 (List.mem_singleton_self _) rfl
    rw [ofList, List.foldl_append]
    have earlier : bindings.foldl (fun table binding => table.set binding.1 binding.2) empty =
        (⟨bindings⟩ : Table κ ν) := ih distinct.1
    rw [earlier, List.foldl_cons, List.foldl_nil]
    exact congrArg mk (bindings_set_of_get?_eq_none unbound binding.2)

theorem nodup_keys_ofList (bindings : List (κ × ν)) : (ofList bindings).keys.Nodup := by
  induction bindings using List.reverseRecOn with
  | nil => exact List.nodup_nil
  | append_singleton bindings binding ih =>
    rw [ofList, List.foldl_append]
    exact nodup_keys_set ih binding.1 binding.2

/-- Tables with the same bindings in any order tell the same of every key. -/
theorem get?_eq_of_perm {other : Table κ ν} (distinct : table.keys.Nodup)
    (same : other.bindings.Perm table.bindings) (key : κ) : other.get? key = table.get? key := by
  have distinct' : other.keys.Nodup := (same.map Prod.fst).nodup_iff.2 distinct
  refine Option.ext fun value => ?_
  exact (get?_eq_some_iff distinct').trans (same.mem_iff.trans (get?_eq_some_iff distinct).symm)

end Turnstile.Table
