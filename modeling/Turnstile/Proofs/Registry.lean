import Mathlib.Data.Finset.Card
import Mathlib.Data.String.Basic
import Turnstile.Proofs.Difference
import Turnstile.Proofs.Table
import Turnstile.Registry

/-!
# What a reconciliation does to the registry

A reconciliation keeps the bindings of the projects that are wanted still, in their order, and adds
one for each project that is new (`Registry.bindings_reconcile`), so that it carries out the
difference (`Registry.keys_reconcile`). The tokens that it cancels are those of the bindings that
are gone, and what it counts are the differences of the two sets, however the list is ordered and
whatever it repeats. With the projects that are there already it changes nothing.
-/

set_option autoImplicit false

namespace Turnstile

instance {kind : IdentifierKind} : IsStrictTotalOrder (Identifier kind) (· < ·) where
  irrefl := fun identifier => lt_irrefl identifier.text
  trans := fun _ _ _ before after => @lt_trans String _ _ _ _ before after
  trichotomous := fun _ _ notBefore notAfter =>
    Identifier.ext_text (le_antisymm (not_lt.1 notAfter) (not_lt.1 notBefore))

namespace Table

universe u v

variable {κ : Type u} {ν : Type v} [DecidableEq κ]

theorem bindings_foldl_erase (keys : List κ) (table : Table κ ν) :
    (keys.foldl erase table).bindings = table.bindings.filter fun binding => binding.1 ∉ keys := by
  induction keys generalizing table with
  | nil => simp
  | cons key keys ih =>
    rw [List.foldl_cons, ih, erase, List.filter_filter]
    refine List.filter_congr fun binding _ => ?_
    simp [Bool.and_comm]

/-- Keys that are new and different are bound at the end. -/
theorem bindings_foldl_set {pairs : List (κ × ν)} (distinct : (pairs.map (·.1)).Nodup)
    {table : Table κ ν} (new : ∀ pair ∈ pairs, pair.1 ∉ table.keys) :
    (pairs.foldl (fun table pair => table.set pair.1 pair.2) table).bindings =
      table.bindings ++ pairs := by
  induction pairs generalizing table with
  | nil => simp
  | cons pair pairs ih =>
    obtain ⟨apart, distinct⟩ := List.nodup_cons.1 distinct
    have absent := get?_eq_none_iff.2 (new pair List.mem_cons_self)
    rw [List.foldl_cons, ih distinct, bindings_set_of_get?_eq_none absent, List.append_assoc]
    · rfl
    · intro later member bound
      rcases mem_keys_set.1 bound with old | same
      · exact new later (List.mem_cons_of_mem _ member) old
      · exact apart (List.mem_map.2 ⟨later, member, same⟩)

end Table

namespace Registry

variable {registry : Registry} {next : Nat} {wanted : List ProjectId} {project : ProjectId}
  {token : Nat}

/-! ## The projects of the registry -/

theorem map_fst_spawned : (registry.reconcile next wanted).spawned.map (·.1) =
    (Difference.between wanted registry.tokens.keys).added :=
  List.zipIdx_map_fst next _

/-- **What is wanted still stays bound, and what is new is bound behind it.** -/
theorem bindings_reconcile (registry : Registry) (next : Nat) (wanted : List ProjectId) :
    (registry.reconcile next wanted).registry.tokens.bindings =
      (registry.tokens.bindings.filter fun binding => binding.1 ∈ wanted) ++
        (registry.reconcile next wanted).spawned := by
  let removed := (Difference.between wanted registry.tokens.keys).removed
  have kept : (registry.without removed).tokens.bindings =
      registry.tokens.bindings.filter fun binding => binding.1 ∈ wanted := by
    rw [without, Table.bindings_foldl_erase]
    refine List.filter_congr fun binding member => decide_eq_decide.2 ?_
    have bound : binding.1 ∈ registry.tokens.keys := List.mem_map_of_mem member
    simp [removed, bound]
  have new : ∀ pair ∈ (registry.reconcile next wanted).spawned,
      pair.1 ∉ (registry.without removed).tokens.keys := by
    intro pair member bound
    have added := Difference.mem_added.1 (map_fst_spawned ▸ List.mem_map_of_mem member)
    rw [Table.keys, kept] at bound
    obtain ⟨binding, old, same⟩ := List.mem_map.1 bound
    exact added.2 (same ▸ List.mem_map_of_mem (List.mem_of_mem_filter old))
  have distinct : ((registry.reconcile next wanted).spawned.map (·.1)).Nodup := by
    rw [map_fst_spawned]
    exact nodup_ascending _
  have bound := Table.bindings_foldl_set distinct new
  rw [kept] at bound
  exact bound

/-- A reconciliation carries out the difference. -/
theorem keys_reconcile (registry : Registry) (next : Nat) (wanted : List ProjectId) :
    (registry.reconcile next wanted).registry.tokens.keys =
      (Difference.between wanted registry.tokens.keys).apply registry.tokens.keys := by
  rw [Table.keys, bindings_reconcile, List.map_append, map_fst_spawned, Difference.apply,
    Table.keys, List.filter_map]
  congr 2
  refine List.filter_congr fun binding member => decide_eq_decide.2 ?_
  have bound : binding.1 ∈ registry.tokens.bindings.map (·.1) := List.mem_map_of_mem member
  simp [bound]

theorem mem_keys_reconcile :
    project ∈ (registry.reconcile next wanted).registry.tokens.keys ↔ project ∈ wanted := by
  rw [keys_reconcile, Difference.mem_apply_between]

theorem nodup_keys_reconcile (separate : registry.tokens.keys.Nodup) :
    (registry.reconcile next wanted).registry.tokens.keys.Nodup := by
  rw [Table.keys, bindings_reconcile, List.map_append, map_fst_spawned]
  refine List.nodup_append.2 ⟨?_, nodup_ascending _, ?_⟩
  · exact separate.sublist (List.filter_sublist.map _)
  · intro first kept second added same
    obtain ⟨binding, member, rfl⟩ := List.mem_map.1 kept
    have old : binding.1 ∈ registry.tokens.keys :=
      List.mem_map_of_mem (List.mem_of_mem_filter member)
    exact (Difference.mem_added.1 added).2 (same ▸ old)

/-! ## The tokens that are cancelled -/

theorem mem_cancelled (separate : registry.tokens.keys.Nodup) :
    token ∈ (registry.reconcile next wanted).cancelled ↔
      ∃ project, (project, token) ∈ registry.tokens.bindings ∧ project ∉ wanted := by
  show token ∈ List.filterMap _ _ ↔ _
  rw [List.mem_filterMap]
  constructor
  · rintro ⟨project, removed, found⟩
    exact ⟨project, (Table.get?_eq_some_iff separate).1 found, (Difference.mem_removed.1 removed).2⟩
  · rintro ⟨project, member, unwanted⟩
    refine ⟨project, Difference.mem_removed.2 ⟨List.mem_map_of_mem member, unwanted⟩, ?_⟩
    exact (Table.get?_eq_some_iff separate).2 member

/-- If every binding has a token of its own, then no token is cancelled twice. -/
theorem nodup_cancelled (separate : registry.tokens.keys.Nodup)
    (distinct : (registry.tokens.bindings.map (·.2)).Nodup) :
    (registry.reconcile next wanted).cancelled.Nodup := by
  refine List.Nodup.filterMap ?_ (nodup_ascending _)
  intro first second token here there
  have found := (Table.get?_eq_some_iff separate).1 here
  have found' := (Table.get?_eq_some_iff separate).1 there
  exact congrArg Prod.fst (List.inj_on_of_nodup_map distinct found found' rfl)

/-! ## What is counted -/

/-- A list without repeats has as many members as its set. -/
theorem length_eq_card {κ : Type} [DecidableEq κ] {keys : List κ} (distinct : keys.Nodup)
    {set : Finset κ} (same : ∀ key, key ∈ keys ↔ key ∈ set) : keys.length = set.card := by
  rw [← List.toFinset_card_of_nodup distinct]
  exact congrArg Finset.card (Finset.ext fun key => List.mem_toFinset.trans (same key))

/-- The counts are those of the two sets. -/
theorem stats_reconcile (separate : registry.tokens.keys.Nodup) :
    (registry.reconcile next wanted).stats =
      ⟨(wanted.toFinset \ registry.tokens.keys.toFinset).card,
        (registry.tokens.keys.toFinset \ wanted.toFinset).card, wanted.toFinset.card⟩ := by
  have started : (Difference.between wanted registry.tokens.keys).added.length = _ :=
    @length_eq_card _ _ _ (nodup_ascending _) (wanted.toFinset \ registry.tokens.keys.toFinset)
      fun key => by simp
  have stopped : (Difference.between wanted registry.tokens.keys).removed.length = _ :=
    @length_eq_card _ _ _ (nodup_ascending _) (registry.tokens.keys.toFinset \ wanted.toFinset)
      fun key => by simp
  have active : (registry.reconcile next wanted).registry.tokens.size = wanted.toFinset.card := by
    rw [Table.size, ← List.length_map (·.1)]
    exact length_eq_card (nodup_keys_reconcile separate) fun key => by
      rw [List.mem_toFinset]
      exact mem_keys_reconcile
  exact congrArg₂ (fun pair active => ReconcileStats.mk pair.1 pair.2 active)
    (congrArg₂ Prod.mk started stopped) active

/-- **Nothing is done for the projects that are there already.** -/
theorem reconcile_of_same (separate : registry.tokens.keys.Nodup) (next : Nat)
    (same : ∀ project, project ∈ wanted ↔ project ∈ registry.tokens.keys) :
    registry.reconcile next wanted =
      ⟨registry, [], [], ⟨0, 0, wanted.toFinset.card⟩⟩ := by
  obtain ⟨added, removed⟩ : (Difference.between wanted registry.tokens.keys).added = [] ∧
      (Difference.between wanted registry.tokens.keys).removed = [] := by
    simpa [Difference.isConverged] using Difference.isConverged_between_iff.2 same
  have size : registry.tokens.size = wanted.toFinset.card := by
    rw [Table.size, ← List.length_map (·.1)]
    exact length_eq_card separate fun key => by
      rw [List.mem_toFinset]
      exact (same key).symm
  simp [reconcile, added, removed, tokensOf, without, withAll, size]

end Registry

end Turnstile
