import Turnstile.Proofs.Table
import Turnstile.Simulation.Turns

/-!
# Scopes that are opened and cancelled

A new scope, and a new task, has a number of its own, and a scope stands below older ones only
(`World.IsNumbered`). So a scope that is cancelled takes none with it that is older, or that stands
beside it below the same scope, and a scope that is opened, and a task that is started, disturbs no
other.
-/

set_option autoImplicit false

namespace Turnstile.Simulation.World

variable {world : World} {parent number : Nat} {scope : Scope} {above : List Nat}

/-- The numbers of the scopes and tasks are used up, and a scope stands below older ones. -/
structure IsNumbered (world : World) : Prop where
  scopes : ∀ number scope, world.scopes.get? number = some scope →
    number < world.nextScope ∧ ∀ above ∈ scope.above, above < number
  tasks : ∀ number ∈ world.tasks.keys, number < world.nextTask

theorem isNumbered_fresh (limits : Settings.Limits) : (fresh limits).IsNumbered where
  scopes := by
    intro number scope found
    by_cases root : number = rootScope
    · subst root
      cases found
      exact ⟨Nat.lt_succ_self _, nofun⟩
    · have absent : (Table.empty : Table Nat Scope).get? number = some scope := by
        rw [← found]
        exact (Table.get?_set_of_ne _ _ root).symm
      cases absent
  tasks := nofun

/-! ## Cancelling -/

theorem get?_scopes_cancelScope (world : World) (target number : Nat) :
    (world.cancelScope target).scopes.get? number =
      (world.scopes.get? number).map fun scope =>
        if number = target ∨ target ∈ scope.above then { scope with isCancelled := true }
        else scope := by
  let change := fun (number : Nat) (scope : Scope) =>
    if (number == target ||
        ((world.scopes.get? number).map (·.above.contains target)).getD false) = true then
      { scope with isCancelled := true }
    else scope
  have changed : (world.cancelScope target).scopes.get? number =
      (world.scopes.get? number).map (change number) :=
    Table.find?_map_bindings change number world.scopes.bindings
  rw [changed]
  cases found : world.scopes.get? number with
  | none => rfl
  | some scope => simp [change, found]

theorem IsNumbered.cancelScope (numbered : world.IsNumbered) (target : Nat) :
    (world.cancelScope target).IsNumbered where
  scopes := by
    intro number scope found
    rw [get?_scopes_cancelScope] at found
    obtain ⟨before, there, rfl⟩ := Option.map_eq_some_iff.1 found
    have known := numbered.scopes number before there
    split
    · exact known
    · exact known
  tasks := numbered.tasks

/-- The scopes that a scope stands below. -/
def scopesAbove (world : World) (scope : Nat) : List Nat :=
  ((world.scopes.get? scope).map (·.above)).getD []

theorem scopesAbove_cancelScope (world : World) (target number : Nat) :
    (world.cancelScope target).scopesAbove number = world.scopesAbove number := by
  rw [scopesAbove, get?_scopes_cancelScope, scopesAbove]
  cases world.scopes.get? number with
  | none => rfl
  | some scope =>
    simp only [Option.map_some, Option.getD_some]
    split <;> rfl

/-- What cancels a scope is that it is cancelled itself, or one above it. -/
theorem isCancelled_cancelScope (world : World) (target number : Nat) :
    (world.cancelScope target).isCancelled number = true ↔
      world.isCancelled number = true ∨ number = target ∨ target ∈ world.scopesAbove number := by
  rw [isCancelled, get?_scopes_cancelScope, isCancelled, scopesAbove]
  cases world.scopes.get? number with
  | none => simp
  | some scope =>
    simp only [Option.map_some, Option.getD_some]
    split
    case isTrue hit => exact ⟨fun _ => .inr hit, fun _ => rfl⟩
    case isFalse unhit => exact ⟨.inl, fun cancelled => cancelled.resolve_right unhit⟩

/-- A scope is cancelled from the start if that below which it is opened is. -/
theorem isCancelled_openScope (world : World) (parent : Nat) :
    (world.openScope parent).2.isCancelled (world.openScope parent).1 =
      world.isCancelled parent := by
  simp [openScope, isCancelled]

/-- Cancel some scopes, one after the other. -/
def cancelAll (world : World) (targets : List Nat) : World := targets.foldl cancelScope world

theorem tasks_cancelAll (world : World) (targets : List Nat) :
    (world.cancelAll targets).tasks = world.tasks ∧
      (world.cancelAll targets).nextTask = world.nextTask ∧
      (world.cancelAll targets).nextScope = world.nextScope := by
  induction targets generalizing world with
  | nil => exact ⟨rfl, rfl, rfl⟩
  | cons target targets ih => exact ih (world.cancelScope target)

theorem IsNumbered.cancelAll (numbered : world.IsNumbered) (targets : List Nat) :
    (world.cancelAll targets).IsNumbered := by
  induction targets generalizing world with
  | nil => exact numbered
  | cons target targets ih => exact ih (numbered.cancelScope target)

/-- A scope that stands below none of those that are cancelled is cancelled if it is one of them,
and left alone if not. -/
theorem get?_scopes_cancelAll {targets : List Nat} (found : world.scopes.get? number = some scope)
    (apart : ∀ target ∈ targets, target ∉ scope.above) :
    (world.cancelAll targets).scopes.get? number =
      some (if number ∈ targets then { scope with isCancelled := true } else scope) := by
  induction targets generalizing world scope with
  | nil => simpa [cancelAll] using found
  | cons target targets ih =>
    have step := get?_scopes_cancelScope world target number
    obtain ⟨here, later⟩ := List.forall_mem_cons.1 apart
    rw [found, Option.map_some] at step
    by_cases same : number = target
    · rw [if_pos (.inl same)] at step
      have rest := ih step later
      rw [if_pos (List.mem_cons.2 (.inl same))]
      split at rest
      · exact rest
      · exact rest
    · rw [if_neg (not_or.2 ⟨same, here⟩)] at step
      have rest := ih step later
      simpa [cancelAll, same] using rest

/-! ## Opening and starting -/

/-- A task that is started is bound behind the others. -/
theorem IsNumbered.bindings_spawn (numbered : world.IsNumbered) (body : Body) (office scope : Nat)
    (isGrouped : Bool) :
    (world.spawn body office scope isGrouped).tasks.bindings =
      world.tasks.bindings ++ [(world.nextTask, ⟨body, office, scope, isGrouped, 0⟩)] := by
  have absent : world.tasks.get? world.nextTask = none := by
    rw [Table.get?_eq_none_iff]
    exact fun member => Nat.lt_irrefl _ (numbered.tasks _ member)
  exact Table.bindings_set_of_get?_eq_none absent _

theorem IsNumbered.spawn (numbered : world.IsNumbered) (body : Body) (office scope : Nat)
    (isGrouped : Bool) : (world.spawn body office scope isGrouped).IsNumbered where
  scopes := numbered.scopes
  tasks := by
    intro number member
    rcases Table.mem_keys_set.1 member with old | same
    · exact Nat.lt_succ_of_lt (numbered.tasks number old)
    · rw [same]
      exact Nat.lt_succ_self _

theorem IsNumbered.openScope (numbered : world.IsNumbered)
    (found : world.scopes.get? parent = some scope) :
    (world.openScope parent).2.IsNumbered where
  scopes := by
    intro number added there
    obtain ⟨known, below⟩ := numbered.scopes parent scope found
    by_cases new : number = world.nextScope
    · subst new
      simp only [World.openScope, Table.get?_set_self, found, Option.map_some, Option.getD_some,
        Option.some.injEq] at there
      subst there
      refine ⟨Nat.lt_succ_self _, fun above member => ?_⟩
      rcases List.mem_cons.1 member with rfl | member
      · exact known
      · exact Nat.lt_trans (below above member) known
    · simp only [World.openScope, Table.get?_set_of_ne _ _ new] at there
      obtain ⟨older, nested⟩ := numbered.scopes number added there
      exact ⟨Nat.lt_succ_of_lt older, nested⟩
  tasks := numbered.tasks

/-! ## The pairs of a registry -/

/-- The two loops of a pair, as tasks that have not begun. -/
def pairTasks (office : Nat) (pair : ProjectId × Nat) : List Task :=
  (loopsOf pair.1).map fun body => ⟨body, office, pair.2, true, 0⟩

/-- Start the loops of a project below a scope. -/
def startPair (office parent : Nat) (world : World) (project : ProjectId) : World :=
  let (token, world) := world.openScope parent
  world.spawnAll (loopsOf project) office token

/-- What has come of starting pairs: their scopes and their loops are there besides what was. -/
structure HasStarted (world later : World) (office parent : Nat) (above : List Nat)
    (pairs : List (ProjectId × Nat)) : Prop where
  numbered : later.IsNumbered
  nextScope : later.nextScope = world.nextScope + pairs.length
  older : ∀ number < world.nextScope, later.scopes.get? number = world.scopes.get? number
  newer : ∀ pair ∈ pairs, later.scopes.get? pair.2 = some ⟨parent :: above, false⟩
  nextTask : world.nextTask ≤ later.nextTask
  tasks : ∃ added, later.tasks.bindings = world.tasks.bindings ++ added ∧
    added.map (·.2) = pairs.flatMap (pairTasks office) ∧
    ∀ binding ∈ added, world.nextTask ≤ binding.1

theorem hasStarted_startPair (numbered : world.IsNumbered)
    (found : world.scopes.get? parent = some ⟨above, false⟩) (office : Nat) (project : ProjectId) :
    world.HasStarted (startPair office parent world project) office parent above
      [(project, world.nextScope)] := by
  have opened := numbered.openScope found
  let first := (world.openScope parent).2.spawn (.consumer ⟨.worker, project, none, .idle, none⟩)
    office world.nextScope true
  have once : first.IsNumbered := opened.spawn _ _ _ _
  have scopes : (startPair office parent world project).scopes =
      world.scopes.set world.nextScope ⟨parent :: above, false⟩ := by
    simp [startPair, World.openScope, spawnAll, loopsOf, World.spawn, found, isCancelled]
  have workers := opened.bindings_spawn (.consumer ⟨.worker, project, none, .idle, none⟩) office
    world.nextScope true
  have jobs := once.bindings_spawn (.consumer ⟨.job, project, none, .idle, none⟩) office
    world.nextScope true
  refine ⟨once.spawn _ _ _ _, rfl, fun number older => ?_, fun pair member => ?_, ?_, ?_⟩
  · rw [scopes, Table.get?_set_of_ne _ _ (Nat.ne_of_lt older)]
  · rw [List.mem_singleton.1 member, scopes, Table.get?_set_self]
  · exact Nat.le_add_right _ 2
  · refine ⟨_, (jobs.trans (congrArg (· ++ _) workers)).trans (List.append_assoc _ _ _), rfl, ?_⟩
    intro binding member
    rcases List.mem_cons.1 member with rfl | member
    · exact Nat.le_refl _
    · rw [List.mem_singleton.1 member]
      exact Nat.le_succ _

theorem HasStarted.refl (numbered : world.IsNumbered) (office parent : Nat) (above : List Nat) :
    world.HasStarted world office parent above [] where
  numbered := numbered
  nextScope := rfl
  older := fun _ _ => rfl
  newer := fun _ member => absurd member List.not_mem_nil
  nextTask := Nat.le_refl _
  tasks := ⟨[], (List.append_nil _).symm, rfl, fun _ member => absurd member List.not_mem_nil⟩

theorem HasStarted.trans {middle later : World} {office : Nat} {pairs more : List (ProjectId × Nat)}
    (first : world.HasStarted middle office parent above pairs)
    (second : middle.HasStarted later office parent above more)
    (known : ∀ pair ∈ pairs, pair.2 < middle.nextScope) :
    world.HasStarted later office parent above (pairs ++ more) where
  numbered := second.numbered
  nextScope := by
    rw [second.nextScope, first.nextScope, List.length_append, Nat.add_assoc]
  older := by
    intro number older
    have between : number < middle.nextScope := by
      rw [first.nextScope]
      omega
    rw [second.older number between, first.older number older]
  newer := by
    intro pair member
    rcases List.mem_append.1 member with earlier | new
    · rw [second.older pair.2 (known pair earlier)]
      exact first.newer pair earlier
    · exact second.newer pair new
  nextTask := Nat.le_trans first.nextTask second.nextTask
  tasks := by
    obtain ⟨added, bindings, tasks, numbers⟩ := first.tasks
    obtain ⟨added', bindings', tasks', numbers'⟩ := second.tasks
    refine ⟨added ++ added', by rw [bindings', bindings, List.append_assoc], ?_, ?_⟩
    · rw [List.map_append, List.flatMap_append, tasks, tasks']
    · intro binding member
      rcases List.mem_append.1 member with earlier | new
      · exact numbers binding earlier
      · exact Nat.le_trans first.nextTask (numbers' binding new)

/-- The pairs of some projects are started under the tokens that follow each other. -/
theorem hasStarted_foldl (numbered : world.IsNumbered)
    (found : world.scopes.get? parent = some ⟨above, false⟩) (office : Nat)
    (projects : List ProjectId) :
    world.HasStarted ((projects.zipIdx world.nextScope).foldl
      (fun world pair => startPair office parent world pair.1) world) office parent above
      (projects.zipIdx world.nextScope) := by
  induction projects generalizing world with
  | nil => exact .refl numbered office parent above
  | cons project projects ih =>
    have first := hasStarted_startPair numbered found office project
    have next : (startPair office parent world project).nextScope = world.nextScope + 1 :=
      first.nextScope
    have parentKnown := (numbered.scopes parent _ found).1
    have rest := ih first.numbered ((first.older parent parentKnown).trans found)
    rw [next] at rest
    rw [List.zipIdx_cons, List.foldl_cons]
    refine first.trans rest fun pair member => ?_
    rw [List.mem_singleton.1 member, next]
    exact Nat.lt_succ_self _

/-- **What a reconciliation does to the world**: the scopes of the tokens that are cancelled are
cancelled, and the pairs of the new projects are started. -/
theorem reconcile_eq (world : World) (registry : Registry) (office parent : Nat)
    (wanted : List ProjectId) :
    world.reconcile registry office parent wanted =
      let result := registry.reconcile world.nextScope wanted
      (result, result.spawned.foldl (fun world pair => startPair office parent world pair.1)
        (world.cancelAll result.cancelled)) := rfl

end Turnstile.Simulation.World
