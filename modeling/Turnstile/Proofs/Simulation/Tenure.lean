import Turnstile.Proofs.Registry
import Turnstile.Proofs.Simulation.Scopes

/-!
# One live pair for each project

A **tenure** is the whole time in which a registry is reconciled, with whatever lists, below a scope
that is not cancelled. Between the reconciliations the others do as they like, as long as they leave
that scope, and the scopes of the pairs, as they are (`Tenure.Persists`); the loops themselves may
come and go. The tenure keeps a record of the loops that were started and of the tokens that were
cancelled.

Whatever the lists were, a pair of loops was started for a project each time it came, and after each
reconciliation one of them is live if the project is on the list, and none otherwise
(`Tenure.Reached.one_live_pair`).
-/

set_option autoImplicit false

namespace Turnstile.Simulation

/-- A registry in its world, with what was done for it. -/
structure Tenure where
  world : World
  registry : Registry
  /-- The loops that were started, earliest first. -/
  loops : List Task
  /-- The tokens that were cancelled, earliest first. -/
  cancelled : List Nat
  /-- What the last reconciliation has counted. -/
  stats : ReconcileStats

/-- How often a project comes in a sequence of lists: it is on a list and not on the one before. -/
def arrivals (project : ProjectId) (before : List ProjectId) : List (List ProjectId) → Nat
  | [] => 0
  | list :: lists =>
    (if project ∈ list ∧ project ∉ before then 1 else 0) + arrivals project list lists

theorem arrivals_append (project : ProjectId) (before wanted : List ProjectId)
    (lists : List (List ProjectId)) :
    arrivals project before (lists ++ [wanted]) = arrivals project before lists +
      if project ∈ wanted ∧ project ∉ lists.getLastD before then 1 else 0 := by
  induction lists generalizing before with
  | nil => simp [arrivals]
  | cons list lists ih =>
    rw [List.cons_append, arrivals, ih, arrivals, Nat.add_assoc, List.getLastD_cons]

namespace Tenure

/-- The tenure after a reconciliation; the loops that it started are the tasks with new numbers. -/
def reconcile (tenure : Tenure) (office parent : Nat) (wanted : List ProjectId) : Tenure :=
  let (result, world) := tenure.world.reconcile tenure.registry office parent wanted
  let started := world.tasks.bindings.filter fun binding => tenure.world.nextTask ≤ binding.1
  { world
    registry := result.registry
    loops := tenure.loops ++ started.map (·.2)
    cancelled := tenure.cancelled ++ result.cancelled
    stats := result.stats }

/-- What a reconciliation of the registry comes to. -/
def reconciliation (tenure : Tenure) (wanted : List ProjectId) : Reconciliation :=
  tenure.registry.reconcile tenure.world.nextScope wanted

/-- The world has changed, but not in what concerns the scopes of the tenure. -/
structure Persists (tenure : Tenure) (parent : Nat) (later : World) : Prop where
  numbered : later.IsNumbered
  above : later.scopes.get? parent = tenure.world.scopes.get? parent
  pairs : ∀ loop ∈ tenure.loops,
    later.scopes.get? loop.scope = tenure.world.scopes.get? loop.scope

/-- A tenure that has come about by reconciling with some lists, one after the other. -/
inductive Reached (office parent : Nat) : List (List ProjectId) → Tenure → Prop where
  | start {world : World} (numbered : world.IsNumbered)
      (isOpen : world.isCancelled parent = false) :
      Reached office parent [] ⟨world, .empty, [], [], ⟨0, 0, 0⟩⟩
  | reconcile {lists : List (List ProjectId)} {tenure : Tenure}
      (reached : Reached office parent lists tenure) (wanted : List ProjectId) :
      Reached office parent (lists ++ [wanted]) (tenure.reconcile office parent wanted)
  | meanwhile {lists : List (List ProjectId)} {tenure : Tenure}
      (reached : Reached office parent lists tenure) {later : World}
      (persists : tenure.Persists parent later) :
      Reached office parent lists { tenure with world := later }

/-- What the counts of a reconciliation are, given the projects before it and after it. -/
def countsOf (old new : Finset ProjectId) : ReconcileStats :=
  ⟨(new \ old).card, (old \ new).card, new.card⟩

/-- What a tenure keeps, given all the pairs that were started in it: their loops are those of the
record, each pair has a token of its own, whose scope stands directly below the scope of the tenure
and is cancelled if that is on record, and the registry holds the pairs that are not cancelled. -/
structure Keeps (office parent : Nat) (lists : List (List ProjectId)) (tenure : Tenure)
    (pairs : List (ProjectId × Nat)) : Prop where
  numbered : tenure.world.IsNumbered
  loops : tenure.loops = pairs.flatMap (World.pairTasks office)
  distinct : (pairs.map (·.2)).Nodup
  scopes : ∃ above, tenure.world.scopes.get? parent = some ⟨above, false⟩ ∧
    ∀ pair ∈ pairs, parent < pair.2 ∧ tenure.world.scopes.get? pair.2 =
      some ⟨parent :: above, decide (pair.2 ∈ tenure.cancelled)⟩
  registry : ∀ pair, pair ∈ tenure.registry.tokens.bindings ↔
    pair ∈ pairs ∧ pair.2 ∉ tenure.cancelled
  separate : tenure.registry.tokens.keys.Nodup
  once : tenure.cancelled.Nodup
  among : ∀ token ∈ tenure.cancelled, token ∈ pairs.map (·.2)
  listed : ∀ project, project ∈ tenure.registry.tokens.keys ↔ project ∈ lists.getLastD []
  counted : ∀ project, (pairs.filter fun pair => pair.1 = project).length =
    arrivals project [] lists
  stats : ∀ earlier wanted, lists = earlier ++ [wanted] →
    tenure.stats = countsOf (earlier.getLastD []).toFinset wanted.toFinset

namespace Keeps

variable {office parent : Nat} {lists : List (List ProjectId)} {tenure : Tenure}
  {pairs : List (ProjectId × Nat)} {wanted : List ProjectId}

theorem start {world : World} (numbered : world.IsNumbered)
    (isOpen : world.isCancelled parent = false) :
    Keeps office parent [] ⟨world, .empty, [], [], ⟨0, 0, 0⟩⟩ [] where
  numbered := numbered
  loops := rfl
  distinct := .nil
  scopes := by
    cases found : world.scopes.get? parent with
    | none => simp [World.isCancelled, found] at isOpen
    | some scope =>
      have whole : scope.isCancelled = false := by simpa [World.isCancelled, found] using isOpen
      exact ⟨scope.above, by rw [← whole], fun _ member => absurd member List.not_mem_nil⟩
  registry := fun pair => by simp [Registry.empty, Table.empty]
  separate := .nil
  once := .nil
  among := fun _ member => absurd member List.not_mem_nil
  listed := fun project => by simp [Registry.empty, Table.empty, Table.keys]
  counted := fun _ => rfl
  stats := fun earlier wanted none => absurd none.symm (List.append_ne_nil_of_right_ne_nil _ nofun)

/-- The tokens of the pairs are in use. -/
theorem token_lt (keeps : Keeps office parent lists tenure pairs) {pair : ProjectId × Nat}
    (member : pair ∈ pairs) : pair.2 < tenure.world.nextScope := by
  obtain ⟨above, _, known⟩ := keeps.scopes
  exact (keeps.numbered.scopes pair.2 _ (known pair member).2).1

/-- Two pairs do not share a token. -/
theorem pair_eq (keeps : Keeps office parent lists tenure pairs) {first second : ProjectId × Nat}
    (here : first ∈ pairs) (there : second ∈ pairs) (same : first.2 = second.2) : first = second :=
  List.inj_on_of_nodup_map keeps.distinct here there same

/-- The bindings of the registry have different tokens. -/
theorem distinct_bindings (keeps : Keeps office parent lists tenure pairs) :
    (tenure.registry.tokens.bindings.map (·.2)).Nodup := by
  refine List.Nodup.map_on (fun first here second there same => ?_) (.of_map _ keeps.separate)
  exact keeps.pair_eq ((keeps.registry first).1 here).1 ((keeps.registry second).1 there).1 same

/-- What a reconciliation cancels is the token of a pair that is not cancelled. -/
theorem exists_of_cancelled (keeps : Keeps office parent lists tenure pairs) {token : Nat}
    (cancelled : token ∈ (tenure.reconciliation wanted).cancelled) :
    ∃ project, (project, token) ∈ pairs ∧ token ∉ tenure.cancelled ∧ project ∉ wanted := by
  obtain ⟨project, bound, unwanted⟩ := (Registry.mem_cancelled keeps.separate).1 cancelled
  obtain ⟨member, live⟩ := (keeps.registry _).1 bound
  exact ⟨project, member, live, unwanted⟩

theorem meanwhile (keeps : Keeps office parent lists tenure pairs) {later : World}
    (persists : tenure.Persists parent later) :
    Keeps office parent lists { tenure with world := later } pairs where
  numbered := persists.numbered
  loops := keeps.loops
  distinct := keeps.distinct
  scopes := by
    obtain ⟨above, found, known⟩ := keeps.scopes
    refine ⟨above, persists.above.trans found, fun pair member => ?_⟩
    have started : ⟨.consumer ⟨.worker, pair.1, none, .idle, none⟩, office, pair.2, true, 0⟩ ∈
        tenure.loops := by
      rw [keeps.loops]
      exact List.mem_flatMap.2 ⟨pair, member, List.mem_cons_self⟩
    exact ⟨(known pair member).1, (persists.pairs _ started).trans (known pair member).2⟩
  registry := keeps.registry
  separate := keeps.separate
  once := keeps.once
  among := keeps.among
  listed := keeps.listed
  counted := keeps.counted
  stats := keeps.stats

/-! ### Another reconciliation -/

/-- The tokens of the new pairs follow each other from the first one that is free. -/
theorem map_snd_spawned (tenure : Tenure) (wanted : List ProjectId) :
    (tenure.reconciliation wanted).spawned.map (·.2) =
      List.range' tenure.world.nextScope (tenure.reconciliation wanted).spawned.length := by
  rw [reconciliation, Registry.reconcile, List.zipIdx_map_snd, List.length_zipIdx]

theorem le_of_spawned {pair : ProjectId × Nat}
    (member : pair ∈ (tenure.reconciliation wanted).spawned) :
    tenure.world.nextScope ≤ pair.2 := by
  have token : pair.2 ∈ (tenure.reconciliation wanted).spawned.map (·.2) :=
    List.mem_map_of_mem member
  rw [map_snd_spawned] at token
  exact (List.mem_range'_1.1 token).1

/-- What is done in the world: the pairs start beside what is there, and of the pairs before only
those that are cancelled have changed. -/
theorem world_reconcile (keeps : Keeps office parent lists tenure pairs)
    (wanted : List ProjectId) {above : List Nat}
    (found : tenure.world.scopes.get? parent = some ⟨above, false⟩) :
    let middle := tenure.world.cancelAll (tenure.reconciliation wanted).cancelled
    middle.HasStarted (tenure.reconcile office parent wanted).world office parent above
        (tenure.reconciliation wanted).spawned ∧
      middle.scopes.get? parent = some ⟨above, false⟩ ∧
      (∀ pair ∈ pairs, middle.scopes.get? pair.2 = some ⟨parent :: above,
        decide (pair.2 ∈ tenure.cancelled ++ (tenure.reconciliation wanted).cancelled)⟩) ∧
      middle.tasks = tenure.world.tasks ∧ middle.nextTask = tenure.world.nextTask ∧
      middle.nextScope = tenure.world.nextScope := by
  intro middle
  let targets := (tenure.reconciliation wanted).cancelled
  obtain ⟨tasks, nextTask, nextScope⟩ := tenure.world.tasks_cancelAll targets
  obtain ⟨above', found', known⟩ := keeps.scopes
  obtain rfl : above = above' := by
    rw [found] at found'
    cases found'
    rfl
  have later : ∀ target ∈ targets, parent < target := by
    intro target cancelled
    obtain ⟨project, member, _⟩ := keeps.exists_of_cancelled cancelled
    exact (known _ member).1
  have below := (keeps.numbered.scopes parent _ found).2
  have aside : ∀ target ∈ targets, target ∉ above := by
    intro target cancelled member
    exact Nat.lt_asymm (later target cancelled) (below target member)
  have parentStays : middle.scopes.get? parent = some ⟨above, false⟩ := by
    have untouched : parent ∉ targets := fun member => Nat.lt_irrefl _ (later parent member)
    have stays := World.get?_scopes_cancelAll found aside
    rwa [if_neg untouched] at stays
  have numbered : middle.IsNumbered := keeps.numbered.cancelAll targets
  refine ⟨?_, parentStays, fun pair member => ?_, tasks, nextTask, nextScope⟩
  · have started := World.hasStarted_foldl numbered parentStays office
      (Difference.between wanted tenure.registry.tokens.keys).added
    rw [nextScope] at started
    exact started
  · obtain ⟨older, scope⟩ := known pair member
    have apart : ∀ target ∈ targets, target ∉ parent :: above := by
      intro target cancelled member
      rcases List.mem_cons.1 member with same | member
      · exact Nat.ne_of_gt (later target cancelled) same
      · exact aside target cancelled member
    have changed := World.get?_scopes_cancelAll scope apart
    rw [changed]
    by_cases now : pair.2 ∈ targets
    · simp [targets, now]
    · simp [targets, now]

/-- The loops that are on record after a reconciliation. -/
theorem loops_reconcile (keeps : Keeps office parent lists tenure pairs)
    (wanted : List ProjectId) :
    (tenure.reconcile office parent wanted).loops =
      tenure.loops ++ (tenure.reconciliation wanted).spawned.flatMap (World.pairTasks office) := by
  obtain ⟨above, found, _⟩ := keeps.scopes
  obtain ⟨started, _, _, tasks, nextTask, _⟩ := keeps.world_reconcile wanted found
  obtain ⟨added, bindings, bodies, numbers⟩ := started.tasks
  have old : ∀ binding ∈ tenure.world.tasks.bindings,
      ¬ tenure.world.nextTask ≤ binding.1 := by
    intro binding member
    exact Nat.not_le_of_lt (keeps.numbered.tasks _ (List.mem_map_of_mem member))
  have new : (tenure.reconcile office parent wanted).world.tasks.bindings.filter
      (fun binding => tenure.world.nextTask ≤ binding.1) = added := by
    rw [bindings, tasks, List.filter_append]
    rw [List.filter_eq_nil_iff.2 fun binding member => by simpa using old binding member]
    rw [List.nil_append]
    refine List.filter_eq_self.2 fun binding member => decide_eq_true ?_
    rw [← nextTask]
    exact numbers binding member
  show tenure.loops ++ List.map _ (List.filter _ _) = _
  rw [← bodies]
  exact congrArg (fun added => tenure.loops ++ added.map (·.2)) new

/-- The pairs before are live still if their projects are wanted, and so are the new ones. -/
theorem registry_reconcile (keeps : Keeps office parent lists tenure pairs)
    (wanted : List ProjectId) (pair : ProjectId × Nat) :
    pair ∈ (tenure.reconciliation wanted).registry.tokens.bindings ↔
      pair ∈ pairs ++ (tenure.reconciliation wanted).spawned ∧
      pair.2 ∉ tenure.cancelled ++ (tenure.reconciliation wanted).cancelled := by
  have bindings : (tenure.reconciliation wanted).registry.tokens.bindings = _ :=
    Registry.bindings_reconcile _ _ _
  rw [bindings, List.mem_append, List.mem_append, List.mem_append, List.mem_filter,
    keeps.registry, not_or, decide_eq_true_iff]
  constructor
  · rintro (⟨⟨member, live⟩, isWanted⟩ | spawned)
    · refine ⟨.inl member, live, fun cancelled => ?_⟩
      obtain ⟨project, there, _, unwanted⟩ := keeps.exists_of_cancelled cancelled
      rw [keeps.pair_eq member there rfl] at isWanted
      exact unwanted isWanted
    · have new : ∀ {earlier}, earlier ∈ pairs → earlier.2 ≠ pair.2 := fun member =>
        Nat.ne_of_lt (Nat.lt_of_lt_of_le (keeps.token_lt member) (le_of_spawned spawned))
      refine ⟨.inr spawned, fun cancelled => ?_, fun cancelled => ?_⟩
      · obtain ⟨earlier, member, same⟩ := List.mem_map.1 (keeps.among _ cancelled)
        exact new member same
      · obtain ⟨project, there, _⟩ := keeps.exists_of_cancelled cancelled
        exact new there rfl
  · rintro ⟨member | spawned, live, kept⟩
    · refine .inl ⟨⟨member, live⟩, ?_⟩
      by_contra unwanted
      have bound := (keeps.registry pair).2 ⟨member, live⟩
      exact kept ((Registry.mem_cancelled keeps.separate).2 ⟨pair.1, bound, unwanted⟩)
    · exact .inr spawned

/-- A pair is started for a project if it has come. -/
theorem counted_reconcile (keeps : Keeps office parent lists tenure pairs)
    (wanted : List ProjectId) (project : ProjectId) :
    ((pairs ++ (tenure.reconciliation wanted).spawned).filter
      fun pair => pair.1 = project).length = arrivals project [] (lists ++ [wanted]) := by
  let added := (Difference.between wanted tenure.registry.tokens.keys).added
  have spawned : ((tenure.reconciliation wanted).spawned.filter
      fun pair => pair.1 = project).length = added.count project := by
    have names : (tenure.reconciliation wanted).spawned.map (·.1) = added :=
      Registry.map_fst_spawned
    rw [← names, List.count, List.countP_map, List.countP_eq_length_filter]
    rfl
  have once : added.count project =
      if project ∈ wanted ∧ project ∉ lists.getLastD [] then 1 else 0 := by
    have distinct : added.Nodup := nodup_ascending _
    rw [distinct.count]
    refine if_congr ?_ rfl rfl
    rw [Difference.mem_added, keeps.listed]
  rw [List.filter_append, List.length_append, keeps.counted, spawned, once, arrivals_append]

/-- **A reconciliation keeps everything**, and the pairs it starts are added. -/
theorem reconcile (keeps : Keeps office parent lists tenure pairs) (wanted : List ProjectId) :
    Keeps office parent (lists ++ [wanted]) (tenure.reconcile office parent wanted)
      (pairs ++ (tenure.reconciliation wanted).spawned) where
  numbered := by
    obtain ⟨above, found, _⟩ := keeps.scopes
    exact (keeps.world_reconcile wanted found).1.numbered
  loops := by
    rw [keeps.loops_reconcile wanted, List.flatMap_append, keeps.loops]
  distinct := by
    rw [List.map_append, map_snd_spawned]
    refine List.nodup_append.2 ⟨keeps.distinct, List.nodup_range', ?_⟩
    intro first old second new
    obtain ⟨pair, member, rfl⟩ := List.mem_map.1 old
    exact Nat.ne_of_lt (Nat.lt_of_lt_of_le (keeps.token_lt member) (List.mem_range'_1.1 new).1)
  scopes := by
    obtain ⟨above, found, known⟩ := keeps.scopes
    obtain ⟨started, parentStays, scopes, _, _, nextScope⟩ := keeps.world_reconcile wanted found
    have parentKnown := (keeps.numbered.scopes parent _ found).1
    refine ⟨above, ?_, fun pair member => ?_⟩
    · rw [started.older parent (nextScope ▸ parentKnown), parentStays]
    · rcases List.mem_append.1 member with old | new
      · refine ⟨(known pair old).1, ?_⟩
        rw [started.older pair.2 (nextScope ▸ keeps.token_lt old)]
        exact scopes pair old
      · refine ⟨Nat.lt_of_lt_of_le parentKnown (le_of_spawned new), ?_⟩
        have bound : pair ∈ (tenure.reconciliation wanted).registry.tokens.bindings := by
          have bindings : (tenure.reconciliation wanted).registry.tokens.bindings = _ :=
            Registry.bindings_reconcile _ _ _
          rw [bindings]
          exact List.mem_append_right _ new
        have live := ((keeps.registry_reconcile wanted pair).1 bound).2
        rw [started.newer pair new]
        exact congrArg (fun isCancelled => some (Scope.mk (parent :: above) isCancelled))
          (decide_eq_false live).symm
  registry := keeps.registry_reconcile wanted
  separate := Registry.nodup_keys_reconcile keeps.separate
  once := by
    refine List.nodup_append.2 ⟨keeps.once, ?_, ?_⟩
    · exact Registry.nodup_cancelled keeps.separate keeps.distinct_bindings
    · intro first old second new same
      obtain ⟨_, _, live, _⟩ := keeps.exists_of_cancelled new
      exact live (same ▸ old)
  among := by
    intro token cancelled
    rw [List.map_append]
    rcases List.mem_append.1 cancelled with old | new
    · exact List.mem_append_left _ (keeps.among token old)
    · obtain ⟨project, member, _⟩ := keeps.exists_of_cancelled new
      exact List.mem_append_left _ (List.mem_map.2 ⟨_, member, rfl⟩)
  listed := by
    intro project
    rw [List.getLastD_concat]
    exact Registry.mem_keys_reconcile
  counted := keeps.counted_reconcile wanted
  stats := by
    intro earlier last same
    obtain ⟨rfl, rfl⟩ := List.append_inj' same rfl |>.imp id (fun same => (List.cons.inj same).1)
    have before : (lists.getLastD []).toFinset = tenure.registry.tokens.keys.toFinset := by
      ext project
      rw [List.mem_toFinset, List.mem_toFinset]
      exact (keeps.listed project).symm
    rw [before]
    exact Registry.stats_reconcile keeps.separate

/-- Whoever reconciles with the same projects again changes nothing. -/
theorem reconcile_again (keeps : Keeps office parent (lists ++ [wanted]) tenure pairs)
    {again : List ProjectId} (same : ∀ project, project ∈ again ↔ project ∈ wanted) :
    tenure.reconcile office parent again =
      { tenure with stats := ⟨0, 0, wanted.toFinset.card⟩ } := by
  have there : ∀ project, project ∈ again ↔ project ∈ tenure.registry.tokens.keys := by
    intro project
    rw [keeps.listed, List.getLastD_concat]
    exact same project
  have sets : again.toFinset = wanted.toFinset := by
    ext project
    rw [List.mem_toFinset, List.mem_toFinset]
    exact same project
  have result := Registry.reconcile_of_same keeps.separate tenure.world.nextScope there
  have none : tenure.world.tasks.bindings.filter
      (fun binding => tenure.world.nextTask ≤ binding.1) = [] := by
    refine List.filter_eq_nil_iff.2 fun binding member => ?_
    have old := keeps.numbered.tasks _ (List.mem_map_of_mem member)
    simpa using old
  simp only [Tenure.reconcile, World.reconcile_eq, result, World.cancelAll, List.foldl_nil, none,
    List.map_nil, List.append_nil, sets]

/-- The pairs of a project that are not cancelled: one if it is in the registry. -/
theorem live (keeps : Keeps office parent lists tenure pairs) (project : ProjectId) :
    (pairs.filter fun pair =>
        pair.1 = project ∧ tenure.world.isCancelled pair.2 = false).length =
      if project ∈ lists.getLastD [] then 1 else 0 := by
  obtain ⟨above, _, known⟩ := keeps.scopes
  have isLive : ∀ pair, pair ∈ pairs.filter (fun pair =>
      pair.1 = project ∧ tenure.world.isCancelled pair.2 = false) ↔
      pair ∈ tenure.registry.tokens.bindings ∧ pair.1 = project := by
    intro pair
    rw [List.mem_filter, decide_eq_true_iff, keeps.registry, and_assoc, and_comm (a := pair.1 = _)]
    refine and_congr_right fun member => and_congr_left fun _ => ?_
    simp [World.isCancelled, (known pair member).2]
  have distinct := (List.Nodup.of_map _ keeps.distinct).filter fun pair =>
    decide (pair.1 = project ∧ tenure.world.isCancelled pair.2 = false)
  by_cases listed : project ∈ lists.getLastD []
  · obtain ⟨binding, bound, rfl⟩ := List.mem_map.1 ((keeps.listed project).2 listed)
    rw [if_pos listed, ← Finset.card_singleton binding]
    refine Registry.length_eq_card distinct fun pair => ?_
    rw [isLive, Finset.mem_singleton]
    constructor
    · rintro ⟨member, same⟩
      exact List.inj_on_of_nodup_map keeps.separate member bound same
    · rintro rfl
      exact ⟨bound, rfl⟩
  · rw [if_neg listed, List.length_eq_zero_iff, List.eq_nil_iff_forall_not_mem]
    intro pair member
    obtain ⟨bound, rfl⟩ := (isLive pair).1 member
    exact listed ((keeps.listed _).1 (List.mem_map_of_mem bound))

end Keeps

namespace Reached

variable {office parent : Nat} {lists : List (List ProjectId)} {tenure : Tenure}

theorem exists_keeps (reached : Reached office parent lists tenure) :
    ∃ pairs, Keeps office parent lists tenure pairs := by
  induction reached with
  | start numbered isOpen => exact ⟨[], .start numbered isOpen⟩
  | reconcile reached wanted ih =>
    obtain ⟨pairs, keeps⟩ := ih
    exact ⟨_, keeps.reconcile wanted⟩
  | meanwhile reached persists ih =>
    obtain ⟨pairs, keeps⟩ := ih
    exact ⟨pairs, keeps.meanwhile persists⟩

/-- **One live pair for each project that is wanted.** After any reconciliations, whatever their
lists: the projects of the registry are those of the last list, each once and in order; the counts
are the sizes of the two differences and of the set; the loops that were started are pairs, one for
each kind of work, each with a token of its own; a project has as many of them as it has come, and
one that is not cancelled if it is on the last list, else none; and no token is cancelled twice.
Another reconciliation with the same projects changes nothing. -/
theorem one_live_pair {wanted : List ProjectId}
    (reached : Reached office parent (lists ++ [wanted]) tenure) :
    (tenure.registry.projects.Pairwise (· < ·) ∧
      ∀ project, project ∈ tenure.registry.projects ↔ project ∈ wanted) ∧
    tenure.stats = countsOf (lists.getLastD []).toFinset wanted.toFinset ∧
    (∃ pairs : List (ProjectId × Nat),
      tenure.loops = pairs.flatMap (World.pairTasks office) ∧ (pairs.map (·.2)).Nodup ∧
      (∀ token ∈ tenure.cancelled, token ∈ pairs.map (·.2)) ∧
      ∀ project,
        (pairs.filter fun pair => pair.1 = project).length =
          arrivals project [] (lists ++ [wanted]) ∧
        (pairs.filter fun pair =>
            pair.1 = project ∧ tenure.world.isCancelled pair.2 = false).length =
          if project ∈ wanted then 1 else 0) ∧
    tenure.cancelled.Nodup ∧
    ∀ again : List ProjectId, (∀ project, project ∈ again ↔ project ∈ wanted) →
      tenure.reconcile office parent again =
        { tenure with stats := ⟨0, 0, wanted.toFinset.card⟩ } := by
  obtain ⟨pairs, keeps⟩ := reached.exists_keeps
  have listed := keeps.listed
  simp only [List.getLastD_concat] at listed
  refine ⟨⟨pairwise_ascending _, fun project => mem_ascending.trans (listed project)⟩,
    keeps.stats lists wanted rfl, ⟨pairs, keeps.loops, keeps.distinct, keeps.among,
      fun project => ⟨keeps.counted project, ?_⟩⟩, keeps.once, fun again => keeps.reconcile_again⟩
  simpa only [List.getLastD_concat] using keeps.live project

/-- A project that stays. -/
def alpha : ProjectId := ⟨"alpha", by decide +kernel⟩

/-- A project that goes and comes again. -/
def beta : ProjectId := ⟨"beta", by decide +kernel⟩

/-- The tenure when that project has gone. -/
def gone : Tenure :=
  let start : Tenure := ⟨.fresh .standard, .empty, [], [], ⟨0, 0, 0⟩⟩
  (start.reconcile sharedOffice rootScope [beta, alpha, beta]).reconcile sharedOffice rootScope
    [alpha]

/-- The tenure when it has come again, a second later. -/
def returned : Tenure :=
  { gone with world := { gone.world with now := 1000 } }.reconcile sharedOffice rootScope
    [alpha, beta]

theorem reached_returned :
    Reached sharedOffice rootScope ([[beta, alpha, beta], [alpha]] ++ [[alpha, beta]])
      returned := by
  have first := (Reached.start (World.isNumbered_fresh .standard) rfl :
    Reached sharedOffice rootScope [] _).reconcile [beta, alpha, beta]
  have second : Reached sharedOffice rootScope [[beta, alpha, beta], [alpha]] gone :=
    first.reconcile [alpha]
  obtain ⟨pairs, keeps⟩ := second.exists_keeps
  have persists : gone.Persists rootScope { gone.world with now := 1000 } :=
    ⟨⟨keeps.numbered.scopes, keeps.numbered.tasks⟩, rfl, fun _ _ => rfl⟩
  exact (second.meanwhile persists).reconcile [alpha, beta]

theorem returned_has_one_live_pair :
    returned.registry.projects = [alpha, beta] ∧ returned.stats = ⟨1, 0, 2⟩ ∧
      returned.cancelled = [2] ∧
      ∃ pairs : List (ProjectId × Nat),
        returned.loops = pairs.flatMap (World.pairTasks sharedOffice) ∧
        (pairs.filter fun pair => pair.1 = beta).length = 2 ∧
        (pairs.filter fun pair =>
          pair.1 = beta ∧ returned.world.isCancelled pair.2 = false).length = 1 := by
  obtain ⟨_, _, ⟨pairs, loops, _, _, counts⟩, _⟩ := one_live_pair reached_returned
  obtain ⟨started, live⟩ := counts beta
  refine ⟨by decide +kernel, by decide +kernel, by decide +kernel, pairs, loops, ?_, ?_⟩
  · rw [started]
    decide +kernel
  · rw [live]
    decide +kernel

end Reached

end Tenure

end Turnstile.Simulation
