import Mathlib.Algebra.Group.Nat.Defs
import Mathlib.Data.List.Basic
import Turnstile.Proofs.Text.Decimal
import Turnstile.Settings

/-!
# Reading the settings

Each variable has a form (`Variable.all`): it is fine, or it offends in one way
(`Variable.exists_offends`). A **reading** of several variables fails with what is wrong with the
first of them that is not fine, and comes to its outcome if all of them are (`Reads`). All the
settings are such a reading, put together from the readings of single variables (`reads_load`): if
all variables are fine, then every setting is what its own variable says, or its default
(`IsReadFrom`), and only then the limits are checked. So of all faults the one that is reported is
the first, and no quantity is complained of before all variables are fine
(`load_follows_variables`).
-/

set_option autoImplicit false

namespace Turnstile.Settings

/-! ## The first of a list -/

section First

variable {α : Type} {property : α → Prop} {members : List α} {head member : α}

/-- The first member of a list with a property. -/
def IsFirst (property : α → Prop) (members : List α) (member : α) : Prop :=
  ∃ earlier later, members = earlier ++ member :: later ∧ property member ∧
    ∀ other ∈ earlier, ¬ property other

theorem IsFirst.has (isFirst : IsFirst property members member) : property member := by
  obtain ⟨_, _, _, has, _⟩ := isFirst
  exact has

theorem IsFirst.mem (isFirst : IsFirst property members member) : member ∈ members := by
  obtain ⟨_, _, rfl, _⟩ := isFirst
  simp

theorem IsFirst.congr {property' : α → Prop} (isFirst : IsFirst property members member)
    (same : ∀ member ∈ members, property member ↔ property' member) :
    IsFirst property' members member := by
  obtain ⟨earlier, later, rfl, has, before⟩ := isFirst
  refine ⟨earlier, later, rfl, (same member (by simp)).1 has, fun other listed => ?_⟩
  exact mt (same other (by simp [listed])).2 (before other listed)

theorem isFirst_cons_iff : IsFirst property (head :: members) member ↔
    (property head ∧ member = head) ∨ (¬ property head ∧ IsFirst property members member) := by
  constructor
  · rintro ⟨earlier, later, whole, has, before⟩
    cases earlier with
    | nil =>
      cases whole
      exact .inl ⟨has, rfl⟩
    | cons other earlier =>
      cases whole
      obtain ⟨hasNot, before⟩ := List.forall_mem_cons.1 before
      exact .inr ⟨hasNot, earlier, later, rfl, has, before⟩
  · rintro (⟨has, rfl⟩ | ⟨hasNot, earlier, later, rfl, has, before⟩)
    · exact ⟨[], members, rfl, has, by simp⟩
    · exact ⟨head :: earlier, later, rfl, has, List.forall_mem_cons.2 ⟨hasNot, before⟩⟩

theorem exists_isFirst (has : ∃ member ∈ members, property member) :
    ∃ member, IsFirst property members member := by
  induction members with
  | nil => simp at has
  | cons head members ih =>
    by_cases here : property head
    · exact ⟨head, isFirst_cons_iff.2 (.inl ⟨here, rfl⟩)⟩
    · have later : ∃ member ∈ members, property member := by simpa [here] using has
      obtain ⟨member, first⟩ := ih later
      exact ⟨member, isFirst_cons_iff.2 (.inr ⟨here, first⟩)⟩

theorem find?_eq_some_iff [DecidablePred property] :
    (members.find? fun member => property member) = some member ↔
      IsFirst property members member := by
  rw [List.find?_eq_some_iff_append]
  constructor
  · rintro ⟨has, earlier, later, whole, before⟩
    exact ⟨earlier, later, whole, of_decide_eq_true has, by simpa using before⟩
  · rintro ⟨earlier, later, whole, has, before⟩
    exact ⟨decide_eq_true has, earlier, later, whole, by simpa using before⟩

end First

/-! ## Limits -/

/-- The quantities that must not be zero, in the order of complaint. -/
def Quantity.all : List Quantity :=
  [.maxWorkers, .maxJobs, .capacityInterval, .projectSyncInterval, .readerCloseTimeout,
    .shutdownGrace]

namespace Limits

variable {limits : Limits} {fault : Fault}

/-- How much there is of a quantity. -/
def value (limits : Limits) : Quantity → Nat
  | .maxWorkers => limits.maxWorkers
  | .maxJobs => limits.maxJobs
  | .capacityInterval => limits.capacityInterval
  | .projectSyncInterval => limits.projectSyncInterval
  | .readerCloseTimeout => limits.readerCloseTimeout
  | .shutdownGrace => limits.shutdownGrace

theorem check_eq (limits : Limits) :
    limits.check = match Quantity.all.find? (limits.value · = 0) with
      | some quantity => .error (.zero quantity)
      | none => .ok () := by
  have quantities : limits.quantities =
      Quantity.all.map fun quantity => (quantity, limits.value quantity) := rfl
  rw [check, quantities, List.find?_map, Function.comp_def]
  cases Quantity.all.find? (limits.value · = 0) <;> rfl

theorem check_eq_ok_iff : limits.check = .ok () ↔ ∀ quantity, limits.value quantity ≠ 0 := by
  have every (quantity : Quantity) : quantity ∈ Quantity.all := by cases quantity <;> decide
  rw [check_eq]
  cases found : Quantity.all.find? (limits.value · = 0) with
  | none => simpa [every] using found
  | some quantity =>
    simp only [reduceCtorEq, false_iff, not_forall, not_not]
    exact ⟨quantity, (find?_eq_some_iff.1 found).has⟩

theorem check_eq_error_iff : limits.check = .error fault ↔
    ∃ quantity, IsFirst (limits.value · = 0) Quantity.all quantity ∧ fault = .zero quantity := by
  rw [check_eq]
  constructor
  · intro fails
    cases found : Quantity.all.find? (limits.value · = 0) with
    | none => simp [found] at fails
    | some quantity =>
      simp only [found, Except.error.injEq] at fails
      exact ⟨quantity, find?_eq_some_iff.1 found, fails.symm⟩
  · rintro ⟨quantity, first, rfl⟩
    rw [find?_eq_some_iff.2 first]

end Limits

/-! ## Variables -/

/-- A text is the word for a truth value. -/
def WritesBoolean (text : String) (value : Bool) : Prop := text = toString value

/-- A text tells a time in seconds, which is kept in milliseconds. -/
def WritesSeconds (text : String) (milliseconds : Nat) : Prop :=
  ∃ seconds, Decimal.Writes text seconds ∧ milliseconds = seconds * 1000

/-- What the value of a variable has to be, if it has one. -/
inductive Form where
  | text
  | boolean
  /-- A number of at most the given bits. -/
  | number (bits : Nat)
deriving DecidableEq

namespace Form

/-- A value of the form. -/
def Accepts : Form → String → Prop
  | text, _ => True
  | boolean, raw => raw = "true" ∨ raw = "false"
  | number bits, raw => ∃ value < 2 ^ bits, Decimal.Writes raw value

/-- What is wrong with a value that is not of the form. -/
inductive Refuses : Form → String → ValueFault → Prop
  | boolean {raw : String} (other : ¬ Accepts .boolean raw) : Refuses .boolean raw .noBoolean
  | number {bits : Nat} {raw : String} {fault : Decimal.Fault}
      (refuses : Decimal.Refuses (2 ^ bits) raw fault) : Refuses (.number bits) raw (.number fault)

theorem exists_refuses {form : Form} {raw : String} (other : ¬ form.Accepts raw) :
    ∃ cause, form.Refuses raw cause := by
  cases form with
  | text => exact absurd trivial other
  | boolean => exact ⟨_, .boolean other⟩
  | number bits =>
    obtain writes | ⟨fault, refuses⟩ := Decimal.writes_or_refuses (2 ^ bits) raw
    · exact absurd writes other
    · exact ⟨_, .number refuses⟩

/-- A reader of values of the form, with what each value tells. -/
structure IsReadBy {α : Type} (form : Form) (parse : String → Except ValueFault α)
    (tells : String → α → Prop) : Prop where
  accepts : ∀ raw, form.Accepts raw → ∃ value, parse raw = .ok value ∧ tells raw value
  refuses : ∀ raw cause, form.Refuses raw cause → parse raw = .error cause

theorem isReadBy_parseBoolean : boolean.IsReadBy parseBoolean WritesBoolean where
  accepts := by
    rintro raw (rfl | rfl)
    · exact ⟨true, rfl, rfl⟩
    · exact ⟨false, rfl, rfl⟩
  refuses := by
    rintro raw _ ⟨other⟩
    obtain ⟨notTrue, notFalse⟩ := not_or.1 other
    simp only [parseBoolean, notTrue, notFalse, if_false]

theorem isReadBy_parseNumber (bits : Nat) :
    (number bits).IsReadBy (parseNumber bits) Decimal.Writes where
  accepts := by
    rintro raw ⟨value, small, writes⟩
    refine ⟨value, ?_, writes⟩
    simp only [parseNumber, Nat.pow_eq, Decimal.parse_of_writes writes small, Except.mapError]
  refuses := by
    rintro raw _ (_ | refuses)
    have fails := Decimal.parse_of_refuses (Nat.two_pow_pos bits) refuses
    simp only [parseNumber, Nat.pow_eq, fails, Except.mapError]

theorem isReadBy_parseSeconds : (number 64).IsReadBy parseSeconds WritesSeconds where
  accepts raw accepted := by
    obtain ⟨seconds, reads, writes⟩ := (isReadBy_parseNumber 64).accepts raw accepted
    exact ⟨seconds * 1000, by simp only [parseSeconds, reads, Except.map], seconds, writes, rfl⟩
  refuses raw cause refused := by
    simp only [parseSeconds, (isReadBy_parseNumber 64).refuses raw cause refused, Except.map]

end Form

/-- A variable, whether it has to be set, and the form of its value. -/
structure Variable where
  name : String
  isRequired : Bool
  form : Form
deriving DecidableEq

/-- All variables, in the order in which they are read. -/
def Variable.all : List Variable :=
  [⟨"BRIG_LOG_LEVEL", false, .text⟩, ⟨"BRIG_API_ADDRESS", false, .text⟩,
    ⟨"BRIG_API_TOKEN", true, .text⟩, ⟨"BRIG_API_IGNORE_CERT_WARNINGS", false, .boolean⟩,
    ⟨"BRIG_AMQP_ADDRESS", false, .text⟩, ⟨"BRIG_AMQP_USERNAME", true, .text⟩,
    ⟨"BRIG_AMQP_PASSWORD", true, .text⟩, ⟨"BRIG_AMQP_IS_AZURE_SERVICE_BUS", false, .boolean⟩,
    ⟨"BRIG_AMQP_CONNECT_ATTEMPTS", false, .number 32⟩,
    ⟨"BRIG_AMQP_CONNECT_BACKOFF_SECS", false, .number 64⟩, ⟨"BRIG_KUBE_API_URL", false, .text⟩,
    ⟨"BRIG_KUBE_TOKEN", false, .text⟩, ⟨"BRIG_MAX_CONCURRENT_WORKERS", false, .number 64⟩,
    ⟨"BRIG_MAX_CONCURRENT_JOBS", false, .number 64⟩,
    ⟨"BRIG_CAPACITY_INTERVAL_SECS", false, .number 64⟩,
    ⟨"BRIG_PROJECT_SYNC_INTERVAL_SECS", false, .number 64⟩,
    ⟨"BRIG_POD_DELETION_DELAY_SECS", false, .number 64⟩,
    ⟨"BRIG_READER_CLOSE_TIMEOUT_SECS", false, .number 64⟩,
    ⟨"BRIG_SHUTDOWN_GRACE_SECS", false, .number 64⟩]

example : Variable.all.map (·.name) = variableNames := rfl

/-- The environment in which the variables of a list are set. -/
def Environment.ofBindings (bindings : List (String × String)) : Environment := fun name =>
  (bindings.find? fun binding => binding.1 = name).map (·.2)

namespace Variable

variable {environment : Environment} {entry : Variable} {fault : Fault}

/-- A variable is fine: it is set if it has to be, and what it is set to is of its form. -/
def IsFine (environment : Environment) (entry : Variable) : Prop :=
  (entry.isRequired → environment.value? entry.name ≠ none) ∧
    ∀ raw, environment.value? entry.name = some raw → entry.form.Accepts raw

/-- What is wrong with a variable. -/
inductive Offends (environment : Environment) (entry : Variable) : Fault → Prop
  | missing (isRequired : entry.isRequired) (absent : environment.value? entry.name = none) :
      Offends environment entry (.missing entry.name)
  | invalid {raw : String} {cause : ValueFault} (given : environment.value? entry.name = some raw)
      (refuses : entry.form.Refuses raw cause) :
      Offends environment entry (.invalid entry.name raw cause)

theorem exists_offends (bad : ¬ entry.IsFine environment) :
    ∃ fault, entry.Offends environment fault := by
  cases given : environment.value? entry.name with
  | none =>
    refine ⟨_, .missing ?_ given⟩
    by_contra optional
    exact bad ⟨fun isRequired => absurd isRequired optional, by simp [given]⟩
  | some raw =>
    have other : ¬ entry.form.Accepts raw := fun accepts => bad ⟨by simp [given], by simpa [given]⟩
    obtain ⟨cause, refuses⟩ := Form.exists_refuses other
    exact ⟨_, .invalid given refuses⟩

end Variable

/-! ## Readings -/

/-- A reading of variables fails with what is wrong with the first that is not fine, and if all are
fine, it comes to an outcome. -/
structure Reads {α : Type} (environment : Environment) (entries : List Variable)
    (reading : Except Fault α) (outcome : Except Fault α → Prop) : Prop where
  fails : ∀ entry fault, IsFirst (fun entry => ¬ entry.IsFine environment) entries entry →
    entry.Offends environment fault → reading = .error fault
  ends : (∀ entry ∈ entries, entry.IsFine environment) → outcome reading

/-- A setting is what its variable says, or its default if the variable says nothing. -/
def Environment.Sets {α : Type} (environment : Environment) (name : String)
    (tells : String → α → Prop) (default value : α) : Prop :=
  match environment.value? name with
  | some raw => tells raw value
  | none => value = default

namespace Reads

variable {α β : Type} {environment : Environment} {entry : Variable} {entries : List Variable}
  {reading : Except Fault α}

theorem done {outcome : Except Fault α → Prop} (here : outcome reading) :
    Reads environment [] reading outcome where
  fails := by
    rintro entry fault ⟨earlier, later, whole, _⟩
    simp at whole
  ends _ := here

/-- A variable that is read first: the others are read only if it is fine. -/
theorem bind {holds : α → Prop} {rest : α → Except Fault β} {outcome : Except Fault β → Prop}
    (here : Reads environment [entry] reading fun result =>
      ∃ value, result = .ok value ∧ holds value)
    (later : ∀ value, holds value → Reads environment entries (rest value) outcome) :
    Reads environment (entry :: entries) (reading >>= rest) outcome where
  fails other fault first offends := by
    -- If the variable that is read here is fine, its value is what the others are read after.
    obtain ⟨bad, rfl⟩ | ⟨fine, first⟩ := isFirst_cons_iff.1 first
    · rw [here.fails other fault (isFirst_cons_iff.2 (.inl ⟨bad, rfl⟩)) offends]
      rfl
    · obtain ⟨value, rfl, found⟩ := here.ends (by simpa using fine)
      exact (later value found).fails other fault first offends
  ends fine := by
    obtain ⟨fine, others⟩ := List.forall_mem_cons.1 fine
    obtain ⟨value, rfl, found⟩ := here.ends (by simpa using fine)
    exact (later value found).ends others

theorem single {outcome : Except Fault α → Prop}
    (fails : ∀ fault, entry.Offends environment fault → reading = .error fault)
    (ends : entry.IsFine environment → outcome reading) :
    Reads environment [entry] reading outcome where
  fails other fault first offends := by
    obtain ⟨_, rfl⟩ | ⟨_, none⟩ := isFirst_cons_iff.1 first
    · exact fails fault offends
    · obtain ⟨earlier, later, whole, _⟩ := none
      simp at whole
  ends fine := ends (fine entry List.mem_cons_self)

theorem required (environment : Environment) (name : String) :
    Reads environment [⟨name, true, .text⟩] (environment.required name) fun result =>
      ∃ value, result = .ok value ∧ environment.value? name = some value := by
  refine .single ?fails ?ends
  case fails =>
    rintro _ (⟨_, absent⟩ | ⟨_, ⟨⟩⟩)
    simp only [Environment.required, absent]
  case ends =>
    intro fine
    obtain ⟨value, given⟩ := Option.ne_none_iff_exists'.1 (fine.1 rfl)
    exact ⟨value, by simp only [Environment.required, given], given⟩

theorem parsedOr {form : Form} {parse : String → Except ValueFault α} {tells : String → α → Prop}
    (isRead : form.IsReadBy parse tells) (environment : Environment) (name : String) (default : α) :
    Reads environment [⟨name, false, form⟩] (environment.parsedOr parse name default) fun result =>
      ∃ value, result = .ok value ∧ environment.Sets name tells default value := by
  refine .single ?fails ?ends
  case fails =>
    rintro _ (⟨⟨⟩, _⟩ | ⟨given, refuses⟩)
    simp only [Environment.parsedOr, given, isRead.refuses _ _ refuses]
  case ends =>
    intro fine
    cases given : environment.value? name with
    | none =>
      refine ⟨default, by simp only [Environment.parsedOr, given], ?_⟩
      simp only [Environment.Sets, given]
    | some raw =>
      obtain ⟨value, reads, tells⟩ := isRead.accepts raw (fine.2 raw given)
      refine ⟨value, by simp only [Environment.parsedOr, given, reads], ?_⟩
      simpa only [Environment.Sets, given] using tells

/-- A text that need not be set is fine whatever it is. -/
theorem text {outcome : Except Fault α → Prop} (name : String)
    (rest : Reads environment entries reading outcome) :
    Reads environment (⟨name, false, .text⟩ :: entries) reading outcome where
  fails other fault first offends := by
    obtain ⟨bad, _⟩ | ⟨_, first⟩ := isFirst_cons_iff.1 first
    · exact absurd ⟨by simp, fun _ _ => trivial⟩ bad
    · exact rest.fails other fault first offends
  ends fine := rest.ends (List.forall_mem_cons.1 fine).2

end Reads

/-! ## All settings -/

theorem Environment.sets_textOr (environment : Environment) (name default : String) :
    environment.Sets name (· = ·) default (environment.textOr name default) := by
  cases given : environment.value? name <;> simp [Sets, textOr, given]

/-- Settings are read from an environment: each of them is what its own variable tells, or its
default. The pause of the synchronizers has no variable. -/
structure IsReadFrom (environment : Environment) (settings : All) : Prop where
  logLevel : environment.Sets "BRIG_LOG_LEVEL" (· = ·) "info" settings.logLevel
  apiAddress :
    environment.Sets "BRIG_API_ADDRESS" (· = ·) "http://127.0.0.1:8080" settings.api.address
  apiToken : environment.value? "BRIG_API_TOKEN" = some settings.api.token
  ignoreCertificateWarnings : environment.Sets "BRIG_API_IGNORE_CERT_WARNINGS" WritesBoolean false
    settings.api.ignoreCertificateWarnings
  brokerAddress :
    environment.Sets "BRIG_AMQP_ADDRESS" (· = ·) "amqp://127.0.0.1:5672" settings.broker.address
  username : environment.value? "BRIG_AMQP_USERNAME" = some settings.broker.username
  password : environment.value? "BRIG_AMQP_PASSWORD" = some settings.broker.password
  usesSessionFilters : environment.Sets "BRIG_AMQP_IS_AZURE_SERVICE_BUS" WritesBoolean false
    settings.broker.usesSessionFilters
  connectAttempts : environment.Sets "BRIG_AMQP_CONNECT_ATTEMPTS" Decimal.Writes 10
    settings.broker.connectAttempts
  connectPause : environment.Sets "BRIG_AMQP_CONNECT_BACKOFF_SECS" Decimal.Writes 10
    settings.broker.connectPause
  substrateAddress : environment.value? "BRIG_KUBE_API_URL" = settings.substrate.address
  substrateToken : environment.value? "BRIG_KUBE_TOKEN" = settings.substrate.token
  maxWorkers : environment.Sets "BRIG_MAX_CONCURRENT_WORKERS" Decimal.Writes 2
    settings.limits.maxWorkers
  maxJobs : environment.Sets "BRIG_MAX_CONCURRENT_JOBS" Decimal.Writes 2 settings.limits.maxJobs
  capacityInterval : environment.Sets "BRIG_CAPACITY_INTERVAL_SECS" WritesSeconds 5000
    settings.limits.capacityInterval
  projectSyncInterval : environment.Sets "BRIG_PROJECT_SYNC_INTERVAL_SECS" WritesSeconds 30000
    settings.limits.projectSyncInterval
  podDeletionDelay : environment.Sets "BRIG_POD_DELETION_DELAY_SECS" WritesSeconds 60000
    settings.limits.podDeletionDelay
  readerCloseTimeout : environment.Sets "BRIG_READER_CLOSE_TIMEOUT_SECS" WritesSeconds 5000
    settings.limits.readerCloseTimeout
  shutdownGrace : environment.Sets "BRIG_SHUTDOWN_GRACE_SECS" WritesSeconds 1000
    settings.limits.shutdownGrace
  watchRestartPause : settings.limits.watchRestartPause = 1000

/-- **The settings are a reading of all variables**, after which the limits are checked. -/
theorem reads_load (environment : Environment) :
    Reads environment Variable.all (load environment) fun result =>
      ∃ settings, IsReadFrom environment settings ∧
        result = do settings.limits.check; return settings := by
  have boolean := Form.isReadBy_parseBoolean
  have number := Form.isReadBy_parseNumber
  have seconds := Form.isReadBy_parseSeconds
  unfold load
  -- One step for each variable, in their order; those that cannot be refused are passed over.
  refine .text _ (.text _ ((Reads.required environment _).bind fun apiToken apiTokenIs => ?_))
  refine (Reads.parsedOr boolean environment _ _).bind fun ignores ignoresIs => .text _ ?_
  refine (Reads.required environment _).bind fun username usernameIs => ?_
  refine (Reads.required environment _).bind fun password passwordIs => ?_
  refine (Reads.parsedOr boolean environment _ _).bind fun filters filtersIs => ?_
  refine (Reads.parsedOr (number 32) environment _ _).bind fun attempts attemptsIs => ?_
  refine (Reads.parsedOr (number 64) environment _ _).bind fun pause pauseIs => .text _ (.text _ ?_)
  refine (Reads.parsedOr (number 64) environment _ _).bind fun workers workersIs => ?_
  refine (Reads.parsedOr (number 64) environment _ _).bind fun jobs jobsIs => ?_
  refine (Reads.parsedOr seconds environment _ _).bind fun capacity capacityIs => ?_
  refine (Reads.parsedOr seconds environment _ _).bind fun sync syncIs => ?_
  refine (Reads.parsedOr seconds environment _ _).bind fun deletion deletionIs => ?_
  refine (Reads.parsedOr seconds environment _ _).bind fun closing closingIs => ?_
  refine (Reads.parsedOr seconds environment _ _).bind fun grace graceIs => ?_
  refine .done ⟨⟨_, ⟨_, apiToken, ignores⟩, ⟨_, username, password, filters, attempts, pause⟩,
    ⟨_, _⟩, ⟨workers, jobs, capacity, sync, deletion, closing, grace, _⟩⟩, ?_, rfl⟩
  exact {
    logLevel := environment.sets_textOr _ _
    apiAddress := environment.sets_textOr _ _
    apiToken := apiTokenIs
    ignoreCertificateWarnings := ignoresIs
    brokerAddress := environment.sets_textOr _ _
    username := usernameIs
    password := passwordIs
    usesSessionFilters := filtersIs
    connectAttempts := attemptsIs
    connectPause := pauseIs
    substrateAddress := rfl
    substrateToken := rfl
    maxWorkers := workersIs
    maxJobs := jobsIs
    capacityInterval := capacityIs
    projectSyncInterval := syncIs
    podDeletionDelay := deletionIs
    readerCloseTimeout := closingIs
    shutdownGrace := graceIs
    watchRestartPause := rfl }

/-! ## Quantities that are zero -/

/-- The variable that sets a quantity. -/
def Quantity.source : Quantity → String
  | .maxWorkers => "BRIG_MAX_CONCURRENT_WORKERS"
  | .maxJobs => "BRIG_MAX_CONCURRENT_JOBS"
  | .capacityInterval => "BRIG_CAPACITY_INTERVAL_SECS"
  | .projectSyncInterval => "BRIG_PROJECT_SYNC_INTERVAL_SECS"
  | .readerCloseTimeout => "BRIG_READER_CLOSE_TIMEOUT_SECS"
  | .shutdownGrace => "BRIG_SHUTDOWN_GRACE_SECS"

/-- A quantity is set to zero. -/
def Quantity.IsZero (environment : Environment) (quantity : Quantity) : Prop :=
  ∃ raw, environment.value? quantity.source = some raw ∧ Decimal.Writes raw 0

section Loading

variable {environment : Environment} {settings : All} {fault : Fault}

theorem Environment.Sets.eq_zero_iff {name : String} {tells : String → Nat → Prop}
    {default value : Nat} (sets : environment.Sets name tells default value)
    (positive : default ≠ 0)
    (zero : ∀ raw value, tells raw value → (value = 0 ↔ Decimal.Writes raw 0)) :
    value = 0 ↔ ∃ raw, environment.value? name = some raw ∧ Decimal.Writes raw 0 := by
  unfold Environment.Sets at sets
  split at sets
  case h_1 raw given => simpa [given] using zero raw value sets
  case h_2 absent => simp [absent, sets, positive]

theorem IsReadFrom.value_eq_zero_iff (isRead : IsReadFrom environment settings)
    (quantity : Quantity) :
    settings.limits.value quantity = 0 ↔ quantity.IsZero environment := by
  have number (raw : String) (value : Nat) (writes : Decimal.Writes raw value) :
      value = 0 ↔ Decimal.Writes raw 0 :=
    ⟨fun zero => zero ▸ writes, fun zero => writes.unique zero⟩
  have seconds (raw : String) (value : Nat) (writes : WritesSeconds raw value) :
      value = 0 ↔ Decimal.Writes raw 0 := by
    obtain ⟨seconds, writes, rfl⟩ := writes
    rw [← number raw seconds writes]
    omega
  cases quantity with
  | maxWorkers => exact isRead.maxWorkers.eq_zero_iff (by decide) number
  | maxJobs => exact isRead.maxJobs.eq_zero_iff (by decide) number
  | capacityInterval => exact isRead.capacityInterval.eq_zero_iff (by decide) seconds
  | projectSyncInterval => exact isRead.projectSyncInterval.eq_zero_iff (by decide) seconds
  | readerCloseTimeout => exact isRead.readerCloseTimeout.eq_zero_iff (by decide) seconds
  | shutdownGrace => exact isRead.shutdownGrace.eq_zero_iff (by decide) seconds

/-! ## Loading -/

theorem check_return_eq_ok_iff {check : Except Fault Unit} {other : All} :
    (do check; return settings) = Except.ok other ↔ check = .ok () ∧ settings = other := by
  cases check <;> simp [bind, Except.bind, pure, Except.pure]

theorem check_return_eq_error_iff {check : Except Fault Unit} :
    (do check; return settings) = Except.error fault ↔ check = .error fault := by
  cases check <;> simp [bind, Except.bind, pure, Except.pure]

/-- If a variable is not fine, the first such variable is what is complained of. -/
theorem exists_offends_of_not_fine (bad : ¬ ∀ entry ∈ Variable.all, entry.IsFine environment) :
    ∃ entry fault, IsFirst (fun entry => ¬ entry.IsFine environment) Variable.all entry ∧
      entry.Offends environment fault ∧ load environment = .error fault := by
  obtain ⟨entry, isFirst⟩ :
      ∃ entry : Variable, IsFirst (fun entry => ¬ entry.IsFine environment) Variable.all entry :=
    exists_isFirst (by simpa using bad)
  obtain ⟨fault, offends⟩ := Variable.exists_offends isFirst.has
  exact ⟨entry, fault, isFirst, offends, (reads_load environment).fails entry fault isFirst offends⟩

/-- What settings that are loaded tell of the environment, and of themselves. -/
theorem of_load (loaded : load environment = .ok settings) :
    (∀ entry ∈ Variable.all, entry.IsFine environment) ∧ IsReadFrom environment settings ∧
      settings.limits.check = .ok () := by
  have fine : ∀ entry ∈ Variable.all, entry.IsFine environment := by
    by_contra bad
    obtain ⟨_, _, _, _, fails⟩ := exists_offends_of_not_fine bad
    rw [loaded] at fails
    cases fails
  obtain ⟨_, isRead, comes⟩ := (reads_load environment).ends fine
  obtain ⟨checked, rfl⟩ := check_return_eq_ok_iff.1 (comes.symm.trans loaded)
  exact ⟨fine, isRead, checked⟩

theorem load_eq_error_iff : load environment = .error fault ↔
    (∃ entry, IsFirst (fun entry => ¬ entry.IsFine environment) Variable.all entry ∧
      entry.Offends environment fault) ∨
    ((∀ entry ∈ Variable.all, entry.IsFine environment) ∧
      ∃ quantity, IsFirst (Quantity.IsZero environment) Quantity.all quantity ∧
        fault = .zero quantity) := by
  -- Only if all variables are fine does the check of the limits decide.
  by_cases fine : ∀ entry ∈ Variable.all, entry.IsFine environment
  · obtain ⟨settings, isRead, comes⟩ := (reads_load environment).ends fine
    have zero : (settings.limits.value · = 0) = Quantity.IsZero environment :=
      funext fun quantity => propext (isRead.value_eq_zero_iff quantity)
    rw [or_iff_right, and_iff_right fine, comes, check_return_eq_error_iff,
      Limits.check_eq_error_iff, zero]
    rintro ⟨entry, isFirst, _⟩
    exact isFirst.has (fine entry isFirst.mem)
  · obtain ⟨first, _, isFirst, offends, fails⟩ := exists_offends_of_not_fine fine
    rw [or_iff_left fun both => fine both.1]
    constructor
    · intro fails'
      rw [fails] at fails'
      cases fails'
      exact ⟨first, isFirst, offends⟩
    · rintro ⟨entry, isFirst, offends⟩
      exact (reads_load environment).fails entry fault isFirst offends

theorem exists_load_iff : (∃ settings, load environment = .ok settings) ↔
    (∀ entry ∈ Variable.all, entry.IsFine environment) ∧
      ∀ quantity, ¬ Quantity.IsZero environment quantity := by
  constructor
  · rintro ⟨settings, loaded⟩
    obtain ⟨fine, isRead, checked⟩ := of_load loaded
    refine ⟨fine, fun quantity isZero => ?_⟩
    exact Limits.check_eq_ok_iff.1 checked quantity ((isRead.value_eq_zero_iff quantity).2 isZero)
  · rintro ⟨fine, positive⟩
    obtain ⟨settings, isRead, comes⟩ := (reads_load environment).ends fine
    have checked : settings.limits.check = .ok () := Limits.check_eq_ok_iff.2 fun quantity zero =>
      positive quantity ((isRead.value_eq_zero_iff quantity).1 zero)
    exact ⟨settings, comes.trans (check_return_eq_ok_iff.2 ⟨checked, rfl⟩)⟩

/-- **Settings follow their variables.** There are settings exactly if every variable is fine, that
is, credentials are set, truth values are spelt out, and numbers are digits that fit, and no ceiling
and none of the intervals of the loops is set to zero. Then every setting is what its own variable
tells, or its default if the variable is not set or empty, and the limits pass their check. Else the
fault is that of the first variable that is not fine, or if all are fine, it names the first
quantity that is set to zero. -/
theorem load_follows_variables (environment : Environment) :
    ((∃ settings, load environment = .ok settings) ↔
      (∀ entry ∈ Variable.all, entry.IsFine environment) ∧
        ∀ quantity, ¬ Quantity.IsZero environment quantity) ∧
    (∀ settings, load environment = .ok settings →
      IsReadFrom environment settings ∧ settings.limits.check = .ok ()) ∧
    ∀ fault, load environment = .error fault ↔
      (∃ entry, IsFirst (fun entry => ¬ entry.IsFine environment) Variable.all entry ∧
        entry.Offends environment fault) ∨
      ((∀ entry ∈ Variable.all, entry.IsFine environment) ∧
        ∃ quantity, IsFirst (Quantity.IsZero environment) Quantity.all quantity ∧
          fault = .zero quantity) :=
  ⟨exists_load_iff, fun _ loaded => (of_load loaded).2, fun _ => load_eq_error_iff⟩

/-- A fault of a variable comes before a zero, even of one that is read later. -/
example : load (.ofBindings [("BRIG_API_TOKEN", "t"), ("BRIG_AMQP_USERNAME", "u"),
      ("BRIG_AMQP_PASSWORD", "p"), ("BRIG_MAX_CONCURRENT_WORKERS", "0"),
      ("BRIG_SHUTDOWN_GRACE_SECS", "1s")]) =
    .error (.invalid "BRIG_SHUTDOWN_GRACE_SECS" "1s" (.number .invalidDigit)) := rfl

end Loading

end Turnstile.Settings
