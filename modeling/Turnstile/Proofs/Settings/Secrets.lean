import Mathlib.Logic.Relator
import Turnstile.Proofs.Settings

/-!
# Secrets among the settings

Three variables hold secrets. All of them are texts (`form_of_mem_secrets`), and a text is never
refused, so no fault quotes one; all that a fault can tell of a secret is that it is missing. Two
environments that differ in their secrets only (`DifferInSecrets`) are therefore refused for the
same fault, or give settings that differ in the secrets only (`IsReadFrom.withSecretsOf_eq`), and
the description of the broker shows none of them.
-/

set_option autoImplicit false

namespace Turnstile.Settings

/-- The variables that hold secrets. -/
def secrets : List String := ["BRIG_API_TOKEN", "BRIG_AMQP_PASSWORD", "BRIG_KUBE_TOKEN"]

theorem form_of_mem_secrets :
    ∀ entry ∈ Variable.all, entry.name ∈ secrets → entry.form = .text := by
  decide

/-- Two environments differ in their secrets only, and not in which of them are set. -/
structure Environment.DifferInSecrets (first second : Environment) : Prop where
  others : ∀ name ∉ secrets, first name = second name
  areSet : ∀ name ∈ secrets, first.value? name = none ↔ second.value? name = none

/-- The settings with the secrets of others. -/
def All.withSecretsOf (settings others : All) : All :=
  { settings with
    api.token := others.api.token
    broker.password := others.broker.password
    substrate.token := others.substrate.token }

theorem All.describe_withSecretsOf (settings others : All) :
    (settings.withSecretsOf others).broker.describe = settings.broker.describe := rfl

section Secrets

variable {first second : Environment} {entry : Variable} {fault : Fault}

namespace Environment.DifferInSecrets

theorem symm (differ : first.DifferInSecrets second) : second.DifferInSecrets first where
  others name other := (differ.others name other).symm
  areSet name secret := (differ.areSet name secret).symm

theorem value?_eq (differ : first.DifferInSecrets second) {name : String} (other : name ∉ secrets) :
    first.value? name = second.value? name :=
  congrArg (Option.filter _) (differ.others name other)

theorem value?_eq_none_iff (differ : first.DifferInSecrets second) (name : String) :
    first.value? name = none ↔ second.value? name = none := by
  by_cases secret : name ∈ secrets
  · exact differ.areSet name secret
  · rw [differ.value?_eq secret]

/-- What is wrong with a variable is wrong with it whatever the secrets are. -/
theorem offends (differ : first.DifferInSecrets second) (listed : entry ∈ Variable.all)
    (offends : entry.Offends first fault) : entry.Offends second fault := by
  cases offends with
  | missing isRequired absent =>
    exact .missing isRequired ((differ.value?_eq_none_iff entry.name).1 absent)
  | invalid given refuses =>
    -- What is refused is quoted in the fault, so it must not be a secret.
    have other : entry.name ∉ secrets := by
      intro secret
      rw [form_of_mem_secrets entry listed secret] at refuses
      cases refuses
    exact .invalid (differ.value?_eq other ▸ given) refuses

theorem isFine (differ : first.DifferInSecrets second) (listed : entry ∈ Variable.all)
    (fine : entry.IsFine first) : entry.IsFine second := by
  refine ⟨fun isRequired absent => ?_, fun raw given => ?_⟩
  · exact fine.1 isRequired ((differ.value?_eq_none_iff entry.name).2 absent)
  · by_cases secret : entry.name ∈ secrets
    · rw [form_of_mem_secrets entry listed secret]
      trivial
    · exact fine.2 raw ((differ.value?_eq secret).trans given)

theorem isZero (differ : first.DifferInSecrets second) :
    Quantity.IsZero first = Quantity.IsZero second := by
  have other (quantity : Quantity) : quantity.source ∉ secrets := by cases quantity <;> decide
  funext quantity
  rw [Quantity.IsZero, Quantity.IsZero, differ.value?_eq (other quantity)]

theorem load_eq_error (differ : first.DifferInSecrets second) (fails : load first = .error fault) :
    load second = .error fault := by
  refine load_eq_error_iff.2 ?_
  obtain ⟨entry, isFirst, offends⟩ | ⟨fine, quantity, isFirst, rfl⟩ := load_eq_error_iff.1 fails
  · refine .inl ⟨entry, isFirst.congr fun entry listed => ?_, differ.offends isFirst.mem offends⟩
    exact not_congr ⟨differ.isFine listed, differ.symm.isFine listed⟩
  · exact .inr ⟨fun entry listed => differ.isFine listed (fine entry listed), quantity,
      differ.isZero ▸ isFirst, rfl⟩

end Environment.DifferInSecrets

/-! ## Settings that are read -/

theorem rightUnique_writesBoolean : Relator.RightUnique WritesBoolean := by
  rintro raw value other rfl same
  change toString value = toString other at same
  revert same
  cases value <;> cases other <;> decide

theorem rightUnique_writesSeconds : Relator.RightUnique WritesSeconds := by
  rintro raw _ _ ⟨seconds, writes, rfl⟩ ⟨seconds', writes', rfl⟩
  rw [writes.unique writes']

/-- A variable with the same value sets the same. -/
theorem Environment.Sets.unique {α : Type} {name : String} {tells : String → α → Prop}
    {default value value' : α} (unique : Relator.RightUnique tells)
    (same : first.value? name = second.value? name) (sets : first.Sets name tells default value)
    (sets' : second.Sets name tells default value') : value = value' := by
  unfold Environment.Sets at sets sets'
  rw [← same] at sets'
  split at sets
  case h_1 raw given =>
    simp only [given] at sets'
    exact unique sets sets'
  case h_2 absent =>
    simp only [absent] at sets'
    exact sets.trans sets'.symm

/-- **Settings differ in the secrets only**, if they are read from environments that do. -/
theorem IsReadFrom.withSecretsOf_eq {settings settings' : All}
    (differ : first.DifferInSecrets second) (isRead : IsReadFrom first settings)
    (isRead' : IsReadFrom second settings') : settings.withSecretsOf settings' = settings' := by
  have text : Relator.RightUnique fun text value : String => text = value :=
    fun _ _ _ here there => here.symm.trans there
  have number : Relator.RightUnique Decimal.Writes := fun _ _ _ here there => here.unique there
  have boolean := rightUnique_writesBoolean
  have seconds := rightUnique_writesSeconds
  have same {name : String} (other : name ∉ secrets) := differ.value?_eq other
  -- All settings but the three secrets are replaced by those of the other reading, one by one.
  obtain ⟨logLevel, ⟨address, token, ignores⟩,
    ⟨brokerAddress, username, password, filters, attempts, pause⟩,
    ⟨substrateAddress, substrateToken⟩,
    ⟨workers, jobs, capacity, sync, deletion, closing, grace, restart⟩⟩ := settings
  obtain rfl := isRead.logLevel.unique text (same (by decide)) isRead'.logLevel
  obtain rfl := isRead.apiAddress.unique text (same (by decide)) isRead'.apiAddress
  obtain rfl := isRead.ignoreCertificateWarnings.unique boolean (same (by decide))
    isRead'.ignoreCertificateWarnings
  obtain rfl := isRead.brokerAddress.unique text (same (by decide)) isRead'.brokerAddress
  obtain rfl : username = settings'.broker.username := Option.some.inj <|
    isRead.username.symm.trans ((same (by decide)).trans isRead'.username)
  obtain rfl := isRead.usesSessionFilters.unique boolean (same (by decide))
    isRead'.usesSessionFilters
  obtain rfl := isRead.connectAttempts.unique number (same (by decide)) isRead'.connectAttempts
  obtain rfl := isRead.connectPause.unique number (same (by decide)) isRead'.connectPause
  obtain rfl : substrateAddress = settings'.substrate.address :=
    isRead.substrateAddress.symm.trans ((same (by decide)).trans isRead'.substrateAddress)
  obtain rfl := isRead.maxWorkers.unique number (same (by decide)) isRead'.maxWorkers
  obtain rfl := isRead.maxJobs.unique number (same (by decide)) isRead'.maxJobs
  obtain rfl := isRead.capacityInterval.unique seconds (same (by decide)) isRead'.capacityInterval
  obtain rfl := isRead.projectSyncInterval.unique seconds (same (by decide))
    isRead'.projectSyncInterval
  obtain rfl := isRead.podDeletionDelay.unique seconds (same (by decide)) isRead'.podDeletionDelay
  obtain rfl := isRead.readerCloseTimeout.unique seconds (same (by decide))
    isRead'.readerCloseTimeout
  obtain rfl := isRead.shutdownGrace.unique seconds (same (by decide)) isRead'.shutdownGrace
  obtain rfl : restart = settings'.limits.watchRestartPause :=
    isRead.watchRestartPause.trans isRead'.watchRestartPause.symm
  rfl

/-- **Secrets do not show.** In two environments that differ in their secrets only, there are
settings in both or in none. If there are none, then the faults have the same wording, and if there
are, then the brokers have the same description, and the settings differ in the secrets only. -/
theorem secrets_do_not_show (differ : first.DifferInSecrets second) :
    ((∃ settings, load first = .ok settings) ↔ ∃ settings, load second = .ok settings) ∧
    (∀ fault, load first = .error fault →
      ∃ fault', load second = .error fault' ∧ fault'.message = fault.message) ∧
    ∀ settings settings', load first = .ok settings → load second = .ok settings' →
      settings'.broker.describe = settings.broker.describe ∧
        settings' = settings.withSecretsOf settings' := by
  refine ⟨?succeeds, fun fault fails => ⟨fault, differ.load_eq_error fails, rfl⟩, ?settings⟩
  case succeeds =>
    have transfer {first second : Environment} (differ : first.DifferInSecrets second) :
        (∃ settings, load first = .ok settings) → ∃ settings, load second = .ok settings := by
      rintro ⟨settings, loaded⟩
      cases loaded' : load second with
      | ok settings' => exact ⟨settings', rfl⟩
      | error fault =>
        rw [differ.symm.load_eq_error loaded'] at loaded
        cases loaded
    exact ⟨transfer differ, transfer differ.symm⟩
  case settings =>
    intro settings settings' loaded loaded'
    have same := (of_load loaded).2.1.withSecretsOf_eq differ (of_load loaded').2.1
    refine ⟨?_, same.symm⟩
    rw [← same, All.describe_withSecretsOf]

theorem secrets_do_not_show_in_description :
    let first := Environment.ofBindings [("BRIG_API_TOKEN", "secret"),
      ("BRIG_AMQP_USERNAME", "scheduler"), ("BRIG_AMQP_PASSWORD", "hunter2"),
      ("BRIG_AMQP_CONNECT_BACKOFF_SECS", "0"), ("BRIG_KUBE_TOKEN", ""),
      ("BRIG_MAX_CONCURRENT_JOBS", "+016")]
    let second := Environment.ofBindings [("BRIG_API_TOKEN", "sesame"),
      ("BRIG_AMQP_USERNAME", "scheduler"), ("BRIG_AMQP_PASSWORD", "0"),
      ("BRIG_AMQP_CONNECT_BACKOFF_SECS", "0"), ("BRIG_MAX_CONCURRENT_JOBS", "+016")]
    first.DifferInSecrets second ∧ ∃ settings settings', load first = .ok settings ∧
      load second = .ok settings' ∧ settings'.broker.password ≠ settings.broker.password ∧
      settings'.limits.maxJobs = 16 ∧
      settings.broker.describe = "AmqpConfig \x7b address: \"amqp://127.0.0.1:5672\", " ++
        "username: \"scheduler\", password: \"<redacted>\", is_azure_service_bus: false, " ++
        "connect_attempts: 10, connect_backoff: 0ns \x7d" ∧
      settings'.broker.describe = settings.broker.describe ∧
      settings' = settings.withSecretsOf settings' := by
  intro first second
  have differ : first.DifferInSecrets second := by
    constructor
    · intro name other
      simp only [secrets, List.mem_cons, List.not_mem_nil, or_false, not_or] at other
      obtain ⟨notToken, notPassword, notKubeToken⟩ := other
      simp [first, second, Environment.ofBindings, List.find?_cons, Ne.symm notToken,
        Ne.symm notPassword, Ne.symm notKubeToken]
    · decide
  exact ⟨differ, _, _, rfl, rfl, by decide, rfl, by decide +kernel,
    (secrets_do_not_show differ).2.2 _ _ rfl rfl⟩

end Secrets

end Turnstile.Settings
