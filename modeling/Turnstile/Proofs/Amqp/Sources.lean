import Turnstile.Proofs.Amqp.Dealings
import Turnstile.Proofs.Separators

/-!
# The sources of projects

Where a broker keeps sessions, all projects share one queue for each kind of work, and a filter on
the session keeps them apart; elsewhere every project has queues of its own. A loop says in either
case only the name of its queue, from which the source of its link is made. Three places have to
agree on that name: the loops that put it together, the identifiers that keep dots out of it, and
the client that takes it apart (`splitGroup?_queueName`).

What is made of a name is faithful to the project and to the kind (`LinkSource.eq_of_ofQueue_eq`),
and whatever fails while a reader is opened, no link is ever attached with a source other than that
of the name asked for (`Follows.areFor`). So no two loops share a source
(`sources_keep_loops_apart`).
-/

set_option autoImplicit false

namespace Turnstile

/-- What the names of the queues of a kind begin with. -/
def WorkKind.queueBase : WorkKind → String
  | worker => "workers"
  | job => "jobs"

namespace WorkKind

theorem queueName_eq (kind : WorkKind) (project : String) :
    kind.queueName project = kind.queueBase ++ "." ++ project := by
  cases kind with
  | worker => exact congrArg (· ++ project) (by decide : "workers." = "workers" ++ ".")
  | job => exact congrArg (· ++ project) (by decide : "jobs." = "jobs" ++ ".")

theorem dot_notMem_queueBase (kind : WorkKind) : '.' ∉ kind.queueBase.toList := by
  cases kind with
  | worker => decide
  | job => decide

theorem queueBase_injective : Function.Injective queueBase := by
  intro first second same
  cases first <;> cases second
  · rfl
  · exact absurd same (by decide)
  · exact absurd same (by decide)
  · rfl

end WorkKind

theorem Identifier.dot_notMem {kind : IdentifierKind} (identifier : Identifier kind) :
    '.' ∉ identifier.text.toList :=
  identifier.notMem_text (by decide)

namespace Amqp

/-! ## Names with a dot -/

section Names

variable {name queue group : String}

/-- **A name is split at its dot** if there is exactly one, and into all that stands before it and
behind it. -/
theorem splitGroup?_eq_some_iff : splitGroup? name = some (queue, group) ↔
    name = queue ++ "." ++ group ∧ '.' ∉ queue.toList ∧ '.' ∉ group.toList := by
  constructor
  · intro split
    unfold splitGroup? at split
    split at split
    · cases split
    · rename_i dot after left
      split at split
      · cases split
      · rename_i plain
        cases split
        refine ⟨?_, ?_, ?_⟩
        · apply String.toList_injective
          have whole := eq_of_dropWhile_ne left
          simpa using whole
        · rw [String.toList_ofList]
          exact notMem_takeWhile_ne '.' name.toList
        · rwa [String.toList_ofList]
  · rintro ⟨rfl, plain, plain'⟩
    have text : (queue ++ "." ++ group).toList = queue.toList ++ '.' :: group.toList := by simp
    have before := takeWhile_ne_append_cons plain group.toList
    have after := dropWhile_ne_append_cons plain group.toList
    simp only [splitGroup?, text, before, after, plain', if_false, String.ofList_toList]

theorem isSome_splitGroup?_iff : (splitGroup? name).isSome ↔ name.toList.count '.' = 1 := by
  rw [count_eq_one_iff, Option.isSome_iff_exists]
  constructor
  · rintro ⟨⟨queue, group⟩, split⟩
    obtain ⟨rfl, plain, plain'⟩ := splitGroup?_eq_some_iff.1 split
    exact ⟨queue.toList, group.toList, by simp, plain, plain'⟩
  · rintro ⟨before, after, whole, plain, plain'⟩
    refine ⟨(String.ofList before, String.ofList after), splitGroup?_eq_some_iff.2 ⟨?_, ?_, ?_⟩⟩
    · apply String.toList_injective
      simp [whole]
    · rwa [String.toList_ofList]
    · rwa [String.toList_ofList]

/-- The names of queues are split into what their kind and their project put there. -/
theorem splitGroup?_queueName (kind : WorkKind) (project : ProjectId) :
    splitGroup? (kind.queueName project.text) = some (kind.queueBase, project.text) :=
  splitGroup?_eq_some_iff.2
    ⟨kind.queueName_eq project.text, kind.dot_notMem_queueBase, project.dot_notMem⟩

end Names

/-! ## Sources -/

namespace LinkSource

theorem ofQueue_true_of_split {name queue group : String}
    (split : splitGroup? name = some (queue, group)) : ofQueue true name = ⟨queue, some group⟩ := by
  simp only [ofQueue, if_true, split]

theorem ofQueue_true_of_none {name : String} (split : splitGroup? name = none) :
    ofQueue true name = ⟨name, none⟩ := by
  simp only [ofQueue, if_true, split]

/-- Where a broker keeps sessions, the source of a loop is its project's share of the queue of its
kind. -/
theorem ofQueue_true_queueName (kind : WorkKind) (project : ProjectId) :
    ofQueue true (kind.queueName project.text) = ⟨kind.queueBase, some project.text⟩ :=
  ofQueue_true_of_split (splitGroup?_queueName kind project)

/-- Loops with the same source are of one kind and one project. -/
theorem eq_of_ofQueue_eq {usesSessionFilters : Bool} {kind kind' : WorkKind}
    {project project' : ProjectId}
    (same : ofQueue usesSessionFilters (kind.queueName project.text) =
      ofQueue usesSessionFilters (kind'.queueName project'.text)) :
    kind = kind' ∧ project = project' := by
  -- In either mode the source determines the name's two parts.
  have parts : kind.queueBase = kind'.queueBase ∧ project.text = project'.text := by
    cases usesSessionFilters with
    | true =>
      rw [ofQueue_true_queueName, ofQueue_true_queueName] at same
      injection same with bases groups
      exact ⟨bases, Option.some.inj groups⟩
    | false =>
      have names : kind.queueName project.text = kind'.queueName project'.text :=
        congrArg address same
      have split := splitGroup?_queueName kind project
      rw [names, splitGroup?_queueName kind' project'] at split
      injection split with pairs
      injection pairs with bases groups
      exact ⟨bases.symm, groups.symm⟩
  exact ⟨WorkKind.queueBase_injective parts.1, Identifier.ext_text parts.2⟩

end LinkSource

/-! ## The links of readers -/

/-- The source of the link that an act attaches, or tries to attach. -/
def Act.source? : Act → Option LinkSource
  | .attached _ _ source _ => some source
  | _ => none

/-- No act attaches a link with a source other than that of a queue. -/
def AreFor (settings : Settings.Broker) (queue : String) (acts : List Act) : Prop :=
  ∀ source ∈ acts.filterMap Act.source?, source = .ofQueue settings.usesSessionFilters queue

section Links

variable {settings : Settings.Broker} {queue : String} {held : Option Nat} {acts later : List Act}

theorem AreFor.of_nothing_attached (none : acts.filterMap Act.source? = []) :
    AreFor settings queue acts := by
  intro source member
  rw [none] at member
  cases member

theorem AreFor.append (first : AreFor settings queue acts) (second : AreFor settings queue later) :
    AreFor settings queue (acts ++ later) := by
  intro source member
  rw [List.filterMap_append] at member
  obtain member | member := List.mem_append.1 member
  · exact first source member
  · exact second source member

theorem filterMap_failedDials (milliseconds : Nat) (causes : List String) :
    (failedDials milliseconds causes).filterMap Act.source? = [] := by
  induction causes with
  | nil => rfl
  | cons cause causes ih => exact ih

theorem Reconnects.areFor {outcome : Except QueueFault Nat}
    (reconnects : Reconnects settings held acts outcome) : AreFor settings queue acts := by
  have closing : (closings held).filterMap Act.source? = [] := by
    cases held with
    | none => rfl
    | some connection => rfl
  obtain ⟨dials⟩ := reconnects
  apply AreFor.of_nothing_attached
  cases dials with
  | reached => simp [closing, filterMap_failedDials, Act.source?]
  | exhausted => simp [closing, filterMap_failedDials, Act.source?]

theorem Hinders.areFor (hindered : Hinders settings queue held acts) :
    AreFor settings queue acts := by
  cases hindered with
  | missing => exact .of_nothing_attached rfl
  | noSession => exact .of_nothing_attached rfl
  | noLink =>
    intro source member
    exact List.mem_singleton.1 member

/-- **Whatever an opening goes through**, it attaches links with no source but that of its queue. -/
theorem Opens.areFor {kept : Option Nat} {outcome : Except QueueFault (Reader Nat Nat)}
    (opens : Opens settings queue held acts outcome kept) : AreFor settings queue acts := by
  induction opens with
  | opened =>
    intro source member
    exact List.mem_singleton.1 member
  | again hindered reconnects _ ih => exact (hindered.areFor.append reconnects.areFor).append ih
  | failed hindered reconnects => exact hindered.areFor.append reconnects.areFor

theorem Follows.areFor {entry : Entry} {source : LinkSource}
    (follows : Follows settings held entry) (attached : source ∈ entry.acts.filterMap Act.source?) :
    ∃ queue, entry.call = .openReader queue ∧
      source = .ofQueue settings.usesSessionFilters queue := by
  cases follows with
  | opened opens => exact ⟨_, rfl, opens.areFor source attached⟩
  | closed =>
    cases held with
    | none => cases attached
    | some connection => cases attached

end Links

/-- What a loop asks of the client when it needs a reader. -/
def Call.ofLoop (kind : WorkKind) (project : ProjectId) : Call :=
  .openReader (kind.queueName project.text)

section Histories

variable {settings : Settings.Broker} {script : Script} {calls : List Call} {more : Nat}
  {entry : Entry}

/-- The entries of a client's history, after a first dial that succeeded. -/
theorem Dealings.exists_follows (connected : (Dealings.start settings script).1 = .ok ())
    (member : entry ∈ (Dealings.start settings script).2.history more calls) :
    ∃ held, Follows settings held entry := by
  obtain ⟨attempts, begun, connection, after, isStart, -, -⟩ := Dealings.start_of_ok connected
  rw [isStart] at member
  obtain ⟨-, -, chained⟩ :=
    Dealings.chained_history more calls ⟨⟨settings, some connection⟩, after⟩ attempts
  exact chained.exists_follows member

/-- A reader that is opened for a loop has a link to the loop's source. -/
theorem Follows.attaches {held : Option Nat} {queue : String} {reader : Reader Nat Nat}
    (follows : Follows settings held entry) (asked : entry.call = .openReader queue)
    (replied : entry.reply = .opened (some (.ok reader))) :
    ∃ session link, entry.acts.getLast? = some (attaching settings queue session (.ok link)) := by
  cases follows with
  | opened opens =>
    cases asked
    cases replied
    exact opens.getLast?_of_ok nofun
  | closed => cases asked

end Histories

/-- **Sources keep loops apart.** Where a broker keeps sessions, the source of a loop is the queue
of its kind with a filter for exactly its project; elsewhere it is the queue of the whole name,
without a filter. Either way no two loops have the same source. A reader that is opened for a loop
has a link to the loop's source, and whatever fails before, readers opened for loops of different
kinds or projects are not even tried with the same source. Of all other names, those with exactly
one dot are split, into two parts that give the name back with a dot between them. -/
theorem sources_keep_loops_apart :
    (∀ (kind : WorkKind) (project : ProjectId),
      LinkSource.ofQueue true (kind.queueName project.text) =
        ⟨kind.queueBase, some project.text⟩ ∧
      (LinkSource.ofQueue true (kind.queueName project.text)).filters =
        [Filter.ofGroup project.text] ∧
      LinkSource.ofQueue false (kind.queueName project.text) =
        ⟨kind.queueName project.text, none⟩ ∧
      (LinkSource.ofQueue false (kind.queueName project.text)).filters = []) ∧
    (∀ usesSessionFilters : Bool, Function.Injective fun loop : WorkKind × ProjectId =>
      LinkSource.ofQueue usesSessionFilters (loop.1.queueName loop.2.text)) ∧
    (∀ (settings : Settings.Broker) (script : Script) (calls : List Call) (more : Nat),
      (Dealings.start settings script).1 = .ok () →
      let history := (Dealings.start settings script).2.history more calls
      ∀ entry ∈ history, ∀ kind project, entry.call = .ofLoop kind project →
        (∀ reader, entry.reply = .opened (some (.ok reader)) → ∃ session link,
          entry.acts.getLast? =
            some (attaching settings (kind.queueName project.text) session (.ok link))) ∧
        ∀ entry' ∈ history, ∀ kind' project', entry'.call = .ofLoop kind' project' →
          ∀ source ∈ entry.acts.filterMap Act.source?,
            source ∈ entry'.acts.filterMap Act.source? → kind = kind' ∧ project = project') ∧
    (∀ name : String, ((splitGroup? name).isSome ↔ name.toList.count '.' = 1) ∧
      (splitGroup? name = none → LinkSource.ofQueue true name = ⟨name, none⟩) ∧
      ∀ queue group, splitGroup? name = some (queue, group) →
        LinkSource.ofQueue true name = ⟨queue, some group⟩ ∧ queue ++ "." ++ group = name) := by
  refine ⟨?sources, ?injective, ?histories, ?names⟩
  case sources =>
    intro kind project
    have grouped := LinkSource.ofQueue_true_queueName kind project
    refine ⟨grouped, ?_, rfl, rfl⟩
    rw [grouped]
    rfl
  case injective =>
    rintro usesSessionFilters ⟨kind, project⟩ ⟨kind', project'⟩ same
    obtain ⟨rfl, rfl⟩ := LinkSource.eq_of_ofQueue_eq same
    rfl
  case histories =>
    intro settings script calls more connected history entry member kind project asked
    obtain ⟨held, follows⟩ := Dealings.exists_follows connected member
    refine ⟨fun reader replied => follows.attaches asked replied, ?_⟩
    intro entry' member' kind' project' asked' source attached attached'
    obtain ⟨held', follows'⟩ := Dealings.exists_follows connected member'
    obtain ⟨queue, named, rfl⟩ := follows.areFor attached
    obtain ⟨queue', named', same⟩ := follows'.areFor attached'
    obtain rfl : kind.queueName project.text = queue := by
      injection asked.symm.trans named
    obtain rfl : kind'.queueName project'.text = queue' := by
      injection asked'.symm.trans named'
    exact LinkSource.eq_of_ofQueue_eq same
  case names =>
    intro name
    refine ⟨isSome_splitGroup?_iff, LinkSource.ofQueue_true_of_none, ?_⟩
    · intro queue group split
      exact ⟨LinkSource.ofQueue_true_of_split split, (splitGroup?_eq_some_iff.1 split).1.symm⟩

/-- Settings with session filters, and two dials ten seconds apart. -/
def sharedSettings : Settings.Broker := ⟨"amqp://broker", "user", "secret", true, 2, 10⟩

/-- The loops of a project that has two. -/
def italianCalls : List Call :=
  [.ofLoop .worker ⟨"italian", by decide⟩, .ofLoop .job ⟨"italian", by decide⟩]

/-- Though its first link is refused, the second loop of a project is not given the first one's
source. -/
theorem sources_keep_italian_loops_apart :
    (Dealings.start sharedSettings (.ofFailures [] [] [some "refused"] [])).1 = .ok () ∧
    let history := (Dealings.start sharedSettings
      (.ofFailures [] [] [some "refused"] [])).2.history 0 italianCalls
    ∀ entry ∈ history, entry.call = .ofLoop .worker ⟨"italian", by decide⟩ →
      ∀ entry' ∈ history, entry'.call = .ofLoop .job ⟨"italian", by decide⟩ →
        ∀ source ∈ entry.acts.filterMap Act.source?,
          source ∉ entry'.acts.filterMap Act.source? := by
  obtain ⟨-, -, histories, -⟩ := sources_keep_loops_apart
  refine ⟨rfl, ?_⟩
  intro history entry member asked entry' member' asked' source attached attached'
  obtain ⟨-, apart⟩ := histories sharedSettings _ italianCalls 0 rfl entry member _ _ asked
  exact nomatch (apart entry' member' _ _ asked' source attached attached').1

example : ((Dealings.start sharedSettings
      (.ofFailures [] [] [some "refused"] [])).2.history 0 italianCalls).map
        (·.acts.filterMap Act.source?) =
    [[⟨"workers", some "italian"⟩, ⟨"workers", some "italian"⟩], [⟨"jobs", some "italian"⟩]] := by
  decide +kernel

end Amqp

end Turnstile
