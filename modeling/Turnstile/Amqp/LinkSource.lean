/-!
# Link sources

A link takes its messages from a source. Plainly that is the queue of the name asked for. Where
queues are shared between groups, a name of the form `queue.group` means the messages of that
group in that queue: the queue is the address, and a session filter selects the group.
-/

set_option autoImplicit false

namespace Turnstile.Amqp

/-- Where the messages of a link come from. -/
structure LinkSource where
  address : String
  group : Option String
deriving DecidableEq, Repr

/-- The parts of a name with exactly one dot, before and after it. -/
def splitGroup? (name : String) : Option (String × String) :=
  match name.toList.dropWhile (· ≠ '.') with
  | [] => none
  | _ :: group =>
    if '.' ∈ group then none
    else some (String.ofList (name.toList.takeWhile (· ≠ '.')), String.ofList group)

/-- A filter on a source: its name, the code of its type, and what it lets through. -/
structure Filter where
  name : String
  descriptor : Nat
  value : String
deriving DecidableEq, Repr

/-- The filter that selects the messages of a group. -/
def Filter.ofGroup (group : String) : Filter :=
  ⟨"com.microsoft:session-filter", 0x137000000c, group⟩

namespace LinkSource

/-- The source for a queue name, with or without groups. -/
def ofQueue (usesSessionFilters : Bool) (name : String) : LinkSource :=
  match if usesSessionFilters then splitGroup? name else none with
  | some (queue, group) => ⟨queue, some group⟩
  | none => ⟨name, none⟩

/-- The filters of a source. -/
def filters (source : LinkSource) : List Filter := (source.group.map Filter.ofGroup).toList

end LinkSource

/-- The name of the link that serves a queue name. -/
def linkName (queue : String) : String := s!"{queue}-receiver"

end Turnstile.Amqp
