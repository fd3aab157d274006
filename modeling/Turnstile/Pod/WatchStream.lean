import Turnstile.Pod.Json
import Turnstile.Pod.Watch

/-!
# Watch streams

A watch comes as a stream of bytes in which every line is an event. Lines that hold nothing but
ASCII blanks are skipped, and a last line need not be ended. When the stream breaks off, the lines
that were complete by then have been read, what came of the next one is dropped, and a single fault
ends the stream. How the bytes are cut into chunks does not matter.

A line names the type of the event and carries an object, which is taken as plain data before its
meaning is asked for.
-/

set_option autoImplicit false

namespace Turnstile.WatchStream

open Json

/-- What a watch yields. -/
abbrev Item := Except SubstrateFault WatchEvent

/-! ## Lines -/

/-- How deep values may be nested in the object of a line. -/
def objectDepth : Nat := 126

/-- The fault of a line that makes no sense. -/
def malformed : SubstrateFault := .undecodable "malformed watch line"

/-- The code and the message in the status of an error event. -/
def status? (tree : Tree) : Option (Nat × String) := do
  let parts ← tree.parts? ["code", "message"]
  let code ← parts.getOr "code" 0 (Tree.integer? 0 65535)
  let message ← parts.getOr "message" "" Tree.text?
  return (code.toNat, message)

/-- The event of a type with an object. -/
def ofObject (type : String) (object : Tree) : Item :=
  let withPod (event : Pod → WatchEvent) : Item :=
    match Pod.ofTree? object with
    | some pod => .ok (event pod)
    | none => .error malformed
  match type with
  | "ADDED" => withPod .added
  | "MODIFIED" => withPod .modified
  | "DELETED" => withPod .deleted
  | "BOOKMARK" => withPod fun pod => .bookmark (pod.resourceVersion.getD "")
  | "ERROR" =>
    let (code, message) := (status? object).getD (0, "")
    .error (.watch code message)
  | other => .error (.unexpectedEvent other)

/-- The type and the object in a line. -/
def parts? (line : List UInt8) : Option (String × Tree) := do
  let parts ← (← read? line).parts? ["type", "object"]
  let type ← parts.required "type" Tree.text?
  let object ← parts.required "object" (Tree.generic? objectDepth)
  return (type, object)

/-- The event in a line. -/
def ofLine (line : List UInt8) : Item :=
  match parts? line with
  | some (type, object) => ofObject type object
  | none => .error malformed

/-! ## Streams -/

/-- What comes next in a stream. -/
inductive Chunk where
  | bytes (bytes : List UInt8)
  /-- The stream breaks off. -/
  | lost
deriving DecidableEq, Repr

/-- The byte that ends a line. -/
def lineEnd : UInt8 := 0x0a

/-- Whether a byte is an ASCII blank. -/
def isBlank (byte : UInt8) : Bool :=
  byte == 0x20 || byte == 0x09 || byte == 0x0a || byte == 0x0c || byte == 0x0d

/-- The bytes up to the first line end, and those after it. -/
def cutLine? : List UInt8 → Option (List UInt8 × List UInt8)
  | [] => none
  | byte :: rest =>
    if byte = lineEnd then some ([], rest)
    else (cutLine? rest).map fun (line, rest) => (byte :: line, rest)

theorem length_cutLine? {bytes line rest : List UInt8} (cut : cutLine? bytes = some (line, rest)) :
    rest.length < bytes.length := by
  induction bytes generalizing line with
  | nil => cases cut
  | cons byte bytes ih =>
    unfold cutLine? at cut
    split at cut
    · cases cut
      exact Nat.lt_succ_self _
    · obtain ⟨⟨earlier, later⟩, found, same⟩ := Option.map_eq_some_iff.1 cut
      cases same
      exact Nat.lt_succ_of_lt (ih found)

/-- A stream that is being read. -/
structure Stream where
  /-- The bytes that have come and are not read yet. -/
  pending : List UInt8
  /-- Whether nothing more is taken in. -/
  isOver : Bool
  /-- What is still to come. -/
  coming : List Chunk

/-- How much there is to be worked on in the chunks that are still to come. -/
def Chunk.work : List Chunk → Nat
  | [] => 0
  | bytes held :: rest => held.length + 1 + work rest
  | lost :: rest => 1 + work rest

namespace Stream

/-- How much there is to be worked on. -/
def size (stream : Stream) : Nat :=
  stream.pending.length + Chunk.work stream.coming + (!stream.isOver).toNat

/-- The next item, and the stream after it; none at the end. -/
def next? (stream : Stream) : Option (Item × Stream) :=
  match _ : cutLine? stream.pending with
  | some (line, rest) =>
    if line.all isBlank then next? { stream with pending := rest }
    else some (ofLine line, { stream with pending := rest })
  | none =>
    if _ : stream.isOver then
      if stream.pending.all isBlank then none
      else some (ofLine stream.pending, { stream with pending := [] })
    else
      match _ : stream.coming with
      | [] => next? { stream with isOver := true }
      | .bytes chunk :: rest =>
        next? { stream with pending := stream.pending ++ chunk, coming := rest }
      | .lost :: rest =>
        some (.error (.unreachable "stream interrupted"), ⟨[], true, rest⟩)
  termination_by stream.size
  decreasing_by
    · have shorter := length_cutLine? ‹_›
      simp only [size]
      omega
    · simp [size, *]
    · simp only [size, *, List.length_append, Chunk.work]
      omega

theorem size_next? {stream later : Stream} {item : Item}
    (next : stream.next? = some (item, later)) : later.size < stream.size := by
  fun_induction next? stream with
  | case1 stream line rest cut blank ih =>
    have shorter := length_cutLine? cut
    have less := ih next
    simp only [size] at less ⊢
    omega
  | case2 stream line rest cut =>
    have shorter := length_cutLine? cut
    cases next
    simp only [size]
    omega
  | case3 => cases next
  | case4 stream cut isOver worded =>
    cases next
    cases pending : stream.pending with
    | nil => simp [pending] at worded
    | cons byte rest => simp [size, pending]
  | case5 stream cut isOver coming ih =>
    have less := ih next
    simp only [size] at less ⊢
    simp [isOver] at less ⊢
    omega
  | case6 stream cut isOver chunk rest coming ih =>
    have less := ih next
    simp only [size, coming, List.length_append, Chunk.work] at less ⊢
    omega
  | case7 stream cut isOver rest coming =>
    cases next
    simp only [size, coming, Chunk.work, Bool.not_true, Bool.toNat_false, List.length_nil]
    omega

/-- All items, up to the end. -/
def items (stream : Stream) : List Item :=
  match _ : stream.next? with
  | none => []
  | some (item, later) => item :: items later
  termination_by stream.size
  decreasing_by exact size_next? ‹_›

end Stream

/-- The events of a stream. -/
def read (chunks : List Chunk) : List Item := Stream.items ⟨[], false, chunks⟩

end Turnstile.WatchStream
