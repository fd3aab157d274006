import Mathlib.Data.List.Basic
import Turnstile.Pod.WatchStream

/-!
# The lines of a watch

A watch is read chunk by chunk, and what a chunk brings need not end where a line ends, or a
character. Still the events are those of the whole lines of all the bytes that were received, and of
the bytes after the last of them, unless the watch broke off before these were ended
(`read_eq_of_received`). So it does not matter how the bytes were cut into chunks, nor what would
have come after a break.

The bytes of a stream that is being read are those that are pending and those still to come
(`Stream.bytes`). Whenever an item is taken, what the lines of these bytes say is that item, and
then what the lines of the bytes left over say (`Stream.isNext_next?`).
-/

set_option autoImplicit false

namespace Turnstile.WatchStream

/-! ## Lines -/

theorem cutLine?_append {line : List UInt8} (whole : lineEnd ∉ line) (rest : List UInt8) :
    cutLine? (line ++ lineEnd :: rest) = some (line, rest) := by
  induction line with
  | nil => simp [cutLine?]
  | cons byte line ih =>
    have goesOn : byte ≠ lineEnd := fun same => whole (same ▸ List.mem_cons_self)
    have later : lineEnd ∉ line := fun member => whole (List.mem_cons_of_mem _ member)
    simp [cutLine?, goesOn, ih later]

theorem eq_append_of_cutLine? {bytes line rest : List UInt8}
    (cut : cutLine? bytes = some (line, rest)) :
    bytes = line ++ lineEnd :: rest ∧ lineEnd ∉ line := by
  induction bytes generalizing line with
  | nil => cases cut
  | cons byte bytes ih =>
    unfold cutLine? at cut
    split at cut
    case isTrue ends =>
      cases cut
      subst ends
      exact ⟨rfl, List.not_mem_nil⟩
    case isFalse goesOn =>
      obtain ⟨⟨later, rest'⟩, found, same⟩ := Option.map_eq_some_iff.1 cut
      cases same
      obtain ⟨rfl, whole⟩ := ih found
      refine ⟨rfl, fun member => ?_⟩
      rcases List.mem_cons.1 member with same | member
      · exact goesOn same.symm
      · exact whole member

theorem not_mem_of_cutLine? {bytes : List UInt8} (uncut : cutLine? bytes = none) :
    lineEnd ∉ bytes := by
  induction bytes with
  | nil => exact List.not_mem_nil
  | cons byte bytes ih =>
    unfold cutLine? at uncut
    split at uncut
    case isTrue => cases uncut
    case isFalse goesOn =>
      intro member
      rcases List.mem_cons.1 member with same | member
      · exact goesOn same.symm
      · exact ih (Option.map_eq_none_iff.1 uncut) member

/-- The bytes are those of whole lines, each followed by its end, and then of one that is not
ended. -/
structure Lines (bytes : List UInt8) (lines : List (List UInt8)) (rest : List UInt8) : Prop where
  bytes_eq : bytes = lines.flatMap (· ++ [lineEnd]) ++ rest
  whole : ∀ line ∈ lines, lineEnd ∉ line
  unended : lineEnd ∉ rest

namespace Lines

variable {bytes line rest : List UInt8} {lines : List (List UInt8)}

theorem of_nil : Lines [] [] [] :=
  ⟨rfl, fun _ member => absurd member List.not_mem_nil, List.not_mem_nil⟩

/-- All bytes are cut into lines. -/
theorem exists_lines (bytes : List UInt8) : ∃ lines rest, Lines bytes lines rest := by
  induction bytes with
  | nil => exact ⟨[], [], of_nil⟩
  | cons byte bytes ih =>
    obtain ⟨lines, rest, cut⟩ := ih
    by_cases ends : byte = lineEnd
    · subst ends
      refine ⟨[] :: lines, rest, by simp [cut.bytes_eq], ?_, cut.unended⟩
      intro line member
      rcases List.mem_cons.1 member with rfl | member
      · exact List.not_mem_nil
      · exact cut.whole line member
    · -- The byte belongs to the first line, be it ended or not.
      have extended : ∀ line, lineEnd ∉ line → lineEnd ∉ byte :: line := by
        intro line whole member
        rcases List.mem_cons.1 member with same | member
        · exact ends same.symm
        · exact whole member
      cases lines with
      | nil =>
        refine ⟨[], byte :: rest, by simp [cut.bytes_eq], ?_, extended rest cut.unended⟩
        exact fun _ member => absurd member List.not_mem_nil
      | cons line lines =>
        refine ⟨(byte :: line) :: lines, rest, by simp [cut.bytes_eq], ?_, cut.unended⟩
        intro other member
        rcases List.mem_cons.1 member with rfl | member
        · exact extended line (cut.whole line List.mem_cons_self)
        · exact cut.whole other (List.mem_cons_of_mem _ member)

/-- Bytes without a line end have no whole lines. -/
theorem eq_of_not_mem (unended : lineEnd ∉ bytes) (cut : Lines bytes lines rest) :
    lines = [] ∧ rest = bytes := by
  cases lines with
  | nil => exact ⟨rfl, cut.bytes_eq.symm⟩
  | cons line lines =>
    have member : lineEnd ∈ bytes := by
      rw [cut.bytes_eq]
      simp
    exact absurd member unended

/-- Bytes that begin with a whole line are cut into this line and the lines of the rest. -/
theorem exists_of_cons (whole : lineEnd ∉ line)
    (cut : Lines (line ++ lineEnd :: bytes) lines rest) :
    ∃ later, lines = line :: later ∧ Lines bytes later rest := by
  cases lines with
  | nil =>
    have same : line ++ lineEnd :: bytes = rest := cut.bytes_eq
    have member : lineEnd ∈ rest := by
      rw [← same]
      simp
    exact absurd member cut.unended
  | cons first later =>
    have same : line ++ lineEnd :: bytes =
        first ++ lineEnd :: (later.flatMap (· ++ [lineEnd]) ++ rest) := by
      simpa using cut.bytes_eq
    have first_whole := cut.whole first List.mem_cons_self
    have both := congrArg cutLine? same
    rw [cutLine?_append whole, cutLine?_append first_whole] at both
    cases both
    exact ⟨later, rfl, rfl, fun other member => cut.whole other (List.mem_cons_of_mem _ member),
      cut.unended⟩

end Lines

/-- The events in some lines; those that hold nothing but blanks are skipped. -/
def ofLines (lines : List (List UInt8)) : List Item :=
  (lines.filter fun line => !line.all isBlank).map ofLine

theorem ofLines_cons_of_blank {line : List UInt8} (blank : line.all isBlank)
    (lines : List (List UInt8)) : ofLines (line :: lines) = ofLines lines := by
  simp [ofLines, blank]

theorem ofLines_cons_of_not_blank {line : List UInt8} (worded : ¬ line.all isBlank)
    (lines : List (List UInt8)) : ofLines (line :: lines) = ofLine line :: ofLines lines := by
  simp [ofLines, worded]

/-! ## Streams -/

/-- The bytes that chunks bring before the stream breaks off, if it does. -/
def received : List Chunk → List UInt8
  | .bytes bytes :: rest => bytes ++ received rest
  | _ => []

/-- What comes after the whole lines: the event in the bytes after them, unless the stream breaks
off before. -/
def ending (isLost : Bool) (rest : List UInt8) : List Item :=
  if isLost then [.error (.unreachable "stream interrupted")] else ofLines [rest]

namespace Stream

/-- The bytes that are not read yet. -/
def bytes (stream : Stream) : List UInt8 :=
  stream.pending ++ if stream.isOver then [] else received stream.coming

/-- Whether the stream is going to break off. -/
def isLost (stream : Stream) : Bool := !stream.isOver && stream.coming.contains .lost

/-- What the next item is, and the bytes after it, by the lines of the bytes. -/
def IsNext (items : List Item) : Option (Item × Stream) → Prop
  | none => items = []
  | some (item, later) => ∃ lines rest, Lines later.bytes lines rest ∧
      items = item :: (ofLines lines ++ ending later.isLost rest)

theorem isNext_next? {stream : Stream} {lines : List (List UInt8)} {rest : List UInt8}
    (cut : Lines stream.bytes lines rest) :
    IsNext (ofLines lines ++ ending stream.isLost rest) stream.next? := by
  fun_induction next? stream generalizing lines with
  | case1 stream line after found blank ih =>
    obtain ⟨pending, whole⟩ := eq_append_of_cutLine? found
    rw [bytes, pending, List.append_assoc, List.cons_append] at cut
    obtain ⟨later, rfl, cutLater⟩ := cut.exists_of_cons whole
    rw [ofLines_cons_of_blank blank]
    exact ih cutLater
  | case2 stream line after found worded =>
    obtain ⟨pending, whole⟩ := eq_append_of_cutLine? found
    rw [bytes, pending, List.append_assoc, List.cons_append] at cut
    obtain ⟨later, rfl, cutLater⟩ := cut.exists_of_cons whole
    rw [ofLines_cons_of_not_blank worded]
    exact ⟨later, rest, cutLater, rfl⟩
  | case3 stream unended isOver blank =>
    rw [bytes, if_pos isOver, List.append_nil] at cut
    obtain ⟨rfl, rfl⟩ := cut.eq_of_not_mem (not_mem_of_cutLine? unended)
    simp [IsNext, ending, isLost, isOver, ofLines, blank]
  | case4 stream unended isOver worded =>
    rw [bytes, if_pos isOver, List.append_nil] at cut
    obtain ⟨rfl, rfl⟩ := cut.eq_of_not_mem (not_mem_of_cutLine? unended)
    refine ⟨[], [], ?_, ?_⟩
    · simpa [bytes, isOver] using Lines.of_nil
    · simp [ending, isLost, isOver, ofLines, worded]
  | case5 stream unended isOver coming ih =>
    have same : (⟨stream.pending, true, stream.coming⟩ : Stream).bytes = stream.bytes := by
      simp [bytes, isOver, coming, received]
    have unlost : stream.isLost = (⟨stream.pending, true, stream.coming⟩ : Stream).isLost := by
      simp [isLost, coming]
    rw [unlost]
    exact ih (same ▸ cut)
  | case6 stream unended isOver chunk later coming ih =>
    have same : (⟨stream.pending ++ chunk, stream.isOver, later⟩ : Stream).bytes =
        stream.bytes := by
      simp [bytes, isOver, coming, received]
    have equally : stream.isLost =
        (⟨stream.pending ++ chunk, stream.isOver, later⟩ : Stream).isLost := by
      simp [isLost, coming]
    rw [equally]
    exact ih (same ▸ cut)
  | case7 stream unended isOver later coming =>
    have same : stream.bytes = stream.pending := by
      simp [bytes, coming, received]
    rw [same] at cut
    obtain ⟨rfl, rfl⟩ := cut.eq_of_not_mem (not_mem_of_cutLine? unended)
    refine ⟨[], [], Lines.of_nil, ?_⟩
    simp [ending, isLost, isOver, coming, ofLines]

theorem items_eq {stream : Stream} {lines : List (List UInt8)} {rest : List UInt8}
    (cut : Lines stream.bytes lines rest) :
    stream.items = ofLines lines ++ ending stream.isLost rest := by
  induction size : stream.size using Nat.strongRecOn generalizing stream lines rest with
  | ind amount ih =>
    have isNext := isNext_next? cut
    unfold items
    split
    case h_1 next =>
      rw [next] at isNext
      exact isNext.symm
    case h_2 item later next =>
      rw [next] at isNext
      obtain ⟨lines', rest', cutLater, same⟩ := isNext
      have less : later.size < amount := size ▸ size_next? next
      rw [same, ih later.size less cutLater rfl]

end Stream

/-- **The events depend on the bytes only.** Whatever chunks bring the bytes, and however these are
cut, the events are those of their whole lines in their order; then comes a fault if the stream
breaks off, and the event in the bytes after the last line end if it does not. Lines of blanks have
no event. -/
theorem read_eq_of_received (bytes : List UInt8) :
    ∃ lines rest, Lines bytes lines rest ∧ ∀ chunks, received chunks = bytes →
      read chunks = (lines.filter fun line => !line.all isBlank).map ofLine ++
        if .lost ∈ chunks then [.error (.unreachable "stream interrupted")]
        else if rest.all isBlank then [] else [ofLine rest] := by
  obtain ⟨lines, rest, cut⟩ := Lines.exists_lines bytes
  refine ⟨lines, rest, cut, fun chunks brought => ?_⟩
  have start : Lines (⟨[], false, chunks⟩ : Stream).bytes lines rest := by
    simpa [Stream.bytes, brought] using cut
  rw [read, Stream.items_eq start, ofLines]
  by_cases lost : .lost ∈ chunks
  · simp [ending, Stream.isLost, lost]
  · by_cases blank : rest.all isBlank
    · simp [ending, Stream.isLost, lost, ofLines, blank]
    · simp [ending, Stream.isLost, lost, ofLines, blank]

end Turnstile.WatchStream
