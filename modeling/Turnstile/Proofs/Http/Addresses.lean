import Mathlib.Data.List.DropRight
import Turnstile.Http.Client
import Turnstile.Identifier
import Turnstile.Proofs.Separators

/-!
# Addresses below a base

A client puts the path of a call behind its base address and reads the whole as an address. What is
read has the origin of the base and, behind the path of the base without its trailing slashes, the
segments of the call, unchanged (`parse_below`). Nothing in an address is read anew because of what
stands behind it: the scheme ends at the first colon and the host at the first slash behind it
(`origin?_append`, `writtenPath_append`), the path is cut at its slashes
(`splitSegments_append_cons`), and without dot segments each of its segments is taken by itself
(`resolve_of_dotless`). What consists of letters, digits, hyphens and underscores is no dot segment
and stands for itself (`IsPlain.isDotless`, `IsPlain.flatMap_encodePathChar`).

Addresses are read leniently, and a base is taken as it is written. So a base has no blanks or
backslashes here, which no valid address has (`IsBase`): they would be dropped or turned into
slashes only when the whole is read, after the slashes at the end of the base have been taken away.
-/

set_option autoImplicit false

namespace Turnstile.Http.Url

open Identifier (isAllowed)

/-! ## Segments -/

theorem splitSegments_ne_nil (text : List Char) : splitSegments text ≠ [] := by
  fun_cases splitSegments text <;> exact List.cons_ne_nil _ _

theorem splitSegments_eq_splitOnP (text : List Char) :
    splitSegments text = text.splitOnP isSlash := by
  induction text with
  | nil => rfl
  | cons character rest ih =>
    rw [splitSegments, ih, List.splitOnP_cons_eq_if_modifyHead]
    split
    · rfl
    · cases segments : rest.splitOnP isSlash with
      | nil => exact absurd (ih.trans segments) (splitSegments_ne_nil rest)
      | cons segment segments => rfl

theorem splitSegments_append_cons (first : List Char) {slash : Char} (separates : isSlash slash)
    (second : List Char) :
    splitSegments (first ++ slash :: second) = splitSegments first ++ splitSegments second := by
  simp only [splitSegments_eq_splitOnP]
  exact List.splitOnP_append_cons first second separates

theorem splitSegments_of_plain {segment : List Char}
    (plain : ∀ character ∈ segment, isSlash character = false) :
    splitSegments segment = [segment] := by
  rw [splitSegments_eq_splitOnP]
  exact List.splitOnP_eq_singleton plain

/-- The last segment is empty only behind a slash. -/
theorem getLast?_splitSegments_concat (front : List Char) {last : Char}
    (plain : isSlash last = false) : (splitSegments (front ++ [last])).getLast? ≠ some [] := by
  induction front with
  | nil => simp [splitSegments, plain]
  | cons character front ih =>
    have inner := splitSegments_ne_nil (front ++ [last])
    rw [List.cons_append, splitSegments]
    split
    · rwa [List.getLast?_cons_of_ne_nil inner]
    · cases segments : splitSegments (front ++ [last]) with
      | nil => exact absurd segments inner
      | cons segment segments' =>
        rw [segments] at ih
        cases segments' with
        | nil => simp
        | cons other others => simpa using ih

/-- The segments of a path that begins with a slash; the empty path has none. -/
def segmentsOf : List Char → List (List Char)
  | [] => []
  | _ :: rest => splitSegments rest

theorem segmentsOf_append_cons (path : List Char) {slash : Char} (separates : isSlash slash)
    (rest : List Char) :
    segmentsOf (path ++ slash :: rest) = segmentsOf path ++ splitSegments rest := by
  cases path with
  | nil => rfl
  | cons _ path => exact splitSegments_append_cons path separates rest

theorem segmentsOf_append_slashes (path : List Char) (count : Nat) :
    segmentsOf (path ++ List.replicate count '/') =
      segmentsOf path ++ List.replicate count [] := by
  induction count with
  | zero => simp
  | succ count ih =>
    have last : path ++ List.replicate (count + 1) '/' =
        (path ++ List.replicate count '/') ++ '/' :: [] := by
      rw [List.replicate_succ', List.append_assoc]
    rw [last, segmentsOf_append_cons _ rfl, ih, List.replicate_succ', List.append_assoc]
    rfl

/-- The path that segments make up is cut into them again. -/
theorem segmentsOf_flatMap {segments : List (List Char)}
    (plain : ∀ segment ∈ segments, ∀ character ∈ segment, isSlash character = false) :
    segmentsOf (segments.flatMap ('/' :: ·)) = segments := by
  induction segments with
  | nil => rfl
  | cons segment rest ih =>
    obtain ⟨first, others⟩ := List.forall_mem_cons.1 plain
    have later := ih others
    rw [List.flatMap_cons, List.cons_append, segmentsOf]
    cases path : rest.flatMap ('/' :: ·) with
    | nil =>
      rw [path] at later
      rw [List.append_nil, splitSegments_of_plain first, ← later]
      rfl
    | cons slash path' =>
      rw [path] at later
      obtain rfl : slash = '/' := by
        cases rest with
        | nil => cases path
        | cons _ _ => exact (List.cons.inj path).1.symm
      rw [splitSegments_append_cons segment rfl, splitSegments_of_plain first]
      exact congrArg (segment :: ·) later

/-! ## Dot segments -/

/-- Whether a segment stands for itself, and for no other place. -/
def IsDotless (segment : List Char) : Prop := isHere segment = false ∧ isAbove segment = false

instance (segment : List Char) : Decidable (IsDotless segment) :=
  inferInstanceAs (Decidable (_ ∧ _))

theorem plainDots_of_notMem {segment : List Char} (plain : '%' ∉ segment) :
    plainDots segment = segment := by
  fun_induction plainDots segment with
  | case1 => exact absurd List.mem_cons_self plain
  | case2 => exact absurd List.mem_cons_self plain
  | case3 character rest _ ih => rw [ih fun later => plain (List.mem_cons_of_mem _ later)]
  | case4 => rfl

/-- **Without dot segments a path is its segments**, each of them encoded. -/
theorem resolve_of_dotless {segments : List (List Char)}
    (dotless : ∀ segment ∈ segments, IsDotless segment) (done : List (List Char)) :
    resolve done segments = done ++ segments.map (·.flatMap encodePathChar) := by
  induction segments generalizing done with
  | nil => rw [resolve, List.map_nil, List.append_nil]
  | cons segment rest ih =>
    obtain ⟨⟨notHere, notAbove⟩, others⟩ := List.forall_mem_cons.1 dotless
    cases rest with
    | nil => simp [resolve, notHere, notAbove]
    | cons next rest =>
      rw [resolve, if_neg (by simp [notAbove]), if_neg (by simp [notHere]), ih others]
      · simp
      · exact List.cons_ne_nil next rest

theorem encodePathChar_ne_nil (character : Char) : encodePathChar character ≠ [] := by
  unfold encodePathChar
  split
  · intro empty
    have bytes : String.utf8EncodeChar character ≠ [] := by
      apply List.ne_nil_of_length_pos
      rw [String.length_utf8EncodeChar]
      exact character.utf8Size_pos
    obtain ⟨byte, rest, encoded⟩ := List.exists_cons_of_ne_nil bytes
    rw [percentChar, encoded] at empty
    cases empty
  · exact List.cons_ne_nil _ _

theorem flatMap_encodePathChar_eq_nil_iff {segment : List Char} :
    segment.flatMap encodePathChar = [] ↔ segment = [] := by
  cases segment with
  | nil => simp
  | cons character rest => simp [encodePathChar_ne_nil]

/-! ## Plain segments -/

/-- A segment of characters that may stand in an identifier. -/
def IsPlain (segment : List Char) : Prop := ∀ character ∈ segment, isAllowed character

/-- The characters of an identifier are ASCII. -/
theorem toNat_lt_of_isAllowed {character : Char} (allowed : isAllowed character) :
    character.toNat < 128 := by
  have below {bound : UInt32} (inside : character.val ≤ bound) (small : bound < 128) :
      character.toNat < 128 :=
    Nat.lt_of_le_of_lt inside small
  simp only [isAllowed, Bool.or_eq_true, beq_iff_eq] at allowed
  obtain (named | rfl) | rfl := allowed
  · obtain letter | digit := Bool.or_eq_true_iff.1 named
    · obtain upper | lower := Bool.or_eq_true_iff.1 letter
      · exact below (of_decide_eq_true upper).2 (by decide)
      · exact below (of_decide_eq_true (Bool.and_eq_true_iff.1 lower).2) (by decide)
    · exact below (of_decide_eq_true (Bool.and_eq_true_iff.1 digit).2) (by decide)
  · decide
  · decide

/-- None of the characters of an identifier means anything in an address. -/
theorem isAllowed_cases {character : Char} (allowed : isAllowed character) :
    encodePathChar character = [character] ∧ isOuterBlank character = false ∧
      isSlash character = false ∧ endsPath character = false := by
  have all : ∀ code < 128, isAllowed (.ofNat code) →
      encodePathChar (.ofNat code) = [.ofNat code] ∧ isOuterBlank (.ofNat code) = false ∧
        isSlash (.ofNat code) = false ∧ endsPath (.ofNat code) = false := by decide +kernel
  have found := all character.toNat (toNat_lt_of_isAllowed allowed)
  rw [Char.ofNat_toNat] at found
  exact found allowed

namespace IsPlain

variable {segment : List Char}

theorem isDotless (plain : IsPlain segment) : IsDotless segment := by
  have percent : '%' ∉ segment := fun member => absurd (plain _ member) (by decide)
  have dot : '.' ∉ segment := fun member => absurd (plain _ member) (by decide)
  rw [IsDotless, isHere, isAbove, plainDots_of_notMem percent]
  constructor
  · apply beq_false_of_ne
    rintro rfl
    exact dot List.mem_cons_self
  · apply beq_false_of_ne
    rintro rfl
    exact dot List.mem_cons_self

/-- A plain segment stands in a path as it is. -/
theorem flatMap_encodePathChar (plain : IsPlain segment) :
    segment.flatMap encodePathChar = segment := by
  induction segment with
  | nil => rfl
  | cons character rest ih =>
    obtain ⟨allowed, others⟩ := List.forall_mem_cons.1 plain
    rw [List.flatMap_cons, (isAllowed_cases allowed).1, ih others]
    rfl

end IsPlain

/-! ## The parts of an address -/

/-- What follows the scheme of an address, from the host on. -/
def fromHost (text : List Char) : List Char := ((text.dropWhile (· ≠ ':')).drop 1).dropWhile isSlash

/-- Whether a character ends the host of an address, with its port. -/
def endsHost (character : Char) : Bool := isSlash character || endsPath character

/-- The path of an address as it is written, with its query. -/
def writtenPath (text : List Char) : List Char := (fromHost text).dropWhile (!endsHost ·)

/-- The origin of an address. -/
def origin? (text : List Char) : Option Origin :=
  (readScheme text).bind fun (scheme, _) =>
    readAuthority scheme ((fromHost text).takeWhile (!endsHost ·))

theorem eq_drop_of_readScheme {text rest : List Char} {scheme : Scheme}
    (read : readScheme text = some (scheme, rest)) :
    rest = (text.dropWhile (· ≠ ':')).drop 1 := by
  unfold readScheme at read
  split at read
  · rename_i colon later found
    dsimp only at read
    rw [found]
    split_ifs at read <;> cases read <;> rfl
  · cases read

/-- **What an address says** is its origin, its path and its query. -/
theorem parse_eq (text : String) : parse text = (origin? (clean text.toList)).map fun origin =>
    let written := writtenPath (clean text.toList)
    ⟨origin, readPath (written.takeWhile (!endsPath ·)),
      readQuery (written.dropWhile (!endsPath ·))⟩ := by
  rw [parse, origin?, Option.bind_eq_bind, Option.map_eq_bind, Option.bind_assoc]
  apply Option.bind_congr
  rintro ⟨scheme, rest⟩ read
  obtain rfl := eq_drop_of_readScheme read
  rfl

theorem readAuthority_nil (scheme : Scheme) : readAuthority scheme [] = none := by
  cases scheme <;> rfl

/-- An address with an origin has something where the host should be. -/
theorem fromHost_ne_nil {text : List Char} {origin : Origin} (found : origin? text = some origin) :
    fromHost text ≠ [] := by
  intro none
  obtain ⟨⟨scheme, rest⟩, -, authority⟩ := Option.bind_eq_some_iff.1 found
  have missing : readAuthority scheme ((fromHost text).takeWhile (!endsHost ·)) = .none := by
    rw [none, List.takeWhile_nil, readAuthority_nil]
  cases missing.symm.trans authority

/-- The scheme is what stands before the first colon. -/
theorem readScheme_append {text : List Char} (colon : ':' ∈ text) (tail : List Char) :
    readScheme (text ++ tail) =
      (readScheme text).map fun (scheme, rest) => (scheme, rest ++ tail) := by
  obtain ⟨name, rest, rfl, plain⟩ := List.eq_append_cons_of_mem colon
  rw [List.append_assoc, List.cons_append]
  simp only [readScheme, takeWhile_ne_append_cons plain, dropWhile_ne_append_cons plain]
  split_ifs <;> rfl

section Tails

variable {text tail : List Char}

theorem colon_mem_of_fromHost_ne_nil (host : fromHost text ≠ []) : ':' ∈ text := by
  by_contra missing
  have none : text.dropWhile (· ≠ ':') = [] :=
    List.dropWhile_eq_nil_iff.2 fun character member =>
      decide_eq_true fun same => missing (same ▸ member)
  rw [fromHost, none] at host
  exact host rfl

theorem fromHost_append_of_colon_mem (colon : ':' ∈ text) (tail : List Char) :
    fromHost (text ++ tail) =
      (((text.dropWhile (· ≠ ':')).drop 1) ++ tail).dropWhile isSlash := by
  obtain ⟨name, rest, rfl, plain⟩ := List.eq_append_cons_of_mem colon
  rw [List.append_assoc, List.cons_append, fromHost, dropWhile_ne_append_cons plain,
    dropWhile_ne_append_cons plain]
  rfl

theorem fromHost_append (host : fromHost text ≠ []) (tail : List Char) :
    fromHost (text ++ tail) = fromHost text ++ tail := by
  have something : ¬(((text.dropWhile (· ≠ ':')).drop 1).dropWhile isSlash).isEmpty = true :=
    fun none => host (List.isEmpty_iff.1 none)
  rw [fromHost_append_of_colon_mem (colon_mem_of_fromHost_ne_nil host), List.dropWhile_append,
    if_neg something]
  rfl

/-- Slashes are no host. -/
theorem fromHost_ne_nil_of_append_slashes {count : Nat}
    (host : fromHost (text ++ List.replicate count '/') ≠ []) : fromHost text ≠ [] := by
  intro none
  apply host
  have colon : ':' ∈ text := by
    have inside := colon_mem_of_fromHost_ne_nil host
    obtain inside | slash := List.mem_append.1 inside
    · exact inside
    · exact absurd (List.eq_of_mem_replicate slash) (by decide)
  have nothing : (((text.dropWhile (· ≠ ':')).drop 1).dropWhile isSlash).isEmpty = true :=
    List.isEmpty_iff.2 none
  rw [fromHost_append_of_colon_mem colon, List.dropWhile_append, if_pos nothing]
  exact List.dropWhile_eq_nil_iff.2 fun character member =>
    (List.eq_of_mem_replicate member).symm ▸ rfl

/-- **What stands behind an address does not change its origin**, if it begins as a path does. -/
theorem origin?_append (host : fromHost text ≠ [])
    (ends : ∀ character ∈ tail.head?, endsHost character) :
    origin? (text ++ tail) = origin? text := by
  have stops : ∀ character ∈ tail.head?, (!endsHost character) = false := fun character first =>
    by rw [ends character first]; rfl
  rw [origin?, origin?, readScheme_append (colon_mem_of_fromHost_ne_nil host),
    fromHost_append host, (span_append _ fun _ => stops).1]
  cases readScheme text with
  | none => rfl
  | some read => rfl

/-- It is the end of the path. -/
theorem writtenPath_append (host : fromHost text ≠ [])
    (ends : ∀ character ∈ tail.head?, endsHost character) :
    writtenPath (text ++ tail) = writtenPath text ++ tail := by
  have stops : ∀ character ∈ tail.head?, (!endsHost character) = false := fun character first =>
    by rw [ends character first]; rfl
  rw [writtenPath, fromHost_append host, (span_append _ fun _ => stops).2]
  rfl

end Tails

/-! ## Bases -/

/-- Nothing is dropped from an address without blanks. -/
theorem clean_of_strict {text : List Char}
    (strict : ∀ character ∈ text, isOuterBlank character = false) : clean text = text := by
  have kept (part : List Char) (inside : part ⊆ text) : part.dropWhile isOuterBlank = part := by
    cases part with
    | nil => rfl
    | cons first rest =>
      apply List.dropWhile_cons_of_neg
      rw [strict first (inside List.mem_cons_self)]
      exact Bool.false_ne_true
  rw [clean, kept text (List.Subset.refl _), kept _ fun _ => List.mem_reverse.1,
    List.reverse_reverse]
  apply List.filter_eq_self.2
  intro character member
  have notBlank := strict character member
  apply decide_eq_true
  refine ⟨?_, ?_, ?_⟩ <;> rintro rfl <;> exact absurd notBlank (by decide)

theorem writtenPath_suffix (text : List Char) : writtenPath text <:+ text := by
  have colon : (text.dropWhile (· ≠ ':')).drop 1 <:+ text :=
    (List.drop_suffix 1 _).trans (List.dropWhile_suffix _)
  exact (List.dropWhile_suffix _).trans ((List.dropWhile_suffix _).trans colon)

/-- An address without blanks, queries and fragments says an origin and a path. -/
theorem parse_of_bare {text : String}
    (strict : ∀ character ∈ text.toList, isOuterBlank character = false)
    (bare : ∀ character ∈ text.toList, endsPath character = false) :
    parse text = (origin? text.toList).map fun origin =>
      ⟨origin, readPath (writtenPath text.toList), none⟩ := by
  have goesOn : ∀ character ∈ writtenPath text.toList, (!endsPath character) = true := by
    intro character member
    rw [bare character ((writtenPath_suffix _).subset member)]
    rfl
  rw [parse_eq, clean_of_strict strict]
  dsimp only
  rw [List.takeWhile_eq_self_iff.2 goesOn, List.dropWhile_eq_nil_iff.2 goesOn]
  rfl

/-- A path that has something in it is read as its segments. -/
theorem readPath_of_dotless {text : List Char} (nonempty : text ≠ [])
    (dotless : ∀ segment ∈ segmentsOf text, IsDotless segment) :
    readPath text = (segmentsOf text).map (·.flatMap encodePathChar) := by
  cases text with
  | nil => exact absurd rfl nonempty
  | cons slash rest => exact (resolve_of_dotless dotless []).trans (List.nil_append _)

/-- The segments of a path without its trailing slashes. -/
def trim (path : List (List Char)) : List (List Char) := path.rdropWhile (·.isEmpty)

theorem trim_append_replicate {path : List (List Char)} (full : path.getLast? ≠ some [])
    (count : Nat) : trim (path ++ List.replicate count []) = path := by
  induction count with
  | zero =>
    rw [List.replicate_zero, List.append_nil, trim, List.rdropWhile_eq_self_iff]
    intro nonempty empty
    apply full
    rw [List.getLast?_eq_some_getLast nonempty, List.isEmpty_iff.1 empty]
  | succ count ih =>
    rw [List.replicate_succ', ← List.append_assoc, trim, List.rdropWhile_concat_pos _ _ _ rfl]
    exact ih

/-- The address is a base: it can be read, and it has no query, no fragment and no dot segment. It
is written as addresses are to be, without blanks and backslashes. -/
structure IsBase (address : String) (base : Url) : Prop where
  parsed : parse address = some base
  bare : ∀ character ∈ address.toList, endsPath character = false
  dotless : ∀ segment ∈ segmentsOf (writtenPath address.toList), IsDotless segment
  strict : ∀ character ∈ address.toList, isOuterBlank character = false ∧ character ≠ '\\'

section Bases

variable {address : String} {base : Url}

/-- The address without its trailing slashes, as a client keeps it. -/
def trimmed (address : String) : List Char := address.toList.rdropWhile (· == '/')

theorem toList_base_ofAddress (address : String) (token : Option String) :
    (Client.ofAddress address token).base.toList = trimmed address :=
  String.toList_ofList

/-- An address is what is kept of it, and slashes. -/
theorem exists_slashes (address : String) :
    ∃ count, address.toList = trimmed address ++ List.replicate count '/' := by
  have slashes : ∀ character ∈ address.toList.rtakeWhile (· == '/'), character = '/' :=
    fun character member => by simpa using List.mem_rtakeWhile_imp member
  refine ⟨(address.toList.rtakeWhile (· == '/')).length, ?_⟩
  rw [← List.eq_replicate_of_mem slashes]
  exact List.rdropWhile_append_rtakeWhile.symm

namespace IsBase

theorem mem_of_mem_trimmed {character : Char} (member : character ∈ trimmed address) :
    character ∈ address.toList :=
  (List.rdropWhile_prefix _ _).subset member

theorem isSlash_getLast (isBase : IsBase address base) {front : List Char} {last : Char}
    (ends : trimmed address = front ++ [last]) : isSlash last = false := by
  have nonempty : trimmed address ≠ [] := by simp [ends]
  have notSlash := List.rdropWhile_last_not (· == '/') address.toList nonempty
  have same : (trimmed address).getLast nonempty = last := by simp [ends]
  have inside : last ∈ trimmed address := same ▸ List.getLast_mem nonempty
  have notBackslash := (isBase.strict last (mem_of_mem_trimmed inside)).2
  rw [show (address.toList.rdropWhile (· == '/')).getLast nonempty = last from same] at notSlash
  simpa [isSlash, notBackslash] using notSlash

/-- What is kept of a base has its origin, and the path as it was written up to the slashes. -/
theorem parts (isBase : IsBase address base) : ∃ count,
    fromHost (trimmed address) ≠ [] ∧ origin? (trimmed address) = some base.origin ∧
      writtenPath address.toList = writtenPath (trimmed address) ++ List.replicate count '/' ∧
      base.path = readPath (writtenPath address.toList) := by
  obtain ⟨count, whole⟩ := exists_slashes address
  have parsed := isBase.parsed
  rw [parse_of_bare (fun character member => (isBase.strict character member).1) isBase.bare]
    at parsed
  obtain ⟨origin, found, rfl⟩ := Option.map_eq_some_iff.1 parsed
  have host := fromHost_ne_nil found
  rw [whole] at host
  have host' := fromHost_ne_nil_of_append_slashes host
  have slashes : ∀ character ∈ (List.replicate count '/').head?, endsHost character := by
    intro character first
    rw [List.eq_of_mem_replicate (List.mem_of_mem_head? first)]
    rfl
  refine ⟨count, host', ?_, ?_, rfl⟩
  · rw [← origin?_append host' slashes, ← whole]
    exact found
  · rw [← writtenPath_append host' slashes, ← whole]

/-- The path that is kept of a base does not end with a slash. -/
theorem getLast?_segmentsOf (isBase : IsBase address base) :
    (segmentsOf (writtenPath (trimmed address))).getLast? ≠ some [] := by
  cases path : writtenPath (trimmed address) with
  | nil => exact nofun
  | cons slash rest =>
    have isLast (front : List Char) (last : Char) (ends : slash :: rest = front ++ [last]) :
        isSlash last = false := by
      obtain ⟨before, whole⟩ := writtenPath_suffix (trimmed address)
      rw [path, ends, ← List.append_assoc] at whole
      exact isBase.isSlash_getLast whole.symm
    rcases List.eq_nil_or_concat' rest with rfl | ⟨front, last, rfl⟩
    · -- What begins a path ends a host, and a base has neither queries nor fragments.
      exfalso
      have begins := List.head?_dropWhile_not (!endsHost ·) (fromHost (trimmed address))
      rw [show (fromHost (trimmed address)).dropWhile (!endsHost ·) = [slash] from path] at begins
      have inside : slash ∈ trimmed address :=
        (writtenPath_suffix _).subset (path ▸ List.mem_cons_self)
      have bare := isBase.bare slash (mem_of_mem_trimmed inside)
      simp [endsHost, bare, isLast [] slash rfl] at begins
    · exact getLast?_splitSegments_concat front (isLast (slash :: front) last rfl)

end IsBase

/-- The path of a base without its trailing slashes is what was kept of it. -/
theorem IsBase.trim_path (isBase : IsBase address base) :
    (∀ segment ∈ segmentsOf (writtenPath (trimmed address)), IsDotless segment) ∧
      trim base.path =
        (segmentsOf (writtenPath (trimmed address))).map (·.flatMap encodePathChar) := by
  obtain ⟨count, -, -, written, read⟩ := isBase.parts
  have dotless := isBase.dotless
  have full := isBase.getLast?_segmentsOf
  rw [written] at dotless read
  generalize writtenPath (trimmed address) = kept at dotless full read ⊢
  rw [segmentsOf_append_slashes] at dotless
  refine ⟨(List.forall_mem_append.1 dotless).1, ?_⟩
  by_cases something : kept ++ List.replicate count '/' = []
  · -- There is no path at all, which is read as the path of one slash.
    rw [(List.append_eq_nil_iff.1 something).1, read, something]
    rfl
  · rw [read, readPath_of_dotless something (by rwa [segmentsOf_append_slashes]),
      segmentsOf_append_slashes, List.map_append, List.map_replicate]
    apply trim_append_replicate
    rw [List.getLast?_map]
    intro empty
    obtain ⟨last, isLast, encoded⟩ := Option.map_eq_some_iff.1 empty
    rw [flatMap_encodePathChar_eq_nil_iff.1 encoded] at isLast
    exact full isLast

/-- The path that plain segments make up has no character that is dropped or ends a path. -/
theorem strict_of_plain {segments : List (List Char)}
    (plain : ∀ segment ∈ segments, IsPlain segment) :
    ∀ character ∈ segments.flatMap ('/' :: ·),
      isOuterBlank character = false ∧ endsPath character = false := by
  intro character member
  obtain ⟨segment, inside, member⟩ := List.mem_flatMap.1 member
  rcases List.mem_cons.1 member with rfl | member
  · decide
  · obtain ⟨-, notBlank, -, bare⟩ := isAllowed_cases (plain segment inside character member)
    exact ⟨notBlank, bare⟩

/-- Behind a path come the segments of another one. -/
theorem segmentsOf_append_flatMap (path : List Char) {segments : List (List Char)}
    (plain : ∀ segment ∈ segments, IsPlain segment) :
    segmentsOf (path ++ segments.flatMap ('/' :: ·)) = segmentsOf path ++ segments := by
  have cut : segmentsOf (segments.flatMap ('/' :: ·)) = segments :=
    segmentsOf_flatMap fun segment inside character member =>
      (isAllowed_cases (plain segment inside character member)).2.2.1
  cases segments with
  | nil => simp
  | cons segment rest =>
    rw [List.flatMap_cons, List.cons_append, segmentsOf_append_cons path rfl]
    exact congrArg (segmentsOf path ++ ·) cut

section Below

variable {segments : List (List Char)}

/-- The path below a base as it is written is read as that of the base, without its trailing
slashes, and the segments. -/
theorem IsBase.readPath_below (isBase : IsBase address base) (nonempty : segments ≠ [])
    (plain : ∀ segment ∈ segments, IsPlain segment) :
    readPath (writtenPath (trimmed address) ++ segments.flatMap ('/' :: ·)) =
      trim base.path ++ segments := by
  obtain ⟨dotless, trimmedPath⟩ := isBase.trim_path
  have cut := segmentsOf_append_flatMap (writtenPath (trimmed address)) plain
  have same : segments.map (·.flatMap encodePathChar) = segments :=
    (List.map_congr_left fun segment inside => (plain segment inside).flatMap_encodePathChar).trans
      (List.map_id segments)
  have some : writtenPath (trimmed address) ++ segments.flatMap ('/' :: ·) ≠ [] := by
    obtain ⟨segment, rest, rfl⟩ := List.exists_cons_of_ne_nil nonempty
    simp
  rw [readPath_of_dotless some, cut, List.map_append, same, trimmedPath]
  rw [cut]
  exact List.forall_mem_append.2 ⟨dotless, fun segment inside => (plain segment inside).isDotless⟩

/-- **A path below a base** is that of the base, without its trailing slashes, and what was put
behind it. -/
theorem parse_below (isBase : IsBase address base) (token : Option String)
    (nonempty : segments ≠ []) (plain : ∀ segment ∈ segments, IsPlain segment) {path : String}
    (written : path.toList = segments.flatMap ('/' :: ·)) :
    parse ((Client.ofAddress address token).base ++ path) =
      some ⟨base.origin, trim base.path ++ segments, none⟩ := by
  obtain ⟨count, host, found, -, -⟩ := isBase.parts
  have whole : ((Client.ofAddress address token).base ++ path).toList =
      trimmed address ++ segments.flatMap ('/' :: ·) := by
    rw [String.toList_append, toList_base_ofAddress, written]
  have slash : ∀ character ∈ (segments.flatMap ('/' :: ·)).head?, endsHost character := by
    obtain ⟨segment, rest, rfl⟩ := List.exists_cons_of_ne_nil nonempty
    rintro _ ⟨⟩
    rfl
  have kept : ∀ character ∈ trimmed address,
      isOuterBlank character = false ∧ endsPath character = false := fun character member =>
    have inside := IsBase.mem_of_mem_trimmed member
    ⟨(isBase.strict character inside).1, isBase.bare character inside⟩
  have strict := List.forall_mem_append.2 ⟨kept, strict_of_plain plain⟩
  rw [← whole] at strict
  rw [parse_of_bare (fun character member => (strict character member).1)
      (fun character member => (strict character member).2), whole,
    origin?_append host slash, writtenPath_append host slash, isBase.readPath_below nonempty plain,
    found, Option.map_some]

/-- The host of a cluster may be an address of eight groups. -/
example :
    parse ((Client.ofAddress "https://[FD00:10:96:0::1]:443/" none).base ++ "/api/v1/pods") =
      some ⟨⟨.https, "[fd00:10:96::1]", 443⟩, ["api", "v1", "pods"].map (·.toList), none⟩ := by
  decide

end Below

end Bases

end Turnstile.Http.Url
