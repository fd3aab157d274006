import Mathlib.Data.List.TakeWhile
import Turnstile.Http.Client
import Turnstile.Proofs.Separators
import Turnstile.Proofs.Text.Utf8

/-!
# What a query says

Form data is read back as whoever gets it reads it: it is cut at its ampersands, each piece at its
first equality sign, a plus sign is a space, and a percent sign with two hexadecimal digits is a
byte (`Form.decode`). Pairs of names and values come out as they went in (`Form.decode_encode`),
whatever they consist of, and a query that is made longer says the more after what it said before.

The path of an address has no question mark, so the first one of a request's target begins its
query. Hence the parameters of a request are those of its address and then those that were added
(`Url.split_target`, `Url.decode_withPairs`).
-/

set_option autoImplicit false

namespace Turnstile.Http

theorem hexValue?_hexDigit : ∀ value < 16, hexValue? (hexDigit value) = some value := by
  decide

theorem hexDigit_notMem : ∀ value < 16, hexDigit value ∉ ['&', '=', '?', '+'] := by
  decide

/-- An encoded byte has none of the signs that separate parts of an address or a query. -/
theorem notMem_percent (byte : UInt8) {sign : Char} (separates : sign ∈ ['&', '=', '?']) :
    sign ∉ percent byte := by
  have small : byte.toNat < 256 := byte.toNat_lt
  intro member
  simp only [percent, List.mem_cons, List.not_mem_nil, or_false] at member
  rcases member with rfl | rfl | rfl
  · revert separates
    decide
  · exact hexDigit_notMem _ (by omega) (List.mem_append_left ['+'] separates)
  · exact hexDigit_notMem _ (by omega) (List.mem_append_left ['+'] separates)

namespace Form

/-! ## Reading form data -/

/-- The bytes that a piece of form data stands for. -/
def bytes (piece : List Char) : List UInt8 :=
  percentDecode (piece.map fun character => if character = '+' then ' ' else character)

/-- The text that a piece of form data stands for. -/
def decodeText (piece : List Char) : String := Utf8.decodeLossy (bytes piece)

/-- A name with its value; the value is empty where there is no equality sign. -/
def decodePair (piece : List Char) : String × String :=
  (decodeText (piece.takeWhile (· ≠ '=')), decodeText ((piece.dropWhile (· ≠ '=')).drop 1))

/-- The names and values of a query. Empty pieces do not count. -/
def decode (query : List Char) : List (String × String) :=
  ((query.splitOn '&').filter (· ≠ [])).map decodePair

/-! ## What was written is read back -/

/-- A byte that stands for itself is an ASCII character of its own. -/
theorem plain_of_lt : ∀ value < 256, isPlain (.ofNat value) →
    Char.ofNat value ∉ ['%', '+', '&', '=', '?'] ∧
      String.utf8EncodeChar (Char.ofNat value) = [.ofNat value] := by
  decide +kernel

theorem isPlain_cases {byte : UInt8} (isPlain : isPlain byte) :
    Char.ofNat byte.toNat ∉ ['%', '+', '&', '=', '?'] ∧
      String.utf8EncodeChar (Char.ofNat byte.toNat) = [byte] := by
  simpa using plain_of_lt byte.toNat byte.toNat_lt (by simpa using isPlain)

theorem bytes_cons {character : Char} (noPercent : character ≠ '%') (noPlus : character ≠ '+')
    (rest : List Char) :
    bytes (character :: rest) = String.utf8EncodeChar character ++ bytes rest := by
  rw [bytes, List.map_cons, if_neg noPlus, percentDecode]
  · rfl
  · rintro _ _ _ rfl
    exact absurd rfl noPercent

theorem bytes_encodeByte_append (byte : UInt8) (rest : List Char) :
    bytes (encodeByte byte ++ rest) = byte :: bytes rest := by
  unfold encodeByte
  split_ifs with plain space
  · obtain ⟨ordinary, single⟩ := isPlain_cases plain
    simp only [List.mem_cons, not_or] at ordinary
    rw [List.singleton_append, bytes_cons ordinary.1 ordinary.2.1, single, List.singleton_append]
  · subst space
    rfl
  · have small : byte.toNat < 256 := byte.toNat_lt
    have value : 16 * (byte.toNat / 16) + byte.toNat % 16 = byte.toNat := Nat.div_add_mod _ 16
    have noPlus {digit : Nat} (isDigit : digit < 16) : hexDigit digit ≠ '+' := by
      intro plus
      exact absurd (plus ▸ hexDigit_notMem digit isDigit) (by decide)
    have high : byte.toNat / 16 < 16 := by omega
    have low : byte.toNat % 16 < 16 := by omega
    have sign : '%' ≠ '+' := by decide
    simp only [percent, List.cons_append, List.nil_append, bytes, List.map_cons, if_neg sign,
      if_neg (noPlus high), if_neg (noPlus low), percentDecode, hexValue?_hexDigit _ high,
      hexValue?_hexDigit _ low, value, UInt8.ofNat_toNat]

theorem bytes_encodeText (text : String) : bytes (encodeText text) = Utf8.encode text := by
  unfold encodeText
  induction Utf8.encode text with
  | nil => rfl
  | cons byte rest ih => rw [List.flatMap_cons, bytes_encodeByte_append, ih]

/-- **A text is read as it was written.** -/
theorem decodeText_encodeText (text : String) : decodeText (encodeText text) = text := by
  rw [decodeText, bytes_encodeText, Utf8.decodeLossy, Utf8.encode_eq, Utf8.symbols_encodeAll,
    List.map_map]
  exact (congrArg String.ofList (List.map_id _)).trans String.ofList_toList

/-- The signs that separate names, values and pairs are not used for anything else. -/
theorem notMem_encodeText (text : String) {sign : Char} (separates : sign ∈ ['&', '=', '?']) :
    sign ∉ encodeText text := by
  intro member
  obtain ⟨byte, _, member⟩ := List.mem_flatMap.1 member
  unfold encodeByte at member
  split_ifs at member with plain space
  · rw [List.mem_singleton.1 member] at separates
    exact (isPlain_cases plain).1 (by simp_all)
  · rw [List.mem_singleton.1 member] at separates
    revert separates
    decide
  · exact notMem_percent byte separates member

theorem decodePair_encodePair (pair : String × String) : decodePair (encodePair pair) = pair := by
  obtain ⟨name, value⟩ := pair
  have plain : '=' ∉ encodeText name := notMem_encodeText name (by decide)
  have written : encodePair (name, value) = encodeText name ++ '=' :: encodeText value := by
    rw [encodePair, List.append_assoc]
    rfl
  rw [decodePair, written, takeWhile_ne_append_cons plain, dropWhile_ne_append_cons plain,
    List.drop_one, List.tail_cons, decodeText_encodeText, decodeText_encodeText]

@[simp] theorem decode_nil : decode [] = [] := rfl

/-- **Pairs of names and values are read as they were written.** -/
theorem decode_encode (pairs : List (String × String)) : decode (encode pairs) = pairs := by
  by_cases none : pairs = []
  · rw [none]
    rfl
  · have apart : ∀ piece ∈ pairs.map encodePair, '&' ∉ piece := by
      intro piece member
      obtain ⟨pair, _, rfl⟩ := List.mem_map.1 member
      simp [encodePair, notMem_encodeText]
    have filled : ∀ piece ∈ pairs.map encodePair, decide (piece ≠ []) = true := by
      intro piece member
      obtain ⟨pair, _, rfl⟩ := List.mem_map.1 member
      simp [encodePair]
    rw [decode, encode, List.splitOn_intercalate _ apart (mt List.map_eq_nil_iff.1 none),
      List.filter_eq_self.2 filled, List.map_map]
    exact (List.map_congr_left fun pair _ => decodePair_encodePair pair).trans (List.map_id _)

/-- A query that is made longer says more after what it said before. -/
theorem decode_append (query more : List Char) :
    decode (query ++ ['&'] ++ more) = decode query ++ decode more := by
  rw [decode, List.append_assoc, List.singleton_append, List.splitOn_append_cons_self,
    List.filter_append, List.map_append]
  rfl

end Form

/-! ## The path of an address -/

namespace Url

theorem notMem_encodePathChar {character : Char} (other : character ≠ '?') :
    '?' ∉ encodePathChar character := by
  unfold encodePathChar
  split
  · intro member
    obtain ⟨byte, _, member⟩ := List.mem_flatMap.1 member
    exact notMem_percent byte (by decide) member
  · intro member
    exact other (List.mem_singleton.1 member).symm

theorem mem_of_mem_splitSegments {text segment : List Char} {character : Char}
    (member : segment ∈ splitSegments text) (inside : character ∈ segment) :
    character ∈ text := by
  induction text generalizing segment with
  | nil =>
    rw [List.mem_singleton.1 member] at inside
    exact inside
  | cons head rest ih =>
    rw [splitSegments] at member
    split at member
    · rcases List.mem_cons.1 member with rfl | later
      · exact absurd inside List.not_mem_nil
      · exact List.mem_cons_of_mem _ (ih later inside)
    · split at member
      · rw [List.mem_singleton.1 member] at inside
        exact List.mem_singleton.1 inside ▸ List.mem_cons_self
      · rename_i first others split
        rcases List.mem_cons.1 member with rfl | later
        · rcases List.mem_cons.1 inside with rfl | inside
          · exact List.mem_cons_self
          · exact List.mem_cons_of_mem _ (ih (split ▸ List.mem_cons_self) inside)
        · exact List.mem_cons_of_mem _ (ih (split ▸ List.mem_cons_of_mem _ later) inside)

theorem notMem_flatMap_encodePathChar {segment : List Char} (plain : '?' ∉ segment) :
    '?' ∉ segment.flatMap encodePathChar := by
  intro member
  obtain ⟨character, inside, member⟩ := List.mem_flatMap.1 member
  exact notMem_encodePathChar (fun same => plain (same ▸ inside)) member

theorem notMem_resolve {done segments : List (List Char)}
    (done_plain : ∀ segment ∈ done, '?' ∉ segment) (plain : ∀ segment ∈ segments, '?' ∉ segment) :
    ∀ segment ∈ resolve done segments, '?' ∉ segment := by
  have above_plain (done : List (List Char)) (old : ∀ segment ∈ done, '?' ∉ segment) :
      ∀ segment ∈ done.dropLast, '?' ∉ segment := fun segment member =>
    old segment ((List.dropLast_sublist done).subset member)
  induction done, segments using resolve.induct with
  | case1 done => simpa only [resolve] using done_plain
  | case2 done last above =>
    rw [resolve, if_pos above]
    exact List.forall_mem_append.2 ⟨above_plain done done_plain, by simp⟩
  | case3 done last notAbove here =>
    rw [resolve, if_neg notAbove, if_pos here]
    exact List.forall_mem_append.2 ⟨done_plain, by simp⟩
  | case4 done last notAbove notHere =>
    rw [resolve, if_neg notAbove, if_neg notHere]
    have encoded := notMem_flatMap_encodePathChar (plain last (List.mem_singleton_self _))
    exact List.forall_mem_append.2 ⟨done_plain, List.forall_mem_singleton.2 encoded⟩
  | case5 done first rest nonempty above ih =>
    rw [resolve, if_pos above]
    · exact ih (above_plain done done_plain) (List.forall_mem_cons.1 plain).2
    · exact nonempty
  | case6 done first rest nonempty notAbove here ih =>
    rw [resolve, if_neg notAbove, if_pos here]
    · exact ih done_plain (List.forall_mem_cons.1 plain).2
    · exact nonempty
  | case7 done first rest nonempty notAbove notHere ih =>
    rw [resolve, if_neg notAbove, if_neg notHere]
    · obtain ⟨head, tail⟩ := List.forall_mem_cons.1 plain
      have encoded := notMem_flatMap_encodePathChar head
      exact ih (List.forall_mem_append.2 ⟨done_plain, List.forall_mem_singleton.2 encoded⟩) tail
    · exact nonempty

/-- The path of an address has no question mark. -/
theorem notMem_path {text : String} {url : Url} (parsed : parse text = some url) :
    ∀ segment ∈ url.path, '?' ∉ segment := by
  simp only [parse, Option.bind_eq_bind, Option.bind_eq_some_iff, Option.pure_def,
    Option.some.injEq] at parsed
  obtain ⟨⟨scheme, rest⟩, _, origin, _, rfl⟩ := parsed
  apply notMem_resolve (fun segment member => absurd member List.not_mem_nil)
  intro segment member inside
  have taken := List.mem_of_mem_drop (mem_of_mem_splitSegments member inside)
  have mark := List.mem_takeWhile_imp taken
  simp [endsPath] at mark

/-- What stands after the scheme stood in the address. -/
theorem mem_of_readScheme {text rest : List Char} {scheme : Scheme} {character : Char}
    (read : readScheme text = some (scheme, rest)) (member : character ∈ rest) :
    character ∈ text := by
  unfold readScheme at read
  split at read
  · rename_i colon later found
    have inside : character ∈ text.dropWhile (· ≠ ':') := by
      rw [found]
      apply List.mem_cons_of_mem
      dsimp only at read
      split_ifs at read <;> cases read <;> exact member
    exact (List.dropWhile_sublist _).subset inside
  · cases read

/-- An address without a question mark has no query. -/
theorem query_of_notMem {text : String} {url : Url} (parsed : parse text = some url)
    (plain : '?' ∉ text.toList) : url.query = none := by
  simp only [parse, Option.bind_eq_bind, Option.bind_eq_some_iff, Option.pure_def,
    Option.some.injEq] at parsed
  obtain ⟨⟨scheme, rest⟩, read, origin, _, rfl⟩ := parsed
  dsimp only
  unfold readQuery
  split
  · rename_i mark later found
    have inside : '?' ∈ rest := by
      apply (List.dropWhile_sublist isSlash).subset
      apply (List.dropWhile_sublist _).subset
      apply (List.dropWhile_sublist _).subset
      rw [found]
      exact List.mem_cons_self
    have kept := List.mem_of_mem_filter (mem_of_readScheme read inside)
    have inner := (List.dropWhile_sublist _).subset (List.mem_reverse.1 kept)
    exact absurd ((List.dropWhile_sublist _).subset (List.mem_reverse.1 inner)) plain
  · rfl

end Url

/-! ## The parameters of a request -/

/-- The path that a request is for. -/
def Request.path (request : Request) : List Char := request.target.toList.takeWhile (· ≠ '?')

/-- The names and values that a request carries in its query. -/
def Request.parameters (request : Request) : List (String × String) :=
  Form.decode ((request.target.toList.dropWhile (· ≠ '?')).drop 1)

namespace Url

/-- The first question mark of a target begins its query. -/
theorem split_target {url : Url} (plain : ∀ segment ∈ url.path, '?' ∉ segment) :
    url.target.toList.takeWhile (· ≠ '?') = url.path.flatMap ('/' :: ·) ∧
      Form.decode ((url.target.toList.dropWhile (· ≠ '?')).drop 1) =
        Form.decode (url.query.getD []) := by
  have path : ∀ character ∈ url.path.flatMap ('/' :: ·), decide (character ≠ '?') = true := by
    intro character member
    obtain ⟨segment, inside, member⟩ := List.mem_flatMap.1 member
    refine decide_eq_true fun mark => ?_
    rcases List.mem_cons.1 member with slash | member
    · revert slash
      rw [mark]
      decide
    · exact plain segment inside (mark ▸ member)
  rw [target, String.toList_ofList, List.takeWhile_append_of_pos path,
    List.dropWhile_append_of_pos path]
  cases url.query <;> simp

theorem decode_withPairs (url : Url) (pairs : List (String × String)) :
    Form.decode ((url.withPairs pairs).query.getD []) =
      Form.decode (url.query.getD []) ++ pairs := by
  unfold withPairs
  split
  · rename_i none
    rw [List.isEmpty_iff.1 none, List.append_nil]
  · rcases query : url.query with _ | ⟨_ | ⟨head, rest⟩⟩
    · exact Form.decode_encode pairs
    · exact Form.decode_encode pairs
    · show Form.decode (head :: rest ++ ['&'] ++ Form.encode pairs) = _
      rw [Form.decode_append, Form.decode_encode]
      rfl

@[simp] theorem path_withPairs (url : Url) (pairs : List (String × String)) :
    (url.withPairs pairs).path = url.path := by
  unfold withPairs
  split
  · rfl
  · rcases url.query with _ | ⟨_ | ⟨head, rest⟩⟩ <;> rfl

end Url

/-- A request is made of the address, if that is one of the origin and the token can be sent. -/
theorem Client.request?_eq_some {client : Client} {origin : Origin} {method : Method}
    {path : String} {query : List (String × String)} {request : Request}
    (made : client.request? origin method path query = some request) :
    ∃ url, Url.parse (client.base ++ path) = some url ∧ url.origin = origin ∧
      client.authorization? = some request.authorization ∧ request.method = method ∧
      request.target = (url.withPairs query).target := by
  simp only [request?, Option.bind_eq_bind, Option.bind_eq_some_iff] at made
  obtain ⟨url, parsed, authorization, allowed, made⟩ := made
  by_cases here : url.origin = origin
  · rw [if_pos here] at made
    cases made
    exact ⟨url, parsed, here, allowed, rfl, rfl⟩
  · rw [if_neg here] at made
    cases made

/-- **A request carries the parameters of its call**, after those that the address of the client
has itself. All else is as in a request without any. -/
theorem Client.request?_of_bare {client : Client} {origin : Origin} {method : Method}
    {path : String} {bare : Request} (reaches : client.request? origin method path [] = some bare)
    (query : List (String × String)) :
    ∃ request, client.request? origin method path query = some request ∧
      request.method = bare.method ∧ request.authorization = bare.authorization ∧
      request.path = bare.path ∧ request.parameters = bare.parameters ++ query := by
  obtain ⟨url, parsed, here, allowed, sameMethod, target⟩ := request?_eq_some reaches
  have plain (pairs : List (String × String)) :
      ∀ segment ∈ (url.withPairs pairs).path, '?' ∉ segment := by
    rw [Url.path_withPairs]
    exact Url.notMem_path parsed
  refine ⟨⟨method, (url.withPairs query).target, bare.authorization⟩, ?_, sameMethod.symm, rfl,
    ?_, ?_⟩
  · simp [request?, parsed, allowed, here]
  · rw [Request.path, Request.path, target, (Url.split_target (plain query)).1,
      (Url.split_target (plain [])).1, Url.path_withPairs, Url.path_withPairs]
  · rw [Request.parameters, Request.parameters, target, (Url.split_target (plain query)).2,
      (Url.split_target (plain [])).2, Url.decode_withPairs, Url.decode_withPairs, List.append_nil]

/-- Without a question mark in its address a client adds no parameters of its own. -/
theorem Client.parameters_of_notMem {client : Client} {origin : Origin} {method : Method}
    {path : String} {bare : Request} (reaches : client.request? origin method path [] = some bare)
    (plain : '?' ∉ (client.base ++ path).toList) : bare.parameters = [] := by
  obtain ⟨url, parsed, _, _, _, same⟩ := request?_eq_some reaches
  have target : bare.target = url.target := same
  rw [Request.parameters, target, (Url.split_target (Url.notMem_path parsed)).2,
    Url.query_of_notMem parsed plain]
  rfl

end Turnstile.Http
