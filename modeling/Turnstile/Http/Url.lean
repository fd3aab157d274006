import Turnstile.Http.Host

/-!
# Addresses on the web

An address of the schemes `http` and `https` is read leniently: blanks around it and line breaks in
it are dropped, a backslash counts as a slash, `.` and `..` are resolved, and characters that may
not stand in a path or query are percent-encoded. What stands after `#` is not part of a request.
-/

set_option autoImplicit false

namespace Turnstile.Http

/-- The schemes that can be spoken. -/
inductive Scheme where
  | http
  | https
deriving DecidableEq, Repr

/-- The port of a scheme where none is given. -/
def Scheme.port : Scheme → Nat
  | http => 80
  | https => 443

/-- Where a request goes to; the host as it is commonly written (`Host`). -/
structure Origin where
  scheme : Scheme
  host : String
  port : Nat
deriving DecidableEq, Repr

/-- An address: the segments of its path and its query are encoded. -/
structure Url where
  origin : Origin
  path : List (List Char)
  query : Option (List Char)
deriving DecidableEq, Repr

namespace Url

/-! ## Characters -/

/-- Whether a character separates segments. -/
def isSlash (character : Char) : Bool := character == '/' || character == '\\'

/-- Whether a character ends the path. -/
def endsPath (character : Char) : Bool := character == '?' || character == '#'

/-- Whether a character is encoded wherever it stands. -/
def isUnsafe (character : Char) : Bool :=
  character.toNat ≤ 0x20 || 0x7f ≤ character.toNat || character == '"' || character == '<' ||
    character == '>'

/-- A character of a path. -/
def encodePathChar (character : Char) : List Char :=
  if isUnsafe character || character ∈ ['`', '\x7b', '\x7d', '^'] then percentChar character
  else [character]

/-- A character of a query. -/
def encodeQueryChar (character : Char) : List Char :=
  if isUnsafe character || character == '\'' then percentChar character else [character]

/-! ## Parts -/

/-- The scheme before its colon. -/
def readScheme (text : List Char) : Option (Scheme × List Char) :=
  match text.dropWhile (· ≠ ':') with
  | _ :: rest =>
    let name := (text.takeWhile (· ≠ ':')).map Char.toLower
    if name = ['h', 't', 't', 'p'] then some (.http, rest)
    else if name = ['h', 't', 't', 'p', 's'] then some (.https, rest)
    else none
  | [] => none

/-- A port: digits, or nothing for the port of the scheme. -/
def readPort (scheme : Scheme) (digits : List Char) : Option Nat :=
  if digits.isEmpty then some scheme.port
  else if digits.all Char.isDigit then
    let value := digits.foldl (fun value digit => value * 10 + (digit.toNat - 0x30)) 0
    if value < 65536 then some value else none
  else none

/-- A host with its port, after what stands before an at sign. -/
def readAuthority (scheme : Scheme) (text : List Char) : Option Origin := do
  let text := (text.reverse.takeWhile (· ≠ '@')).reverse
  let (host, rest) := Host.cut false text
  let port ← readPort scheme (rest.drop 1)
  return ⟨scheme, ← Host.read host, port⟩

/-- A text cut at its slashes. -/
def splitSegments : List Char → List (List Char)
  | [] => [[]]
  | character :: rest =>
    if isSlash character then [] :: splitSegments rest
    else
      match splitSegments rest with
      | [] => [[character]]
      | segment :: segments => (character :: segment) :: segments

/-- A segment with its percent-encoded dots put plainly, in lower case. -/
def plainDots : List Char → List Char
  | '%' :: '2' :: letter :: rest =>
    if letter = 'e' ∨ letter = 'E' then '.' :: plainDots rest
    else '%' :: '2' :: letter :: plainDots rest
  | character :: rest => character :: plainDots rest
  | [] => []

/-- Whether a segment stands for the place where it is. -/
def isHere (segment : List Char) : Bool := plainDots segment == ['.']

/-- Whether a segment stands for the place above. -/
def isAbove (segment : List Char) : Bool := plainDots segment == ['.', '.']

/-- The path of segments, given the path up to them. -/
def resolve : List (List Char) → List (List Char) → List (List Char)
  | done, [] => done
  | done, [last] =>
    if isAbove last then done.dropLast ++ [[]]
    else if isHere last then done ++ [[]]
    else done ++ [last.flatMap encodePathChar]
  | done, segment :: rest =>
    if isAbove segment then resolve done.dropLast rest
    else if isHere segment then resolve done rest
    else resolve (done ++ [segment.flatMap encodePathChar]) rest

/-- The path in a text that begins with a slash, or is empty. -/
def readPath (text : List Char) : List (List Char) := resolve [] (splitSegments (text.drop 1))

/-- The query in a text that begins with a question mark; none in any other. -/
def readQuery : List Char → Option (List Char)
  | '?' :: rest => some ((rest.takeWhile (· ≠ '#')).flatMap encodeQueryChar)
  | _ => none

/-- Whether a character is dropped at the ends of an address. -/
def isOuterBlank (character : Char) : Bool := character.toNat ≤ 0x20

/-- An address without the characters that do not count. -/
def clean (text : List Char) : List Char :=
  let inner := (text.dropWhile isOuterBlank).reverse.dropWhile isOuterBlank |>.reverse
  inner.filter fun character => character ≠ '\t' ∧ character ≠ '\n' ∧ character ≠ '\r'

/-- Read an address. -/
def parse (text : String) : Option Url := do
  let (scheme, rest) ← readScheme (clean text.toList)
  let rest := rest.dropWhile isSlash
  let ends (character : Char) : Bool := isSlash character || endsPath character
  let origin ← readAuthority scheme (rest.takeWhile (!ends ·))
  let rest := rest.dropWhile (!ends ·)
  return {
    origin
    path := readPath (rest.takeWhile (!endsPath ·))
    query := readQuery (rest.dropWhile (!endsPath ·)) }

/-- The address with more in its query. -/
def withPairs (url : Url) (pairs : List (String × String)) : Url :=
  if pairs.isEmpty then url
  else
    let more := Form.encode pairs
    match url.query with
    | none => { url with query := some more }
    | some [] => { url with query := some more }
    | some query => { url with query := some (query ++ ['&'] ++ more) }

/-- What a request asks the origin for. -/
def target (url : Url) : String :=
  String.ofList (url.path.flatMap ('/' :: ·) ++
    (match url.query with
      | some query => '?' :: query
      | none => []))

end Url

end Turnstile.Http
