import StubProxy.Text.Split
import StubProxy.Text.Utf8
import StubProxy.Text.Numeral

/-!
# Request targets

The target of an HTTP request is a path, an authority or an absolute URI. `Uri.read` accepts what an
HTTP connection accepts, which is laxer than URLs on most points: nothing is decoded or normalized,
host names may hold any character that may stand in a URI, and ports need not be numbers.
-/

namespace StubProxy

open Text

/-- Why a text is no request target. -/
inductive UriError where
  | empty
  | tooLong
  | schemeTooLong
  | invalidCharacter
  | invalidAuthority
  | invalidFormat
  deriving DecidableEq

/-- The wording of an error. -/
def UriError.message : UriError → String
  | empty => "empty string"
  | tooLong => "uri too long"
  | schemeTooLong => "scheme too long"
  | invalidCharacter => "invalid uri character"
  | invalidAuthority => "invalid authority"
  | invalidFormat => "invalid format"

/-- A request target. -/
inductive Uri where
  /-- A path with its query, or the star. -/
  | path (p : List Char)
  /-- Host and port only. -/
  | authority (a : List Char)
  /-- A URI with a scheme, an authority and whatever path and query follow. -/
  | absolute (scheme a p : List Char)
  deriving DecidableEq

namespace Uri

/-- The longest target in bytes. -/
def maxLength : Nat := 65534

/-- The longest scheme. -/
def maxSchemeLength : Nat := 64

/-- What a scheme may hold. -/
def isSchemeChar (c : Char) : Bool := c.isAlphanum || c = '+' || c = '-' || c = '.' || c = '~'

/-- What an authority may hold without further conditions. -/
def isAuthorityChar (c : Char) : Bool :=
  c.isAlphanum
    || c ∈ ['!', '$', '&', '\'', '(', ')', '*', '+', ',', '-', '.', ';', '=', '_', '~']

/-- What ends an authority. -/
def endsAuthority (c : Char) : Bool := c = '/' || c = '?' || c = '#'

/-- What a path may hold; everything beyond ASCII, too. -/
def isPathChar (c : Char) : Bool :=
  let n := c.toNat
  n = 0x21 || n = 0x22 || (0x24 ≤ n && n ≤ 0x3B) || n = 0x3D || (0x40 ≤ n && n ≤ 0x5F)
    || (0x61 ≤ n && n ≤ 0x7E) || 0x7F ≤ n

/-- What a query may hold; everything beyond ASCII, too. -/
def isQueryChar (c : Char) : Bool :=
  let n := c.toNat
  n = 0x21 || (0x24 ≤ n && n ≤ 0x3B) || n = 0x3D || 0x3F ≤ n

/-- Path and query without the fragment, if they hold nothing forbidden. -/
def readPath (s : List Char) : Except UriError (List Char) :=
  let s := s.takeWhile (· ≠ '#')
  let path := s.takeWhile (· ≠ '?')
  let query := (s.dropWhile (· ≠ '?')).drop 1
  if path.all isPathChar && query.all isQueryChar then .ok s else .error .invalidCharacter

/-- What has been seen of an authority. -/
structure Scan where
  colons : Nat
  opened : Bool
  closed : Bool
  percent : Bool
  lastAt : Bool

/-- One more character of an authority. User information is forgotten at its `@`. -/
def Scan.step (s : Scan) (c : Char) : Except UriError Scan :=
  let s := { s with lastAt := false }
  if c = ':' then
    if 8 ≤ s.colons then .error .invalidAuthority else .ok { s with colons := s.colons + 1 }
  else if c = '[' then
    if s.percent || s.opened then .error .invalidAuthority else .ok { s with opened := true }
  else if c = ']' then
    if !s.opened || s.closed then .error .invalidAuthority
    else .ok { s with closed := true, colons := 0, percent := false }
  else if c = '@' then .ok { s with colons := 0, percent := false, lastAt := true }
  else if c = '%' then .ok { s with percent := true }
  else if isAuthorityChar c then .ok s
  else .error .invalidCharacter

/-- All characters of an authority. -/
def scanAll (s : Scan) : List Char → Except UriError Scan
  | [] => .ok s
  | c :: r =>
    match s.step c with
    | .error e => .error e
    | .ok s => scanAll s r

/-- Checks a text without delimiters, which may be empty, to be an authority. -/
def checkAuthority (s : List Char) : Except UriError Unit :=
  match scanAll ⟨0, false, false, false, false⟩ s with
  | .error e => .error e
  | .ok s =>
    if s.opened == s.closed && s.colons ≤ 1 && !s.lastAt && !s.percent then .ok ()
    else .error .invalidAuthority

/-- The scheme in front and what follows its slashes. The two usual ones are in small letters. -/
def splitScheme (s : List Char) : Option (List Char × List Char) :=
  let name := s.takeWhile isSchemeChar
  match s.drop name.length with
  | ':' :: '/' :: '/' :: r =>
    let lower := name.map Char.toLower
    if lower = "http".toList ∨ lower = "https".toList then some (lower, r) else some (name, r)
  | _ => none

/-- The target behind a scheme: an authority, and whatever path follows. -/
def readAbsolute (scheme s : List Char) : Except UriError Uri :=
  let a := s.takeWhile (!endsAuthority ·)
  if maxSchemeLength < scheme.length then .error .schemeTooLong
  else match checkAuthority a with
    | .error e => .error e
    | .ok () =>
      if a = [] then .error .invalidFormat
      else (readPath (s.drop a.length)).map (.absolute scheme a)

/-- The target that is an authority alone. -/
def readAuthority (s : List Char) : Except UriError Uri :=
  let a := s.takeWhile (!endsAuthority ·)
  match checkAuthority a with
  | .error e => .error e
  | .ok () =>
    if a = s then .ok (.authority s)
    else .error (if s.length = 1 then .invalidCharacter else .invalidFormat)

/-- The target that a text writes. -/
def read (s : List Char) : Except UriError Uri :=
  if maxLength < (Utf8.encode s).length then .error .tooLong
  else match s with
    | [] => .error .empty
    | ['*'] => .ok (.path ['*'])
    | '/' :: _ => (readPath s).map .path
    | _ =>
      match splitScheme s with
      | some (scheme, r) => readAbsolute scheme r
      | none => readAuthority s

/-- A path with a slash in front, unless it is the star. -/
def rooted (p : List Char) : List Char :=
  match p with
  | '/' :: _ | '*' :: _ => p
  | _ => '/' :: p

/-- The text of a target. -/
def toText : Uri → List Char
  | path p => p
  | authority a => a
  | absolute scheme a p => scheme ++ [':', '/', '/'] ++ a ++ rooted p

/-- The authority, if the target has one. -/
def authority? : Uri → Option (List Char)
  | path _ => none
  | authority a => some a
  | absolute _ a _ => some a

end Uri

/-! ### Parts of an authority -/

namespace Authority

/-- The text behind the last `c`, or all of it. -/
def afterLast (c : Char) (s : List Char) : List Char := (s.reverse.takeWhile (· ≠ c)).reverse

/-- The host: what is in brackets, with them, or what stands before the colon. -/
def host (a : List Char) : List Char :=
  let s := afterLast '@' a
  if s.head? = some '[' then s.takeWhile (· ≠ ']') ++ [']'] else s.takeWhile (· ≠ ':')

/-- The port, if what follows the last colon is a number of 16 bits. -/
def port? (a : List Char) : Option Nat :=
  if ':' ∈ a then (readWord16 (afterLast ':' a)).toOption else none

end Authority

end StubProxy
