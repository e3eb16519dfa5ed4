import StubProxy.Url.Host
import StubProxy.Url.Path

/-!
# URLs

Reading a URL the way web browsers do, and writing it in its one normal form: scheme and host in
small letters, default ports and dot segments gone, and other characters percent-encoded.

* `Url.parse` reads a text, which must be absolute.
* `Url.toText` writes a URL.
* `normalize` is the normal form of a text; a text that is no URL stays as it is.
-/

namespace StubProxy

/-- An absolute URL, each part as it is written. -/
structure Url where
  scheme : List Char
  userinfo : List Char
  host : Option Url.Host
  hasAuthority : Bool
  port : Option Nat
  path : List Char
  query : Option (List Char)
  fragment : Option (List Char)

namespace Url

open Text

/-- Three families of schemes. -/
inductive Family where
  | web
  | file
  | other
  deriving DecidableEq

/-- The family of a scheme. -/
def family (scheme : List Char) : Family :=
  if ["http", "https", "ws", "wss", "ftp"].any (·.toList = scheme) then .web
  else if scheme = "file".toList then .file
  else .other

/-- Web and file URLs. -/
def isSpecial (f : Family) : Bool := f ≠ .other

/-- The port that goes without saying. -/
def defaultPort (scheme : List Char) : Option Nat :=
  if scheme = "http".toList ∨ scheme = "ws".toList then some 80
  else if scheme = "https".toList ∨ scheme = "wss".toList then some 443
  else if scheme = "ftp".toList then some 21
  else none

/-- What may stand in a scheme. -/
def isSchemeChar (c : Char) : Bool := c.isAlphanum || c = '+' || c = '-' || c = '.'

/-- The scheme in small letters, and what follows its colon. -/
def splitScheme (s : List Char) : Option (List Char × List Char) :=
  if s.head?.any Char.isAlpha then
    match s.dropWhile isSchemeChar with
    | ':' :: r => some ((s.takeWhile isSchemeChar).map Char.toLower, r)
    | _ => none
  else none

/-- What ends an authority. -/
def endsAuthority (special : Bool) (c : Char) : Bool :=
  c = '/' || c = '?' || c = '#' || (special && c = '\\')

/-- The text before and after the last `@`. -/
def splitAtLast (s : List Char) : Option (List Char × List Char) :=
  if '@' ∈ s then
    let host := (s.reverse.takeWhile (· ≠ '@')).reverse
    some (s.take (s.length - host.length - 1), host)
  else none

/-- User name and password as they are written, with the `@` if there is either. -/
def writeUserinfo (s : List Char) : List Char :=
  let (user, password) := splitAtSymbol ':' s
  let user := percentEncode inUserinfo user
  let password := percentEncode inUserinfo password
  let written := if password = [] then user else user ++ ':' :: password
  if written = [] then [] else written ++ ['@']

/-- The length of the host in front: up to a colon outside of brackets. -/
def hostLength : Bool → List Char → Nat
  | _, [] => 0
  | bracketed, c :: s =>
    if c = ':' && !bracketed then 0
    else hostLength (if c = '[' then true else if c = ']' then false else bracketed) s + 1

/-- The port that the digits in front write and what follows; `none` above 65535. -/
def readPort (n : Option Nat) : List Char → Option (Option Nat × List Char)
  | [] => some (n, [])
  | c :: s =>
    match digit? c with
    | some d =>
      let m := 10 * n.getD 0 + d
      if 65535 < m then none else readPort (some m) s
    | none => if c ∈ ['/', '\\', '?', '#'] then some (n, c :: s) else none

/-- The path of a special URL begins with a slash, written or not. -/
def dropSlash : List Char → List Char
  | '/' :: s => s
  | '\\' :: s => s
  | s => s

/-- Path text, and query and fragment behind it. -/
def splitTail (s : List Char) : List Char × Option (List Char) × Option (List Char) :=
  let front := s.takeWhile (· ≠ '#')
  let fragment := match s.dropWhile (· ≠ '#') with
    | [] => none
    | _ :: f => some f
  let path := front.takeWhile (· ≠ '?')
  let query := match front.dropWhile (· ≠ '?') with
    | [] => none
    | _ :: q => some q
  (path, query, fragment)

/-- Fills in query and fragment. -/
def withTail (u : Url) (query fragment : Option (List Char)) : Url :=
  { u with
    query := query.map (percentEncode (inQuery (isSpecial (family u.scheme))))
    fragment := fragment.map (percentEncode inFragment) }

/-- User information, and host with port, of an authority with `rest` behind it. -/
def splitUserinfo (authority rest : List Char) : Option (List Char × List Char) :=
  match splitAtLast authority with
  | none => some ([], authority)
  | some ([], h) => if h = [] ∧ rest ≠ [] then none else some ([], h)
  | some p => some p

/-- The host behind user information as it is written, if there must or may be one. -/
def readHost (special : Bool) (userinfo hostText afterHost : List Char) : Option (Option Host) :=
  if hostText = [] then
    if special ∨ userinfo ≠ [] ∨ afterHost.head? = some ':' then none else some none
  else if special then (Host.read hostText).map some
  else (Host.readOpaque hostText).map some

/-- The port that is written behind a host, if there is one, and what follows. -/
def readWrittenPort : List Char → Option (Option Nat × List Char)
  | ':' :: r => readPort none r
  | r => some (none, r)

/-- The normal form of a path behind an authority. -/
def readRootedPath (special : Bool) (path : List Char) : List Char :=
  if special then (readPath true false true (dropSlash path)).toText
  else match path with
    | [] => []
    | '/' :: p => (readPath false false true p).toText
    | p => (readPath false false true p).toText

/-- A URL with host, port and path, from the text behind the two slashes. -/
def readAuthority (scheme s : List Char) : Option Url := do
  let special := isSpecial (family scheme)
  let authority := s.takeWhile (!endsAuthority special ·)
  let rest := s.dropWhile (!endsAuthority special ·)
  let (userinfo, hostPort) ← splitUserinfo authority rest
  let userinfo := writeUserinfo userinfo
  let n := hostLength false hostPort
  let afterHost := hostPort.drop n ++ rest
  let host ← readHost special userinfo (hostPort.take n) afterHost
  let (port, tail) ← readWrittenPort afterHost
  let (path, query, fragment) := splitTail tail
  let path := readRootedPath special path
  let port := if port = defaultPort scheme then none else port
  some (withTail ⟨scheme, userinfo, host, true, port, path, none, none⟩ query fragment)

/-- Drops the slashes in front down to one. -/
def oneSlash (path : List Char) : List Char := '/' :: path.dropWhile (· = '/')

/-- A file URL with the path text behind its first slash. -/
def fileUrl (host : Option Host) (path : List Char) (query fragment : Option (List Char)) : Url :=
  let trail := readPath true true host.isSome path
  let host := if trail.hasHost then host else none
  withTail ⟨"file".toList, [], host, true, none, oneSlash trail.toText, none, none⟩ query fragment

/-- A file URL from the text behind the colon. -/
def readFile (s : List Char) : Option Url :=
  let isSlash (c : Char) : Bool := c = '/' || c = '\\'
  match s with
  | a :: b :: r =>
    if isSlash a && isSlash b then do
      let hostText := r.takeWhile (!endsAuthority true ·)
      if isDriveLetter hostText then
        let (path, query, fragment) := splitTail r
        some (fileUrl none path query fragment)
      else do
        let (path, query, fragment) := splitTail (r.dropWhile (!endsAuthority true ·))
        if hostText = [] then some (fileUrl none path query fragment)
        else
          let host ← Host.read hostText
          if host = .name "localhost".toList then some (fileUrl none path query fragment)
          else some (fileUrl (some host) (dropSlash path) query fragment)
    else
      let (path, query, fragment) := splitTail s
      some (fileUrl none (dropSlash path) query fragment)
  | _ =>
    let (path, query, fragment) := splitTail s
    some (fileUrl none (dropSlash path) query fragment)

/-- A URL of another scheme without an authority, from the text behind the colon. -/
def readPlain (scheme s : List Char) : Url :=
  let (path, query, fragment) := splitTail s
  let path := match path with
    | '/' :: p => (readPath false false false p).toText
    | p => percentEncode isControl p
  withTail ⟨scheme, [], none, false, none, path, none, none⟩ query fragment

/-- Spaces and controls, which do not count at either end. -/
def isEdge (c : Char) : Bool := c.toNat ≤ 0x20

/-- Tabs and line breaks, which do not count anywhere. -/
def isIgnored (c : Char) : Bool := c = '\t' || c = '\n' || c = '\r'

/-- The URL that a text writes, if it writes one. -/
def parse (s : List Char) : Option Url := do
  let (scheme, r) ← splitScheme ((trim isEdge s).filter (!isIgnored ·))
  match family scheme with
  | .web => readAuthority scheme (r.dropWhile fun c => c = '/' || c = '\\')
  | .file => readFile r
  | .other =>
    match r with
    | '/' :: '/' :: r => readAuthority scheme r
    | r => some (readPlain scheme r)

/-- The text of a URL. A path without an authority must not look like one. -/
def toText (u : Url) : List Char :=
  let authority :=
    if u.hasAuthority then
      '/' :: '/' :: u.userinfo ++ (u.host.map Host.toText).getD []
        ++ (u.port.map fun p => ':' :: decimal p).getD []
    else if ['/', '/'].isPrefixOf u.path then ['/', '.']
    else []
  u.scheme ++ ':' :: authority ++ u.path ++ (u.query.map ('?' :: ·)).getD []
    ++ (u.fragment.map ('#' :: ·)).getD []

/-- The port, written or by default. -/
def effectivePort (u : Url) : Option Nat := u.port.or (defaultPort u.scheme)

/-- The normal form of a URL; any other text is its own. -/
def normalize (s : String) : String :=
  match parse s.toList with
  | some u => String.ofList u.toText
  | none => s

end Url

end StubProxy
