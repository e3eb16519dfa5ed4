import StubProxy.Text.Utf8
import StubProxy.Text.Numeral

/-!
# Directives

A directive says which request it answers and with what: when `method` and `url` are asked for, the
response has this status, body, headers and content type.

* `Headers.insert`: a repeated name keeps its first place and takes the last value.
* `Headers.unlessEmpty`: a directive has no headers rather than an empty table of them.
-/

namespace StubProxy

/-- A response body, of the kind of the rule it comes from. -/
inductive Body where
  | text (s : String)
  | binary (b : List UInt8)
  deriving DecidableEq

namespace Body

/-- The bytes of a body. -/
def bytes : Body → List UInt8
  | text s => Text.Utf8.encode s.toList
  | binary b => b

/-- The text of a text body. -/
def text? : Body → Option String
  | text s => some s
  | binary _ => none

/-- Whether the body is kept as bytes. -/
def isBinary : Body → Bool
  | text _ => false
  | binary _ => true

/-- The number of bytes. -/
def size (b : Body) : Nat := b.bytes.length

end Body

/-- Header names with their values, in the order of their first appearance. -/
abbrev Headers := List (String × String)

namespace Headers

/-- Sets a header: in its place if the exact name is there, else at the end. -/
def insert (name value : String) : Headers → Headers
  | [] => [(name, value)]
  | (n, v) :: h => if n = name then (n, value) :: h else (n, v) :: insert name value h

/-- The value of the header with exactly this name. -/
def find? (name : String) (h : Headers) : Option String := h.lookup name

/-- The headers, if there are any. -/
def unlessEmpty (h : Headers) : Option Headers := if h.isEmpty then none else some h

end Headers

/-- A stubbed response and the request that it is for. -/
structure Directive where
  method : String
  url : String
  status : Nat
  body : Body
  /-- Headers besides the content type. -/
  headers : Option Headers
  contentType : Option String
  deriving DecidableEq

namespace Directive

/-- A directive without headers and content type. -/
def new (method url : String) (status : Nat) (body : Body) : Directive :=
  ⟨method, url, status, body, none, none⟩

/-- The headers in order, none of them if the directive has none. -/
def headerList (d : Directive) : Headers := d.headers.getD []

/-- Sets a header. -/
def withHeader (d : Directive) (name value : String) : Directive :=
  { d with headers := some (Headers.insert name value d.headerList) }

/-- Sets the content type, which is kept apart from the headers. -/
def withContentType (d : Directive) (value : String) : Directive :=
  { d with contentType := some value }

/-- The value of the header with exactly this name. -/
def header? (d : Directive) (name : String) : Option String := d.headers.bind (Headers.find? name)

/-- The content type of a response that declares none. -/
def defaultContentType : String := "text/plain"

/-- The content type that the response is served with. -/
def effectiveContentType (d : Directive) : String := d.contentType.getD defaultContentType

/-- One line that names the directive. -/
def summary (d : Directive) : String :=
  d.method ++ " " ++ d.url ++ " -> " ++ String.ofList (Text.decimal d.status)

end Directive

end StubProxy
