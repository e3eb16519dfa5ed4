import StubProxy.Proxy.Uri

/-!
# Requests and responses

Header names are compared without regard to case and kept in small letters; values are bytes.
-/

namespace StubProxy

open Text

/-- A header name in small letters with its value. -/
abbrev Field := String × List UInt8

namespace Field

/-- What a header name may hold. -/
def isTokenChar (c : Char) : Bool :=
  c.isAlphanum
    || c ∈ ['!', '#', '$', '%', '&', '\'', '*', '+', '-', '.', '^', '_', '\x60', '|', '~']

/-- Whether a text can be the name of a header or a method. -/
def isToken (s : List Char) : Bool := s ≠ [] && s.all isTokenChar

/-- The longest header name. -/
def maxNameLength : Nat := 65535

/-- A header name in small letters, if it is a token. -/
def readName (s : String) : Option String :=
  let cs := s.toList
  if isToken cs && cs.length ≤ maxNameLength then
    some (String.ofList (cs.map Char.toLower))
  else none

/-- What a header value may hold. -/
def isValueByte (b : UInt8) : Bool := b = 9 || (0x20 ≤ b && b ≠ 0x7F)

/-- Whether bytes may stand in a header. -/
def isValue (b : List UInt8) : Bool := b.all isValueByte

/-- A header, if name and value are valid. -/
def read (name : String) (value : List UInt8) : Option Field :=
  (readName name).bind fun n => if isValue value then some (n, value) else none

/-- The text of a value in visible ASCII. -/
def text? (value : List UInt8) : Option String :=
  if value.all fun b => b = 9 || (0x20 ≤ b && b < 0x7F) then
    some (String.ofList (value.map fun b => Char.ofNat b.toNat))
  else none

end Field

/-- Headers of a message. -/
abbrev Fields := List Field

namespace Fields

/-- Sets a header: in its place if the name is there, else at the end. -/
def insert (f : Field) : Fields → Fields
  | [] => [f]
  | g :: fs => if g.1 = f.1 then f :: fs else g :: insert f fs

/-- Headers that concern one connection only. -/
def hopByHop : List String :=
  ["connection", "proxy-connection", "proxy-authorization", "keep-alive", "te", "trailer",
    "transfer-encoding", "upgrade"]

/-- Without the headers that concern one connection only. -/
def stripHopByHop (fs : Fields) : Fields := fs.filter fun f => f.1 ∉ hopByHop

end Fields

/-- A request as the proxy receives it. -/
structure Request where
  method : String
  target : Uri
  fields : Fields
  body : List UInt8

namespace Request

/-- The host that a request without an absolute target names; without a readable one, this. -/
def defaultHost : String := "localhost"

/-- The host named by the first `Host` header. -/
def host (r : Request) : String :=
  ((r.fields.lookup "host").bind Field.text?).getD defaultHost

/-- The full URL of a request: its absolute target, or its path on the host that it names. -/
def url (r : Request) : String :=
  match r.target with
  | .absolute _ _ _ => String.ofList r.target.toText
  | .path p => "http://" ++ r.host ++ String.ofList p
  | .authority _ => "http://" ++ r.host ++ "/"

end Request

/-- A response. -/
structure Response where
  status : Nat
  fields : Fields
  body : List UInt8
  deriving DecidableEq

/-- A response in plain text. -/
def Response.plain (status : Nat) (text : String) : Response :=
  ⟨status, [("content-type", Utf8.encode "text/plain".toList)], Utf8.encode text.toList⟩

end StubProxy
